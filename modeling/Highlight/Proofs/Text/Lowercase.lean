import Highlight.Text.Lowercase

/-!
# Lowercase text is in lowercase

Names are looked up in lowercase, and are put in lowercase when they are registered. So it matters that the
lowercase form of a text is its own lowercase form: `lowercase_lowercase`. No character of it is a capital
sigma or has another lowercase form, which for those that the table makes is a matter of the table.
-/

namespace Highlight.Text

/-- A code point is its own image or is mapped by one of the pairs that the runs stand for. -/
theorem mapCase_eq_or_mem (runs : List CaseRun) (n : Nat) :
    mapCase runs n = n ∨ (n, mapCase runs n) ∈ runs.flatMap CaseRun.pairs := by
  induction runs with
  | nil => exact .inl rfl
  | cons r runs ih =>
    rw [mapCase]
    split
    · exact .inl rfl
    · split
      · next hcovers =>
        refine .inr (List.mem_flatMap.mpr ⟨r, List.mem_cons_self .., ?_⟩)
        simp only [CaseRun.covers, Bool.and_eq_true, decide_eq_true_eq, beq_iff_eq] at hcovers
        obtain ⟨⟨hfirst, hlast⟩, hstep⟩ := hcovers
        have hplace : r.first + (n - r.first) / r.step * r.step = n := by
          rw [Nat.div_mul_cancel (Nat.dvd_of_mod_eq_zero hstep)]
          omega
        refine List.mem_map.mpr ⟨(n - r.first) / r.step, ?_, by rw [hplace]⟩
        rw [List.mem_range, Nat.lt_succ_iff]
        exact Nat.div_le_div_right (Nat.sub_le_sub_right hlast _)
      · refine ih.imp id fun hmem => ?_
        rw [List.flatMap_cons]
        exact List.mem_append_right _ hmem

namespace CaseRun

/-- No image of the run `s` is covered by the run `r`: the images lie on one side of it, or each of them is
between the code points that it covers. -/
def spares (r s : CaseRun) : Bool :=
  (Nat.ble s.first s.last && (Nat.blt (s.image s.last) r.first || Nat.blt r.last (s.image s.first))) ||
    s.pairs.all fun p => !r.covers p.2

theorem image_le_image (s : CaseRun) {m n : Nat} (h : m ≤ n) : s.image m ≤ s.image n := by
  rw [image, image]
  omega

theorem not_covers_of_spares {r s : CaseRun} (h : r.spares s = true) {p : Nat × Nat}
    (hp : p ∈ s.pairs) : r.covers p.2 = false := by
  rw [spares, Bool.or_eq_true, Bool.and_eq_true, Bool.or_eq_true, Nat.ble_eq, Nat.blt_eq, Nat.blt_eq,
    List.all_eq_true] at h
  rcases h with ⟨hordered, hside⟩ | hall
  · obtain ⟨k, hk, rfl⟩ := List.mem_map.mp hp
    have hwithin : k * s.step ≤ s.last - s.first :=
      Nat.le_trans (Nat.mul_le_mul_right _ (Nat.lt_succ_iff.mp (List.mem_range.mp hk)))
        (Nat.div_mul_le_self _ _)
    have hfirst := s.image_le_image (Nat.le_add_right s.first (k * s.step))
    have hlast := s.image_le_image (m := s.first + k * s.step) (n := s.last) (by omega)
    rw [← Bool.not_eq_true, covers, Bool.and_eq_true, Bool.and_eq_true, decide_eq_true_eq,
      decide_eq_true_eq]
    dsimp only
    omega
  · simpa using hall p hp

end CaseRun

/-- The table, with the two capitals that are not a matter of it. -/
def capitalRuns : List CaseRun := ⟨0x130, 0x130, 1, 0⟩ :: ⟨0x3A3, 0x3A3, 1, 0⟩ :: lowerRuns

/-- What the table makes is no capital. -/
theorem not_covers_image {r : CaseRun} (hr : r ∈ capitalRuns) {p : Nat × Nat}
    (hp : p ∈ lowerRuns.flatMap CaseRun.pairs) : r.covers p.2 = false := by
  have hall : (capitalRuns.all fun r => lowerRuns.all fun s => r.spares s) = true := by decide +kernel
  obtain ⟨s, hs, hp⟩ := List.mem_flatMap.mp hp
  exact CaseRun.not_covers_of_spares (List.all_eq_true.mp (List.all_eq_true.mp hall r hr) s hs) hp

theorem mapCase_eq_self {runs : List CaseRun} {n : Nat} (h : ∀ r ∈ runs, r.covers n = false) :
    mapCase runs n = n := by
  induction runs with
  | nil => rfl
  | cons r runs ih =>
    rw [mapCase, h r (List.mem_cons_self ..), if_neg Bool.false_ne_true,
      ih fun s hs => h s (List.mem_cons_of_mem _ hs), ite_self]

/-- A character that lowercasing leaves as it is, whatever stands around it. -/
def IsLower (c : Char) : Prop := c ≠ 'Σ' ∧ lowercaseChar c = [c]

instance (c : Char) : Decidable (IsLower c) := inferInstanceAs (Decidable (_ ∧ _))

theorem isLower_of_not_covers {c : Char} (h : ∀ r ∈ capitalRuns, r.covers c.toNat = false) :
    IsLower c := by
  have hdotted : c ≠ 'İ' := by
    rintro rfl
    exact absurd (h ⟨0x130, 0x130, 1, 0⟩ (List.mem_cons_self ..)) (by decide)
  refine ⟨?_, ?_⟩
  · rintro rfl
    exact absurd (h ⟨0x3A3, 0x3A3, 1, 0⟩ (List.mem_cons_of_mem _ (List.mem_cons_self ..))) (by decide)
  · rw [lowercaseChar, if_neg (by simpa using hdotted), mapCase_eq_self, Char.ofNat_toNat]
    exact fun r hr => h r (List.mem_cons_of_mem _ (List.mem_cons_of_mem _ hr))

theorem isLower_ofNat {n : Nat} (h : ∀ r ∈ capitalRuns, r.covers n = false) :
    IsLower (Char.ofNat n) := by
  by_cases hvalid : n.isValidChar
  · have htoNat : (Char.ofNat n).toNat = n := by
      rw [Char.ofNat, dif_pos hvalid]
      rfl
    exact isLower_of_not_covers (by rwa [htoNat])
  · -- a number that is no code point stands for the null character
    have hnull : Char.ofNat n = Char.ofNat 0 := by
      rw [Char.ofNat, dif_neg hvalid]
      rfl
    rw [hnull]
    decide +kernel

/-- The lowercase form of a character other than a capital sigma is in lowercase. -/
theorem isLower_of_mem_lowercaseChar {c d : Char} (hc : c ≠ 'Σ') (hd : d ∈ lowercaseChar c) :
    IsLower d := by
  by_cases hdotted : c = 'İ'
  · have hletters : lowercaseChar 'İ' = ['i', '\u0307'] := by decide +kernel
    have hlower : IsLower 'i' ∧ IsLower '\u0307' := by decide +kernel
    rw [hdotted, hletters, List.mem_cons, List.mem_singleton] at hd
    rcases hd with rfl | rfl
    · exact hlower.1
    · exact hlower.2
  · have hchar : lowercaseChar c = [Char.ofNat (mapCase lowerRuns c.toNat)] :=
      if_neg (by simpa using hdotted)
    rw [hchar, List.mem_singleton] at hd
    subst hd
    rcases mapCase_eq_or_mem lowerRuns c.toNat with hsame | hmem
    · rw [hsame, Char.ofNat_toNat] at hchar ⊢
      exact ⟨hc, hchar⟩
    · exact isLower_ofNat fun r hr => not_covers_image hr hmem

theorem isLower_of_mem_lowercaseFrom {c : Char} {afterCased : Bool} {cs : List Char}
    (h : c ∈ lowercaseFrom afterCased cs) : IsLower c := by
  induction cs generalizing afterCased with
  | nil => cases h
  | cons d cs ih =>
    rw [lowercaseFrom] at h
    rcases List.mem_append.mp h with h | h
    · split at h
      · have hsigmas : IsLower 'ς' ∧ IsLower 'σ' := by decide +kernel
        rw [List.mem_singleton] at h
        rw [h]
        split
        · exact hsigmas.1
        · exact hsigmas.2
      · next hsigma => exact isLower_of_mem_lowercaseChar (by simpa using hsigma) h
    · exact ih h

theorem lowercaseFrom_eq_self {cs : List Char} (h : ∀ c ∈ cs, IsLower c) (afterCased : Bool) :
    lowercaseFrom afterCased cs = cs := by
  induction cs generalizing afterCased with
  | nil => rfl
  | cons c cs ih =>
    obtain ⟨hsigma, hchar⟩ := h c (List.mem_cons_self ..)
    rw [lowercaseFrom, ih fun d hd => h d (List.mem_cons_of_mem _ hd), if_neg (by simpa using hsigma),
      hchar]
    rfl

/-- Characters in lowercase stay in front, whatever stands behind them. -/
theorem exists_lowercaseFrom_append {front : List Char} (h : ∀ c ∈ front, IsLower c) (afterCased : Bool)
    (cs : List Char) : ∃ after, lowercaseFrom afterCased (front ++ cs) = front ++ lowercaseFrom after cs := by
  induction front generalizing afterCased with
  | nil => exact ⟨afterCased, rfl⟩
  | cons c front ih =>
    obtain ⟨hsigma, hchar⟩ := h c (List.mem_cons_self ..)
    obtain ⟨after, hafter⟩ := ih (fun d hd => h d (List.mem_cons_of_mem _ hd))
      (if isCaseIgnorable c then afterCased else isCased c)
    refine ⟨after, ?_⟩
    rw [List.cons_append, lowercaseFrom, hafter, if_neg (by simpa using hsigma), hchar]
    rfl

/-- A text is its own lowercase form if each of its characters is in lowercase. -/
theorem lowercase_eq_self_iff {s : String} : lowercase s = s ↔ ∀ c ∈ s.toList, IsLower c := by
  rw [lowercase, ← String.toList_inj, String.toList_ofList]
  constructor
  · intro h c hc
    rw [← h] at hc
    exact isLower_of_mem_lowercaseFrom hc
  · exact fun h => lowercaseFrom_eq_self h false

/-- The lowercase form of a text is in lowercase. -/
@[simp] theorem lowercase_lowercase (s : String) : lowercase (lowercase s) = lowercase s := by
  rw [lowercase_eq_self_iff]
  intro c hc
  rw [lowercase, String.toList_ofList] at hc
  exact isLower_of_mem_lowercaseFrom hc

end Highlight.Text
