import Highlight.Proofs.Text.Part

/-!
# Character boundaries

A byte offset of a text is a boundary if some number of characters ends there. Offsets grow with
the number of characters, so comparing boundaries and comparing numbers of characters is the same.
-/

namespace Highlight.Text

/-- Whether a byte offset lies between two characters or at an end of the text. -/
def isBoundary : List Char → Nat → Bool
  | _, 0 => true
  | [], _ + 1 => false
  | c :: cs, b + 1 => if c.utf8Size ≤ b + 1 then isBoundary cs (b + 1 - c.utf8Size) else false

@[simp] theorem isBoundary_zero (cs : List Char) : isBoundary cs 0 = true := by
  cases cs <;> rfl

/-- Behind a first character a text has the boundaries of the rest. -/
theorem isBoundary_cons_add (c : Char) (cs : List Char) (b : Nat) :
    isBoundary (c :: cs) (c.utf8Size + b) = isBoundary cs b := by
  have hc := c.utf8Size_pos
  obtain ⟨n, hn⟩ : ∃ n, c.utf8Size + b = n + 1 := ⟨c.utf8Size + b - 1, by omega⟩
  rw [hn, isBoundary, if_pos (by omega), ← hn, Nat.add_sub_cancel_left]

/-- Behind a front part a text has the boundaries of the rest. -/
theorem isBoundary_append_add (front cs : List Char) (b : Nat) :
    isBoundary (front ++ cs) (byteLength front + b) = isBoundary cs b := by
  induction front with
  | nil => simp
  | cons c front ih => rw [List.cons_append, byteLength_cons, Nat.add_assoc, isBoundary_cons_add, ih]

theorem isBoundary_append (front back : List Char) :
    isBoundary (front ++ back) (byteLength front) = true := by
  have h := isBoundary_append_add front back 0
  rwa [Nat.add_zero, isBoundary_zero] at h

/-- There is no boundary within a character. -/
theorem isBoundary_inside (front : List Char) (c : Char) (back : List Char) {b : Nat}
    (hpos : 0 < b) (hlt : b < c.utf8Size) :
    isBoundary (front ++ c :: back) (byteLength front + b) = false := by
  obtain ⟨n, rfl⟩ : ∃ n, b = n + 1 := ⟨b - 1, by omega⟩
  rw [isBoundary_append_add, isBoundary, if_neg (by omega)]

/-- A boundary has a text in front of it. -/
theorem exists_of_isBoundary {cs : List Char} {b : Nat} (h : isBoundary cs b = true) :
    ∃ front back, cs = front ++ back ∧ b = byteLength front := by
  induction cs generalizing b with
  | nil =>
    cases b with
    | zero => exact ⟨[], [], rfl, rfl⟩
    | succ b => cases h
  | cons c cs ih =>
    cases b with
    | zero => exact ⟨[], c :: cs, rfl, rfl⟩
    | succ b =>
      rw [isBoundary] at h
      split at h
      · next hle =>
        obtain ⟨front, back, rfl, hb⟩ := ih h
        refine ⟨c :: front, back, rfl, ?_⟩
        rw [byteLength_cons]
        omega
      · cases h

/-- A boundary that is not in front of `front` is one of the text behind it. -/
theorem exists_of_isBoundary_append {front cs : List Char} {b : Nat}
    (h : isBoundary (front ++ cs) b = true) (hle : byteLength front ≤ b) :
    ∃ mid back, cs = mid ++ back ∧ b = byteLength (front ++ mid) := by
  obtain ⟨k, rfl⟩ := Nat.exists_eq_add_of_le hle
  rw [isBoundary_append_add] at h
  obtain ⟨mid, back, rfl, rfl⟩ := exists_of_isBoundary h
  exact ⟨mid, back, rfl, (byteLength_append _ _).symm⟩

/-- There is no boundary behind a text. -/
theorem isBoundary_behind {cs : List Char} {b : Nat} (h : byteLength cs < b) :
    isBoundary cs b = false := by
  cases hb : isBoundary cs b with
  | false => rfl
  | true =>
    obtain ⟨front, back, rfl, rfl⟩ := exists_of_isBoundary hb
    rw [byteLength_append] at h
    omega

/-- `charIndex` finds the first boundary at an offset or behind it, or says that there is none. -/
theorem charIndex_cases (cs : List Char) (b : Nat) :
    (∃ front back, cs = front ++ back ∧ charIndex cs b = front.length ∧ b ≤ byteLength front ∧
      ∀ q, b ≤ q → q < byteLength front → isBoundary cs q = false) ∨
    (charIndex cs b = cs.length + 1 ∧ byteLength cs < b) := by
  induction cs generalizing b with
  | nil =>
    cases b with
    | zero => exact .inl ⟨[], [], rfl, rfl, Nat.le_refl _, fun _ _ h => absurd h (Nat.not_lt_zero _)⟩
    | succ b => exact .inr ⟨rfl, Nat.succ_pos b⟩
  | cons c cs ih =>
    cases b with
    | zero =>
      exact .inl ⟨[], c :: cs, rfl, rfl, Nat.le_refl _, fun _ _ h => absurd h (Nat.not_lt_zero _)⟩
    | succ b =>
      rw [charIndex, byteLength_cons]
      rcases ih (b + 1 - c.utf8Size) with ⟨front, back, rfl, hindex, hle, hnone⟩ | ⟨hindex, hlt⟩
      · refine .inl ⟨c :: front, back, rfl, by rw [hindex, List.length_cons], ?_, ?_⟩
        · rw [byteLength_cons]
          omega
        · intro q hq hlt
          rw [byteLength_cons] at hlt
          by_cases hinside : q < c.utf8Size
          · have h := isBoundary_inside [] c (front ++ back) (by omega) hinside
            rwa [List.nil_append, byteLength_nil, Nat.zero_add] at h
          · obtain ⟨k, rfl⟩ := Nat.exists_eq_add_of_le (Nat.le_of_not_lt hinside)
            rw [isBoundary_cons_add]
            exact hnone k (by omega) (by omega)
      · exact .inr ⟨by rw [hindex, List.length_cons], by omega⟩

/-- Of two texts that a text begins with, the longer one has more bytes. -/
theorem byteLength_le_iff {a b x y : List Char} (h : a ++ x = b ++ y) :
    byteLength a ≤ byteLength b ↔ a.length ≤ b.length := by
  rcases List.append_eq_append_iff.mp h with ⟨m, rfl, -⟩ | ⟨m, rfl, -⟩
  · rw [byteLength_append, List.length_append]
    omega
  · rw [byteLength_append, List.length_append]
    constructor
    · intro hle
      have hm : m = [] := by
        cases m with
        | nil => rfl
        | cons c m => have := c.utf8Size_pos; rw [byteLength_cons] at hle; omega
      rw [hm, List.length_nil]
      omega
    · intro hle
      have hm : m = [] := List.length_eq_zero_iff.mp (by omega)
      rw [hm, byteLength_nil]
      omega

theorem byteLength_lt_iff {a b x y : List Char} (h : a ++ x = b ++ y) :
    byteLength a < byteLength b ↔ a.length < b.length := by
  have hiff := byteLength_le_iff h.symm
  omega

/-- Of two texts that a text begins with, one that has no more bytes begins the other. -/
theorem exists_append_of_byteLength_le {a b x y : List Char} (h : a ++ x = b ++ y)
    (hle : byteLength a ≤ byteLength b) : ∃ m, b = a ++ m ∧ x = m ++ y := by
  rcases List.append_eq_append_iff.mp h with ⟨m, hb, hx⟩ | ⟨m, ha, hy⟩
  · exact ⟨m, hb, hx⟩
  · have hlength := (byteLength_le_iff h).mp hle
    obtain rfl : m = [] := by
      rw [ha, List.length_append] at hlength
      exact List.length_eq_zero_iff.mp (by omega)
    exact ⟨[], by rw [ha, List.append_nil, List.append_nil], hy.symm⟩

/-- A part that lies within another one is a part of it. -/
theorem IsPart.exists_within {cs part part' : List Char} {s s' : Span} (h : IsPart cs s part)
    (h' : IsPart cs s' part') (hstart : s'.start ≤ s.start) (hstop : s.stop ≤ s'.stop) :
    ∃ x y, part' = x ++ part ++ y ∧ s.start = s'.start + byteLength x := by
  obtain ⟨front, back, hcs, rfl⟩ := h
  obtain ⟨front', back', hcs', rfl⟩ := h'
  have hsplit : front' ++ (part' ++ back') = front ++ (part ++ back) := by
    rw [← List.append_assoc, ← List.append_assoc, ← hcs, hcs']
  obtain ⟨x, rfl, hmore⟩ := exists_append_of_byteLength_le hsplit hstart
  have hwithin : byteLength (x ++ part) ≤ byteLength part' := by
    simp only [byteLength_append] at hstop ⊢
    omega
  rw [← List.append_assoc] at hmore
  obtain ⟨y, hpart', -⟩ := exists_append_of_byteLength_le hmore.symm hwithin
  exact ⟨x, y, hpart', byteLength_append _ _⟩

/-- The ends of a span are boundaries, in order. -/
structure OnBoundaries (cs : List Char) (s : Span) : Prop where
  le : s.start ≤ s.stop
  start : isBoundary cs s.start = true
  stop : isBoundary cs s.stop = true

theorem OnBoundaries.isPart {cs : List Char} {s : Span} (h : OnBoundaries cs s) :
    IsPart cs s (slice cs s) := by
  obtain ⟨front, rest, hcs, hfront⟩ := exists_of_isBoundary h.start
  obtain ⟨upto, back, hcs', hupto⟩ := exists_of_isBoundary h.stop
  have hle : byteLength front ≤ byteLength upto := by
    rw [← hfront, ← hupto]
    exact h.le
  obtain ⟨part, rfl, -⟩ := exists_append_of_byteLength_le (hcs.symm.trans hcs') hle
  have hpart : IsPart cs s part := by
    refine ⟨front, back, hcs', ?_⟩
    rw [← byteLength_append, ← hfront, ← hupto]
  rw [hpart.slice_eq]
  exact hpart

theorem IsPart.onBoundaries {cs part : List Char} {s : Span} (h : IsPart cs s part) :
    OnBoundaries cs s := by
  obtain ⟨front, back, rfl, rfl⟩ := h
  constructor
  · exact Nat.le_add_right _ _
  · rw [List.append_assoc]
    exact isBoundary_append front (part ++ back)
  · rw [← byteLength_append]
    exact isBoundary_append (front ++ part) back

theorem byteOffset_le_iff {cs : List Char} {m n : Nat} (hm : m ≤ cs.length) (hn : n ≤ cs.length) :
    byteOffset cs m ≤ byteOffset cs n ↔ m ≤ n := by
  have h : cs.take m ++ cs.drop m = cs.take n ++ cs.drop n := by
    rw [List.take_append_drop, List.take_append_drop]
  rw [byteOffset, byteOffset, byteLength_le_iff h, List.length_take_of_le hm,
    List.length_take_of_le hn]

theorem byteOffset_lt_iff {cs : List Char} {m n : Nat} (hm : m ≤ cs.length) (hn : n ≤ cs.length) :
    byteOffset cs m < byteOffset cs n ↔ m < n := by
  have h := byteOffset_le_iff hn hm
  omega

theorem byteOffset_mono (cs : List Char) {m n : Nat} (h : m ≤ n) :
    byteOffset cs m ≤ byteOffset cs n := by
  obtain ⟨k, rfl⟩ := Nat.exists_eq_add_of_le h
  rw [byteOffset, byteOffset, List.take_add, byteLength_append]
  omega

/-- Offsets respect the smaller of two numbers of characters. -/
theorem byteOffset_min (cs : List Char) (m n : Nat) :
    byteOffset cs (min m n) = min (byteOffset cs m) (byteOffset cs n) := by
  rcases Nat.le_total m n with h | h
  · rw [Nat.min_eq_left h, Nat.min_eq_left (byteOffset_mono cs h)]
  · rw [Nat.min_eq_right h, Nat.min_eq_right (byteOffset_mono cs h)]

/-- Offsets respect the larger of two numbers of characters. -/
theorem byteOffset_max (cs : List Char) (m n : Nat) :
    byteOffset cs (max m n) = max (byteOffset cs m) (byteOffset cs n) := by
  rcases Nat.le_total m n with h | h
  · rw [Nat.max_eq_right h, Nat.max_eq_right (byteOffset_mono cs h)]
  · rw [Nat.max_eq_left h, Nat.max_eq_left (byteOffset_mono cs h)]

end Highlight.Text
