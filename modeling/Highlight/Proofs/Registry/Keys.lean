import Highlight.Registry.Basic

/-!
# Names that are set, and names in order

What stands under a key behind `setKey`, for one name and for all further names of a grammar, and
what `sortTexts` makes of a list of names.
-/

namespace Highlight

section

variable {α : Type} {pairs : List (String × α)} {key : String} {value : α}

theorem lookup_filter_ne {k : String} (hk : k ≠ key) :
    (pairs.filter fun (j, _) => j != key).lookup k = pairs.lookup k := by
  induction pairs with
  | nil => rfl
  | cons pair pairs ih =>
    obtain ⟨j, v⟩ := pair
    by_cases hj : j = key
    · have hkj : (k == j) = false := by simpa [hj] using hk
      rw [List.filter_cons_of_neg (by simpa using hj), ih, List.lookup_cons, hkj]
    · rw [List.filter_cons_of_pos (by simpa using hj), List.lookup_cons, List.lookup_cons, ih]

theorem lookup_filter_self (pairs : List (String × α)) (key : String) :
    (pairs.filter fun (j, _) => j != key).lookup key = none := by
  rw [List.lookup_eq_none_iff]
  intro p hp
  have hne : p.1 ≠ key := by simpa using (List.mem_filter.mp hp).2
  simpa using Ne.symm hne

theorem keys_filter_sublist (pairs : List (String × α)) (key : String) :
    ((pairs.filter fun (j, _) => j != key).map (·.1)).Sublist (pairs.map (·.1)) :=
  List.filter_sublist.map _

theorem lookup_cons_if (k : String) :
    ((key, value) :: pairs).lookup k = if k = key then some value else pairs.lookup k := by
  rw [List.lookup_cons]
  by_cases hk : k = key
  · simp [hk]
  · have hkey : (k == key) = false := by simpa using hk
    rw [hkey, if_neg hk]

theorem lookup_setKey (k : String) :
    (setKey pairs key value).lookup k = if k = key then some value else pairs.lookup k := by
  rw [setKey, lookup_cons_if]
  split
  · rfl
  · next hk => exact lookup_filter_ne hk

theorem mem_setKey {p : String × α} :
    p ∈ setKey pairs key value ↔ p = (key, value) ∨ (p ∈ pairs ∧ p.1 ≠ key) := by
  simp [setKey]

theorem nodup_setKey (h : (pairs.map (·.1)).Nodup) : ((setKey pairs key value).map (·.1)).Nodup := by
  rw [setKey, List.map_cons, List.nodup_cons]
  exact ⟨by simp, h.sublist (keys_filter_sublist pairs key)⟩

/-- Where no key stands twice, what is listed is what is found. -/
theorem mem_iff_lookup (h : (pairs.map (·.1)).Nodup) : (key, value) ∈ pairs ↔ pairs.lookup key = some value := by
  induction pairs with
  | nil => simp
  | cons pair pairs ih =>
    obtain ⟨k, v⟩ := pair
    rw [List.map_cons, List.nodup_cons] at h
    rw [List.mem_cons, List.lookup_cons, ih h.2]
    by_cases hkey : key = k
    · subst hkey
      have hnone : pairs.lookup key ≠ some value := by
        intro hsome
        exact h.1 (List.mem_map_of_mem (f := (·.1)) ((ih h.2).mpr hsome))
      simp [hnone, eq_comm]
    · have hne : (key == k) = false := by simpa using hkey
      simp [hne, hkey]

/-- Where no key stands twice, the order does not matter for what is found. -/
theorem lookup_perm {pairs' : List (String × α)} (h : pairs.Perm pairs') (hkeys : (pairs.map (·.1)).Nodup)
    (k : String) : pairs.lookup k = pairs'.lookup k := by
  have hkeys' : (pairs'.map (·.1)).Nodup := (h.map _).nodup_iff.mp hkeys
  ext value
  rw [← mem_iff_lookup hkeys, ← mem_iff_lookup hkeys', h.mem_iff]

end

section

variable {aliases : List String} {name : String} {pairs : List (String × String)}

theorem lookup_setKeys (k : String) :
    (aliases.foldl (fun pairs a => setKey pairs (Text.lowercase a) name) pairs).lookup k =
      if k ∈ aliases.map Text.lowercase then some name else pairs.lookup k := by
  induction aliases generalizing pairs with
  | nil => rfl
  | cons a aliases ih =>
    simp only [List.foldl_cons, ih, lookup_setKey, List.map_cons, List.mem_cons]
    by_cases hrest : k ∈ aliases.map Text.lowercase
    · rw [if_pos hrest, if_pos (.inr hrest)]
    · by_cases hk : k = Text.lowercase a
      · rw [if_neg hrest, if_pos hk, if_pos (.inl hk)]
      · rw [if_neg hrest, if_neg hk, if_neg (not_or.mpr ⟨hk, hrest⟩)]

theorem nodup_setKeys (h : (pairs.map (·.1)).Nodup) :
    ((aliases.foldl (fun pairs a => setKey pairs (Text.lowercase a) name) pairs).map (·.1)).Nodup := by
  induction aliases generalizing pairs with
  | nil => exact h
  | cons a aliases ih => exact ih (nodup_setKey h)

/-- Further names that led to the name before still do. -/
theorem mem_setKeys {k : String} (h : (k, name) ∈ pairs) :
    (k, name) ∈ aliases.foldl (fun pairs a => setKey pairs (Text.lowercase a) name) pairs := by
  induction aliases generalizing pairs with
  | nil => exact h
  | cons a aliases ih =>
    refine ih (mem_setKey.mpr ?_)
    by_cases hk : k = Text.lowercase a
    · exact .inl (by rw [hk])
    · exact .inr ⟨h, hk⟩

theorem mem_or_eq_of_mem_setKeys {p : String × String}
    (h : p ∈ aliases.foldl (fun pairs a => setKey pairs (Text.lowercase a) name) pairs) :
    p ∈ pairs ∨ p.2 = name := by
  induction aliases generalizing pairs with
  | nil => exact .inl h
  | cons a aliases ih =>
    rcases ih h with hset | hname
    · rcases mem_setKey.mp hset with rfl | ⟨hp, -⟩
      · exact .inr rfl
      · exact .inl hp
    · exact .inr hname

end

theorem pairwise_sortTexts (texts : List String) : (sortTexts texts).Pairwise (· ≤ ·) := by
  have hle : ∀ a b : String, (!decide (b < a)) = true ↔ a ≤ b := by
    intro a b
    rw [Bool.not_eq_true', decide_eq_false_iff_not, String.not_lt]
  have hsorted : (sortTexts texts).Pairwise fun a b => (!decide (b < a)) = true := by
    apply List.pairwise_mergeSort
    · intro a b c hab hbc
      exact (hle a c).mpr (String.le_trans ((hle a b).mp hab) ((hle b c).mp hbc))
    · intro a b
      rw [Bool.or_eq_true, hle, hle]
      exact String.le_total a b
  exact hsorted.imp fun {a b} h => (hle a b).mp h

/-- Texts in order are determined by which they are. -/
theorem eq_of_perm_of_pairwise {a b : List String} (h : a.Perm b) (ha : a.Pairwise (· ≤ ·))
    (hb : b.Pairwise (· ≤ ·)) : a = b :=
  h.eq_of_pairwise (fun _ _ _ _ => String.le_antisymm) ha hb

end Highlight
