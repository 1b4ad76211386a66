import Mathlib.Data.List.TakeWhile
import Highlight.Text.Blank

/-!
# Lines, and blanks around text

A text is its lines with line feeds between them, and there is one way to cut it into such lines. Blanks at
the ends of a text are no part of its words.
-/

namespace Highlight.Text

/-- A text is made of lines: with a line feed between each one and the next they spell it, and no line has a
line feed in it. -/
structure IsLines (text : List Char) (lines : List (List Char)) : Prop where
  some_line : lines ≠ []
  joined : ['\n'].intercalate lines = text
  whole : ∀ line ∈ lines, '\n' ∉ line

theorem splitAll_eq_splitOn (separator : Char) (cs : List Char) :
    splitAll separator cs = cs.splitOn separator := by
  induction cs with
  | nil => rw [splitAll, List.splitOn_nil]
  | cons c cs ih =>
    rw [splitAll, List.splitOn_cons_eq_if_modifyHead, ih]
    split
    · rfl
    · cases hrest : cs.splitOn separator with
      | nil => exact absurd hrest (List.splitOn_ne_nil _ _)
      | cons part parts => rfl

theorem not_mem_of_mem_splitAll {separator : Char} {cs part : List Char}
    (h : part ∈ splitAll separator cs) : separator ∉ part := by
  induction cs generalizing part with
  | nil =>
    rw [splitAll, List.mem_singleton] at h
    simp [h]
  | cons c cs ih =>
    rw [splitAll] at h
    split at h
    · rcases List.mem_cons.mp h with rfl | h
      · simp
      · exact ih h
    · next hc =>
      have hne : separator ≠ c := fun heq => hc (by simp [heq])
      split at h
      · rw [List.mem_singleton] at h
        simpa [h] using hne
      · next first parts hparts =>
        rcases List.mem_cons.mp h with rfl | h
        · have hfirst := ih (by rw [hparts]; exact List.mem_cons_self ..)
          simp [hne, hfirst]
        · exact ih (by rw [hparts]; exact List.mem_cons_of_mem _ h)

/-- The lines of a text are its parts between line feeds. -/
theorem isLines_iff {text : List Char} {lines : List (List Char)} :
    IsLines text lines ↔ splitAll '\n' text = lines := by
  constructor
  · rintro ⟨hne, rfl, hwhole⟩
    rw [splitAll_eq_splitOn, List.splitOn_intercalate _ hwhole hne]
  · rintro rfl
    refine ⟨?_, ?_, fun _ => not_mem_of_mem_splitAll⟩
    · rw [splitAll_eq_splitOn]
      exact List.splitOn_ne_nil _ _
    · rw [splitAll_eq_splitOn, List.intercalate_splitOn]

/-- What stands before the first separator, and what stands behind it. -/
theorem splitFirst?_eq_some_iff {separator : Char} {cs before behind : List Char} :
    splitFirst? separator cs = some (before, behind) ↔
      cs = before ++ separator :: behind ∧ separator ∉ before := by
  induction cs generalizing before with
  | nil => simp [splitFirst?]
  | cons c cs ih =>
    rw [splitFirst?]
    by_cases hc : c = separator
    · rw [if_pos (by simpa using hc)]
      cases before with
      | nil => simp [hc]
      | cons b before =>
        constructor
        · intro h
          cases h
        · rintro ⟨hcs, hnot⟩
          obtain ⟨rfl, -⟩ := List.cons.inj hcs
          exact absurd hc.symm (List.ne_of_not_mem_cons hnot)
    · rw [if_neg (by simpa using hc), Option.map_eq_some_iff]
      constructor
      · rintro ⟨⟨front, back⟩, hsplit, heq⟩
        obtain ⟨rfl, rfl⟩ := Prod.mk.inj heq
        obtain ⟨rfl, hnot⟩ := ih.mp hsplit
        exact ⟨rfl, by simpa [Ne.symm hc] using hnot⟩
      · rintro ⟨hcs, hnot⟩
        cases before with
        | nil => exact absurd (List.cons.inj hcs).1 hc
        | cons b before =>
          obtain ⟨rfl, hrest⟩ := List.cons.inj hcs
          exact ⟨(before, behind), ih.mpr ⟨hrest, List.not_mem_of_not_mem_cons hnot⟩, rfl⟩

section Blanks

variable {cs : List Char}

theorem trimEnd_append_cons {c : Char} (h : isBlank c = false) (front back : List Char) :
    trimEnd (front ++ c :: back) = front ++ c :: trimEnd back := by
  rw [trimEnd, trimEnd, List.reverse_append, List.reverse_cons, List.append_assoc, List.dropWhile_append]
  split
  · next hnil =>
    rw [List.isEmpty_iff.mp hnil]
    simp [h]
  · simp

theorem trimEnd_append_blank {c : Char} (h : isBlank c = true) (front : List Char) :
    trimEnd (front ++ [c]) = trimEnd front := by
  rw [trimEnd, trimEnd, List.reverse_append]
  simp [h]

/-- Only blanks are cut off. -/
theorem exists_trimEnd (cs : List Char) : ∃ tail, cs = trimEnd cs ++ tail ∧ ∀ c ∈ tail, isBlank c = true := by
  refine ⟨(cs.reverse.takeWhile isBlank).reverse, ?_, ?_⟩
  · rw [trimEnd, ← List.reverse_append, List.takeWhile_append_dropWhile, List.reverse_reverse]
  · intro c hc
    rw [List.mem_reverse] at hc
    exact List.mem_takeWhile_imp hc

theorem wordsFrom_nil (word : List Char) :
    wordsFrom word [] = if word.isEmpty then [] else [word.reverse] := by
  cases word with
  | nil => rfl
  | cons c word => rfl

theorem wordsFrom_cons (word : List Char) (c : Char) (cs : List Char) :
    wordsFrom word (c :: cs) =
      if isBlank c then if word.isEmpty then wordsFrom [] cs else word.reverse :: wordsFrom [] cs
      else wordsFrom (c :: word) cs := by
  cases word with
  | nil => rfl
  | cons d word => rfl

theorem words_dropWhile : words (cs.dropWhile isBlank) = words cs := by
  induction cs with
  | nil => rfl
  | cons c cs ih =>
    rw [List.dropWhile_cons]
    split
    · next hblank =>
      rw [ih, words, words, wordsFrom_cons, if_pos hblank]
      rfl
    · rfl

theorem wordsFrom_blanks {tail : List Char} (h : ∀ c ∈ tail, isBlank c = true) (word : List Char) :
    wordsFrom word tail = wordsFrom word [] := by
  induction tail generalizing word with
  | nil => rfl
  | cons c tail ih =>
    have hnone : wordsFrom [] tail = [] := ih (fun d hd => h d (List.mem_cons_of_mem _ hd)) []
    rw [wordsFrom_cons, if_pos (h c (List.mem_cons_self ..)), hnone, wordsFrom_nil]

theorem wordsFrom_append_blanks {tail : List Char} (h : ∀ c ∈ tail, isBlank c = true) (word : List Char) :
    wordsFrom word (cs ++ tail) = wordsFrom word cs := by
  induction cs generalizing word with
  | nil => exact wordsFrom_blanks h word
  | cons c cs ih => rw [List.cons_append, wordsFrom_cons, wordsFrom_cons, ih, ih]

theorem words_trimEnd : words (trimEnd cs) = words cs := by
  obtain ⟨tail, hcs, htail⟩ := exists_trimEnd cs
  calc words (trimEnd cs) = words (trimEnd cs ++ tail) := (wordsFrom_append_blanks htail []).symm
    _ = words cs := congrArg words hcs.symm

/-- Blanks at the ends of a text are no part of its words. -/
theorem words_trim : words (trim cs) = words cs := words_trimEnd.trans words_dropWhile

end Blanks

end Highlight.Text
