import Highlight.Proofs.Text.Lines

/-!
# Words between blanks

A text is words with blanks around them, and there is one way to cut it into such words: `spaced_iff`. So
what is made of the words alone does not depend on how many blanks there are, nor on which ones.
-/

namespace Highlight.Text

/-- A word has characters, and none of them is a blank. -/
structure IsWord (w : List Char) : Prop where
  some_char : w ≠ []
  solid : ∀ c ∈ w, isBlank c = false

theorem isWord_iff {w : List Char} : IsWord w ↔ (!w.isEmpty && w.all fun c => !isBlank c) = true := by
  simp only [Bool.and_eq_true, Bool.not_eq_true', List.isEmpty_eq_false_iff, List.all_eq_true]
  exact ⟨fun h => ⟨h.some_char, h.solid⟩, fun h => ⟨h.1, h.2⟩⟩

instance (w : List Char) : Decidable (IsWord w) := decidable_of_iff _ isWord_iff.symm

/-- A text is made of words: any blanks stand in front of each one, and a blank or nothing behind it. -/
inductive Spaced : (words : List (List Char)) → (text : List Char) → Prop where
  | blanks {gap : List Char} (hgap : ∀ c ∈ gap, isBlank c = true) : Spaced [] gap
  | word {gap w rest : List Char} {words : List (List Char)} (hgap : ∀ c ∈ gap, isBlank c = true)
      (hw : IsWord w) (hends : ∀ c ∈ rest.head?, isBlank c = true) (hrest : Spaced words rest) :
      Spaced (w :: words) (gap ++ w ++ rest)

variable {gap w cs : List Char} {ws : List (List Char)}

theorem words_append_of_blanks (hgap : ∀ c ∈ gap, isBlank c = true) : words (gap ++ cs) = words cs := by
  induction gap with
  | nil => rfl
  | cons c gap ih =>
    rw [List.cons_append, words, wordsFrom_cons, if_pos (hgap c (List.mem_cons_self ..))]
    exact ih fun d hd => hgap d (List.mem_cons_of_mem _ hd)

theorem wordsFrom_append_of_solid (hw : ∀ c ∈ w, isBlank c = false) (read : List Char) :
    wordsFrom read (w ++ cs) = wordsFrom (w.reverse ++ read) cs := by
  induction w generalizing read with
  | nil => rfl
  | cons c w ih =>
    rw [List.cons_append, wordsFrom_cons, hw c (List.mem_cons_self ..), if_neg Bool.false_ne_true,
      ih (fun d hd => hw d (List.mem_cons_of_mem _ hd)), List.reverse_cons, List.append_assoc]
    rfl

/-- A word is over where a blank or the end comes. -/
theorem words_append_of_word (hw : IsWord w) (hends : ∀ c ∈ cs.head?, isBlank c = true) :
    words (w ++ cs) = w :: words cs := by
  have hne : w.reverse.isEmpty = false := by simpa using hw.some_char
  rw [words, wordsFrom_append_of_solid hw.solid, List.append_nil]
  cases cs with
  | nil => rw [wordsFrom_nil, hne, if_neg Bool.false_ne_true, List.reverse_reverse]; rfl
  | cons c cs =>
    have hblank := hends c rfl
    rw [words, wordsFrom_cons, wordsFrom_cons, if_pos hblank, if_pos hblank, hne,
      if_neg Bool.false_ne_true, List.reverse_reverse]
    rfl

theorem words_of_spaced (h : Spaced ws cs) : words cs = ws := by
  induction h with
  | blanks hgap => exact wordsFrom_blanks hgap []
  | word hgap hw hends _ ih =>
    rw [List.append_assoc, words_append_of_blanks hgap, words_append_of_word hw hends, ih]

/-- More blanks may stand in front. -/
theorem Spaced.cons {c : Char} (h : Spaced ws cs) (hc : isBlank c = true) : Spaced ws (c :: cs) := by
  cases h with
  | blanks hgap => exact .blanks (List.forall_mem_cons.mpr ⟨hc, hgap⟩)
  | word hgap hw hends hrest => exact .word (List.forall_mem_cons.mpr ⟨hc, hgap⟩) hw hends hrest

theorem Spaced.word_append (h : Spaced ws cs) (hw : IsWord w) (hends : ∀ c ∈ cs.head?, isBlank c = true) :
    Spaced (w :: ws) (w ++ cs) := by
  have hnone : ∀ c ∈ ([] : List Char), isBlank c = true := by simp
  have hword := Spaced.word hnone hw hends h
  exact hword

theorem isWord_reverse (h : ∀ c ∈ w, isBlank c = false) (hne : ¬ w.isEmpty = true) : IsWord w.reverse :=
  ⟨by simpa using hne, by simpa using h⟩

/-- The characters read last are the beginning of a word. -/
theorem spaced_wordsFrom {read : List Char} (hread : ∀ c ∈ read, isBlank c = false) (cs : List Char) :
    Spaced (wordsFrom read cs) (read.reverse ++ cs) := by
  have hnone : Spaced [] [] := .blanks (by simp)
  have hnil : ∀ c ∈ ([] : List Char), isBlank c = false := by simp
  induction cs generalizing read with
  | nil =>
    rw [wordsFrom_nil]
    split
    · next hempty =>
      rw [List.isEmpty_iff.mp hempty]
      exact hnone
    · next hne => exact hnone.word_append (isWord_reverse hread hne) (by simp)
  | cons c cs ih =>
    rw [wordsFrom_cons]
    split
    · next hc =>
      have hrest : Spaced (wordsFrom [] cs) (c :: cs) := (ih hnil).cons hc
      split
      · next hempty =>
        rw [List.isEmpty_iff.mp hempty]
        exact hrest
      · next hne => exact hrest.word_append (isWord_reverse hread hne) (by simpa using hc)
    · next hc =>
      have hsolid : ∀ d ∈ c :: read, isBlank d = false :=
        List.forall_mem_cons.mpr ⟨Bool.not_eq_true _ ▸ hc, hread⟩
      have hrest := ih hsolid
      rwa [List.reverse_cons, ← List.append_cons] at hrest

/-- There is one way to cut a text into words. -/
theorem spaced_iff : Spaced ws cs ↔ words cs = ws := by
  refine ⟨words_of_spaced, ?_⟩
  rintro rfl
  have hnil : ∀ c ∈ ([] : List Char), isBlank c = false := by simp
  exact spaced_wordsFrom hnil cs

/-- Words with a space between each one and the next. -/
theorem spaced_intercalate (h : ∀ w ∈ ws, IsWord w) : Spaced ws ([' '].intercalate ws) := by
  rw [spaced_iff]
  induction ws with
  | nil => rfl
  | cons w ws ih =>
    have hw := h w (List.mem_cons_self ..)
    have hrest := ih fun v hv => h v (List.mem_cons_of_mem _ hv)
    have hspace : ∀ c ∈ [' '], isBlank c = true := List.forall_mem_singleton.mpr (by decide +kernel)
    cases ws with
    | nil =>
      have hone : words (w ++ []) = w :: words [] := words_append_of_word hw (by simp)
      rw [List.append_nil] at hone
      exact (congrArg words (by simp [List.intercalate])).trans hone
    | cons v ws =>
      have htext : [' '].intercalate (w :: v :: ws) = w ++ ([' '] ++ [' '].intercalate (v :: ws)) := by
        simp [List.intercalate, List.intersperse]
      have hends : ∀ c ∈ ([' '] ++ [' '].intercalate (v :: ws)).head?, isBlank c = true := by
        intro c hc
        obtain rfl := Option.some.inj hc
        exact hspace _ (List.mem_singleton_self _)
      rw [htext, words_append_of_word hw hends, words_append_of_blanks hspace, hrest]

theorem wordsFrom_map {f : Char → Char} (hf : ∀ c, isBlank (f c) = isBlank c) (read cs : List Char) :
    wordsFrom (read.map f) (cs.map f) = (wordsFrom read cs).map (List.map f) := by
  induction cs generalizing read with
  | nil =>
    rw [List.map_nil, wordsFrom_nil, wordsFrom_nil]
    cases read with
    | nil => rfl
    | cons c read => simp
  | cons c cs ih =>
    have hnext := ih []
    rw [List.map_nil] at hnext
    rw [List.map_cons, wordsFrom_cons, wordsFrom_cons, hf, List.isEmpty_map, ← List.map_cons, ih, hnext,
      ← List.map_reverse]
    simp only [apply_ite (List.map (List.map f)), List.map_cons]

/-- What is done to the characters of a text is done to those of its words, if it makes no blanks and leaves
them. -/
theorem words_map {f : Char → Char} (hf : ∀ c, isBlank (f c) = isBlank c) (cs : List Char) :
    words (cs.map f) = (words cs).map (List.map f) := wordsFrom_map hf [] cs

end Highlight.Text
