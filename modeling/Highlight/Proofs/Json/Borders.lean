import Highlight.Proofs.Json.Words

/-!
# What stands around a word

Between two strings there are other lexemes only, each with an alphabet of its own. The words among
them, which are numbers and literal names, stand between delimiters: behind a word comes a bracket or
a comma, and so two words are never next to each other. `Regular.bordered` says so for a row that is
looked at apart from the strings on its two sides.
-/

namespace Highlight.Json

namespace Lexeme

/-- The characters that a lexeme other than a string may have. -/
def alphabet : Lexeme → List Char
  | blank _ => [' ', '\t', '\n', '\r']
  | sign _ => ['[', ']', '\x7b', '\x7d', ',']
  | colon => [':']
  | key _ => []
  | string _ => []
  | number _ => ['0', '1', '2', '3', '4', '5', '6', '7', '8', '9', '-', '+', '.', 'e', 'E']
  | boolean _ => ['t', 'r', 'u', 'e', 'f', 'a', 'l', 's']
  | null => ['n', 'u', 'l']

/-- Words stand between delimiters. -/
def Bordered (before : Option Char) (tail : List Char) : Lexeme → Prop
  | number _ | boolean _ | null => Delimits before ∧ Delimits tail.head?
  | _ => True

end Lexeme

def Stringless (row : List Lexeme) : Prop := ∀ l ∈ row, l.content? = none

section Alphabet

theorem digits_subset {ds : List Char} (h : ∀ d ∈ ds, d.isDigit = true) :
    ∀ d ∈ ds, d ∈ (Lexeme.number []).alphabet := by
  intro d hd
  have hmem := mem_of_isDigit (h d hd)
  exact List.mem_append_left ['-', '+', '.', 'e', 'E'] hmem

theorem IsNumber.subset {t : List Char} (h : IsNumber t) :
    ∀ c ∈ t, c ∈ (Lexeme.number []).alphabet := by
  obtain ⟨hminus, hint, hfrac, hexp⟩ := h
  intro c hc
  rw [List.mem_append, List.mem_append, List.mem_append] at hc
  rcases hc with hc | hc | hc | hc
  · rcases hminus with rfl | rfl
    · cases hc
    · rw [List.mem_singleton.mp hc]
      decide
  · exact digits_subset hint.toDigits.digits c hc
  · cases hfrac with
    | none => cases hc
    | digits hds =>
      rcases List.mem_cons.mp hc with rfl | hc
      · decide
      · exact digits_subset hds.digits c hc
  · cases hexp with
    | none => cases hc
    | digits he hsign hds =>
      rw [List.mem_cons, List.mem_append] at hc
      rcases hc with rfl | hc | hc
      · rcases he with rfl | rfl <;> decide
      · rcases hsign with rfl | rfl | rfl
        · cases hc
        · rw [List.mem_singleton.mp hc]
          decide
        · rw [List.mem_singleton.mp hc]
          decide
      · exact digits_subset hds.digits c hc

/-- A lexeme other than a string has characters of its alphabet only. -/
theorem Lexeme.Valid.subset {l : Lexeme} (hl : l.Valid) (hplain : l.content? = none) :
    ∀ c ∈ l.text, c ∈ l.alphabet := by
  cases l with
  | blank t =>
    intro c hc
    simpa [isWhite, or_assoc, alphabet] using hl c hc
  | sign c =>
    intro d hd
    rw [List.mem_singleton.mp hd]
    exact hl
  | colon => exact fun _ h => h
  | key c => cases hplain
  | string c => cases hplain
  | number t => exact IsNumber.subset hl
  | boolean b => cases b <;> exact forall_of_all (by decide)
  | null => exact forall_of_all (by decide)

theorem IsNumber.ne_nil {t : List Char} (h : IsNumber t) : t ≠ [] := by
  obtain ⟨-, hint, -, -⟩ := h
  have hne := hint.toDigits.ne
  simp [hne]

end Alphabet

section Regular

variable {l : Lexeme} {front row rest : List Lexeme}

theorem spellRow_cons (l : Lexeme) (row : List Lexeme) :
    spellRow (l :: row) = l.text ++ spellRow row := rfl

theorem spellRow_append (a b : List Lexeme) : spellRow (a ++ b) = spellRow a ++ spellRow b :=
  List.flatMap_append

theorem Regular.valid (h : Regular row) : ∀ l ∈ row, l.Valid := by
  induction h with
  | nil => exact fun _ h => by cases h
  | cons hl _ _ ih => exact List.forall_mem_cons.mpr ⟨hl, ih⟩

theorem Regular.tail (h : Regular (l :: row)) : Regular row := by
  cases h with
  | cons _ _ h => exact h

theorem Regular.of_append (h : Regular (front ++ row)) : Regular row := by
  induction front with
  | nil => exact h
  | cons l front ih => exact ih h.tail

theorem next_append {a : List Lexeme} (h : next a = some l) (b : List Lexeme) :
    next (a ++ b) = some l := by
  induction a with
  | nil => cases h
  | cons m a ih =>
    cases m with
    | blank t => exact ih h
    | _ => exact h

/-- A row without strings may be cut anywhere. -/
theorem Regular.cut (h : Regular (front ++ row)) (hfront : Stringless front) : Regular front := by
  induction front with
  | nil => exact .nil
  | cons l front ih =>
    obtain ⟨hl, hfront⟩ := List.forall_mem_cons.mp hfront
    cases h with
    | cons hvalid hnext h =>
      have hends : Ends (front ++ row) → Ends front :=
        fun hends m hm => hends m (next_append hm row)
      refine .cons hvalid ?_ (ih h hfront)
      cases l with
      | key c => cases hl
      | string c => cases hl
      | number t => exact hends hnext
      | boolean b => exact hends hnext
      | null => exact hends hnext
      | _ => trivial

/-- Brackets and commas are delimiters. -/
theorem Lexeme.Valid.isDelimiter {c : Char} (h : (Lexeme.sign c).Valid) : isDelimiter c = true := by
  have hall : ∀ c ∈ ['[', ']', '\x7b', '\x7d', ','], Json.isDelimiter c = true :=
    forall_of_all (by decide)
  exact hall c h

/-- A delimiter stands in front, or no word comes next. -/
def Guarded (before : Option Char) (row : List Lexeme) : Prop := Delimits before ∨ Ends row

theorem delimits_lastOr_blank {t : List Char} (ht : ∀ c ∈ t, isWhite c = true) {before : Option Char}
    (h : Delimits before ∨ t ≠ []) : Delimits (Text.lastOr before t) := by
  induction t generalizing before with
  | nil => exact h.resolve_right fun h => h rfl
  | cons c t ih =>
    obtain ⟨hc, ht⟩ := List.forall_mem_cons.mp ht
    refine ih ht (.inl fun d hd => ?_)
    cases hd
    simp [isDelimiter, hc]

/-- Behind a lexeme other than a string there is a delimiter, or no word comes next. -/
theorem Guarded.behind {before : Option Char} (h : Guarded before (l :: row))
    (hrow : Regular (l :: row)) (hl : l.content? = none) :
    Guarded (Text.lastOr before l.text) row := by
  cases hrow with
  | cons hvalid hnext hrow =>
    cases l with
    | blank t =>
      by_cases ht : t = []
      · rw [ht]
        exact h
      · exact .inl (delimits_lastOr_blank hvalid (.inr ht))
    | sign c =>
      refine .inl fun d hd => ?_
      cases hd
      exact hvalid.isDelimiter
    | colon =>
      refine .inl fun d hd => ?_
      cases hd
      decide
    | key c => cases hl
    | string c => cases hl
    | number t => exact .inr hnext
    | boolean b => exact .inr hnext
    | null => exact .inr hnext

theorem Guarded.behind_all {before : Option Char} (h : Guarded before (front ++ row))
    (hrow : Regular (front ++ row)) (hfront : Stringless front) :
    Guarded (Text.lastOr before (spellRow front)) row := by
  induction front generalizing before with
  | nil => exact h
  | cons l front ih =>
    obtain ⟨hl, hfront⟩ := List.forall_mem_cons.mp hfront
    rw [spellRow_cons, Text.lastOr_append]
    exact ih (Guarded.behind h hrow hl) hrow.tail hfront

/-- What may stand behind a word begins with a delimiter. -/
theorem Ends.delimits (h : Ends row) (hrow : Regular row) : Delimits (spellRow row).head? := by
  induction row with
  | nil => exact fun _ h => by cases h
  | cons l row ih =>
    cases hrow with
    | cons hvalid _ hrow =>
      cases l with
      | blank t =>
        cases t with
        | nil => exact ih h hrow
        | cons c t =>
          intro d hd
          cases hd
          have hc : isWhite c = true := hvalid c (List.mem_cons_self ..)
          simp [isDelimiter, hc]
      | sign c =>
        intro d hd
        cases hd
        exact hvalid.isDelimiter
      | _ =>
        obtain ⟨c, hc⟩ := h _ rfl
        cases hc

/-- The words of a row without strings stand between delimiters. -/
theorem Regular.bordered (h : Regular (front ++ l :: rest)) (hfront : Stringless front) :
    l.Bordered (Text.lastOr none (spellRow front)) (spellRow rest) := by
  have hguarded : Guarded (Text.lastOr none (spellRow front)) (l :: rest) :=
    Guarded.behind_all (.inl fun _ h => by cases h) h hfront
  cases h.of_append with
  | cons hvalid hnext hrest =>
    have hword : Ends rest → (∀ c, l ≠ .sign c) → next (l :: rest) = some l →
        Delimits (Text.lastOr none (spellRow front)) ∧ Delimits (spellRow rest).head? := by
      intro hends hne hl
      refine ⟨hguarded.resolve_right fun h => ?_, hends.delimits hrest⟩
      obtain ⟨c, hc⟩ := h l hl
      exact hne c hc
    cases l with
    | number t => exact hword hnext (fun c => by simp) rfl
    | boolean b => exact hword hnext (fun c => by simp) rfl
    | null => exact hword hnext (fun c => by simp) rfl
    | _ => trivial

end Regular

end Highlight.Json
