import Highlight.Proofs.Json.Cover
import Highlight.Proofs.Json.Strings

/-!
# Rows of lexemes as strands

The strands of a row of lexemes are its strings, keys or not, with the text that the other lexemes
make up between them. Those of a regular row can be taken apart by the patterns for strings, since
there is text between any two strings, and no quote in it. A colon follows a string exactly if it is
a key.
-/

namespace Highlight.Json

open Piece

/-- The strands of a row of lexemes, behind the text `gap`. -/
def strands : (gap : List Char) → List Lexeme → List Strand
  | _, [] => []
  | gap, l :: row =>
    match l.content? with
    | some c => ⟨gap, c⟩ :: strands [] row
    | none => strands (gap ++ l.text) row

/-- The text behind the last string of a row of lexemes. -/
def rear : (gap : List Char) → List Lexeme → List Char
  | gap, [] => gap
  | gap, l :: row =>
    match l.content? with
    | some _ => rear [] row
    | none => rear (gap ++ l.text) row

section Strands

variable {l : Lexeme} {row : List Lexeme} {gap c : List Char}

theorem strands_string (hl : l.content? = some c) :
    strands gap (l :: row) = ⟨gap, c⟩ :: strands [] row := by
  rw [strands, hl]

theorem strands_other (hl : l.content? = none) :
    strands gap (l :: row) = strands (gap ++ l.text) row := by
  rw [strands, hl]

theorem rear_string (hl : l.content? = some c) : rear gap (l :: row) = rear [] row := by
  rw [rear, hl]

theorem rear_other (hl : l.content? = none) : rear gap (l :: row) = rear (gap ++ l.text) row := by
  rw [rear, hl]

theorem text_of_content (hl : l.content? = some c) : l.text = quoted c := by
  cases l <;> cases hl <;> rfl

/-- Strands with what is behind them spell the row. -/
theorem weave_strands (gap : List Char) (row : List Lexeme) :
    weave (rear gap row) (strands gap row) = gap ++ spellRow row := by
  induction row generalizing gap with
  | nil => exact (List.append_nil gap).symm
  | cons l row ih =>
    have hrow : spellRow (l :: row) = l.text ++ spellRow row := rfl
    cases hl : l.content? with
    | none => rw [strands_other hl, rear_other hl, ih, hrow, List.append_assoc]
    | some c =>
      rw [strands_string hl, rear_string hl, weave, ih, List.nil_append, hrow, text_of_content hl,
        quoted_append]

end Strands

section Sound

variable {l : Lexeme} {c gap : List Char} {row : List Lexeme}

theorem plain_of_isHex {d : Char} (h : isHex d = true) : plain.contains d = true := by
  rw [contains_plain]
  refine ⟨?_, ?_, ?_, ?_⟩
  all_goals
    rintro rfl
    exact absurd h (by decide)

theorem IsString.content (h : IsString c) : Content c := by
  induction h with
  | nil => exact .nil
  | unescaped hc hquote hbackslash _ ih =>
    refine .plain ((contains_plain _).mpr ⟨hquote, hbackslash, ?_, ?_⟩) ih
    all_goals
      rintro rfl
      exact absurd hc (by decide)
  | escaped hc _ ih =>
    refine .escape ?_ ih
    rintro rfl
    exact absurd hc (by decide)
  | unicode ha hb hc hd _ ih =>
    exact .escape (by decide) (.plain (plain_of_isHex ha) (.plain (plain_of_isHex hb)
      (.plain (plain_of_isHex hc) (.plain (plain_of_isHex hd) ih))))

/-- What all lexemes other than strings have in their characters, the text between strings has. -/
theorem forall_gap {P : Char → Prop}
    (hP : ∀ l : Lexeme, l.content? = none → l.Valid → ∀ d ∈ l.text, P d) (hrow : ∀ l ∈ row, l.Valid)
    (hgap : ∀ d ∈ gap, P d) :
    (∀ s ∈ strands gap row, ∀ d ∈ s.gap, P d) ∧ ∀ d ∈ rear gap row, P d := by
  induction row generalizing gap with
  | nil => exact ⟨by simp [strands], hgap⟩
  | cons l row ih =>
    obtain ⟨hl, hrow⟩ := List.forall_mem_cons.mp hrow
    cases hcontent : l.content? with
    | none =>
      rw [strands_other hcontent, rear_other hcontent]
      exact ih hrow (List.forall_mem_append.mpr ⟨hgap, hP l hcontent hl⟩)
    | some c =>
      have hnil : ∀ d ∈ ([] : List Char), P d := by simp
      obtain ⟨hstrands, hrear⟩ := ih hrow hnil
      rw [strands_string hcontent, rear_string hcontent]
      exact ⟨List.forall_mem_cons.mpr ⟨hgap, hstrands⟩, hrear⟩

/-- Characters that stand between strings: they begin no string and no comment. -/
def Bare (d : Char) : Prop := d ≠ '"' ∧ d ≠ '\\' ∧ d ≠ '/'

theorem bare_of_mem {l : Lexeme} (hl : l.content? = none) (hvalid : l.Valid) {d : Char}
    (hd : d ∈ l.text) : Bare d := by
  have hmem := hvalid.subset hl d hd
  have hall : ∀ d ∈ l.alphabet, d ≠ '"' ∧ d ≠ '\\' ∧ d ≠ '/' := by
    cases l <;> rw [Lexeme.alphabet] <;> exact forall_of_all (by decide)
  exact hall d hmem

theorem bare_gap (hrow : ∀ l ∈ row, l.Valid) :
    (∀ s ∈ strands [] row, ∀ d ∈ s.gap, Bare d) ∧ ∀ d ∈ rear [] row, Bare d :=
  forall_gap (fun _ hl hv _ hd => bare_of_mem hl hv hd) hrow (by simp)

/-- Behind a string another lexeme comes next. -/
theorem Regular.next_behind (h : Regular (l :: row)) (hl : l.content? = some c) :
    ∀ m, next row = some m → m.content? = none := by
  intro m hm
  cases h with
  | cons _ hnext _ =>
    cases l with
    | key c =>
      rw [show next row = some .colon from hnext] at hm
      cases hm
      rfl
    | string c =>
      obtain ⟨d, rfl⟩ := (show Ends row from hnext) m hm
      rfl
    | _ => cases hl

/-- Where no string comes first, there is text in front of every string. -/
theorem forall_gap_ne (hrow : Regular row)
    (hgap : gap ≠ [] ∨ ∀ l, next row = some l → l.content? = none) :
    ∀ s ∈ strands gap row, s.gap ≠ [] := by
  induction row generalizing gap with
  | nil => simp [strands]
  | cons l row ih =>
    have htail := hrow.tail
    have hvalid := hrow.valid l (List.mem_cons_self ..)
    cases hcontent : l.content? with
    | none =>
      rw [strands_other hcontent]
      refine ih htail ?_
      rcases hgap with hgap | hgap
      · exact .inl (by simp [hgap])
      · by_cases ht : l.text = []
        · right
          have hblank : next (l :: row) = next row := by
            cases l with
            | blank t => rfl
            | number t => exact absurd ht (IsNumber.ne_nil hvalid)
            | boolean b => cases b <;> cases ht
            | _ => cases ht
          rwa [hblank] at hgap
        · exact .inl (by simp [ht])
    | some c =>
      have hne : gap ≠ [] := by
        refine hgap.resolve_right fun h => ?_
        have hl : next (l :: row) = some l := by
          cases l with
          | blank t => cases hcontent
          | _ => rfl
        rw [h l hl] at hcontent
        cases hcontent
      rw [strands_string hcontent]
      exact List.forall_mem_cons.mpr ⟨hne, ih htail (.inr (hrow.next_behind hcontent))⟩

theorem strand_content (hrow : ∀ l ∈ row, l.Valid) : ∀ s ∈ strands gap row, Content s.content := by
  induction row generalizing gap with
  | nil => simp [strands]
  | cons l row ih =>
    obtain ⟨hl, hrow⟩ := List.forall_mem_cons.mp hrow
    cases hcontent : l.content? with
    | none =>
      rw [strands_other hcontent]
      exact ih hrow
    | some c =>
      rw [strands_string hcontent]
      refine List.forall_mem_cons.mpr ⟨?_, ih hrow⟩
      cases l with
      | key d =>
        cases hcontent
        exact IsString.content hl
      | string d =>
        cases hcontent
        exact IsString.content hl
      | _ => cases hcontent

end Sound

section Colon

variable {row : List Lexeme}

theorem white_facts {c : Char} (h : isWhite c = true) : isBlank c = true ∧ (c == ':') = false := by
  have hall : ∀ c ∈ [' ', '\t', '\n', '\r'], isBlank c = true ∧ (c == ':') = false :=
    forall_of_all (by decide)
  exact hall c (by simpa [isWhite, or_assoc] using h)

theorem colonAhead_white {t : List Char} (ht : ∀ c ∈ t, isWhite c = true) (rest : List Char) :
    colonAhead (t ++ rest) = colonAhead rest := by
  induction t with
  | nil => rfl
  | cons c t ih =>
    obtain ⟨hc, ht⟩ := List.forall_mem_cons.mp ht
    obtain ⟨hblank, hcolon⟩ := white_facts hc
    rw [List.cons_append, colonAhead, hcolon, hblank, ih ht]
    rfl

/-- A colon follows a key. -/
theorem colonAhead_of_next (hrow : Regular row) (h : next row = some .colon) :
    colonAhead (spellRow row) = true := by
  induction row with
  | nil => cases h
  | cons l row ih =>
    cases hrow with
    | cons hvalid _ hrow =>
      rw [spellRow_cons]
      cases l with
      | blank t =>
        rw [Lexeme.text, colonAhead_white hvalid]
        exact ih hrow h
      | colon => rfl
      | _ => cases h

/-- No colon follows a value. -/
theorem colonAhead_of_ends (hrow : Regular row) (h : Ends row) : colonAhead (spellRow row) = false := by
  induction row with
  | nil => rfl
  | cons l row ih =>
    cases hrow with
    | cons hvalid _ hrow =>
      rw [spellRow_cons]
      cases l with
      | blank t =>
        rw [Lexeme.text, colonAhead_white hvalid]
        exact ih hrow h
      | sign c =>
        have hall : ∀ c ∈ ['[', ']', '\x7b', '\x7d', ','], (c == ':') = false ∧ isBlank c = false :=
          forall_of_all (by decide)
        obtain ⟨hcolon, hblank⟩ := hall c hvalid
        rw [Lexeme.text, List.singleton_append, colonAhead, hcolon, hblank]
        rfl
      | _ =>
        obtain ⟨c, hc⟩ := h _ rfl
        cases hc

end Colon

end Highlight.Json
