import Highlight.Text.Span

/-!
# The syntax of JSON texts

The grammar of RFC 8259. A text is a row of lexemes: what the grammar calls white space, structural
characters, strings, numbers and literal names. An object key is a string like any other, but it is
told apart here, since it is the place that makes it a key. `Document` says which rows make up a
valid text.

Two things about such a row hold at every place of it: what a lexeme may look like, and what may come
next after it. `Regular` is the two together, and `Document.regular` derives them.
-/

namespace Highlight.Json

def isWhite (c : Char) : Bool := c == ' ' || c == '\t' || c == '\n' || c == '\r'

/-- One digit or more. -/
structure Digits (ds : List Char) : Prop where
  ne : ds ≠ []
  digits : ∀ d ∈ ds, d.isDigit = true

/-- The integer part of a number: no zero stands in front of other digits. -/
inductive IsInteger : List Char → Prop
  | zero : IsInteger ['0']
  | digits {d : Char} {ds : List Char} (hd : d.isDigit = true) (hne : d ≠ '0')
      (hds : ∀ d ∈ ds, d.isDigit = true) : IsInteger (d :: ds)

/-- The fraction of a number, which may be left out. -/
inductive IsFraction : List Char → Prop
  | none : IsFraction []
  | digits {ds : List Char} (hds : Digits ds) : IsFraction ('.' :: ds)

/-- The exponent of a number, which may be left out. -/
inductive IsExponent : List Char → Prop
  | none : IsExponent []
  | digits {e : Char} {sign ds : List Char} (he : e = 'e' ∨ e = 'E')
      (hsign : sign = [] ∨ sign = ['+'] ∨ sign = ['-']) (hds : Digits ds) :
      IsExponent (e :: (sign ++ ds))

inductive IsNumber : List Char → Prop
  | mk {minus int frac exp : List Char} (hminus : minus = [] ∨ minus = ['-']) (hint : IsInteger int)
      (hfrac : IsFraction frac) (hexp : IsExponent exp) : IsNumber (minus ++ (int ++ (frac ++ exp)))

def isHex (c : Char) : Bool :=
  c.isDigit || ('a' ≤ c && c ≤ 'f') || ('A' ≤ c && c ≤ 'F')

/-- The characters of a string between its quotes. -/
inductive IsString : List Char → Prop
  | nil : IsString []
  | unescaped {c : Char} {cs : List Char} (hc : 0x20 ≤ c.toNat) (hquote : c ≠ '"')
      (hbackslash : c ≠ '\\') (hcs : IsString cs) : IsString (c :: cs)
  | escaped {c : Char} {cs : List Char} (hc : c ∈ ['"', '\\', '/', 'b', 'f', 'n', 'r', 't'])
      (hcs : IsString cs) : IsString ('\\' :: c :: cs)
  | unicode {a b c d : Char} {cs : List Char} (ha : isHex a = true) (hb : isHex b = true)
      (hc : isHex c = true) (hd : isHex d = true) (hcs : IsString cs) :
      IsString ('\\' :: 'u' :: a :: b :: c :: d :: cs)

inductive Lexeme where
  | blank (text : List Char)
  /-- A bracket or a comma. -/
  | sign (c : Char)
  | colon
  | key (content : List Char)
  | string (content : List Char)
  | number (text : List Char)
  | boolean (value : Bool)
  | null
  deriving DecidableEq

def quoted (content : List Char) : List Char := '"' :: (content ++ ['"'])

namespace Lexeme

def text : Lexeme → List Char
  | blank t => t
  | sign c => [c]
  | colon => [':']
  | key content => quoted content
  | string content => quoted content
  | number t => t
  | boolean true => ['t', 'r', 'u', 'e']
  | boolean false => ['f', 'a', 'l', 's', 'e']
  | null => ['n', 'u', 'l', 'l']

def content? : Lexeme → Option (List Char)
  | key c => some c
  | string c => some c
  | _ => none

end Lexeme

def spellRow (row : List Lexeme) : List Char := row.flatMap Lexeme.text

/-- A lexeme with the white space that may stand on its two sides. -/
inductive Padded (l : Lexeme) : List Lexeme → Prop
  | mk {a b : List Char} (ha : ∀ c ∈ a, isWhite c = true) (hb : ∀ c ∈ b, isWhite c = true) :
      Padded l [.blank a, l, .blank b]

/-- What a row of lexemes may be derived from. -/
inductive Form where
  | value
  /-- The elements of an array, at least one. -/
  | elements
  /-- The members of an object, at least one. -/
  | members
  deriving DecidableEq

/-- The rows of lexemes that the grammar derives. -/
inductive Derives : Form → List Lexeme → Prop
  | null : Derives .value [.null]
  | boolean (b : Bool) : Derives .value [.boolean b]
  | number {t : List Char} (ht : IsNumber t) : Derives .value [.number t]
  | string {c : List Char} (hc : IsString c) : Derives .value [.string c]
  | emptyArray {l r : List Lexeme} (hl : Padded (.sign '[') l) (hr : Padded (.sign ']') r) :
      Derives .value (l ++ r)
  | array {l row r : List Lexeme} (hl : Padded (.sign '[') l) (h : Derives .elements row)
      (hr : Padded (.sign ']') r) : Derives .value (l ++ (row ++ r))
  | emptyObject {l r : List Lexeme} (hl : Padded (.sign '\x7b') l) (hr : Padded (.sign '\x7d') r) :
      Derives .value (l ++ r)
  | object {l row r : List Lexeme} (hl : Padded (.sign '\x7b') l) (h : Derives .members row)
      (hr : Padded (.sign '\x7d') r) : Derives .value (l ++ (row ++ r))
  | element {row : List Lexeme} (h : Derives .value row) : Derives .elements row
  | elements {row s rows : List Lexeme} (h : Derives .value row) (hs : Padded (.sign ',') s)
      (hrows : Derives .elements rows) : Derives .elements (row ++ (s ++ rows))
  | member {c : List Char} {s row : List Lexeme} (hc : IsString c) (hs : Padded .colon s)
      (h : Derives .value row) : Derives .members (.key c :: (s ++ row))
  | members {c : List Char} {s row t rows : List Lexeme} (hc : IsString c) (hs : Padded .colon s)
      (h : Derives .value row) (ht : Padded (.sign ',') t) (hrows : Derives .members rows) :
      Derives .members (.key c :: (s ++ (row ++ (t ++ rows))))

/-- The rows of lexemes that make up a text: a value, and white space on its two sides. -/
inductive Document : List Lexeme → Prop
  | mk {a b : List Char} {row : List Lexeme} (ha : ∀ c ∈ a, isWhite c = true)
      (h : Derives .value row) (hb : ∀ c ∈ b, isWhite c = true) :
      Document (.blank a :: (row ++ [.blank b]))

namespace Lexeme

/-- What a lexeme of a text looks like. -/
def Valid : Lexeme → Prop
  | blank t => ∀ c ∈ t, isWhite c = true
  | sign c => c ∈ ['[', ']', '\x7b', '\x7d', ',']
  | key content => IsString content
  | string content => IsString content
  | number t => IsNumber t
  | _ => True

end Lexeme

/-- The next lexeme that is no white space. -/
def next : List Lexeme → Option Lexeme
  | [] => none
  | .blank _ :: row => next row
  | l :: _ => some l

/-- Whether a value may end here: a bracket or a comma comes next, or nothing at all. -/
def Ends (row : List Lexeme) : Prop := ∀ l, next row = some l → ∃ c, l = .sign c

/-- What may come behind a lexeme. -/
def Lexeme.Precedes : Lexeme → List Lexeme → Prop
  | key _, row => next row = some .colon
  | string _, row | number _, row | boolean _, row | null, row => Ends row
  | _, _ => True

/-- Every lexeme looks as it may, and is followed by what may follow it. -/
inductive Regular : List Lexeme → Prop
  | nil : Regular []
  | cons {l : Lexeme} {row : List Lexeme} (hl : l.Valid) (hnext : l.Precedes row)
      (h : Regular row) : Regular (l :: row)

section Regular

variable {l : Lexeme} {row rest : List Lexeme}

theorem Padded.regular (hl : Padded l row) (hvalid : l.Valid) (hnext : ∀ row, l.Precedes row)
    (h : Regular rest) : Regular (row ++ rest) := by
  obtain ⟨ha, hb⟩ := hl
  exact .cons ha trivial (.cons hvalid (hnext _) (.cons hb trivial h))

theorem Padded.ends {c : Char} (hl : Padded (.sign c) row) (rest : List Lexeme) :
    Ends (row ++ rest) := by
  obtain ⟨-, -⟩ := hl
  intro l hl
  cases hl
  exact ⟨c, rfl⟩

theorem Padded.next_colon (hl : Padded .colon row) (rest : List Lexeme) :
    next (row ++ rest) = some .colon := by
  obtain ⟨-, -⟩ := hl
  rfl

/-- A row that the grammar derives may stand wherever a value may end behind it. -/
theorem Derives.regular {form : Form} (h : Derives form row) (hends : Ends rest)
    (hrest : Regular rest) : Regular (row ++ rest) := by
  induction h generalizing rest with
  | null => exact .cons trivial hends hrest
  | boolean b => exact .cons trivial hends hrest
  | number ht => exact .cons ht hends hrest
  | string hc => exact .cons hc hends hrest
  | emptyArray hl hr =>
    rw [List.append_assoc]
    exact hl.regular (by simp [Lexeme.Valid]) (fun _ => trivial)
      (hr.regular (by simp [Lexeme.Valid]) (fun _ => trivial) hrest)
  | array hl _ hr ih =>
    rw [List.append_assoc, List.append_assoc]
    exact hl.regular (by simp [Lexeme.Valid]) (fun _ => trivial)
      (ih (hr.ends rest) (hr.regular (by simp [Lexeme.Valid]) (fun _ => trivial) hrest))
  | emptyObject hl hr =>
    rw [List.append_assoc]
    exact hl.regular (by simp [Lexeme.Valid]) (fun _ => trivial)
      (hr.regular (by simp [Lexeme.Valid]) (fun _ => trivial) hrest)
  | object hl _ hr ih =>
    rw [List.append_assoc, List.append_assoc]
    exact hl.regular (by simp [Lexeme.Valid]) (fun _ => trivial)
      (ih (hr.ends rest) (hr.regular (by simp [Lexeme.Valid]) (fun _ => trivial) hrest))
  | element _ ih => exact ih hends hrest
  | elements _ hs _ ih ihrows =>
    rw [List.append_assoc, List.append_assoc]
    exact ih (hs.ends _) (hs.regular (by simp [Lexeme.Valid]) (fun _ => trivial) (ihrows hends hrest))
  | member hc hs _ ih =>
    rw [List.cons_append, List.append_assoc]
    exact .cons hc (hs.next_colon _) (hs.regular trivial (fun _ => trivial) (ih hends hrest))
  | members hc hs _ ht _ ih ihrows =>
    rw [List.cons_append, List.append_assoc, List.append_assoc, List.append_assoc]
    exact .cons hc (hs.next_colon _) (hs.regular trivial (fun _ => trivial)
      (ih (ht.ends _) (ht.regular (by simp [Lexeme.Valid]) (fun _ => trivial) (ihrows hends hrest))))

theorem Document.regular (h : Document row) : Regular row := by
  obtain ⟨ha, h, hb⟩ := h
  exact .cons ha trivial (h.regular (fun _ h => by cases h) (.cons hb trivial .nil))

end Regular

end Highlight.Json
