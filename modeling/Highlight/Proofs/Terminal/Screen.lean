import Highlight.Terminal.Paint

/-!
# A terminal that reads styled text

A `Screen` takes one character after another and shows each in the style that is set, unless the
character belongs to an escape sequence. It knows the sequences that set a color of the palette or
an attribute and the one that resets all of them, with any number of parameters, and it refuses any
other one. What `Paint` writes for a part of a text is read as that part in its style, and leaves
the screen as it was.
-/

namespace Highlight

def Color.ofPalette? : Nat → Option Color
  | 0 => some black
  | 1 => some red
  | 2 => some green
  | 3 => some yellow
  | 4 => some blue
  | 5 => some magenta
  | 6 => some cyan
  | 7 => some white
  | 8 => some brightBlack
  | 9 => some brightRed
  | 10 => some brightGreen
  | 11 => some brightYellow
  | 12 => some brightBlue
  | 13 => some brightMagenta
  | 14 => some brightCyan
  | 15 => some brightWhite
  | _ => none

/-- The style that the parameters of a sequence lead to, taken from left to right. -/
def Style.change? : Style → List Nat → Option Style
  | s, [] => some s
  | _, 0 :: numbers => change? .plain numbers
  | s, 1 :: numbers => change? { s with bold := true } numbers
  | s, 3 :: numbers => change? { s with italic := true } numbers
  | s, 4 :: numbers => change? { s with underline := true } numbers
  | s, 38 :: 5 :: n :: numbers =>
    (Color.ofPalette? n).bind fun c => change? { s with fg := c } numbers
  | s, 48 :: 5 :: n :: numbers =>
    (Color.ofPalette? n).bind fun c => change? { s with bg := c } numbers
  | _, _ => none

/-- What the next character belongs to. -/
inductive Screen.Mode where
  | text
  /-- An escape sequence that has just begun. -/
  | escape
  /-- The parameters of a sequence; `last` is the one that is being read. -/
  | sequence (before : List Nat) (last : Nat)

/-- What a terminal has shown so far, and how it goes on. -/
structure Screen where
  style : Style := .plain
  mode : Screen.Mode := .text
  shown : List (Char × Style) := []

namespace Screen

def feed? (s : Screen) (c : Char) : Option Screen :=
  match s.mode with
  | .text =>
    if c = '\x1b' then some { s with mode := .escape }
    else some { s with shown := s.shown ++ [(c, s.style)] }
  | .escape => if c = '[' then some { s with mode := .sequence [] 0 } else none
  | .sequence before last =>
    if c.isDigit then some { s with mode := .sequence before (10 * last + (c.toNat - '0'.toNat)) }
    else if c = ';' then some { s with mode := .sequence (before ++ [last]) 0 }
    else if c = 'm' then
      (s.style.change? (before ++ [last])).map fun style => { s with style := style, mode := .text }
    else none

/-- Take a text; there is no result if it contains a sequence that is not known. -/
def read? (s : Screen) (text : List Char) : Option Screen := text.foldlM feed? s

@[simp] theorem read?_nil (s : Screen) : s.read? [] = some s := rfl

@[simp] theorem read?_cons (s : Screen) (c : Char) (cs : List Char) :
    s.read? (c :: cs) = (s.feed? c).bind fun s => s.read? cs := rfl

theorem read?_append (s : Screen) (a b : List Char) :
    s.read? (a ++ b) = (s.read? a).bind fun s => s.read? b :=
  List.foldlM_append

variable {style : Style} {shown : List (Char × Style)}

theorem read?_text {text : List Char} (h : '\x1b' ∉ text) :
    read? ⟨style, .text, shown⟩ text = some ⟨style, .text, shown ++ text.map (·, style)⟩ := by
  induction text generalizing shown with
  | nil => simp
  | cons c text ih =>
    rw [List.mem_cons, not_or] at h
    have hc : c ≠ '\x1b' := Ne.symm h.1
    rw [read?_cons, feed?]
    simp only [hc, if_false, Option.bind_some, ih h.2, List.append_assoc, List.map_cons,
      List.singleton_append]

theorem read?_digits {digits : List Char} (h : ∀ c ∈ digits, c.isDigit = true) (before : List Nat)
    (last : Nat) (rest : List Char) :
    read? ⟨style, .sequence before last, shown⟩ (digits ++ rest) =
      read? ⟨style, .sequence before (Nat.ofDigitChars 10 digits last), shown⟩ rest := by
  -- each digit is read onto what has been read of the parameter, so `last` is general
  induction digits generalizing last with
  | nil => rfl
  | cons c digits ih =>
    rw [List.cons_append, read?_cons, feed?]
    simp only [h c (List.mem_cons_self ..), if_true, Option.bind_some]
    rw [ih (fun d hd => h d (List.mem_cons_of_mem c hd)), Nat.ofDigitChars_cons]

theorem read?_number (before : List Nat) (n : Nat) (rest : List Char) :
    read? ⟨style, .sequence before 0, shown⟩ ((toString n).toList ++ rest) =
      read? ⟨style, .sequence before n, shown⟩ rest := by
  have hdigits : (toString n).toList = Nat.toDigits 10 n := Nat.toList_repr
  rw [hdigits, read?_digits (fun c hc => Nat.isDigit_of_mem_toDigits (by decide) (by decide) hc),
    Nat.ofDigitChars_ten_toDigits]

end Screen

def Sgr.numbers : Sgr → List Nat
  | reset => [0]
  | bold => [1]
  | italic => [3]
  | underline => [4]
  | foreground color => [38, 5, color]
  | background color => [48, 5, color]

def Style.changeAll? (s : Style) (changes : List Sgr) : Option Style :=
  changes.foldlM (fun s change => s.change? change.numbers) s

namespace Screen

variable {style : Style} {shown : List (Char × Style)}

theorem read?_end (before : List Nat) (last : Nat) :
    read? ⟨style, .sequence before last, shown⟩ "m".toList =
      (style.change? (before ++ [last])).map (⟨·, .text, shown⟩) := by
  simp [feed?]

/-- What begins a sequence with two parameters, then a number as the third one. -/
theorem read?_palette {lead : String} {code : Nat}
    (hlead : read? ⟨style, .text, shown⟩ lead.toList = some ⟨style, .sequence [code, 5] 0, shown⟩)
    (n : Nat) :
    read? ⟨style, .text, shown⟩ (lead ++ toString n ++ "m").toList =
      (style.change? [code, 5, n]).map (⟨·, .text, shown⟩) := by
  rw [String.toList_append, String.toList_append, List.append_assoc, read?_append, hlead,
    Option.bind_some, read?_number, read?_end]
  rfl

/-- A sequence changes the style and shows nothing. -/
theorem read?_sgr (change : Sgr) :
    read? ⟨style, .text, shown⟩ change.text.toList =
      (style.change? change.numbers).map (⟨·, .text, shown⟩) := by
  cases change with
  | reset | bold | italic | underline => simp [Sgr.text, Sgr.parameters, Sgr.numbers, feed?]
  | foreground color | background color =>
    rw [Sgr.text, Sgr.parameters, ← String.append_assoc]
    exact read?_palette rfl color

theorem read?_sgrs (changes : List Sgr) :
    read? ⟨style, .text, shown⟩ (String.join (changes.map Sgr.text)).toList =
      (style.changeAll? changes).map (⟨·, .text, shown⟩) := by
  induction changes generalizing style with
  | nil => rfl
  | cons change changes ih =>
    rw [List.map_cons, String.join_cons, String.toList_append, read?_append, read?_sgr]
    rw [Style.changeAll?, List.foldlM_cons]
    cases style.change? change.numbers with
    | none => rfl
    | some style => exact ih

end Screen

namespace Style

theorem changeAll?_append (s : Style) (a b : List Sgr) :
    s.changeAll? (a ++ b) = (s.changeAll? a).bind fun s => s.changeAll? b :=
  List.foldlM_append

theorem changeAll?_foreground (fg bg : Color) (bold italic underline : Bool) :
    changeAll? ⟨.default, bg, bold, italic, underline⟩ (fg.palette?.map Sgr.foreground).toList =
      some ⟨fg, bg, bold, italic, underline⟩ := by
  cases fg <;> rfl

theorem changeAll?_background (fg bg : Color) (bold italic underline : Bool) :
    changeAll? ⟨fg, .default, bold, italic, underline⟩ (bg.palette?.map Sgr.background).toList =
      some ⟨fg, bg, bold, italic, underline⟩ := by
  cases bg <;> rfl

/-- The changes for a style lead to it from the plain one. -/
theorem changeAll?_ofStyle (s : Style) : changeAll? .plain (Sgr.ofStyle s) = some s := by
  obtain ⟨fg, bg, bold, italic, underline⟩ := s
  simp only [Sgr.ofStyle, changeAll?_append]
  rw [plain, changeAll?_foreground, Option.bind_some, changeAll?_background]
  -- the attributes do not touch the colors, whichever of them are set
  cases bold <;> cases italic <;> cases underline <;> rfl

end Style

namespace Screen

open Paint (styled part)

variable {style : Style} {shown : List (Char × Style)} {text : String}

/-- A part of a text is shown in its style, and the style is reset behind it. -/
theorem read?_styled (h : '\x1b' ∉ text.toList) :
    read? ⟨.plain, .text, shown⟩ (styled style text).toList =
      some ⟨.plain, .text, shown ++ text.toList.map (·, style)⟩ := by
  simp only [styled, String.toList_append, read?_append, read?_sgrs, Style.changeAll?_ofStyle,
    Option.map_some, Option.bind_some, read?_text h, read?_sgr]
  rfl

theorem read?_part (h : '\x1b' ∉ text.toList) :
    read? ⟨.plain, .text, shown⟩ (part true style text).toList =
      some ⟨.plain, .text, shown ++ text.toList.map (·, style)⟩ := by
  rw [part]
  by_cases hplain : style.isPlain = true
  · obtain rfl : style = .plain := by simpa [Style.isPlain] using hplain
    exact read?_text h
  · rw [Bool.not_eq_true] at hplain
    rw [hplain]
    exact read?_styled h

end Screen

end Highlight
