import Highlight.Style.Basic

/-!
# Escape sequences for styles

The sequences that change how a terminal shows the text after them: each begins with the escape
character and a bracket, and ends with `m`. Colors are set by their number in the palette.
-/

namespace Highlight

/-- A change of how text is shown. -/
inductive Sgr where
  | reset
  | bold
  | italic
  | underline
  | foreground (color : Nat)
  | background (color : Nat)
  deriving Repr, DecidableEq

namespace Sgr

def parameters : Sgr → String
  | reset => "0"
  | bold => "1"
  | italic => "3"
  | underline => "4"
  | foreground color => "38;5;" ++ toString color
  | background color => "48;5;" ++ toString color

/-- The sequence itself. -/
def text (s : Sgr) : String := "\x1b[" ++ s.parameters ++ "m"

/-- The changes that lead from a plain terminal to a style. -/
def ofStyle (s : Style) : List Sgr :=
  (s.fg.palette?.map foreground).toList ++ (s.bg.palette?.map background).toList
    ++ (if s.bold then [bold] else []) ++ (if s.italic then [italic] else [])
    ++ (if s.underline then [underline] else [])

end Sgr

end Highlight
