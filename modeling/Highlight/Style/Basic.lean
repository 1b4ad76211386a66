import Highlight.Style.Color
import Highlight.Text.Blank

/-!
# Styles

A style is a foreground color, a background color and three attributes. It is written as words:
the first word that names a color is the foreground, a second one the background, and the words
for attributes may stand anywhere.
-/

namespace Highlight

structure Style where
  fg : Color := .default
  bg : Color := .default
  bold : Bool := false
  italic : Bool := false
  underline : Bool := false
  deriving Repr, DecidableEq, Inhabited

namespace Style

/-- The style that changes nothing. -/
def plain : Style := {}

def ofColor (c : Color) : Style := { fg := c }

def isPlain (s : Style) : Bool := s == plain

/-- What a word in the description of a style stands for. -/
inductive Word where
  | bold
  | italic
  | underline
  | color (c : Color)
  deriving Repr, DecidableEq

/-- The meaning of a word, in any letter case. -/
def Word.ofText? (word : String) : Option Word :=
  match Text.lowercase word with
  | "bold" => some .bold
  | "italic" => some .italic
  | "underline" => some .underline
  | other => (Color.ofName? other).map .color

/-- Take one more word; `colors` counts the colors that have been named. -/
def add? (s : Style) (colors : Nat) : Word → Option (Style × Nat)
  | .bold => some ({ s with bold := true }, colors)
  | .italic => some ({ s with italic := true }, colors)
  | .underline => some ({ s with underline := true }, colors)
  | .color c =>
    match colors with
    | 0 => some ({ s with fg := c }, 1)
    | 1 => some ({ s with bg := c }, 2)
    | _ => none

/-- Take words one after another; each has to have a meaning, and a third color has none. -/
def addWords? (s : Style) (colors : Nat) : List (List Char) → Option Style
  | [] => some s
  | word :: words =>
    match (Word.ofText? (String.ofList word)).bind (s.add? colors) with
    | some (s, colors) => s.addWords? colors words
    | none => none

def parse? (spec : String) : Option Style := plain.addWords? 0 (Text.words spec.toList)

end Style

end Highlight
