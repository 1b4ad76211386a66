import Highlight.Text.Lowercase

/-!
# Colors

The sixteen colors of a terminal's palette, and the terminal's own default color. A color is
named in any letter case, with hyphens or underscores between words.
-/

namespace Highlight

/-- A color of the palette, or the terminal's default. -/
inductive Color where
  | default
  | black
  | red
  | green
  | yellow
  | blue
  | magenta
  | cyan
  | white
  | brightBlack
  | brightRed
  | brightGreen
  | brightYellow
  | brightBlue
  | brightMagenta
  | brightCyan
  | brightWhite
  deriving Repr, DecidableEq, Inhabited

namespace Color

/-- The color with a name that is in lowercase and has no underscores. -/
def ofPlainName? : String → Option Color
  | "default" => some default
  | "black" => some black
  | "red" => some red
  | "green" => some green
  | "yellow" => some yellow
  | "blue" => some blue
  | "magenta" => some magenta
  | "cyan" => some cyan
  | "white" => some white
  | "bright-black" => some brightBlack
  | "gray" => some brightBlack
  | "grey" => some brightBlack
  | "bright-red" => some brightRed
  | "bright-green" => some brightGreen
  | "bright-yellow" => some brightYellow
  | "bright-blue" => some brightBlue
  | "bright-magenta" => some brightMagenta
  | "bright-cyan" => some brightCyan
  | "bright-white" => some brightWhite
  | _ => none

/-- The same text with hyphens for underscores. -/
def hyphenate (s : String) : String :=
  String.ofList (s.toList.map fun c => if c == '_' then '-' else c)

def ofName? (name : String) : Option Color := ofPlainName? (hyphenate (Text.lowercase name))

/-- The number of a color in the palette; the default color has none. -/
def palette? : Color → Option Nat
  | default => none
  | black => some 0
  | red => some 1
  | green => some 2
  | yellow => some 3
  | blue => some 4
  | magenta => some 5
  | cyan => some 6
  | white => some 7
  | brightBlack => some 8
  | brightRed => some 9
  | brightGreen => some 10
  | brightYellow => some 11
  | brightBlue => some 12
  | brightMagenta => some 13
  | brightCyan => some 14
  | brightWhite => some 15

end Color

end Highlight
