import Highlight.Style.Theme
import Highlight.Terminal.Sgr
import Highlight.Token.Basic

/-!
# Painting a token tree

Painting writes the text of a tree back out, each innermost part in the style of the nearest
token around it that the theme gives a style. Two resets follow each styled part: one for the
attributes and one for the colors. Without color the text is written as it is.
-/

namespace Highlight

mutual

/-- The innermost parts of a node with their styles; `inherited` is the style of what surrounds
it. -/
def Node.styledParts (theme : Theme) (inherited : Style) : Node → List (Style × String)
  | .run _ text => [(inherited, text)]
  | .token kind altKind _ text children =>
    let own := theme.styleFor kind altKind
    let style := if own.isPlain then inherited else own
    match children with
    | [] => [(style, text)]
    | child :: children =>
      child.styledParts theme style ++ Node.styledPartsOf theme style children

def Node.styledPartsOf (theme : Theme) (inherited : Style) : List Node → List (Style × String)
  | [] => []
  | node :: nodes => node.styledParts theme inherited ++ Node.styledPartsOf theme inherited nodes

end

namespace Paint

/-- A text in a style, with the sequences that a terminal needs for it. -/
def styled (s : Style) (text : String) : String :=
  String.join ((Sgr.ofStyle s).map Sgr.text) ++ text ++ Sgr.reset.text ++ Sgr.reset.text

/-- A part of the text as it is written: as it is, unless there is color and a style. -/
def part (color : Bool) (s : Style) (text : String) : String :=
  if color && !s.isPlain then styled s text else text

/-- The text of a token tree, in the styles of a theme if `color`. -/
def nodes (theme : Theme) (color : Bool) (nodes : List Node) : String :=
  String.join ((Node.styledPartsOf theme .plain nodes).map fun (s, text) => part color s text)

end Paint

end Highlight
