import Highlight.Division.Basic
import Highlight.Token.Basic

/-!
# Tokenizing a text

A grammar divides a text into pieces, and the pieces become nodes with their byte spans. The text
of a token whose pattern names a grammar for its inside is divided by that grammar in turn, at
the offset where the token lies. The nesting of the grammar bounds how often this can happen.
-/

namespace Highlight

/-- Pieces as nodes, the first one at byte offset `start`. `inside` makes the nodes inside a
token from its pattern, its offset and its text. -/
def Piece.toNodes (inside : Pattern → Nat → List Char → List Node) :
    (start : Nat) → List Piece → List Node
  | _, [] => []
  | start, .free text :: rest =>
    let stop := start + Text.byteLength text
    .run ⟨start, stop⟩ (String.ofList text) :: toNodes inside stop rest
  | start, .claimed c :: rest =>
    let stop := start + Text.byteLength c.text
    .token c.kind c.pattern.altKind ⟨start, stop⟩ (String.ofList c.text)
      (inside c.pattern start c.text) :: toNodes inside stop rest

namespace Grammar

/-- The nodes of a text that lies at byte offset `start`, where grammars are followed `depth`
levels deep. -/
def nodesWithin : (depth : Nat) → Grammar → (start : Nat) → List Char → List Node
  | 0, _, _, _ => []
  | depth + 1, g, start, text =>
    Piece.toNodes
      (fun pattern start text =>
        match pattern.inside with
        | some inner => nodesWithin depth inner start text
        | none => [])
      start (g.divide text)

def nodesAt (g : Grammar) (start : Nat) (text : List Char) : List Node :=
  g.nodesWithin g.nesting start text

/-- Divide a text into tokens and the text between them. -/
def tokenize (g : Grammar) (text : String) : List Node := g.nodesAt 0 text.toList

/-- Divide the part of a text that lies between two byte offsets. Spans count from the beginning
of the whole text. -/
def tokenizeRange (g : Grammar) (text : String) (span : Span) : List Node :=
  g.nodesAt span.start (Text.slice text.toList span)

end Grammar

end Highlight
