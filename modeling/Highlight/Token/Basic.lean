import Highlight.Text.Span

/-!
# Token trees

A divided text is a list of nodes: tokens, and runs of text that no rule has claimed. A token
whose pattern names a grammar for its inside has nodes of its own, which divide the token's text.
Spans count bytes of the whole text at every depth.
-/

namespace Highlight

/-- A part of a text: a token, or a run of text between tokens. -/
inductive Node where
  | run (span : Span) (text : String)
  | token (kind : String) (altKind : Option String) (span : Span) (text : String)
      (children : List Node)
  deriving Repr, Inhabited

namespace Node

def text : Node → String
  | run _ text => text
  | token _ _ _ text _ => text

/-- The bytes of the whole text that a node covers. -/
def span : Node → Span
  | run span _ => span
  | token _ _ span _ _ => span

def isToken : Node → Bool
  | run _ _ => false
  | token .. => true

def children : Node → List Node
  | run _ _ => []
  | token _ _ _ _ children => children

def concat (nodes : List Node) : String := String.join (nodes.map text)

end Node

/-- A token apart from the nodes inside it: its range, its names, and how deep it lies. -/
structure StyledRange where
  span : Span
  kind : String
  altKind : Option String
  /-- Zero for a token that lies inside no other one. -/
  depth : Nat
  deriving Repr, DecidableEq

/-- The style class of a token: its other kind if it has one, or else its kind. -/
def styleClass (kind : String) (altKind : Option String) : String := altKind.getD kind

namespace StyledRange

def styleClass (r : StyledRange) : String := Highlight.styleClass r.kind r.altKind

end StyledRange

mutual

/-- The tokens of a node as ranges, each before the ones inside it. -/
def Node.ranges (depth : Nat) : Node → List StyledRange
  | .run _ _ => []
  | .token kind altKind span _ children =>
    ⟨span, kind, altKind, depth⟩ :: Node.flattenFrom (depth + 1) children

def Node.flattenFrom (depth : Nat) : List Node → List StyledRange
  | [] => []
  | node :: nodes => node.ranges depth ++ Node.flattenFrom depth nodes

end

/-- The tokens of a list of nodes as ranges, each before the ones inside it. -/
def Node.flatten (nodes : List Node) : List StyledRange := Node.flattenFrom 0 nodes

end Highlight
