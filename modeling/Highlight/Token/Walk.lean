import Highlight.Token.Basic

/-!
# Walking through a token tree

A walk visits the tokens of a tree one at a time, each before the tokens inside it. It holds the
lists of nodes that it still has to go through, the innermost first, and goes into the children of
a token when it is asked for the token after it.
-/

namespace Highlight

/-- A walk in progress: the lists of nodes still to go through, the innermost first. -/
structure Walk where
  ahead : List (List Node)

namespace Walk

def start (nodes : List Node) : Walk := ⟨[nodes]⟩

/-- The first token of a list, with the nodes behind it. -/
def firstToken? : List Node → Option (Node × List Node)
  | [] => none
  | .run _ _ :: nodes => firstToken? nodes
  | .token kind altKind span text children :: nodes =>
    some (.token kind altKind span text children, nodes)

def nextIn? : List (List Node) → Option (Node × Walk)
  | [] => none
  | nodes :: outer =>
    match firstToken? nodes with
    | some (token, rest) =>
      let outer := rest :: outer
      some (token, ⟨if token.children.isEmpty then outer else token.children :: outer⟩)
    | none => nextIn? outer

/-- The next token, and the walk behind it; `none` at the end. -/
def next? (w : Walk) : Option (Node × Walk) := nextIn? w.ahead

/-- The tokens of at most `count` further steps. -/
def take : (count : Nat) → Walk → List Node
  | 0, _ => []
  | count + 1, w =>
    match w.next? with
    | some (token, w) => token :: take count w
    | none => []

end Walk

mutual

def Node.tokenCount : Node → Nat
  | .run _ _ => 0
  | .token _ _ _ _ children => Node.tokenCountOf children + 1

def Node.tokenCountOf : List Node → Nat
  | [] => 0
  | node :: nodes => node.tokenCount + Node.tokenCountOf nodes

end

/-- All tokens of a list of nodes, in the order of a walk. -/
def Node.walk (nodes : List Node) : List Node := (Walk.start nodes).take (Node.tokenCountOf nodes)

end Highlight
