import Highlight.Text.Quoted
import Highlight.Token.Basic

/-!
# Plain views of a token tree

Two views for looking at what a grammar does: the tree, one node on a line, and the ranges, one
token on a line.
-/

namespace Highlight

/-- A span as it is written in the tree. -/
def Span.text (s : Span) : String := toString s.start ++ ".." ++ toString s.stop

/-- A token's kind, with its other kind if it has one. -/
def Node.label (kind : String) (altKind : Option String) : String :=
  match altKind with
  | some altKind => kind ++ " (" ++ altKind ++ ")"
  | none => kind

def Node.indent (depth : Nat) : String := String.ofList (List.replicate (2 * depth) ' ')

mutual

/-- The lines for a node and what is inside it: the text stands on the line of a node that has no
nodes inside. -/
def Node.treeLines (depth : Nat) : Node → List String
  | .run span text => [Node.indent depth ++ span.text ++ " " ++ Text.quote text]
  | .token kind altKind span text children =>
    let line := Node.indent depth ++ span.text ++ " " ++ Node.label kind altKind
    match children with
    | [] => [line ++ " " ++ Text.quote text]
    | child :: children =>
      line :: (child.treeLines (depth + 1) ++ Node.treeLinesOf (depth + 1) children)

def Node.treeLinesOf (depth : Nat) : List Node → List String
  | [] => []
  | node :: nodes => node.treeLines depth ++ Node.treeLinesOf depth nodes

end

/-- Lines as a text, each with its line end. -/
def unlines (lines : List String) : String := String.join (lines.map (· ++ "\n"))

def Node.treeText (nodes : List Node) : String := unlines (Node.treeLinesOf 0 nodes)

/-- The line for a token: where it begins and ends, its depth and its style class. -/
def StyledRange.line (r : StyledRange) : String :=
  "\t".intercalate [toString r.span.start, toString r.span.stop, toString r.depth, r.styleClass]

/-- The tokens of a list of nodes, one on a line. -/
def Node.rangesText (nodes : List Node) : String := unlines ((Node.flatten nodes).map (·.line))

end Highlight
