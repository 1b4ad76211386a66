import Mathlib.Data.List.Forall2
import Highlight.Token.Walk

/-!
# A walk goes through the tokens in pre-order

What a walk still has to visit are the tokens of the lists that it holds, in pre-order. Each step takes the
first of them, whatever the lists look like: with runs of text in front, with tokens that have no nodes inside,
or with nothing left in them. So a walk ends when all tokens of the tree have been visited, and it visits them
in the order of their ranges.
-/

namespace Highlight

namespace Node

mutual

/-- A node at a given depth and the nodes inside it, each with its depth and in front of the nodes inside it. -/
def preorder (depth : Nat) : Node → List (Nat × Node)
  | run span text => [(depth, run span text)]
  | token kind altKind span text children =>
    (depth, token kind altKind span text children) :: preorderOf (depth + 1) children

def preorderOf (depth : Nat) : List Node → List (Nat × Node)
  | [] => []
  | node :: nodes => node.preorder depth ++ preorderOf depth nodes

end

def rangeAt? (depth : Nat) : Node → Option StyledRange
  | run _ _ => none
  | token kind altKind span _ _ => some ⟨span, kind, altKind, depth⟩

/-- The node is the token that a range stands for: it has the same span and the same names, and so the same
style class. -/
def HasRange (node : Node) (r : StyledRange) : Prop :=
  ∃ text children, node = token r.kind r.altKind r.span text children

/-- The tokens of a list of nodes in pre-order. -/
def tokens (nodes : List Node) : List Node := ((preorderOf 0 nodes).map (·.2)).filter isToken

/-- The ranges are those of the nodes in pre-order. -/
theorem flattenFrom_eq : ∀ (depth : Nat) (nodes : List Node),
    flattenFrom depth nodes = (preorderOf depth nodes).filterMap fun p => p.2.rangeAt? p.1
  | _, [] => rfl
  | depth, run span text :: nodes => by
    rw [flattenFrom, ranges, preorderOf, preorder, flattenFrom_eq depth nodes]
    rfl
  | depth, token kind altKind span text children :: nodes => by
    rw [flattenFrom, ranges, preorderOf, preorder, flattenFrom_eq (depth + 1) children,
      flattenFrom_eq depth nodes, List.filterMap_append]
    rfl

theorem flatten_eq (nodes : List Node) :
    flatten nodes = (preorderOf 0 nodes).filterMap fun p => p.2.rangeAt? p.1 :=
  flattenFrom_eq 0 nodes

/-- Nodes have the same order at all depths. -/
theorem map_preorderOf : ∀ (depth depth' : Nat) (nodes : List Node),
    (preorderOf depth nodes).map (·.2) = (preorderOf depth' nodes).map (·.2)
  | _, _, [] => rfl
  | depth, depth', run span text :: nodes => by
    rw [preorderOf, preorderOf, preorder, preorder, List.map_append, List.map_append,
      map_preorderOf depth depth' nodes]
    rfl
  | depth, depth', token kind altKind span text children :: nodes => by
    rw [preorderOf, preorderOf, preorder, preorder, List.map_append, List.map_append, List.map_cons,
      List.map_cons, map_preorderOf depth depth' nodes, map_preorderOf (depth + 1) (depth' + 1) children]

/-- The tokens of a tree and its ranges stand for each other one by one. -/
theorem forall₂_tokens (nodes : List Node) : List.Forall₂ HasRange (tokens nodes) (flatten nodes) := by
  rw [tokens, flatten_eq]
  induction preorderOf 0 nodes with
  | nil => exact .nil
  | cons p placed ih =>
    obtain ⟨depth, node⟩ := p
    cases node with
    | run span text => exact ih
    | token kind altKind span text children => exact .cons ⟨text, children, rfl⟩ ih

section Cons

variable {nodes : List Node}

@[simp] theorem tokens_nil : tokens [] = [] := rfl

@[simp] theorem tokens_run (span : Span) (text : String) : tokens (run span text :: nodes) = tokens nodes := rfl

@[simp] theorem tokens_token (kind : String) (altKind : Option String) (span : Span) (text : String)
    (children : List Node) :
    tokens (token kind altKind span text children :: nodes) =
      token kind altKind span text children :: (tokens children ++ tokens nodes) := by
  rw [tokens, preorderOf, preorder, List.cons_append, List.map_cons, List.map_append,
    map_preorderOf (0 + 1) 0 children]
  rw [List.filter_cons_of_pos rfl, List.filter_append]
  rfl

end Cons

theorem tokenCountOf_eq : ∀ nodes : List Node, tokenCountOf nodes = (tokens nodes).length
  | [] => rfl
  | run span text :: nodes => by rw [tokenCountOf, tokenCount, tokenCountOf_eq nodes, tokens_run, Nat.zero_add]
  | token kind altKind span text children :: nodes => by
    rw [tokenCountOf, tokenCount, tokenCountOf_eq children, tokenCountOf_eq nodes, tokens_token,
      List.length_cons, List.length_append]
    omega

end Node

namespace Walk

/-- The tokens that a walk gives, one step after another, until it ends. -/
inductive Yields : Walk → List Node → Prop where
  | done {w : Walk} (hend : w.next? = none) : Yields w []
  | step {w w' : Walk} {token : Node} {tokens : List Node} (hnext : w.next? = some (token, w'))
      (hrest : Yields w' tokens) : Yields w (token :: tokens)

/-- The tokens that a walk still has to visit. -/
def remaining (w : Walk) : List Node := w.ahead.flatMap Node.tokens

theorem remaining_start (nodes : List Node) : (start nodes).remaining = Node.tokens nodes := by
  rw [remaining, start, List.flatMap_singleton]

/-- The first token of a list is the first one in pre-order, and then come those inside it. -/
theorem firstToken?_cases (nodes : List Node) :
    (firstToken? nodes = none ∧ Node.tokens nodes = []) ∨
      ∃ token rest, firstToken? nodes = some (token, rest) ∧
        Node.tokens nodes = token :: (Node.tokens token.children ++ Node.tokens rest) := by
  induction nodes with
  | nil => exact .inl ⟨rfl, rfl⟩
  | cons node nodes ih =>
    cases node with
    | run span text =>
      rw [firstToken?, Node.tokens_run]
      exact ih
    | token kind altKind span text children => exact .inr ⟨_, nodes, rfl, Node.tokens_token ..⟩

/-- A step takes the first token ahead. -/
theorem next?_cases (w : Walk) :
    (w.next? = none ∧ w.remaining = []) ∨
      ∃ token w', w.next? = some (token, w') ∧ w.remaining = token :: w'.remaining := by
  obtain ⟨ahead⟩ := w
  rw [next?, remaining]
  induction ahead with
  | nil => exact .inl ⟨rfl, rfl⟩
  | cons nodes outer ih =>
    dsimp only at ih ⊢
    rw [nextIn?, List.flatMap_cons]
    rcases firstToken?_cases nodes with ⟨hnone, htokens⟩ | ⟨token, rest, hsome, htokens⟩
    · rw [hnone, htokens, List.nil_append]
      exact ih
    · rw [hsome, htokens]
      refine .inr ⟨token, _, rfl, ?_⟩
      -- a token with no nodes inside adds no list, and would add no tokens
      cases hchildren : token.children with
      | nil => simp [remaining]
      | cons child children => simp [remaining]

/-- A walk visits all tokens ahead of it, and then ends. -/
theorem yields_remaining (w : Walk) : w.Yields w.remaining := by
  generalize hremaining : w.remaining = tokens
  induction tokens generalizing w with
  | nil =>
    rcases next?_cases w with ⟨hend, -⟩ | ⟨token, w', -, hcons⟩
    · exact .done hend
    · rw [hremaining] at hcons
      cases hcons
  | cons token tokens ih =>
    rcases next?_cases w with ⟨-, hnil⟩ | ⟨token', w', hnext, hcons⟩
    · rw [hremaining] at hnil
      cases hnil
    · rw [hremaining] at hcons
      obtain ⟨rfl, htokens⟩ := List.cons.inj hcons
      exact .step hnext (ih w' htokens.symm)

/-- Steps of a walk visit the tokens ahead of it in order. -/
theorem take_eq (count : Nat) (w : Walk) : w.take count = w.remaining.take count := by
  induction count generalizing w with
  | zero => rw [take, List.take_zero]
  | succ count ih =>
    rw [take]
    rcases next?_cases w with ⟨hend, hnil⟩ | ⟨token, w', hnext, hcons⟩
    · rw [hend, hnil, List.take_nil]
    · rw [hnext, hcons, List.take_succ_cons, ← ih w']

end Walk

namespace Node

theorem walk_eq (nodes : List Node) : walk nodes = tokens nodes := by
  rw [walk, Walk.take_eq, Walk.remaining_start, tokenCountOf_eq, List.take_length]

/-- The walk through a list of nodes ends, and gives all of its tokens. -/
theorem yields_walk (nodes : List Node) : (Walk.start nodes).Yields (walk nodes) := by
  rw [walk_eq, ← Walk.remaining_start]
  exact Walk.yields_remaining _

end Node

end Highlight
