import Highlight.Tokenize
import Highlight.Proofs.Division.Origin

/-!
# Nesting bounds the depth of a tree

The nodes inside a token come from a grammar that is nested less deeply than the one around it.
So following grammars deeper than they nest changes nothing, and a tree of nodes has at most as
many levels as the grammar.
-/

namespace Highlight

mutual

/-- The number of levels of a tree that begins with a node. -/
def Node.levels : Node → Nat
  | .run _ _ => 1
  | .token _ _ _ _ children => Node.depth children + 1

/-- The number of levels of nodes, counting the ones inside tokens. -/
def Node.depth : List Node → Nat
  | [] => 0
  | node :: nodes => max node.levels (Node.depth nodes)

end

def PatternWith.nodesInside (p : Pattern) (start : Nat) (text : List Char) : List Node :=
  match p.inside with
  | some inner => inner.nodesAt start text
  | none => []

theorem nestingOfPatterns_le {ps : List Pattern} {p : Pattern} (hp : p ∈ ps) :
    nestingOfPattern p ≤ nestingOfPatterns ps := by
  induction ps with
  | nil => cases hp
  | cons q ps ih =>
    rw [nestingOfPatterns]
    rcases List.mem_cons.mp hp with rfl | hp
    · exact Nat.le_max_left _ _
    · exact Nat.le_trans (ih hp) (Nat.le_max_right _ _)

theorem nestingOfRules_le {rules : List Rule} {rule : Rule} (hr : rule ∈ rules) :
    nestingOfRule rule ≤ nestingOfRules rules := by
  induction rules with
  | nil => cases hr
  | cons q rules ih =>
    rw [nestingOfRules]
    rcases List.mem_cons.mp hr with rfl | hr
    · exact Nat.le_max_left _ _
    · exact Nat.le_trans (ih hr) (Nat.le_max_right _ _)

namespace Piece

variable {inside inside' : Pattern → Nat → List Char → List Node}

/-- Pieces become the same nodes if the nodes inside their tokens are the same. -/
theorem toNodes_congr {ps : List Piece}
    (h : ∀ c, .claimed c ∈ ps → ∀ start,
      inside c.pattern start c.text = inside' c.pattern start c.text)
    (start : Nat) : toNodes inside start ps = toNodes inside' start ps := by
  induction ps generalizing start with
  | nil => rfl
  | cons p ps ih =>
    have htail := ih fun c hc => h c (List.mem_cons_of_mem _ hc)
    cases p with
    | free t => rw [toNodes, toNodes, htail]
    | claimed c => rw [toNodes, toNodes, htail, h c (List.mem_cons_self ..)]

theorem depth_toNodes {depth : Nat} (h : ∀ p start text, Node.depth (inside p start text) ≤ depth)
    (start : Nat) (ps : List Piece) : Node.depth (toNodes inside start ps) ≤ depth + 1 := by
  induction ps generalizing start with
  | nil => exact Nat.zero_le _
  | cons p ps ih =>
    cases p with
    | free t =>
      rw [toNodes, Node.depth, Node.levels]
      exact Nat.max_le.mpr ⟨Nat.le_add_left _ _, ih _⟩
    | claimed c =>
      rw [toNodes, Node.depth, Node.levels]
      exact Nat.max_le.mpr ⟨Nat.succ_le_succ (h _ _ _), ih _⟩

end Piece

namespace Grammar

theorem nesting_pos (g : Grammar) : 0 < g.nesting := by
  cases g
  rw [nesting]
  omega

/-- A grammar is nested deeper than the grammars inside it. -/
theorem nesting_inside {g inner : Grammar} {rule : Rule} {p : Pattern} (hr : rule ∈ g.rules)
    (hp : p ∈ rule.patterns) (h : p.inside = some inner) : inner.nesting < g.nesting := by
  have hpattern : nestingOfPattern p = inner.nesting := by
    obtain ⟨_, _, _, _, _, inside⟩ := p
    cases h
    rw [nestingOfPattern, nestingOfInside]
  have hrule : nestingOfPatterns rule.patterns = nestingOfRule rule := by
    cases rule
    rw [nestingOfRule]
  have hg : g.nesting = nestingOfRules g.rules + 1 := by
    cases g
    rw [nesting]
    rfl
  have hle := nestingOfPatterns_le hp
  have hle' := nestingOfRules_le hr
  omega

/-- Once a grammar is followed as deep as it nests, following it deeper changes nothing. -/
theorem nodesWithin_eq {depth depth' : Nat} {g : Grammar} (h : g.nesting ≤ depth)
    (h' : g.nesting ≤ depth') (start : Nat) (text : List Char) :
    g.nodesWithin depth start text = g.nodesWithin depth' start text := by
  induction depth generalizing depth' g start text with
  | zero =>
    have hpos := g.nesting_pos
    omega
  | succ depth ih =>
    cases depth' with
    | zero =>
      have hpos := g.nesting_pos
      omega
    | succ depth' =>
      rw [nodesWithin, nodesWithin]
      apply Piece.toNodes_congr
      intro c hc start
      obtain ⟨rule, hr, -, hp⟩ := g.from_divide text c hc
      cases hinside : c.pattern.inside with
      | none => rfl
      | some inner =>
        have hlt := nesting_inside hr hp hinside
        exact ih (by omega) (by omega) start c.text

/-- The nodes of a text are those of its pieces, with the nodes inside tokens in full depth. -/
theorem nodesAt_eq (g : Grammar) (start : Nat) (text : List Char) :
    g.nodesAt start text = Piece.toNodes PatternWith.nodesInside start (g.divide text) := by
  have hle : g.nesting ≤ g.nesting + 1 := Nat.le_succ _
  rw [nodesAt, nodesWithin_eq (Nat.le_refl _) hle, nodesWithin]
  apply Piece.toNodes_congr
  intro c hc start
  obtain ⟨rule, hr, -, hp⟩ := g.from_divide text c hc
  rw [PatternWith.nodesInside]
  cases hinside : c.pattern.inside with
  | none => rfl
  | some inner =>
    have hlt := nesting_inside hr hp hinside
    exact nodesWithin_eq (Nat.le_of_lt hlt) (Nat.le_refl _) start c.text

/-- A tree has no more levels than grammars were followed. -/
theorem depth_nodesWithin (depth : Nat) (g : Grammar) (start : Nat) (text : List Char) :
    Node.depth (g.nodesWithin depth start text) ≤ depth := by
  induction depth generalizing g start text with
  | zero => exact Nat.le_refl _
  | succ depth ih =>
    rw [nodesWithin]
    apply Piece.depth_toNodes
    intro p start text
    cases p.inside with
    | none => exact Nat.zero_le _
    | some inner => exact ih inner start text

end Grammar

end Highlight
