import Highlight.Proofs.Segments.Run
import Highlight.Proofs.Token.Nodes
import Highlight.Proofs.Token.Tiling

/-!
# A token's inside depends on the token's text alone

Dividing a span of a text, in place or piece by piece, is dividing the text at that span on its own
and moving all nodes to where the span lies. `Grammar.Level` follows the grammars that divide the
insides of tokens, and `Grammar.ClaimedBy` says which pattern made a token. So what stands inside a
token is known from that pattern and from the token's text, whatever surrounds the token.
-/

namespace Highlight

mutual

/-- A node with everything inside it, `n` bytes further on. -/
def Node.shift (n : Nat) : Node → Node
  | .run span text => .run (span.shift n) text
  | .token kind altKind span text children =>
    .token kind altKind (span.shift n) text (Node.shiftAll n children)

def Node.shiftAll (n : Nat) : List Node → List Node
  | [] => []
  | node :: nodes => node.shift n :: Node.shiftAll n nodes

end

open Node (shiftAll)

namespace Piece

variable {inside : Pattern → Nat → List Char → List Node} {n : Nat}

theorem toNode_shift (h : ∀ p start text, inside p (start + n) text = shiftAll n (inside p start text))
    (start : Nat) (p : Piece) : p.toNode inside (start + n) = (p.toNode inside start).shift n := by
  cases p with
  | free t => simp [toNode, Node.shift, Span.shift, Nat.add_right_comm]
  | claimed c => simp [toNode, Node.shift, Span.shift, Nat.add_right_comm, h]

theorem toNodes_shift (h : ∀ p start text, inside p (start + n) text = shiftAll n (inside p start text))
    (start : Nat) (ps : List Piece) :
    toNodes inside (start + n) ps = shiftAll n (toNodes inside start ps) := by
  induction ps generalizing start with
  | nil => rfl
  | cons p ps ih =>
    rw [toNodes_cons, toNodes_cons, toNode_shift h, Nat.add_right_comm, ih]
    rfl

end Piece

namespace Grammar

theorem nodesWithin_shift (depth : Nat) (g : Grammar) (n start : Nat) (text : List Char) :
    g.nodesWithin depth (start + n) text = shiftAll n (g.nodesWithin depth start text) := by
  induction depth generalizing g start text with
  | zero => rfl
  | succ depth ih =>
    rw [nodesWithin, nodesWithin]
    apply Piece.toNodes_shift
    intro p start text
    cases p.inside with
    | none => rfl
    | some inner => exact ih inner start text

/-- A text has the same nodes wherever it lies. -/
theorem nodesAt_eq_shiftAll (g : Grammar) (start : Nat) (text : List Char) :
    g.nodesAt start text = shiftAll start (g.tokenize (String.ofList text)) := by
  have h := g.nodesWithin_shift g.nesting start 0 text
  rwa [Nat.zero_add, ← nodesAt, ← nodesAt, ← String.toList_ofList (l := text), ← tokenize,
    String.toList_ofList] at h

end Grammar

/-- The nodes that a pattern calls for inside a token, as nodes of the token's text on its own. -/
def PatternWith.nodesOf (p : Pattern) (text : String) : List Node :=
  match p.inside with
  | some inner => inner.tokenize text
  | none => []

/-- The nodes that a pattern calls for inside a token at a span of a text. -/
def PatternWith.nodesOver (p : Pattern) (text : String) (s : Span) : List Node :=
  match p.inside with
  | some inner => inner.tokenizeRange text s
  | none => []

theorem PatternWith.nodesInside_eq_shiftAll (p : Pattern) (start : Nat) (text : List Char) :
    p.nodesInside start text = shiftAll start (p.nodesOf (String.ofList text)) := by
  rw [nodesInside, nodesOf]
  cases p.inside with
  | none => rfl
  | some inner => exact inner.nodesAt_eq_shiftAll start text

namespace Grammar

/-- `p` has claimed the token `n` among the nodes of the span `s`: they stand at the same place among
the pieces and among the nodes. -/
def ClaimedBy (g : Grammar) (text : String) (s : Span) (n : Node) (p : Pattern) : Prop :=
  ∃ (i : Nat) (c : Claimed), (g.tokenizeRange text s)[i]? = some n ∧
    (g.divide (Text.slice text.toList s))[i]? = some (.claimed c) ∧ c.pattern = p

/-- Where `g` divides the span `s`, another grammar divides another span: that of a token at some
depth, made by a pattern that names this grammar for its inside. -/
inductive Level (text : String) (g : Grammar) (s : Span) : Grammar → Span → Prop where
  | top : Level text g s g s
  | inside {h inner : Grammar} {t : Span} {n : Node} {p : Pattern} (hlevel : Level text g s h t)
      (hn : h.ClaimedBy text t n p) (hinner : p.inside = some inner) : Level text g s inner n.span

variable {g : Grammar} {text : String} {s : Span} {n : Node} {p : Pattern}

/-- A token is what its piece says, with the nodes inside that its pattern calls for. -/
theorem ClaimedBy.children_eq (h : g.ClaimedBy text s n p) :
    n.children = shiftAll n.span.start (p.nodesOf n.text) := by
  obtain ⟨i, c, hn, hc, rfl⟩ := h
  rw [tokenizeRange_eq] at hn
  obtain ⟨a, q, b, hps, rfl, rfl⟩ := Piece.exists_of_toNodes hn
  rw [hps, List.getElem?_append_right (Nat.le_refl _), Nat.sub_self] at hc
  cases hc
  exact c.pattern.nodesInside_eq_shiftAll _ _

/-- A token of a part of a text is claimed by some pattern, lies on boundaries, and its inside is
divided as a part of the same text. -/
theorem exists_claimedBy {part : List Char} (hpart : Text.IsPart text.toList s part)
    (hn : n ∈ g.tokenizeRange text s) (htoken : n.isToken = true) :
    ∃ p, g.ClaimedBy text s n p ∧ Text.IsPart text.toList n.span n.text.toList ∧
      n.children = p.nodesOver text n.span := by
  obtain ⟨i, hi⟩ := List.mem_iff_getElem?.mp hn
  have hget := hi
  rw [tokenizeRange_eq] at hget
  obtain ⟨a, q, b, hps, rfl, rfl⟩ := Piece.exists_of_toNodes hget
  cases q with
  | free t => cases htoken
  | claimed c =>
    have hspan : Text.IsPart text.toList
        ((Piece.claimed c).toNode PatternWith.nodesInside
          (s.start + Text.byteLength (Piece.spell a))).span c.text := by
      rw [hpart.slice_eq] at hps
      rw [Piece.span_toNode]
      exact isPart_piece hpart hps
    refine ⟨c.pattern, ⟨a.length, c, hi, ?_, rfl⟩, ?_, ?_⟩
    · rw [hps, List.getElem?_append_right (Nat.le_refl _), Nat.sub_self]
      rfl
    · change Text.IsPart text.toList _ (String.ofList c.text).toList
      rw [String.toList_ofList]
      exact hspan
    · change c.pattern.nodesInside _ c.text = _
      rw [PatternWith.nodesInside, PatternWith.nodesOver]
      cases c.pattern.inside with
      | none => rfl
      | some inner =>
        dsimp only
        rw [tokenizeRange, hspan.slice_eq]
        rfl

/-- Every token, at every depth, is a token of some level and claimed by some pattern there. -/
theorem Level.exists_of_occurs {h : Grammar} {t : Span} {part : List Char}
    (hlevel : Level text g s h t) (hpart : Text.IsPart text.toList t part)
    (hn : Node.Occurs n (h.tokenizeRange text t)) (htoken : n.isToken = true) :
    ∃ h t p, Level text g s h t ∧ h.ClaimedBy text t n p := by
  generalize hnodes : h.tokenizeRange text t = nodes at hn
  induction hn generalizing h t part with
  | here hmem =>
    rw [← hnodes] at hmem
    obtain ⟨p, hp, -, -⟩ := exists_claimedBy hpart hmem htoken
    exact ⟨h, t, p, hlevel, hp⟩
  | @inside parent _ hmem hn ih =>
    have hparent : parent.isToken = true := by
      cases parent with
      | run => exact absurd hn Node.not_occurs_nil
      | token => rfl
    rw [← hnodes] at hmem
    obtain ⟨p, hp, hspan, hchildren⟩ := exists_claimedBy hpart hmem hparent
    rw [PatternWith.nodesOver] at hchildren
    cases hinner : p.inside with
    | none =>
      rw [hinner] at hchildren
      rw [hchildren] at hn
      exact absurd hn Node.not_occurs_nil
    | some inner =>
      rw [hinner] at hchildren
      exact ih (.inside hlevel hp hinner) hspan hchildren.symm

/-- Dividing a span of a text in place ends well, in the nodes of the text at that span, moved to
where the span lies. Each token, at every depth, is one that some pattern has claimed, and what stands
inside it are the nodes of its own text, moved to where it lies; so a pattern makes the same of the
same text, wherever it claims it. -/
theorem tokenizeRange_local (g : Grammar) (text : String) (s : Span)
    (hs : Text.OnBoundaries text.toList s) :
    (Scope.divide ⟨text.toList, s, g⟩).run = some (.ok (g.tokenizeRange text s)) ∧
    g.tokenizeRange text s =
      shiftAll s.start (g.tokenize (String.ofList (Text.slice text.toList s))) ∧
    (∀ n, Node.Occurs n (g.tokenizeRange text s) → n.isToken = true →
      ∃ h t p, Level text g s h t ∧ h.ClaimedBy text t n p) ∧
    ∀ h t n p, Level text g s h t → h.ClaimedBy text t n p →
      n.children = shiftAll n.span.start (p.nodesOf n.text) ∧
      ∀ text' g' s' h' t' n', Level text' g' s' h' t' → h'.ClaimedBy text' t' n' p →
        n'.text = n.text → ∃ nodes, n.children = shiftAll n.span.start nodes ∧
          n'.children = shiftAll n'.span.start nodes := by
  have hpart := hs.isPart
  refine ⟨?_, g.nodesAt_eq_shiftAll _ _, ?_, ?_⟩
  · rw [Scope.divide_eq hpart]
    rfl
  · intro n hn htoken
    exact Level.exists_of_occurs .top hpart hn htoken
  · intro h t n p _ hp
    refine ⟨hp.children_eq, ?_⟩
    intro text' g' s' h' t' n' _ hp' htext
    refine ⟨p.nodesOf n.text, hp.children_eq, ?_⟩
    rw [← htext]
    exact hp'.children_eq

namespace Blocks

/-- What stands between brackets: each `x`, and then, greedy, all of the rest from a
blank in front of an `x` on. -/
def inner : Grammar :=
  .mk "inner" [
    ⟨"x", [{ regex := .ofExpr "x" (.literal ['x']) }]⟩,
    ⟨"tail", [{
      regex := .ofExpr " x.*" (.cat (.literal [' ', 'x'])
        (.rep 0 none true (.set ⟨[(0, 9), (11, 1114111)]⟩)))
      greedy := true }]⟩]

/-- Texts between brackets, with their insides. -/
def grammar : Grammar :=
  .mk "blocks" [
    ⟨"block", [{
      regex := .ofExpr "\\[[^\\]]*\\]" (.cat (.literal ['['])
        (.cat (.rep 0 none true (.set ⟨[(0, 92), (94, 1114111)]⟩)) (.literal [']'])))
      inside := some inner }]⟩]

end Blocks

/-- A block behind a character of two bytes, with text behind it that its inside must not reach. -/
theorem tokenizeRange_blocks :
    Text.OnBoundaries "é [x x] x".toList ⟨3, 8⟩ ∧
    Blocks.grammar.tokenizeRange "é [x x] x" ⟨3, 8⟩ =
      shiftAll 3 (Blocks.grammar.tokenize "[x x]") := by
  have hs : Text.OnBoundaries "é [x x] x".toList ⟨3, 8⟩ :=
    ⟨by decide, by decide +kernel, by decide +kernel⟩
  have hslice : String.ofList (Text.slice "é [x x] x".toList ⟨3, 8⟩) = "[x x]" := by
    decide +kernel
  have h := (Blocks.grammar.tokenizeRange_local "é [x x] x" ⟨3, 8⟩ hs).2.1
  rw [hslice] at h
  exact ⟨hs, h⟩

example : Node.flatten (Blocks.grammar.nodesAt 3 ['[', 'x', ' ', 'x', ']']) =
    [⟨⟨3, 8⟩, "block", none, 0⟩, ⟨⟨4, 5⟩, "x", none, 1⟩, ⟨⟨5, 8⟩, "tail", none, 1⟩] := by
  decide +kernel

end Grammar

end Highlight
