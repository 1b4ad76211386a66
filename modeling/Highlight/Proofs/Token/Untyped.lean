import Highlight.Proofs.Segments.Dissolve
import Highlight.Proofs.Token.Locality

/-!
# Untyped text comes in maximal runs

No two text segments are neighbours, at whatever call the division of a span has come to. So no two
untyped nodes are neighbours in the result, and none are inside a token of any depth, since the inside of
a token is the division of its span. An untyped node is then nothing but the gap between two tokens, and
the tokens alone determine the nodes.
-/

namespace Highlight

namespace Node

def runAt (text : String) (s : Span) : Node := .run s (String.ofList (Text.slice text.toList s))

/-- Of two neighbours one is a token, and the nodes are their tokens with the gaps filled that these leave
in the span. -/
structure Maximal (text : String) (s : Span) (ns : List Node) : Prop where
  apart : ns.IsChain fun a b => a.isToken = true ∨ b.isToken = true
  determined : ns = fillGaps span (runAt text) s.stop s.start (ns.filter isToken)

theorem Tiles.follow {text : List Char} {start stop : Nat} {ns : List Node}
    (h : Tiles text start stop ns) : Follow span stop start ns := by
  induction ns generalizing start with
  | nil => exact h
  | cons n ns ih =>
    obtain ⟨hstart, hlt, -, hrest⟩ := h
    exact ⟨hstart, hlt, ih hrest⟩

theorem Tiles.eq_runAt {text : String} {start stop : Nat} {ns : List Node}
    (h : Tiles text.toList start stop ns) {n : Node} (hn : n ∈ ns) (hrun : n.isToken = false) :
    n = runAt text n.span := by
  induction ns generalizing start with
  | nil => cases hn
  | cons m ns ih =>
    obtain ⟨-, -, hpart, hrest⟩ := h
    rcases List.mem_cons.mp hn with rfl | hn
    · cases n with
      | token => cases hrun
      | run s t =>
        have hslice := hpart.slice_eq
        rw [span, Node.text] at hslice
        rw [runAt, span, hslice, String.ofList_toList]
    · exact ih hrest hn

end Node

theorem Piece.apart_toNodes {inside : Pattern → Nat → List Char → List Node} {ps : List Piece}
    (start : Nat) (h : Parted ps) :
    (toNodes inside start ps).IsChain fun a b => a.isToken = true ∨ b.isToken = true := by
  induction ps generalizing start with
  | nil => exact .nil
  | cons p ps ih =>
    obtain ⟨hbegins, hparted⟩ := h
    have hrest := ih (start + Text.byteLength p.text) hparted
    rw [toNodes_cons]
    cases ps with
    | nil => exact .singleton _
    | cons q ps =>
      rw [toNodes_cons] at hrest ⊢
      refine .cons_cons ?_ hrest
      rw [isToken_toNode, isToken_toNode]
      cases hp : p.isFree with
      | false => exact .inl rfl
      | true =>
        have hnot := hbegins hp
        cases q with
        | free t => cases hnot
        | claimed c => exact .inr rfl

namespace Grammar

variable {g : Grammar} {text : String} {s : Span} {part : List Char}

theorem tiles_tokenizeRange (g : Grammar) (hpart : Text.IsPart text.toList s part) :
    Node.Tiles text.toList s.start s.stop (g.tokenizeRange text s) := by
  have hslice := hpart.slice_eq
  obtain ⟨front, back, htext, rfl⟩ := hpart
  have htiles := Piece.tiles_toNodes PatternWith.nodesInside front back (g.solid_divide part)
  rw [g.spell_divide, ← htext] at htiles
  rw [tokenizeRange_eq, hslice]
  exact htiles

theorem maximal_tokenizeRange (g : Grammar) (hpart : Text.IsPart text.toList s part) :
    Node.Maximal text s (g.tokenizeRange text s) := by
  have htiles := g.tiles_tokenizeRange hpart
  have hapart : (g.tokenizeRange text s).IsChain fun a b => a.isToken = true ∨ b.isToken = true := by
    rw [tokenizeRange_eq]
    exact Piece.apart_toNodes _ (g.parted_divide _)
  refine ⟨hapart, ?_⟩
  have hgaps : (g.tokenizeRange text s).IsChain
      fun a b => ¬ ((!a.isToken) = true ∧ (!b.isToken) = true) := by
    refine hapart.imp ?_
    rintro a b h ⟨ha, hb⟩
    rw [Bool.not_eq_true'] at ha hb
    rw [ha, hb] at h
    simp at h
  have hfill := eq_fillGaps htiles.follow
    (fun n hn hrun => htiles.eq_runAt hn (by rwa [Bool.not_eq_true'] at hrun)) hgaps
  simpa only [Bool.not_not] using hfill

/-- What stands inside a token is nothing, or the division of its span by some grammar. -/
theorem children_of_occurs {n : Node} (hpart : Text.IsPart text.toList s part)
    (hn : Node.Occurs n (g.tokenizeRange text s)) :
    n.children = [] ∨ ∃ inner, Text.IsPart text.toList n.span n.text.toList ∧
      n.children = tokenizeRange inner text n.span := by
  have hmem : ∀ (h : Grammar) (t : Span) (part : List Char), Text.IsPart text.toList t part →
      ∀ m ∈ h.tokenizeRange text t, m.children = [] ∨ ∃ inner,
        Text.IsPart text.toList m.span m.text.toList ∧ m.children = tokenizeRange inner text m.span := by
    intro h t part hpart m hm
    cases htoken : m.isToken with
    | false =>
      cases m with
      | run => exact .inl rfl
      | token => cases htoken
    | true =>
      obtain ⟨p, -, hspan, hchildren⟩ := exists_claimedBy hpart hm htoken
      rw [PatternWith.nodesOver] at hchildren
      cases hinside : p.inside with
      | none =>
        rw [hinside] at hchildren
        exact .inl hchildren
      | some inner =>
        rw [hinside] at hchildren
        exact .inr ⟨inner, hspan, hchildren⟩
  generalize hnodes : g.tokenizeRange text s = nodes at hn
  induction hn generalizing g s part with
  | here h =>
    rw [← hnodes] at h
    exact hmem g s part hpart _ h
  | @inside parent _ h hn ih =>
    rw [← hnodes] at h
    rcases hmem g s part hpart parent h with hnil | ⟨inner, hspan, hchildren⟩
    · rw [hnil] at hn
      exact absurd hn Node.not_occurs_nil
    · exact ih hspan hchildren.symm

/-- Untyped text comes in maximal runs: at every call that the division of a span comes to there is a token
between two text segments, and the last of these calls has the segments of the result. So one of two
neighbours in the result is a token, and the tokens alone determine the nodes; and the same holds inside
each token, at every depth. -/
theorem runs_maximal (g : Grammar) (text : String) (s : Span) (hs : Text.OnBoundaries text.toList s) :
    (∀ call, Scope.Reached ⟨text.toList, s, g⟩ call → Segment.Apart call.items) ∧
    (∃ items, Scope.Reached ⟨text.toList, s, g⟩ (.rules 0 none none g.rules.length [] items) ∧
      Scope.nodes text.toList items = pure (g.tokenizeRange text s)) ∧
    g.tokenize text = g.tokenizeRange text ⟨0, text.utf8ByteSize⟩ ∧
    Node.Maximal text s (g.tokenizeRange text s) ∧
    ∀ n, Node.Occurs n (g.tokenizeRange text s) → n.children ≠ [] →
      Node.Maximal text n.span n.children := by
  have hpart := hs.isPart
  refine ⟨?_, ?_, g.tokenize_eq_tokenizeRange text, g.maximal_tokenizeRange hpart, ?_⟩
  · intro call hcall
    obtain ⟨ps, hitems, -, -, hparted⟩ := Scope.reached_layOut hpart hcall
    rw [hitems]
    exact Segment.apart_layOut _ hparted
  · have hrules : g.rules = g.rules.reverse.reverse ++ [] := by
      rw [List.reverse_reverse, List.append_nil]
    have hlast := Scope.reached_rules ⟨text.toList, s, g⟩ hpart hrules
    rw [List.length_reverse] at hlast
    refine ⟨_, hlast, ?_⟩
    rw [tokenizeRange]
    exact Scope.nodes_divide hpart
  · intro n hn hne
    rcases children_of_occurs hpart hn with hnil | ⟨inner, hspan, hchildren⟩
    · exact absurd hnil hne
    · rw [hchildren]
      exact inner.maximal_tokenizeRange hspan

/-- A block with untyped text on both sides. -/
theorem runs_maximal_blocks : Text.OnBoundaries "é [x x] x".toList ⟨2, 10⟩ ∧
    Node.Maximal "é [x x] x" ⟨2, 10⟩ (Blocks.grammar.tokenizeRange "é [x x] x" ⟨2, 10⟩) := by
  have hs : Text.OnBoundaries "é [x x] x".toList ⟨2, 10⟩ :=
    ⟨by decide, by decide +kernel, by decide +kernel⟩
  obtain ⟨-, -, -, hmaximal, -⟩ := Blocks.grammar.runs_maximal "é [x x] x" ⟨2, 10⟩ hs
  exact ⟨hs, hmaximal⟩

end Grammar

end Highlight
