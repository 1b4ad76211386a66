import Highlight.Proofs.Division.Runs
import Highlight.Proofs.Token.Completeness
import Highlight.Proofs.Token.Nodes

/-!
# Rules of lower priority

Rules without greedy patterns may stand behind any other rules: what they make of a text is what they
make of each run that the other rules leave untyped, at the span where it lies. The tokens of the other
rules stay as they are.
-/

namespace Highlight

open Piece (spell replaceRuns)

/-- The nodes that take the place of a node, if a grammar divides the untyped runs. -/
def Grammar.fill (g : Grammar) (text : String) : Node → List Node
  | .run span _ => g.tokenizeRange text span
  | .token kind altKind span str children => [.token kind altKind span str children]

/-- Dividing free runs is filling the nodes that stand for them. -/
theorem Piece.toNodes_replaceRuns (g : Grammar) {text : String} (ps : List Piece) :
    ∀ start stop, Text.IsPart text.toList ⟨start, stop⟩ (spell ps) →
      toNodes PatternWith.nodesInside start (replaceRuns g.divide ps) =
        (toNodes PatternWith.nodesInside start ps).flatMap (g.fill text) := by
  induction ps with
  | nil => exact fun _ _ _ => rfl
  | cons p ps ih =>
    intro start stop hpart
    rw [spell_cons, ← List.nil_append (p.text ++ spell ps), ← List.append_assoc] at hpart
    have hhead := hpart.middle
    rw [List.nil_append, ← List.append_nil (p.text ++ spell ps)] at hpart
    have htail := ih _ _ hpart.middle
    dsimp only at hhead htail
    rw [toNodes_cons, List.flatMap_cons, ← htail]
    cases p with
    | claimed c =>
      rw [replaceRuns_claimed, toNodes_cons]
      rfl
    | free t =>
      have hfill : g.fill text ((free t).toNode PatternWith.nodesInside start) =
          toNodes PatternWith.nodesInside start (g.divide t) := by
        rw [Text.byteLength_nil, Nat.add_zero, text_free] at hhead
        rw [toNode, Grammar.fill, Grammar.tokenizeRange_eq, hhead.slice_eq]
      rw [replaceRuns_free, toNodes_append, g.spell_divide, hfill]
      rfl

/-- What filling nodes leaves as it is stays there, in the same order. -/
theorem Node.filter_sublist_flatMap (g : Grammar) (text : String) (nodes : List Node) :
    (nodes.filter isToken).Sublist (nodes.flatMap (g.fill text)) := by
  induction nodes with
  | nil => exact .slnil
  | cons n nodes ih =>
    rw [List.flatMap_cons]
    cases n with
    | run span str => exact ih.trans (List.sublist_append_right _ _)
    | token kind altKind span str children => exact ih.cons_cons _

/-- Rules without greedy patterns behind other rules: each run that the other rules leave untyped is
divided, at its span, as these rules alone divide it, and all tokens of the other rules stay. -/
theorem Grammar.tokenize_append (name first' later' : String) (first later : List Rule)
    (hlater : ∀ rule ∈ later, ∀ p ∈ rule.patterns, p.greedy = false) (text : String) :
    (Grammar.mk name (first ++ later)).tokenize text =
      ((Grammar.mk first' first).tokenize text).flatMap ((Grammar.mk later' later).fill text) ∧
    (((Grammar.mk first' first).tokenize text).filter Node.isToken).Sublist
      ((Grammar.mk name (first ++ later)).tokenize text) := by
  have hpart : Text.IsPart text.toList ⟨0, Text.byteLength text.toList⟩
      (spell ((Grammar.mk first' first).divide text.toList)) := by
    rw [spell_divide]
    exact Text.isPart_all text.toList
  have hfill := Piece.toNodes_replaceRuns (Grammar.mk later' later) _ _ _ hpart
  have hwhole : (Grammar.mk name (first ++ later)).tokenize text =
      ((Grammar.mk first' first).tokenize text).flatMap ((Grammar.mk later' later).fill text) := by
    rw [tokenize, tokenize, nodesAt_eq, nodesAt_eq, divide_append name first' later' first later hlater]
    exact hfill
  refine ⟨hwhole, ?_⟩
  rw [hwhole]
  exact Node.filter_sublist_flatMap _ _ _

/-- Comments behind two greedy rules, one of which dissolves a token of the other. -/
theorem Grammar.tokenize_append_comment :
    (∀ rule ∈ [(⟨"comment", [Overrun.comment]⟩ : Rule)], ∀ p ∈ rule.patterns, p.greedy = false) ∧
    (Grammar.mk "all" ([⟨"quoted", [Overrun.quoted]⟩, ⟨"mark", [Overrun.mark]⟩] ++
        [⟨"comment", [Overrun.comment]⟩])).tokenize "z\"a\"b#c\"d#e" =
      ((Grammar.mk "greedy" [⟨"quoted", [Overrun.quoted]⟩, ⟨"mark", [Overrun.mark]⟩]).tokenize
        "z\"a\"b#c\"d#e").flatMap
        ((Grammar.mk "comments" [⟨"comment", [Overrun.comment]⟩]).fill "z\"a\"b#c\"d#e") := by
  have hlater : ∀ rule ∈ [(⟨"comment", [Overrun.comment]⟩ : Rule)], ∀ p ∈ rule.patterns,
      p.greedy = false := by
    simp [Overrun.comment]
  exact ⟨hlater, (tokenize_append _ _ _ _ _ hlater _).1⟩

end Highlight
