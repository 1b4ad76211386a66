import Highlight.Proofs.Division.Matched
import Highlight.Proofs.Grammar.Offsets
import Highlight.Proofs.Segments.Landing
import Highlight.Proofs.Token.Locality

/-!
# No token without a match

A token is there because a pattern of the grammar has found it: in a part of the span that the grammar
divides, searched on its own, or, if the pattern is greedy, in the whole span from some place on. What
stands inside it is what the pattern's own grammar makes of it, and there the same holds.
-/

namespace Highlight

open Text (slice byteLength)

/-- The match is one that the pattern finds in the span. -/
inductive PatternWith.Returns (p : Pattern) (text : String) (s : Span) (m : Match) : Prop where
  | alone {run : Span} (hrun : Text.OnBoundaries text.toList run) (hstart : s.start ≤ run.start)
      (hstop : run.stop ≤ s.stop) (h : p.findIn? text run = some m) : Returns p text s m
  | ahead {place : Nat} (hgreedy : p.greedy = true)
      (h : (p.tryMatch? (String.ofList (slice text.toList s)) place).map (·.shift s.start) = some m) :
      Returns p text s m

/-- The token has the names that a rule of the grammar gives and stands where a pattern of that rule
finds it in the span. Inside it are the nodes that the pattern's own grammar makes of its span, and each
token among these is justified in turn; there are none if the pattern names no grammar. -/
inductive Justified (text : String) : Grammar → Span → Node → Prop where
  | token {g : Grammar} {s : Span} {rule : Rule} {p : Pattern} {m : Match} {children : List Node}
      (hrule : rule ∈ g.rules) (hp : p ∈ rule.patterns) (hmatch : p.Returns text s m)
      (hplain : p.inside = none → children = [])
      (hnested : ∀ inner, p.inside = some inner →
        children = inner.tokenizeRange text m.token ∧ children ≠ [])
      (hinside : ∀ inner, p.inside = some inner → ∀ n ∈ children, n.isToken = true →
        Justified text inner m.token n) :
      Justified text g s (.token rule.name p.altKind m.token
        (String.ofList (slice text.toList m.token)) children)

variable {text : String} {s : Span} {part : List Char} {p : Pattern}

/-- The token of a hit in a part of a text, by bytes. -/
theorem Match.token_ofHit_shift {x token y : List Char} {hit : Hit} (offset : Nat)
    (htoken : hit.token = ⟨x.length, x.length + token.length⟩) (hne : token ≠ []) :
    ((Match.ofHit (x ++ token ++ y) hit).shift offset).token =
      ⟨offset + byteLength x, offset + byteLength x + byteLength token⟩ := by
  have hlength : hit.token.length = token.length := by
    rw [htoken, Span.length, Nat.add_sub_cancel_left]
  have hspan := Text.byteSpan_middle (b := y) (congrArg Span.start htoken) hlength hne
  rw [Match.shift, Match.ofHit]
  dsimp only
  rw [hspan, Span.shift, Nat.add_comm offset, Nat.add_right_comm]

/-- A token that is found among the characters of a span is found by bytes. -/
theorem Matched.exists_returns {front token : List Char} (hpart : Text.IsPart text.toList s part)
    (h : Matched part p front token) (hne : token ≠ []) :
    ∃ m, p.Returns text s m ∧ m.token = ⟨s.start + byteLength front,
      s.start + byteLength front + byteLength token⟩ := by
  cases h with
  | @alone lead x _ y back hit htext hs htoken =>
    rw [htext] at hpart
    have hrun := hpart.middle
    have hfind := p.findIn?_part hrun
    rw [hs, Option.map_some] at hfind
    have hstop := congrArg Span.stop hpart.eq_mk
    simp only [Text.byteLength_append] at hstop
    refine ⟨_, .alone hrun.onBoundaries (Nat.le_add_right _ _) ?_ hfind, ?_⟩
    · simp only [Text.byteLength_append]
      omega
    · rw [Match.token_ofHit_shift _ htoken hne]
      simp only [Text.byteLength_append, Nat.add_assoc]
  | @ahead lead x _ back hit hgreedy htext hs htoken =>
    have htry := p.tryMatch?_append lead (x ++ token ++ back)
    rw [hs, Option.map_some, ← htext, ← hpart.slice_eq] at htry
    refine ⟨_, .ahead hgreedy (by rw [htry, Option.map_some, Match.shift_shift]), ?_⟩
    rw [Match.token_ofHit_shift _ htoken hne, Text.byteLength_append, Nat.add_comm (byteLength lead),
      Nat.add_assoc s.start]

namespace Grammar

/-- A text that is not empty has nodes. -/
theorem tokenizeRange_ne_nil (g : Grammar) (hpart : Text.IsPart text.toList s part)
    (hne : part ≠ []) : g.tokenizeRange text s ≠ [] := by
  intro hnil
  have hpieces := congrArg List.length hnil
  rw [tokenizeRange_eq, Piece.length_toNodes, hpart.slice_eq] at hpieces
  have hspell := g.spell_divide part
  rw [List.length_eq_zero_iff.mp hpieces] at hspell
  exact hne hspell.symm

/-- A token has the names of a rule, stands where a pattern of the rule returns a match, and has
inside what the pattern calls for. -/
theorem exists_returned {g : Grammar} {n : Node} (hpart : Text.IsPart text.toList s part)
    (hn : n ∈ g.tokenizeRange text s) (htoken : n.isToken = true) :
    ∃ rule ∈ g.rules, ∃ p ∈ rule.patterns, ∃ m token, p.Returns text s m ∧ token ≠ [] ∧
      Text.IsPart text.toList m.token token ∧
      n = .token rule.name p.altKind m.token (String.ofList (slice text.toList m.token))
        (p.nodesOver text m.token) := by
  obtain ⟨p, ⟨i, c, hi, hc, rfl⟩, -, hchildren⟩ := exists_claimedBy hpart hn htoken
  rw [tokenizeRange_eq] at hi
  obtain ⟨a, q, b, hps, rfl, rfl⟩ := Piece.exists_of_toNodes hi
  rw [hps, List.getElem?_append_right (Nat.le_refl _), Nat.sub_self] at hc
  cases hc
  rw [hpart.slice_eq] at hps
  have hmem : Piece.claimed c ∈ g.divide part := by
    rw [hps]
    exact List.mem_append_right a (List.mem_cons_self ..)
  have hne : c.text ≠ [] := g.solid_divide part _ hmem
  obtain ⟨rule, hrule, hkind, hp⟩ := g.from_divide part c hmem
  have hmatched := g.matched_divide part
  rw [hps] at hmatched
  obtain ⟨m, hreturns, hm⟩ := hmatched.at.exists_returns hpart hne
  rw [List.nil_append] at hm
  have hspan := isPart_piece hpart hps
  rw [Piece.text_claimed, ← hm] at hspan
  refine ⟨rule, hrule, c.pattern, hp, m, c.text, hreturns, hne, hspan, ?_⟩
  rw [Piece.span_toNode, Piece.text_claimed, ← hm] at hchildren
  rw [hspan.slice_eq, hm, ← hkind, ← hm, ← hchildren, hm]
  rfl

theorem justified_of_mem {g : Grammar} {n : Node} (hpart : Text.IsPart text.toList s part)
    (hn : n ∈ g.tokenizeRange text s) (htoken : n.isToken = true) : Justified text g s n := by
  induction hnesting : g.nesting using Nat.strongRecOn generalizing g s part n with
  | _ nesting ih =>
    obtain ⟨rule, hrule, p, hp, m, token, hreturns, hne, hspan, rfl⟩ :=
      exists_returned hpart hn htoken
    refine .token hrule hp hreturns ?_ ?_ ?_
    · intro hnone
      rw [PatternWith.nodesOver, hnone]
    · intro inner hinner
      rw [PatternWith.nodesOver, hinner]
      exact ⟨rfl, inner.tokenizeRange_ne_nil hspan hne⟩
    · intro inner hinner n hn htoken
      rw [PatternWith.nodesOver, hinner] at hn
      have hlt := nesting_inside hrule hp hinner
      exact ih inner.nesting (hnesting ▸ hlt) hspan hn htoken rfl

/-- Each token of a divided text, with all tokens inside it, is there because a pattern has found
it. -/
theorem justified_of_mem_tokenize (g : Grammar) (text : String) (n : Node) (hn : n ∈ g.tokenize text)
    (htoken : n.isToken = true) : Justified text g ⟨0, text.utf8ByteSize⟩ n := by
  have hpart := Text.isPart_all text.toList
  rw [Text.byteLength_toList] at hpart
  rw [tokenize_eq_tokenizeRange] at hn
  exact justified_of_mem hpart hn htoken

/-- A block with tokens inside, one of them greedy. -/
theorem justified_blocks : ∃ n, n ∈ Blocks.grammar.tokenize "[x x]" ∧ n.isToken = true ∧
    n.children.any Node.isToken = true ∧
    Justified "[x x]" Blocks.grammar ⟨0, "[x x]".utf8ByteSize⟩ n := by
  have hany : (Blocks.grammar.tokenize "[x x]").any
      (fun n => n.isToken && n.children.any Node.isToken) = true := by decide +kernel
  obtain ⟨n, hn, htoken⟩ := List.any_eq_true.mp hany
  rw [Bool.and_eq_true] at htoken
  exact ⟨n, hn, htoken.1, htoken.2,
    Blocks.grammar.justified_of_mem_tokenize "[x x]" n hn htoken.1⟩

end Grammar

end Highlight
