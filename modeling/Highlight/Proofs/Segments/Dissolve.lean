import Highlight.Proofs.Segments.Calls
import Highlight.Proofs.Text.Gaps
import Highlight.Proofs.Token.Completeness

/-!
# A commit dissolves exactly what it overlaps

When a claim is committed, the tokens that its token overlaps are gone, and all others are there as they
were, in their order, with the new token between them. The text runs need no separate account: they are
the gaps that the tokens leave in the range. The proof cuts the pieces where the claim does. What it
passes over and what it leaves behind lies apart from its token, and each token in between begins within
the claimed text, since tokens are only absorbed while that text is not covered.
-/

namespace Highlight

open Piece (spell Parted Solid)
open Segment Checked

/-- No position lies in both spans. -/
def Span.disjoint (s t : Span) : Bool := s.stop ≤ t.start || t.stop ≤ s.start

namespace Segment

def tokens (items : List Segment) : List Segment := items.filter fun s => !s.isText

/-- Between two text runs there is a token. -/
def Apart (items : List Segment) : Prop :=
  items.IsChain fun a b => ¬ (a.isText = true ∧ b.isText = true)

theorem mem_layOut {start : Nat} {ps : List Piece} {s : Segment} (h : s ∈ layOut start ps) :
    ∃ a q b, ps = a ++ q :: b ∧ s = ofPiece (start + Text.byteLength (spell a)) q := by
  induction ps generalizing start with
  | nil => cases h
  | cons p ps ih =>
    rw [layOut_cons] at h
    rcases List.mem_cons.mp h with rfl | h
    · exact ⟨[], p, ps, rfl, rfl⟩
    · obtain ⟨a, q, b, rfl, rfl⟩ := ih h
      refine ⟨p :: a, q, b, rfl, ?_⟩
      rw [Piece.spell_cons, Text.byteLength_append, Nat.add_assoc]

theorem apart_layOut {ps : List Piece} (start : Nat) (h : Parted ps) : Apart (layOut start ps) := by
  induction ps generalizing start with
  | nil => exact .nil
  | cons p ps ih =>
    obtain ⟨hbegins, hparted⟩ := h
    have hrest := ih (start + Text.byteLength p.text) hparted
    cases ps with
    | nil => exact .singleton _
    | cons q ps =>
      refine .cons_cons ?_ hrest
      rw [isText_ofPiece, isText_ofPiece]
      rintro ⟨hp, hq⟩
      have hnot := hbegins hp
      cases q with
      | free t => cases hnot
      | claimed c => cases hq

theorem follow_layOut {ps : List Piece} (start : Nat) (h : Solid ps) :
    Follow span (start + Text.byteLength (spell ps)) start (layOut start ps) := by
  induction ps generalizing start with
  | nil => exact (Nat.add_zero start).symm
  | cons p ps ih =>
    obtain ⟨hp, hps⟩ := Piece.solid_cons.mp h
    have hpos := Text.byteLength_pos hp
    have hrest := ih (start + Text.byteLength p.text) hps
    rw [Piece.spell_cons, Text.byteLength_append, ← Nat.add_assoc, layOut_cons]
    refine ⟨?_, ?_, ?_⟩
    · rw [span_ofPiece]
    · rw [span_ofPiece]
      exact Nat.lt_add_of_pos_right hpos
    · rw [span_ofPiece]
      exact hrest

/-- Segments without two text runs side by side are their tokens with the gaps filled. -/
theorem layOut_eq_fillGaps {ps : List Piece} (start : Nat) (hsolid : Solid ps) (hparted : Parted ps) :
    layOut start ps = fillGaps span text (start + Text.byteLength (spell ps)) start
      (tokens (layOut start ps)) := by
  refine eq_fillGaps (follow_layOut start hsolid) ?_ (apart_layOut start hparted)
  intro s _ hs
  cases s with
  | text span => rfl
  | token node greedy => cases hs

theorem tokens_append (a b : List Segment) : tokens (a ++ b) = tokens a ++ tokens b :=
  List.filter_append ..

theorem tokens_layOut_append (start : Nat) (a b : List Piece) :
    tokens (layOut start (a ++ b)) =
      tokens (layOut start a) ++ tokens (layOut (start + Text.byteLength (spell a)) b) := by
  rw [layOut_append, tokens_append]

theorem tokens_layOut_free (start : Nat) (t : List Char) (ps : List Piece) :
    tokens (layOut start (.free t :: ps)) = tokens (layOut (start + Text.byteLength t) ps) := rfl

theorem tokens_layOut_ofFree (start : Nat) (t : List Char) :
    tokens (layOut start (Piece.ofFree t)) = [] := by
  rw [Piece.ofFree]
  split <;> rfl

/-- Free text in front of pieces has no tokens, whether it is joined to them or not. -/
theorem tokens_layOut_joinFree (start : Nat) (t : List Char) (ps : List Piece) :
    tokens (layOut start (Piece.joinFree t ps)) =
      tokens (layOut (start + Text.byteLength t) ps) := by
  by_cases ht : t = []
  · rw [ht, Piece.joinFree_empty, Text.byteLength_nil, Nat.add_zero]
  · cases ps with
    | nil =>
      rw [Piece.joinFree_nil ht]
      rfl
    | cons q ps =>
      cases q with
      | free u =>
        rw [Piece.joinFree_free ht, tokens_layOut_free, tokens_layOut_free, Text.byteLength_append,
          Nat.add_assoc]
      | claimed c =>
        rw [Piece.joinFree_claimed ht]
        rfl

/-- The tokens of pieces lie where the pieces lie. -/
theorem span_of_mem_tokens {start : Nat} {ps : List Piece} {s : Segment}
    (h : s ∈ tokens (layOut start ps)) :
    ∃ a d b, ps = a ++ .claimed d :: b ∧
      s.span = ⟨start + Text.byteLength (spell a),
        start + Text.byteLength (spell a) + Text.byteLength d.text⟩ := by
  obtain ⟨hmem, htoken⟩ := List.mem_filter.mp h
  obtain ⟨a, q, b, rfl, rfl⟩ := mem_layOut hmem
  cases q with
  | free t => cases htoken
  | claimed d => exact ⟨a, d, b, rfl, span_ofPiece _ _⟩

/-- The segments `items'` are what becomes of `items` when the token `new` dissolves what it overlaps. -/
structure Dissolved (range : Span) (items : List Segment) (new : Segment) (items' : List Segment) :
    Prop where
  /-- The tokens that lie apart from the new one are there as they were, and in their order. -/
  kept : ∃ lead rear, (tokens items).filter (fun t => t.span.disjoint new.span) = lead ++ rear ∧
    tokens items' = lead ++ new :: rear
  gone : ∀ t ∈ tokens items, t.span.disjoint new.span = false → t ∉ items'
  /-- All the rest of the range is the gaps between these tokens. -/
  gaps : items' = fillGaps span text range.stop range.start (tokens items')

theorem bounds_of_mem_tokens {start : Nat} {ps : List Piece} {s : Segment}
    (h : s ∈ tokens (layOut start ps)) :
    start ≤ s.span.start ∧ s.span.stop ≤ start + Text.byteLength (spell ps) := by
  obtain ⟨a, d, b, rfl, hspan⟩ := span_of_mem_tokens h
  rw [hspan, Piece.spell_append, Piece.spell_cons, Piece.text_claimed, Text.byteLength_append,
    Text.byteLength_append]
  dsimp only
  omega

/-- A token that a claim covers begins within the claimed text. -/
theorem overlaps_of_covers {base : Nat} {c : Claim} {free : List Char} {region : List Piece}
    {s : Segment} (hc : c.Covers free region)
    (htouches : ∀ a d b, region = a ++ .claimed d :: b →
      free.length + (spell a).length < c.before.length + c.token.length)
    (h : s ∈ tokens (layOut (base + Text.byteLength free) region)) :
    base + Text.byteLength c.before < s.span.start ∧
      s.span.start < base + Text.byteLength c.before + Text.byteLength c.token ∧
      s.span.start ≤ s.span.stop := by
  obtain ⟨a, d, b, rfl, hspan⟩ := span_of_mem_tokens h
  have hspell := hc.spell
  have hlt := htouches a d b rfl
  have hbefore : Text.byteLength c.before < Text.byteLength free := by
    have hcut : c.before ++ (c.token ++ c.after) = free ++ spell (a ++ .claimed d :: b) := by
      rw [hspell, List.append_assoc]
    exact (Text.byteLength_lt_iff hcut).mpr hc.begins
  have htoken : Text.byteLength (free ++ spell a) < Text.byteLength (c.before ++ c.token) := by
    have hcut : free ++ spell a ++ spell (.claimed d :: b) = c.before ++ c.token ++ c.after := by
      rw [← hspell, Piece.spell_append, List.append_assoc]
    refine (Text.byteLength_lt_iff hcut).mpr ?_
    rw [List.length_append, List.length_append]
    exact hlt
  rw [Text.byteLength_append, Text.byteLength_append] at htoken
  rw [hspan]
  dsimp only
  omega

/-- The tokens of some segments, cut where the token `new` cuts them: those in front of it, those that it
overlaps, which begin within it, and those behind it. -/
structure Cut (items : List Segment) (new : Segment) (lead lost rear : List Segment) : Prop where
  tokens_eq : tokens items = lead ++ (lost ++ rear)
  nonempty : new.span.start < new.span.stop
  front : ∀ t ∈ lead, t.span.stop ≤ new.span.start
  within : ∀ t ∈ lost, new.span.start < t.span.start ∧ t.span.start < new.span.stop ∧
    t.span.start ≤ t.span.stop
  behind : ∀ t ∈ rear, new.span.stop ≤ t.span.start

namespace Cut

variable {items items' lead lost rear : List Segment} {new t : Segment}

theorem disjoint (h : Cut items new lead lost rear) (ht : t ∈ lead ∨ t ∈ rear) :
    t.span.disjoint new.span = true := by
  rw [Span.disjoint, Bool.or_eq_true, decide_eq_true_eq, decide_eq_true_eq]
  rcases ht with ht | ht
  · exact .inl (h.front t ht)
  · exact .inr (h.behind t ht)

theorem overlaps (h : Cut items new lead lost rear) (ht : t ∈ lost) :
    t.span.disjoint new.span = false := by
  have hwithin := h.within t ht
  rw [Span.disjoint, Bool.or_eq_false_iff, decide_eq_false_iff_not, decide_eq_false_iff_not]
  omega

theorem filter_eq (h : Cut items new lead lost rear) :
    (tokens items).filter (fun t => t.span.disjoint new.span) = lead ++ rear := by
  have hlost : lost.filter (fun t => t.span.disjoint new.span) = [] := by
    rw [List.filter_eq_nil_iff]
    intro t ht
    rw [h.overlaps ht]
    exact Bool.false_ne_true
  rw [h.tokens_eq, List.filter_append, List.filter_append, hlost, List.nil_append,
    List.filter_eq_self.mpr fun t ht => h.disjoint (.inl ht),
    List.filter_eq_self.mpr fun t ht => h.disjoint (.inr ht)]

/-- Some token is overlapped exactly if some token begins within the new one. -/
theorem exists_overlap_iff (h : Cut items new lead lost rear) :
    (∃ t ∈ tokens items, t.span.disjoint new.span = false) ↔ lost ≠ [] := by
  constructor
  · rintro ⟨t, ht, hoverlap⟩ rfl
    rw [h.tokens_eq, List.nil_append] at ht
    rw [h.disjoint (List.mem_append.mp ht)] at hoverlap
    cases hoverlap
  · intro hne
    obtain ⟨t, ht⟩ := List.exists_mem_of_ne_nil lost hne
    refine ⟨t, ?_, h.overlaps ht⟩
    rw [h.tokens_eq]
    exact List.mem_append_right _ (List.mem_append_left _ ht)

/-- No token of the segments is the new one: none of them begins where it does. -/
theorem new_not_mem (h : Cut items new lead lost rear) : new ∉ tokens items := by
  intro hmem
  have hne := h.nonempty
  rw [h.tokens_eq, List.mem_append, List.mem_append] at hmem
  rcases hmem with hmem | hmem | hmem
  · have := h.front new hmem
    omega
  · have := h.within new hmem
    omega
  · have := h.behind new hmem
    omega

/-- Segments whose tokens are those in front of `new`, `new`, and those behind it. -/
theorem dissolved {range : Span} (h : Cut items new lead lost rear)
    (htokens : tokens items' = lead ++ new :: rear)
    (hgaps : items' = fillGaps span text range.stop range.start (tokens items')) :
    Dissolved range items new items' := by
  refine ⟨⟨lead, rear, h.filter_eq, htokens⟩, ?_, hgaps⟩
  intro t ht hoverlap hmem
  have htoken : t ∈ lead ++ new :: rear := by
    rw [← htokens]
    exact List.mem_filter.mpr ⟨hmem, (List.mem_filter.mp ht).2⟩
  rw [List.mem_append, List.mem_cons] at htoken
  rcases htoken with htoken | rfl | htoken
  · rw [h.disjoint (.inl htoken)] at hoverlap
    cases hoverlap
  · exact h.new_not_mem ht
  · rw [h.disjoint (.inr htoken)] at hoverlap
    cases hoverlap

end Cut

section Claim

variable {ps region : List Piece} {free : List Char} {c : Claim} (front : List Piece) (kind : String)
  (p : Pattern)

/-- The token of a claim cuts the tokens where the claim cuts the pieces: its region is what it covers. -/
theorem cut_claim (start : Nat) (hps : ps = c.passed ++ .free free :: region ++ c.rest)
    (hc : c.Covers free region)
    (htouches : ∀ a d b, region = a ++ .claimed d :: b →
      free.length + (spell a).length < c.before.length + c.token.length) :
    ∃ lead lost rear,
      Cut (layOut start (front ++ ps))
        (ofPiece (start + Text.byteLength (spell (front ++ c.lead))) (.claimed ⟨kind, p, c.token⟩))
        lead lost rear ∧
      tokens (layOut start (front ++ c.lead ++ .claimed ⟨kind, p, c.token⟩ :: c.ahead)) =
        lead ++ ofPiece (start + Text.byteLength (spell (front ++ c.lead)))
          (.claimed ⟨kind, p, c.token⟩) :: rear ∧
      lost = tokens (layOut
        (start + Text.byteLength (spell (front ++ c.passed)) + Text.byteLength free) region) := by
  obtain ⟨base, hbase⟩ : ∃ base, base = start + Text.byteLength (spell (front ++ c.passed)) := ⟨_, rfl⟩
  have hcovered := congrArg Text.byteLength hc.spell
  simp only [Text.byteLength_append] at hcovered
  have hbehind : base + Text.byteLength c.before + Text.byteLength c.token + Text.byteLength c.after =
      base + Text.byteLength free + Text.byteLength (spell region) := by omega
  have hnew : start + Text.byteLength (spell (front ++ c.lead)) = base + Text.byteLength c.before := by
    rw [hbase]
    simp only [Piece.spell_append, Claim.spell_lead, Text.byteLength_append, Nat.add_assoc]
  rw [hnew, ← hbase]
  refine ⟨tokens (layOut start (front ++ c.passed)), _,
    tokens (layOut (base + Text.byteLength free + Text.byteLength (spell region)) c.rest),
    ⟨?_, ?_, ?_, ?_, ?_⟩, ?_, rfl⟩
  · have hcut : front ++ ps = (front ++ c.passed) ++ (.free free :: (region ++ c.rest)) := by
      rw [hps]
      simp only [List.append_assoc, List.cons_append]
    rw [hcut, tokens_layOut_append _ (front ++ c.passed), tokens_layOut_free, tokens_layOut_append _ region,
      ← hbase]
  · rw [span_ofPiece]
    exact Nat.lt_add_of_pos_right (Text.byteLength_pos hc.token_ne)
  · intro t ht
    have hle := (bounds_of_mem_tokens ht).2
    rw [span_ofPiece]
    dsimp only
    omega
  · intro t ht
    rw [span_ofPiece]
    exact overlaps_of_covers hc htouches ht
  · intro t ht
    have hle := (bounds_of_mem_tokens ht).1
    rw [span_ofPiece]
    dsimp only [Piece.text_claimed]
    omega
  · have hcut : front ++ c.lead = (front ++ c.passed) ++ Piece.ofFree c.before := by
      rw [Claim.lead, List.append_assoc]
    have hahead := tokens_layOut_joinFree
      (base + Text.byteLength c.before + Text.byteLength c.token) c.after c.rest
    rw [hbehind] at hahead
    rw [tokens_layOut_append, hnew, hcut, tokens_layOut_append _ (front ++ c.passed), tokens_layOut_ofFree,
      List.append_nil, ← hahead]
    rfl

/-- The token of a claim dissolves what it overlaps. -/
theorem dissolved_claim (start : Nat) (hps : ps = c.passed ++ .free free :: region ++ c.rest)
    (hc : c.Covers free region)
    (htouches : ∀ a d b, region = a ++ .claimed d :: b →
      free.length + (spell a).length < c.before.length + c.token.length)
    (hsolid : Solid (front ++ ps)) (hparted : Parted (front ++ ps)) :
    Dissolved ⟨start, start + Text.byteLength (spell (front ++ ps))⟩ (layOut start (front ++ ps))
      (ofPiece (start + Text.byteLength (spell (front ++ c.lead))) (.claimed ⟨kind, p, c.token⟩))
      (layOut start (front ++ c.lead ++ .claimed ⟨kind, p, c.token⟩ :: c.ahead)) := by
  obtain ⟨lead, lost, rear, hcut, htokens, -⟩ := cut_claim front kind p start hps hc htouches
  have hspell : spell (front ++ ps) =
      spell (front ++ c.lead ++ .claimed ⟨kind, p, c.token⟩ :: c.ahead) := by
    rw [Piece.spell_append, hc.spell_eq hps]
    simp
  refine hcut.dissolved htokens ?_
  rw [hspell]
  exact layOut_eq_fillGaps start (hc.solid hps hsolid) (Claim.parted hparted hps _)

/-- What a claim covers besides its free run begins with a token. -/
theorem exists_overlap_claim (start : Nat) (hps : ps = c.passed ++ .free free :: region ++ c.rest)
    (hc : c.Covers free region)
    (htouches : ∀ a d b, region = a ++ .claimed d :: b →
      free.length + (spell a).length < c.before.length + c.token.length)
    (hparted : Parted (front ++ ps)) :
    (∃ t ∈ tokens (layOut start (front ++ ps)), t.span.disjoint
      (ofPiece (start + Text.byteLength (spell (front ++ c.lead)))
        (.claimed ⟨kind, p, c.token⟩)).span = false) ↔ region ≠ [] := by
  obtain ⟨lead, lost, rear, hcut, -, hlost⟩ := cut_claim front kind p start hps hc htouches
  rw [hcut.exists_overlap_iff, hlost]
  cases region with
  | nil => exact ⟨fun h => absurd rfl h, fun h => absurd rfl h⟩
  | cons q region =>
    cases q with
    | claimed d => exact ⟨fun _ => List.cons_ne_nil _ _, fun _ => List.cons_ne_nil _ _⟩
    | free u =>
      -- a free run would have a free run in front of it
      rw [hps, List.append_assoc, List.cons_append] at hparted
      exact absurd hparted.of_append.of_append.1 (by simp [Piece.isFree, Piece.beginsFree])

end Claim

end Segment

namespace Grammar

/-- Whatever call the division of a span has come to, when a pattern's claim is committed there, the
commit succeeds, and the new token stands at the claimed span: it dissolves exactly the tokens that it
overlaps. There are such tokens exactly if the claim takes more than one segment. -/
theorem commit_dissolves (g : Grammar) (text : String) (s : Span)
    (hs : Text.OnBoundaries text.toList s) {index i : Nat} {rule : Rule} {p : Pattern}
    {limit : Option Nat} {items : List Segment} {claim : SegmentClaim}
    (hcall : Scope.Reached ⟨text.toList, s, g⟩ (.pattern index rule p limit i items))
    (hclaims : Scope.Claims ⟨text.toList, s, g⟩ p limit i items claim) :
    ∃ k node items',
      Scope.makeToken ⟨text.toList, s, g⟩ rule p claim.matched.token = pure node ∧
      Scope.commit ⟨text.toList, s, g⟩ items rule p claim = pure (k, items') ∧
      node.span = claim.matched.token ∧ segment items' k = pure (.token node p.greedy) ∧
      Dissolved s items (.token node p.greedy) items' ∧ 0 < claim.count ∧
      (1 < claim.count ↔ ∃ t ∈ tokens items, t.span.disjoint claim.matched.token = false) := by
  have hpart := hs.isPart
  cases Scope.reached_good hpart hcall with
  | pattern hindex hrules hp hplaced =>
    obtain ⟨front, t, rest, fuel, limit, c, free, region, rfl, hstands, hparted, htarget, hps, hc, hd⟩ :=
      hplaced.claims hclaims
    obtain ⟨hmake, hcommit⟩ := hstands.commit_claim (Scope.makes _ rule p) hps hc hd
    have htouches : ∀ a d b, region = a ++ .claimed d :: b →
        free.length + (spell a).length < c.before.length + c.token.length :=
      fun a d b hregion => Target.ofRun_claim_touches htarget hps hregion
    -- the new token, as the segment of its piece
    have hnew : ofPiece (s.start + Text.byteLength (spell (front ++ c.lead)))
        (.claimed ⟨rule.name, p, c.token⟩) = .token (.token rule.name p.altKind claim.matched.token
          (String.ofList c.token) (p.nodesInside claim.matched.token.start c.token)) p.greedy := by
      rw [hd.token]
      rfl
    have hrange : s = ⟨s.start, s.start + Text.byteLength (spell (front ++ .free t :: rest))⟩ :=
      hstands.part.eq_mk
    refine ⟨_, _, _, hmake, hcommit, rfl, ?_, ?_, ?_, ?_⟩
    · rw [← hnew, ← List.length_append]
      exact segment_layOut s.start (front ++ c.lead) _ c.ahead
    · have hdissolved := dissolved_claim front rule.name p s.start hps hc htouches hstands.solid
        hparted
      rwa [hnew, ← hrange] at hdissolved
    · rw [hd.count_eq hps]
      exact Nat.succ_pos _
    · have hoverlap := exists_overlap_claim front rule.name p s.start hps hc htouches hparted
      rw [hnew] at hoverlap
      rw [hd.count_eq hps, Nat.lt_add_left_iff_pos, List.length_pos_iff]
      exact hoverlap.symm

/-- The mark in `z"a"b` takes the free run in front of a quoted text together with that text, which is
dissolved. -/
theorem commit_dissolves_mark : ∃ items claim,
    Scope.Reached ⟨"z\"a\"b".toList, ⟨0, 5⟩, Overrun.grammar⟩
      (.pattern 2 ⟨"mark", [Overrun.mark]⟩ Overrun.mark none 0 items) ∧
    Scope.Claims ⟨"z\"a\"b".toList, ⟨0, 5⟩, Overrun.grammar⟩ Overrun.mark none 0 items claim ∧
    1 < claim.count ∧ ∃ t ∈ tokens items, t.span.disjoint claim.matched.token = false := by
  have hs : Text.OnBoundaries "z\"a\"b".toList ⟨0, 5⟩ := ⟨by decide, by decide +kernel, by decide +kernel⟩
  obtain ⟨rest, hrest⟩ : ∃ rest : List Piece,
      rest = [.claimed ⟨"quoted", Overrun.quoted, ['"', 'a', '"']⟩, .free ['b']] := ⟨_, rfl⟩
  obtain ⟨c, htarget, hpassed, hbehind⟩ : ∃ c, Target.ofRun Overrun.mark none ['z'] rest = .claim c ∧
      c.passed.length = 0 ∧ c.rest.length = 1 := by
    rw [hrest]
    exact ⟨_, rfl, rfl, rfl⟩
  have hrules : Overrun.grammar.rules =
      [⟨"comment", [Overrun.comment]⟩, ⟨"quoted", [Overrun.quoted]⟩].reverse ++
        ⟨"mark", [Overrun.mark]⟩ :: [] := rfl
  have hpatterns : (⟨"mark", [Overrun.mark]⟩ : Rule).patterns = [] ++ Overrun.mark :: [] := rfl
  obtain ⟨items, claim, hcall, hclaims, -, hd⟩ :=
    Scope.exists_claims_turn ⟨"z\"a\"b".toList, ⟨0, 5⟩, Overrun.grammar⟩ (Text.isPart_all _) hrules
      hpatterns (by rw [hrest]; cbv) htarget
  have hcount : 1 < claim.count := by
    have hsum := hd.count
    rw [hd.first, hpassed, hbehind, hrest] at hsum
    simp only [List.length_cons, List.length_nil] at hsum
    omega
  obtain ⟨k, node, items', -, -, -, -, -, -, hmany⟩ :=
    Overrun.grammar.commit_dissolves "z\"a\"b" ⟨0, 5⟩ hs hcall hclaims
  exact ⟨items, claim, hcall, hclaims, hcount, hmany.mp hcount⟩

end Grammar

end Highlight
