import Highlight.Proofs.Division.Quiet
import Highlight.Proofs.Segments.Dissolve

/-!
# A rescan types every match in the exposed region

A commit that dissolves tokens sets text free behind its own token, and all rules of higher priority are
run again over what stands there, up to the end of what was dissolved. Where their patterns are steady,
no match of any of them is left in that region: the rescan is their application to the pieces behind the
token, under a limit, and leaves these pieces quiet before it. The pieces up to the token are not among
them, so the text they stand for stays what the commit has made of it.
-/

namespace Highlight

open Piece (spell Solid Parted Quiet)
open Segment Checked

namespace Segment

/-- The segments of pieces, cut behind one of them. -/
theorem take_layOut (start : Nat) (a : List Piece) (q : Piece) (b : List Piece) :
    (layOut start (a ++ q :: b)).take (a.length + 1) = layOut start (a ++ [q]) := by
  rw [List.append_cons, layOut_append, List.take_left' (by simp)]

theorem drop_layOut (start : Nat) (a : List Piece) (q : Piece) (b : List Piece) :
    (layOut start (a ++ q :: b)).drop (a.length + 1) =
      layOut (start + Text.byteLength (spell (a ++ [q]))) b := by
  rw [List.append_cons, layOut_append, List.drop_left' (by simp)]

end Segment

/-- In pieces laid out from byte `base`, what is found in an untyped run begins at the limit or behind it,
if they are quiet. -/
theorem Piece.Quiet.findIn?_behind {q : Pattern} {ps : List Piece} {done ahead : List Char}
    (h : Quiet q ahead.length ps) (hspell : spell ps = done ++ ahead) {text : String} {base : Nat}
    (hpart : Text.IsPart text.toList ⟨base, base + Text.byteLength (spell ps)⟩ (spell ps)) {run : Span}
    (hrun : .text run ∈ layOut base ps) {m : Match} (hm : q.findIn? text run = some m) :
    base + Text.byteLength done ≤ m.raw.start := by
  obtain ⟨a, piece, b, rfl, hpiece⟩ := mem_layOut hrun
  cases piece with
  | claimed c => cases hpiece
  | free t =>
    cases hpiece
    have hcut : spell (a ++ .free t :: b) = spell a ++ t ++ spell b := by simp
    rw [hcut] at hpart hspell
    rw [q.findIn?_part hpart.middle] at hm
    obtain ⟨hit, hs, rfl⟩ := Option.map_eq_some_iff.mp hm
    have hlate := h.of_append.1 hit hs
    have hlength := congrArg List.length hspell
    have hplace : done ++ ahead = (spell a ++ t.take hit.raw.start) ++ (t.drop hit.raw.start ++ spell b) := by
      rw [← hspell, List.append_assoc, List.append_assoc, ← List.append_assoc (t.take _),
        List.take_append_drop]
    have hlt := PatternWith.raw_start_lt_of_search hs
    have hle : Text.byteLength done ≤ Text.byteLength (spell a ++ t.take hit.raw.start) := by
      rw [Text.byteLength_le_iff hplace]
      simp only [List.length_append, List.length_take] at hlength ⊢
      omega
    simp only [Match.shift, Match.ofHit, Text.byteSpan, Span.shift, Text.byteOffset]
    rw [Text.byteLength_append] at hle
    omega

/-- The pieces behind a new token are in order for the rescan there, and it may claim all but what lies
behind the leftover of the claim. -/
theorem Scope.Stands.inPass {text : String} {range : Span} {g : Grammar} {front ps region : List Piece}
    {fuel : Nat} {limit limit? : Option Nat} {before : Option Char} {c : Claim} {free : List Char}
    {claim : SegmentClaim} (kind : String) (p : Pattern)
    (h : Stands ⟨text.toList, range, g⟩ front ps (fuel + 1) limit before limit?)
    (hparted : Parted (front ++ ps)) (hps : ps = c.passed ++ .free free :: region ++ c.rest)
    (hc : c.Covers free region) (hd : claim.Describes range.start front ps c) :
    InPass text fuel (some c.after.length) (spell c.rest).length c.ahead := by
  have hrescan := h.rescan_claim kind p hps hc hd
  have hafter := Claim.parted hparted hps ⟨kind, p, c.token⟩
  refine ⟨(Piece.solid_append.mp hrescan.solid).2, (Piece.parted_append_claimed.mp hafter).2, ?_,
    hrescan.fuel, ?_⟩
  · obtain ⟨lead, back, htext, -⟩ := hrescan.part
    rw [Piece.spell_append] at htext
    exact ⟨_, back, by rw [← List.append_assoc] at htext; exact htext.symm⟩
  · intro l hl
    cases hl
    rw [Claim.spell_ahead, List.length_append]

/-- A claim whose token overlaps another one takes more than one segment. -/
theorem SegmentClaim.Describes.one_lt_count {claim : SegmentClaim} {start : Nat} {c : Claim}
    {front ps region : List Piece} {free : List Char} (hd : claim.Describes start front ps c)
    (hps : ps = c.passed ++ .free free :: region ++ c.rest) (hc : c.Covers free region)
    (htouches : ∀ a d b, region = a ++ .claimed d :: b →
      free.length + (spell a).length < c.before.length + c.token.length)
    (hparted : Parted (front ++ ps))
    (hoverlap : ∃ t ∈ tokens (layOut start (front ++ ps)), t.span.disjoint claim.matched.token = false)
    (kind : String) (p : Pattern) : 1 < claim.count := by
  have hiff := exists_overlap_claim front kind p start hps hc htouches hparted
  rw [span_ofPiece, Piece.text_claimed, ← hd.token] at hiff
  rw [hd.count_eq hps, Nat.lt_add_left_iff_pos, List.length_pos_iff]
  exact hiff.mp hoverlap

namespace Grammar

/-- Whatever call the division of a span has come to, when a pattern's claim is committed there and
dissolves tokens, and all patterns of the rules before are steady, the rescan behind the new token leaves
no match of any of them in an untyped run behind that token that begins before the end of what was
dissolved. Up to the new token, it leaves everything as the commit did. -/
theorem rescan_complete (g : Grammar) (text : String) (s : Span)
    (hs : Text.OnBoundaries text.toList s) {index i : Nat} {rule : Rule} {p : Pattern}
    {limit : Option Nat} {items : List Segment} {claim : SegmentClaim}
    (hcall : Scope.Reached ⟨text.toList, s, g⟩ (.pattern index rule p limit i items))
    (hclaims : Scope.Claims ⟨text.toList, s, g⟩ p limit i items claim)
    (hdissolves : ∃ t ∈ tokens items, t.span.disjoint claim.matched.token = false)
    (hearlier : SteadyRules (g.rules.take index) text) :
    ∃ k node items' items'',
      Scope.commit ⟨text.toList, s, g⟩ items rule p claim = pure (k, items') ∧
      segment items' k = pure (.token node p.greedy) ∧ node.span = claim.matched.token ∧
      1 < claim.count ∧
      Scope.runRules ⟨text.toList, s, g⟩ k (some index) (some claim.stop) 0 g.rules items' =
        pure items'' ∧
      items''.take (k + 1) = items'.take (k + 1) ∧
      ∀ run, .text run ∈ items''.drop (k + 1) → ∀ r ∈ g.rules.take index, ∀ q ∈ r.patterns,
        ∀ m, q.findIn? text run = some m → claim.stop ≤ m.raw.start := by
  have hpart := hs.isPart
  cases Scope.reached_good hpart hcall with
  | @pattern earlier _ _ _ _ _ _ _ hindex hrules _ hplaced =>
    subst hindex
    have htake : g.rules.take earlier.length = earlier.reverse := by
      have hgrammar : g.rules = earlier.reverse ++ rule :: _ := hrules
      rw [hgrammar, List.take_left' List.length_reverse]
    obtain ⟨front, t, rest, fuel, limit, c, free, region, rfl, hstands, hparted, htarget, hps, hc, hd⟩ :=
      hplaced.claims hclaims
    have hmany := hd.one_lt_count hps hc
      (fun a d b hregion => Target.ofRun_claim_touches htarget hps hregion) hparted hdissolves rule.name p
    obtain ⟨-, hcommit⟩ := hstands.commit_claim (Scope.makes _ rule p) hps hc hd
    have hrescan := hstands.rescan_claim rule.name p hps hc hd
    have hrun := Scope.rescans _ hrules _ _ _ _ _ _ _ hrescan
    have hkeeps := Scope.rescanWith_keeps earlier fuel c.after.length
      (Text.lastOr (Text.lastOr none (spell front)) c.token)
    have hbehind := (hrescan.keeps hkeeps).isPart_ahead
    have hspell := hkeeps.spell c.ahead
    rw [Claim.spell_ahead] at hspell
    rw [← List.length_append] at hcommit
    refine ⟨_, .token rule.name p.altKind claim.matched.token (String.ofList c.token)
      (p.nodesInside claim.matched.token.start c.token), _, _, hcommit, ?_, rfl, hmany, hrun, ?_, ?_⟩
    · rw [segment_layOut, hd.token]
      rfl
    · rw [take_layOut, take_layOut]
    · intro run hmem r hr q hq m hm
      rw [htake] at hr hearlier
      have hquiet := applyRules_quiet (fun r hr => hearlier r (List.mem_reverse.mpr hr))
        (List.mem_reverse.mp hr) hq (Text.lastOr (Text.lastOr none (spell front)) c.token)
        (hstands.inPass rule.name p hparted hps hc hd)
      rw [drop_layOut] at hmem
      rw [hd.stop_eq rule.name p]
      exact hquiet.findIn?_behind hspell hbehind hmem hm

/-- Comments, and quoted texts, which are greedy and so dissolve what looks like a comment in them. -/
def Overrun.comments : Grammar :=
  .mk "comments" [⟨"comment", [Overrun.comment]⟩, ⟨"quoted", [Overrun.quoted]⟩]

/-- The quoted text in `"a#"#b` dissolves the comment that had begun within it, and what it sets free is
searched for comments again. -/
theorem rescan_complete_quoted : ∃ items claim,
    Scope.Reached ⟨"\"a#\"#b".toList, ⟨0, 6⟩, Overrun.comments⟩
      (.pattern 1 ⟨"quoted", [Overrun.quoted]⟩ Overrun.quoted none 0 items) ∧
    Scope.Claims ⟨"\"a#\"#b".toList, ⟨0, 6⟩, Overrun.comments⟩ Overrun.quoted none 0 items claim ∧
    (∃ t ∈ tokens items, t.span.disjoint claim.matched.token = false) ∧
    SteadyRules (Overrun.comments.rules.take 1) "\"a#\"#b" ∧
    ∃ k items' items'',
      Scope.commit ⟨"\"a#\"#b".toList, ⟨0, 6⟩, Overrun.comments⟩ items
        ⟨"quoted", [Overrun.quoted]⟩ Overrun.quoted claim = pure (k, items') ∧
      Scope.runRules ⟨"\"a#\"#b".toList, ⟨0, 6⟩, Overrun.comments⟩ k (some 1) (some claim.stop) 0
        Overrun.comments.rules items' = pure items'' ∧
      ∀ run, .text run ∈ items''.drop (k + 1) → ∀ m,
        Overrun.comment.findIn? "\"a#\"#b" run = some m → claim.stop ≤ m.raw.start := by
  have hs : Text.OnBoundaries "\"a#\"#b".toList ⟨0, 6⟩ := ⟨by decide, by decide +kernel, by decide +kernel⟩
  obtain ⟨rest, hrest⟩ : ∃ rest : List Piece,
      rest = [.claimed ⟨"comment", Overrun.comment, ['#', '"', '#', 'b']⟩] := ⟨_, rfl⟩
  obtain ⟨c, htarget, hlead, htoken⟩ : ∃ c, Target.ofRun Overrun.quoted none ['"', 'a'] rest = .claim c ∧
      spell c.lead = [] ∧ c.token = ['"', 'a', '#', '"'] := by
    rw [hrest]
    exact ⟨_, rfl, rfl, rfl⟩
  have hrules : Overrun.comments.rules =
      [⟨"comment", [Overrun.comment]⟩].reverse ++ ⟨"quoted", [Overrun.quoted]⟩ :: [] := rfl
  have hpatterns : (⟨"quoted", [Overrun.quoted]⟩ : Rule).patterns = [] ++ Overrun.quoted :: [] := rfl
  obtain ⟨items, claim, hcall, hclaims, hitems, hd⟩ :=
    Scope.exists_claims_turn ⟨"\"a#\"#b".toList, ⟨0, 6⟩, Overrun.comments⟩ (Text.isPart_all _) hrules
      hpatterns (by rw [hrest]; cbv) htarget
  have hdissolves : ∃ t ∈ tokens items, t.span.disjoint claim.matched.token = false := by
    rw [hitems, hrest]
    refine ⟨ofPiece 2 (.claimed ⟨"comment", Overrun.comment, ['#', '"', '#', 'b']⟩), ?_, ?_⟩
    · exact List.mem_filter.mpr ⟨List.mem_cons_of_mem _ (List.mem_singleton_self _), rfl⟩
    · rw [span_ofPiece, hd.token, List.nil_append, hlead, htoken]
      rfl
  have hsteady : SteadyRules (Overrun.comments.rules.take 1) "\"a#\"#b" := by
    intro r hr
    obtain rfl : r = ⟨"comment", [Overrun.comment]⟩ := List.mem_singleton.mp hr
    exact Overrun.steady_tame _ _ (List.mem_map.mpr ⟨⟨"comment", [Overrun.comment]⟩,
      List.mem_cons_of_mem _ (List.mem_cons_self ..), rfl⟩)
  obtain ⟨k, -, items', items'', hcommit, -, -, -, hrun, -, hnone⟩ :=
    Overrun.comments.rescan_complete "\"a#\"#b" ⟨0, 6⟩ hs hcall hclaims hdissolves hsteady
  refine ⟨items, claim, hcall, hclaims, hdissolves, hsteady, k, items', items'', hcommit, hrun, ?_⟩
  exact fun run hmem m hm => hnone run hmem ⟨"comment", [Overrun.comment]⟩ (List.mem_singleton_self _)
    Overrun.comment (List.mem_singleton_self _) m hm

end Grammar

end Highlight
