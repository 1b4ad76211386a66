import Highlight.Proofs.Segments.Landing

/-!
# Committing a claim

`Scope.commit` replaces the segments that a claim covers by the token with what the claim leaves
over before and behind it. What is left over behind the token is joined with a free run that
follows, which is then replaced as well. On pieces laid out as segments the replacement always
covers the bytes of what it replaces, and the result is laid out again.
-/

namespace Highlight

open Piece (spell Solid)
open Segment Checked

namespace Scope

variable {sc : Scope} {p : Pattern} {front : List Piece} {run : List Char}

/-- What a claim leaves over, with the pieces that it is joined with. -/
theorem leftover_layOut {start : Nat} {ps covered : List Piece} {claim : SegmentClaim} {c : Claim}
    (hd : claim.Describes start front ps c) (hps : ps = c.passed ++ covered ++ c.rest)
    (hcovered : spell covered = c.before ++ c.token ++ c.after) :
    ∃ joined kept after, c.rest = joined ++ kept ∧ c.ahead = after ++ kept ∧
      spell after = c.after ++ spell joined ∧
      leftover (layOut start (front ++ ps)) claim =
        pure (layOut claim.matched.token.stop after, joined.length) := by
  have hnext : claim.first + claim.count = (front ++ c.passed ++ covered).length := by
    have hcount := hd.count
    rw [hps] at hcount
    simp only [List.length_append] at hcount ⊢
    omega
  have hlayout : front ++ ps = (front ++ c.passed ++ covered) ++ c.rest := by
    rw [hps]
    simp only [List.append_assoc]
  have hstop : claim.stop = start + Text.byteLength (spell (front ++ c.passed ++ covered)) := by
    rw [hd.stop, hd.token]
    simp only [Piece.spell_append, Claim.spell_lead, hcovered, Text.byteLength_append]
    omega
  have hafter := hd.stop
  rw [leftover, hnext, hlayout, Claim.ahead]
  by_cases hnil : c.after = []
  · rw [hnil, Text.byteLength_nil, Nat.add_zero] at hafter
    rw [if_neg (by omega), hnil]
    exact ⟨[], c.rest, [], rfl, rfl, rfl, rfl⟩
  · have hpos := Text.byteLength_pos hnil
    rw [if_pos (by omega)]
    cases hrest : c.rest with
    | nil =>
      rw [if_neg (by simp), hafter]
      exact ⟨[], [], [.free c.after], rfl, Piece.joinFree_nil hnil, by simp, rfl⟩
    | cons q rest =>
      rw [if_pos (by simp), segment_layOut, pure_bind]
      cases q with
      | free u =>
        have hjoined : layOut claim.matched.token.stop [.free (c.after ++ u)] =
            [.text ⟨claim.matched.token.stop,
              claim.matched.token.stop + Text.byteLength c.after + Text.byteLength u⟩] := by
          rw [Nat.add_assoc, ← Text.byteLength_append]
          rfl
        rw [← hstop, hafter]
        exact ⟨[.free u], rest, [.free (c.after ++ u)], rfl, Piece.joinFree_free hnil u rest,
          by simp, by rw [hjoined]; rfl⟩
      | claimed d =>
        rw [hafter]
        exact ⟨[], .claimed d :: rest, [.free c.after], rfl, Piece.joinFree_claimed hnil d rest,
          by simp, rfl⟩

/-- The free text in front of a token, as segments. -/
theorem layOut_ofFree {start stop : Nat} {t : List Char} (hstop : stop = start + Text.byteLength t) :
    layOut start (Piece.ofFree t) = if start < stop then [.text ⟨start, stop⟩] else [] := by
  rw [Piece.ofFree, hstop]
  split
  · next ht =>
    rw [List.isEmpty_iff.mp ht, if_neg (by simp)]
    rfl
  · next ht =>
    have hpos := Text.byteLength_pos (mt List.isEmpty_iff.mpr ht)
    rw [if_pos (by omega)]
    rfl

/-- A token with the free text in front of it and the pieces behind it, as segments. -/
theorem layOut_around {start : Nat} {s : Span} {before token : List Char} (rule : Rule) (p : Pattern)
    (after : List Piece)
    (hs : s = ⟨start + Text.byteLength before,
      start + Text.byteLength before + Text.byteLength token⟩) :
    layOut start (Piece.ofFree before ++ [.claimed ⟨rule.name, p, token⟩] ++ after) =
      layOut start (Piece.ofFree before) ++
        [.token (.token rule.name p.altKind s (String.ofList token) (p.nodesInside s.start token))
          p.greedy] ++
        layOut s.stop after := by
  rw [hs, layOut_append, layOut_append, Piece.spell_snoc, Piece.spell_ofFree, Text.byteLength_append,
    ← Nat.add_assoc]
  rfl

/-- Committing a claim puts the claimed token in the place of what it covers. -/
theorem commit_layOut {rule : Rule} {ps region : List Piece} {claim : SegmentClaim} {c : Claim}
    (hpart : Text.IsPart sc.text sc.range (spell (front ++ ps))) (hsolid : Solid (front ++ ps))
    (hd : claim.Describes sc.range.start front ps c)
    (hps : ps = c.passed ++ .free run :: region ++ c.rest) (hc : c.Covers run region)
    (htoken : makeToken sc rule p claim.matched.token = pure
      (.token rule.name p.altKind claim.matched.token (String.ofList c.token)
        (p.nodesInside claim.matched.token.start c.token))) :
    commit sc (layOut sc.range.start (front ++ ps)) rule p claim =
      pure (front.length + c.lead.length,
        layOut sc.range.start (front ++ c.lead ++ .claimed ⟨rule.name, p, c.token⟩ :: c.ahead)) := by
  have hcovered : spell (.free run :: region) = c.before ++ c.token ++ c.after := hc.spell
  obtain ⟨joined, kept, after, hrest, hahead, hafter, hleft⟩ := leftover_layOut hd hps hcovered
  have hhead : segment (layOut sc.range.start (front ++ ps)) claim.first =
      pure (ofPiece (sc.range.start + Text.byteLength (spell (front ++ c.passed))) (.free run)) := by
    rw [hd.first, ← List.length_append, hps, List.append_assoc c.passed, ← List.append_assoc front]
    exact segment_layOut _ _ _ _
  -- the pieces that are replaced, and what they are replaced by
  let old := .free run :: region ++ joined
  let new := Piece.ofFree c.before ++ [.claimed ⟨rule.name, p, c.token⟩] ++ after
  have hold : front ++ ps = (front ++ c.passed) ++ old ++ kept := by
    rw [hps, hrest]
    simp [old]
  have hnew : front ++ c.lead ++ .claimed ⟨rule.name, p, c.token⟩ :: c.ahead =
      (front ++ c.passed) ++ new ++ kept := by
    rw [hahead, Claim.lead]
    simp [new]
  have hspell : spell new = spell old := by
    simp only [new, old, Piece.spell_append, hcovered, hafter, Piece.spell_ofFree]
    simp
  have hlength : claim.count + joined.length = old.length := by
    rw [hd.count_eq hps]
    simp only [old, List.length_append, List.length_cons]
  have hsolid' : Solid (front ++ c.passed ++ new ++ kept) := by
    rw [← hnew]
    exact hc.solid hps hsolid
  have hrange := hpart.eq_mk
  rw [hold] at hrange
  have hreplace := replace_layOut (by simp [old]) (by simp [new]) hspell hsolid' hrange
  have hbefore := layOut_ofFree (congrArg Span.start hd.token_eq)
  have hreplacement := layOut_around rule p after hd.token_eq
  rw [commit, hhead, pure_bind, span_ofPiece]
  dsimp only
  rw [htoken, pure_bind, hleft, pure_bind]
  dsimp only
  rw [← hbefore, ← hreplacement, hlength, hd.first, hold, ← List.length_append, hreplace, pure_bind,
    hnew, length_layOut, List.length_append, Claim.lead, List.length_append, Nat.add_assoc]

end Scope

end Highlight
