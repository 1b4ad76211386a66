import Highlight.Proofs.Segments.Layout
import Highlight.Proofs.Division.Sweep

/-!
# Where a match lands

`Scope.land` finds the segments that a match touches by their indices and bytes. On pieces that
are laid out as segments it never fails, and its answer describes the target that
`Target.ofRun` finds on the pieces themselves.
-/

namespace Highlight

open Piece (spell Solid)
open Segment Checked

/-- A span of characters with as many characters before it as `a` and in it as `t`. -/
theorem Text.byteSpan_middle {a t b : List Char} {s : Span} (hstart : s.start = a.length)
    (hlength : s.length = t.length) (ht : t ≠ []) :
    byteSpan (a ++ t ++ b) s = ⟨byteLength a, byteLength a + byteLength t⟩ := by
  have hpos := List.length_pos_iff.mpr ht
  have hstop : s.stop = (a ++ t).length := by
    rw [Span.length] at hlength
    rw [List.length_append]
    omega
  rw [byteSpan, byteOffset, byteOffset, hstop, List.take_left' rfl, hstart, List.append_assoc,
    List.take_left' rfl, byteLength_append]

/-- A claim by indices and bytes is the claim `c` on the pieces `ps`, which stand behind `front`. -/
structure SegmentClaim.Describes (claim : SegmentClaim) (start : Nat) (front ps : List Piece)
    (c : Claim) : Prop where
  first : claim.first = front.length + c.passed.length
  count : claim.first + claim.count + c.rest.length = front.length + ps.length
  token : claim.matched.token = ⟨start + Text.byteLength (spell (front ++ c.lead)),
    start + Text.byteLength (spell (front ++ c.lead)) + Text.byteLength c.token⟩
  stop : claim.stop = claim.matched.token.stop + Text.byteLength c.after

/-- The segments of a claim are the free run where its token begins, and those behind it. -/
theorem SegmentClaim.Describes.count_eq {claim : SegmentClaim} {start : Nat} {c : Claim}
    {front ps region : List Piece} {run : List Char} (hd : claim.Describes start front ps c)
    (hps : ps = c.passed ++ .free run :: region ++ c.rest) : claim.count = region.length + 1 := by
  have hfirst := hd.first
  have hcount := hd.count
  rw [hps] at hcount
  simp only [List.length_append, List.length_cons] at hcount
  omega

/-- A claim takes more than one segment exactly if it dissolves something. -/
theorem SegmentClaim.Describes.count_ne_one {claim : SegmentClaim} {start : Nat} {c : Claim}
    {front ps region : List Piece} {run : List Char} (hd : claim.Describes start front ps c)
    (hps : ps = c.passed ++ .free run :: region ++ c.rest) (hc : c.Covers run region) :
    (claim.count != 1) = c.dissolves := by
  rw [hd.count_eq hps, hc.dissolves]
  cases region <;> simp

/-- A claim stops where the text that it leaves over ends, which stands behind its token. -/
theorem SegmentClaim.Describes.stop_eq {claim : SegmentClaim} {start : Nat} {c : Claim}
    {front ps : List Piece} (hd : claim.Describes start front ps c) (kind : String) (p : Pattern) :
    claim.stop = start + Text.byteLength (spell (front ++ c.lead ++ [.claimed ⟨kind, p, c.token⟩])) +
      Text.byteLength c.after := by
  rw [hd.stop, hd.token, Piece.spell_snoc, Text.byteLength_append, ← Nat.add_assoc]
  rfl

/-- The token of a claim stands behind the text that the claim leaves over in front of it. -/
theorem SegmentClaim.Describes.token_eq {claim : SegmentClaim} {start : Nat} {c : Claim}
    {front ps : List Piece} (hd : claim.Describes start front ps c) :
    claim.matched.token =
      ⟨start + Text.byteLength (spell (front ++ c.passed)) + Text.byteLength c.before,
        start + Text.byteLength (spell (front ++ c.passed)) + Text.byteLength c.before +
          Text.byteLength c.token⟩ := by
  rw [hd.token]
  simp only [Claim.spell_lead, Piece.spell_append, Text.byteLength_append, Nat.add_assoc]

/-- A landing says by indices and bytes where a pattern leads. -/
inductive Landing.Describes (start : Nat) (front ps : List Piece) : Landing → Target → Prop where
  | nothing : Describes start front ps .nothing .nowhere
  | goOn (passed rest : List Piece) :
    Describes start front ps (.goOn (front.length + passed.length)) (.behind passed rest)
  | found {claim : SegmentClaim} {c : Claim} (h : claim.Describes start front ps c) :
    Describes start front ps (.found claim) (.claim c)

namespace Scope

variable {sc : Scope} {p : Pattern} {front : List Piece} {run : List Char} {rest : List Piece}

/-- The token of a hit where the claim `c` has its token, in bytes of the whole text. -/
theorem token_shift {c : Claim} {text behind : List Char} {hit : Hit}
    (offset : Nat) (htext : text = spell c.lead ++ c.token ++ behind) (hstart : c.offset = hit.token.start)
    (hlength : c.token.length = hit.token.length) (hne : c.token ≠ []) :
    ((Match.ofHit text hit).shift offset).token =
      ⟨offset + Text.byteLength (spell c.lead),
        offset + Text.byteLength (spell c.lead) + Text.byteLength c.token⟩ := by
  rw [← Claim.length_spell_lead] at hstart
  rw [htext, Match.shift, Match.ofHit]
  dsimp only
  rw [Text.byteSpan_middle hstart.symm hlength.symm hne, Span.shift]
  simp only [Span.mk.injEq]
  omega

theorem land_alone (hpart : Text.IsPart sc.text sc.range (spell (front ++ .free run :: rest)))
    (h : p.greedy = false ∨ rest = []) :
    ∃ landing, sc.land (layOut sc.range.start (front ++ .free run :: rest)) p front.length
      ⟨sc.range.start + Text.byteLength (spell front),
        sc.range.start + Text.byteLength (spell front) + Text.byteLength run⟩ = pure landing ∧
      landing.Describes sc.range.start front (.free run :: rest)
        (Target.ofRun p (Text.lastOr none (spell front)) run rest) := by
  have hrun : part sc.text ⟨sc.range.start + Text.byteLength (spell front),
      sc.range.start + Text.byteLength (spell front) + Text.byteLength run⟩ = pure run := by
    rw [Piece.spell_append, Piece.spell_cons, ← List.append_assoc] at hpart
    exact part_eq (hpart.middle)
  have hcond : ¬ (p.greedy && front.length + 1 !=
      (layOut sc.range.start (front ++ .free run :: rest)).length) = true := by
    rcases h with h | rfl
    · simp [h]
    · simp
  have htry := p.tryFrom_eq [] run
  rw [List.nil_append, Text.byteLength_nil] at htry
  rw [land, if_neg hcond, hrun, pure_bind, htry, pure_bind, Target.ofRun_eq_alone h]
  cases hs : p.search none run with
  | none =>
    rw [Text.lastOr, hs]
    exact ⟨_, rfl, .goOn [.free run] rest⟩
  | some hit =>
    rw [Text.lastOr, hs]
    have hw := PatternWith.search_within hs
    obtain ⟨c, hc⟩ : ∃ c, c = Claim.within hit.token run rest := ⟨_, rfl⟩
    obtain ⟨hcovers, hoffset, hlength⟩ : c.Covers run [] ∧ c.offset = hit.token.start ∧
        c.token.length = hit.token.length := by
      rw [hc]
      exact Target.within_covers hw.nonempty hw.stop_le
    have hpassed : c.passed = [] := by rw [hc]; rfl
    have hbehind : c.rest = rest := by rw [hc]; rfl
    have hspell : run = spell c.lead ++ c.token ++ c.after := by
      have hcovered := hcovers.spell
      rw [Piece.spell_nil, List.append_nil] at hcovered
      rw [Claim.spell_lead, hpassed, Piece.spell_nil, List.nil_append, ← hcovered]
    have htoken := token_shift (sc.range.start + Text.byteLength (spell front)) hspell
      hoffset hlength hcovers.token_ne
    dsimp only [Option.map_some]
    rw [Match.shift_shift, Nat.zero_add, ← hc]
    refine ⟨_, rfl, .found ⟨?_, ?_, ?_, ?_⟩⟩
    · rw [hpassed]
      rfl
    · rw [hbehind, List.length_cons]
      dsimp only
      omega
    · rw [htoken, Piece.spell_append, Text.byteLength_append, Nat.add_assoc sc.range.start]
    · rw [htoken, hspell, Text.byteLength_append, Text.byteLength_append]
      dsimp only
      omega

/-- The segment of a match across segments is that of the piece where its token begins. -/
theorem landAcross_segment {start : Nat} {ps passed behind : List Piece} {piece : Piece}
    {position : Nat} {hit : Hit} {m : Match} (hle : hit.token.start ≤ (spell ps).length)
    (hm : m = (Match.ofHit (spell ps) hit).shift (start + Text.byteLength (spell front)))
    (hl : Piece.locate hit.token.start ps = (passed, position, piece :: behind)) :
    firstTouched (layOut start (front ++ ps)) m.token.start front.length =
        pure (front.length + passed.length) ∧
      front.length + passed.length < (layOut start (front ++ ps)).length ∧
      segment (layOut start (front ++ ps)) (front.length + passed.length) =
        pure (ofPiece (start + Text.byteLength (spell (front ++ passed))) piece) := by
  have hstart : m.token.start = start + Text.byteLength (spell front) +
      Text.byteOffset (spell ps) hit.token.start := by
    rw [hm]
    exact Nat.add_comm _ _
  have htouched := firstTouched_layOut start front ps hit.token.start hle
  obtain ⟨hcut, -, -⟩ := Piece.locate_eq hl
  have hseg := segment_layOut start (front ++ passed) piece behind
  rw [List.append_assoc, ← hcut, List.length_append] at hseg
  rw [← hstart, hl] at htouched
  refine ⟨htouched, ?_, hseg⟩
  rw [length_layOut, hcut]
  simp

/-- A token that stands where a match begins is passed by. -/
theorem landAcross_claimed {start : Nat} {ps passed behind : List Piece} {c : Claimed}
    {position : Nat} {hit : Hit} {m : Match} (hle : hit.token.start ≤ (spell ps).length)
    (hm : m = (Match.ofHit (spell ps) hit).shift (start + Text.byteLength (spell front)))
    (hl : Piece.locate hit.token.start ps = (passed, position, .claimed c :: behind)) :
    ∃ landing, landAcross (layOut start (front ++ ps)) m front.length = pure landing ∧
      landing.Describes start front ps (Target.across hit.token ps) := by
  obtain ⟨htouched, hlt, hseg⟩ := landAcross_segment hle hm hl
  have hdescribes : Landing.Describes start front ps
      (.goOn (front.length + (passed ++ [Piece.claimed c]).length))
      (.behind (passed ++ [.claimed c]) behind) := .goOn _ _
  rw [List.length_append, List.length_singleton, ← Nat.add_assoc] at hdescribes
  rw [landAcross, htouched, pure_bind, if_pos hlt, hseg, pure_bind, Target.across_claimed hl]
  exact ⟨_, rfl, hdescribes⟩

/-- From the run where its token begins on, a hit reaches as far in bytes as in characters. -/
theorem token_ahead {start : Nat} {ps passed behind : List Piece} {position : Nat} {hit : Hit}
    {m : Match} (hw : hit.Within (spell ps).length)
    (hm : m = (Match.ofHit (spell ps) hit).shift (start + Text.byteLength (spell front)))
    (hcut : ps = passed ++ behind)
    (hposition : hit.token.start = (spell passed).length + position) :
    Text.Ahead (start + Text.byteLength (spell (front ++ passed))) (spell behind) m.token.stop
      (position + hit.token.length) := by
  have hstop : m.token.stop = start + Text.byteLength (spell front) +
      Text.byteOffset (spell ps) hit.token.stop := by
    rw [hm]
    exact Nat.add_comm _ _
  have hahead : Text.Ahead (start + Text.byteLength (spell front)) (spell ps) m.token.stop
      hit.token.stop := by
    rw [hstop]
    exact .of_le _ hw.stop_le
  have hn : hit.token.stop - (spell passed).length = position + hit.token.length := by
    have hne := hw.nonempty
    rw [Span.length]
    omega
  rw [hcut, Piece.spell_append] at hahead
  rw [Piece.spell_append, Text.byteLength_append, ← Nat.add_assoc, ← hn]
  exact hahead.behind

/-- A free run where a match begins is claimed, with all that the match reaches. -/
theorem landAcross_free {start : Nat} {ps passed behind : List Piece} {free : List Char}
    {position : Nat} {hit : Hit} {m : Match} (hw : hit.Within (spell ps).length)
    (hm : m = (Match.ofHit (spell ps) hit).shift (start + Text.byteLength (spell front)))
    (hl : Piece.locate hit.token.start ps = (passed, position, .free free :: behind)) :
    ∃ landing, landAcross (layOut start (front ++ ps)) m front.length = pure landing ∧
      landing.Describes start front ps (Target.across hit.token ps) := by
  have hne := hw.nonempty
  have hle := hw.stop_le
  obtain ⟨htouched, hlt, hseg⟩ := landAcross_segment (by omega) hm hl
  obtain ⟨hcut, hposition, -⟩ := Piece.locate_eq hl
  obtain ⟨c, taken, hc, hpassed, hregion, htaken⟩ := Target.across_free hl
  obtain ⟨run, region, hps, hcovers, hoffset, hlength⟩ := Target.across_claim hc hne hle
  have htoken := token_shift (start + Text.byteLength (spell front))
    (hcovers.spell_eq hps) hoffset hlength hcovers.token_ne
  rw [← hm] at htoken
  have hpos : 0 < position + hit.token.length := by
    rw [Span.length]
    omega
  have habsorb := absorb_layOut_free start (front ++ passed) free behind hpos
    (token_ahead hw hm hcut hposition)
  rw [List.append_assoc, ← hcut, List.length_append, hregion] at habsorb
  rw [landAcross, htouched, pure_bind, if_pos hlt, hseg, pure_bind]
  dsimp only [ofPiece]
  rw [habsorb, pure_bind]
  dsimp only
  rw [minus_add, pure_bind, hc]
  refine ⟨_, rfl, .found ⟨?_, ?_, ?_, ?_⟩⟩
  · rw [hpassed]
  · rw [hcut, List.length_append, List.length_cons]
    dsimp only
    omega
  · rw [htoken, Piece.spell_append, Text.byteLength_append, Nat.add_assoc start]
  · rw [htoken, ← hpassed, Claim.spell_lead]
    simp only [Piece.spell_append, Text.byteLength_append]
    omega

theorem landAcross_layOut {start : Nat} {ps : List Piece} {hit : Hit} {m : Match}
    (hw : hit.Within (spell ps).length)
    (hm : m = (Match.ofHit (spell ps) hit).shift (start + Text.byteLength (spell front))) :
    ∃ landing, landAcross (layOut start (front ++ ps)) m front.length = pure landing ∧
      landing.Describes start front ps (Target.across hit.token ps) := by
  have hne := hw.nonempty
  have hle := hw.stop_le
  obtain ⟨passed, position, behind, hl⟩ : ∃ passed position behind,
      Piece.locate hit.token.start ps = (passed, position, behind) := ⟨_, _, _, rfl⟩
  cases behind with
  | nil =>
    obtain ⟨hcut, hposition, -⟩ := Piece.locate_eq hl
    rw [hcut, List.append_nil] at hle
    omega
  | cons piece behind =>
    cases piece with
    | claimed c => exact landAcross_claimed (by omega) hm hl
    | free free => exact landAcross_free hw hm hl

theorem land_ahead (hpart : Text.IsPart sc.text sc.range (spell (front ++ .free run :: rest)))
    (hgreedy : p.greedy = true) (hrest : rest ≠ []) :
    ∃ landing, sc.land (layOut sc.range.start (front ++ .free run :: rest)) p front.length
      ⟨sc.range.start + Text.byteLength (spell front),
        sc.range.start + Text.byteLength (spell front) + Text.byteLength run⟩ = pure landing ∧
      landing.Describes sc.range.start front (.free run :: rest)
        (Target.ofRun p (Text.lastOr none (spell front)) run rest) := by
  have hcond : (p.greedy && front.length + 1 !=
      (layOut sc.range.start (front ++ .free run :: rest)).length) = true := by
    simp [hgreedy, hrest]
  have hspell : spell (front ++ .free run :: rest) = spell front ++ (run ++ spell rest) := by simp
  rw [land, if_pos hcond, part_eq hpart, pure_bind]
  dsimp only
  rw [minus_add, pure_bind, hspell, PatternWith.tryFrom_eq, pure_bind,
    Target.ofRun_eq_across hgreedy hrest]
  cases hs : p.search (Text.lastOr none (spell front)) (run ++ spell rest) with
  | none => exact ⟨_, rfl, .nothing⟩
  | some hit =>
    have hw := PatternWith.search_within hs
    dsimp only [Option.map_some]
    rw [Match.shift_shift, Nat.add_comm (Text.byteLength _)]
    exact landAcross_layOut hw rfl

theorem land_layOut (hpart : Text.IsPart sc.text sc.range (spell (front ++ .free run :: rest))) :
    ∃ landing, sc.land (layOut sc.range.start (front ++ .free run :: rest)) p front.length
      ⟨sc.range.start + Text.byteLength (spell front),
        sc.range.start + Text.byteLength (spell front) + Text.byteLength run⟩ = pure landing ∧
      landing.Describes sc.range.start front (.free run :: rest)
        (Target.ofRun p (Text.lastOr none (spell front)) run rest) := by
  rcases Target.alone_or_ahead p rest with h | ⟨hgreedy, hrest⟩
  · exact land_alone hpart h
  · exact land_ahead hpart hgreedy hrest

end Scope

end Highlight
