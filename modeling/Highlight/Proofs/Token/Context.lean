import Highlight.Proofs.Division.Completeness
import Highlight.Proofs.Division.Places
import Highlight.Proofs.Grammar.Offsets
import Highlight.Proofs.Text.Boundary

/-!
# What a greedy search sees in front of a run

A greedy pattern searches all of the text from a run on, and the character in front of the run is in
sight. If the run is the last piece there is nothing to run across, and the pattern looks at the run
on its own. This saves the search over the whole text, but loses the character in front: the two
searches agree exactly if that character makes no difference to what begins with the run.
-/

namespace Highlight

open Piece (spell)

namespace PatternWith

variable {p : Pattern} {before : Option Char} {run : List Char}

/-- What begins with the run is the same match whether or not the character in front is seen. -/
def Indifferent (p : Pattern) (before : Option Char) (run : List Char) : Prop :=
  (p.hitAt before run).map (Match.ofHit run) = (p.hitAt none run).map (Match.ofHit run)

/-- A hit further on is another match than a hit at the beginning. -/
theorem ofHit_shift_ne {c : Char} {rest : List Char} {h h' : Hit}
    (hh : p.hitAt before (c :: rest) = some h) :
    Match.ofHit (c :: rest) h ≠ Match.ofHit (c :: rest) (h'.shift 1) := by
  intro heq
  have hc := c.utf8Size_pos
  have hstart := congrArg (fun m : Match => m.raw.start) heq
  simp only [Match.ofHit, Text.byteSpan, Text.byteOffset, Hit.shift, Span.shift,
    hitAt_raw_start hh, List.take_zero, List.take_succ_cons, Text.byteLength_nil,
    Text.byteLength_cons] at hstart
  omega

/-- Two searches of a run, with and without the character in front, find the same match exactly if
what begins with the run does not depend on that character. -/
theorem search_eq_iff_indifferent :
    (p.search before run).map (Match.ofHit run) = (p.search none run).map (Match.ofHit run) ↔
      p.Indifferent before run := by
  rw [Indifferent]
  cases run with
  | nil => rw [search_nil, search_nil]
  | cons c rest =>
    rw [search_cons, search_cons]
    cases hseen : p.hitAt before (c :: rest) with
    | none =>
      cases halone : p.hitAt none (c :: rest) with
      | none => exact ⟨fun _ => rfl, fun _ => rfl⟩
      | some h =>
        cases p.search (some c) rest with
        | none => simp
        | some h' => simpa using (ofHit_shift_ne halone).symm
    | some h =>
      cases halone : p.hitAt none (c :: rest) with
      | some h' => exact Iff.rfl
      | none =>
        cases p.search (some c) rest with
        | none => simp
        | some h' => simpa using ofHit_shift_ne hseen

end PatternWith

namespace Target

variable {p : Pattern} {before : Option Char} {run : List Char} {rest : List Piece}

/-- The hit for which a pattern searches at a free run. -/
def sought (p : Pattern) (before : Option Char) (run : List Char) (rest : List Piece) :
    Option Hit :=
  if p.greedy && !rest.isEmpty then p.search before (run ++ spell rest) else p.search none run

/-- The same as a match, if the run begins at byte `start`. -/
def usedMatch? (p : Pattern) (start : Nat) (before : Option Char) (run : List Char)
    (rest : List Piece) : Option Match :=
  (sought p before run rest).map fun hit => (Match.ofHit (run ++ spell rest) hit).shift start

/-- Where a greedy pattern leads from a free run, by what it has found. -/
def ofHit? (run : List Char) (rest : List Piece) : Option Hit → Target
  | some hit => across hit.token (.free run :: rest)
  | none => if rest.isEmpty then .behind [.free run] [] else .nowhere

theorem sought_last : sought p before run [] = p.search none run :=
  if_neg (by simp)

theorem sought_ahead (hgreedy : p.greedy = true) (hrest : rest ≠ []) :
    sought p before run rest = p.search before (run ++ spell rest) :=
  if_pos (by simpa [hgreedy] using hrest)

/-- Across a single run there is nothing to dissolve: the claim is one within the run. -/
theorem across_lone {token : Span} (hne : token.start < token.stop) (hle : token.stop ≤ run.length) :
    across token [.free run] = .claim (.within token run []) := by
  have hlocate : Piece.locate token.start [.free run] = ([], token.start, [.free run]) := by
    rw [Piece.locate, if_neg]
    rw [Piece.text_free]
    omega
  have hlen : token.start + token.length = token.stop := by
    rw [Span.length]
    omega
  rw [across, hlocate]
  dsimp only
  rw [Piece.absorb_free, Piece.absorb, List.append_nil, hlen]
  rfl

/-- What a greedy pattern does at a run follows from the hit it has sought, in one and the same way
whether or not the run is the last piece. -/
theorem ofRun_greedy (hgreedy : p.greedy = true) :
    ofRun p before run rest = ofHit? run rest (sought p before run rest) := by
  cases rest with
  | nil =>
    rw [ofRun_eq_alone (.inr rfl), sought_last]
    cases hs : p.search none run with
    | none => rfl
    | some hit =>
      have hw := PatternWith.search_within hs
      exact (across_lone hw.nonempty hw.stop_le).symm
  | cons piece rest =>
    have hrest : piece :: rest ≠ [] := List.cons_ne_nil _ _
    rw [ofRun_eq_across hgreedy hrest, sought_ahead hgreedy hrest]
    cases p.search before (run ++ spell (piece :: rest)) <;> rfl

end Target

open Target (usedMatch?)
open Text (slice byteLength)

namespace Grammar

/-- While the text is divided, a sweep of `p` comes to the run, with `rest` behind it, and the run
begins before the limit of the sweep. -/
def Visits (g : Grammar) (text : List Char) (p : Pattern) (before : Option Char) (run : List Char)
    (rest : List Piece) : Prop :=
  ∃ earlier kind fuel limit, limit ≠ some 0 ∧
    Stage.Reaches (g.startStage text)
      (.sweep earlier kind p (fuel + 1) limit before (.free run :: rest))

/-- Wherever a greedy pattern comes to a run, the match it uses is the first one in the whole span
from the run on, with what precedes the run in sight. -/
def SeesContext (g : Grammar) (text : String) (s : Span) : Prop :=
  ∀ p front before run rest, p.greedy = true →
    g.Visits (slice text.toList s) p before run rest →
    slice text.toList s = front ++ (run ++ spell rest) →
    usedMatch? p (s.start + byteLength front) before run rest =
      (p.tryMatch? (String.ofList (slice text.toList s)) (byteLength front)).map (·.shift s.start)

variable {g : Grammar} {text : List Char} {p : Pattern} {before : Option Char} {run : List Char}
  {rest : List Piece}

/-- All that a sweep knows of the text in front of a run is the last character of it. -/
theorem Visits.before_eq (h : g.Visits text p before run rest) {front : List Char}
    (htext : text = front ++ (run ++ spell rest)) : before = Text.lastOr none front := by
  obtain ⟨earlier, kind, fuel, limit, -, hreaches⟩ := h
  have hstart := Stage.behind_start g.rules.reverse text.length none text
  obtain ⟨front', hbehind⟩ := hreaches.exists_behind hstart
  have hfront : front = front' := List.append_cancel_right (htext.symm.trans hbehind.text_eq)
  rw [hfront]
  exact hbehind.before_eq

theorem Visits.exists_front (h : g.Visits text p before run rest) :
    ∃ front, text = front ++ (run ++ spell rest) := by
  obtain ⟨earlier, kind, fuel, limit, -, hreaches⟩ := h
  have hstart := Stage.behind_start g.rules.reverse text.length none text
  obtain ⟨front, hbehind⟩ := hreaches.exists_behind hstart
  exact ⟨front, hbehind.text_eq⟩

/-- The search of a whole span from a run on. -/
theorem Visits.tryMatch?_eq (h : g.Visits text p before run rest) {front : List Char}
    (htext : text = front ++ (run ++ spell rest)) (start : Nat) :
    (p.tryMatch? (String.ofList text) (byteLength front)).map (·.shift start) =
      (p.search before (run ++ spell rest)).map fun hit =>
        (Match.ofHit (run ++ spell rest) hit).shift (start + byteLength front) := by
  rw [h.before_eq htext, htext, PatternWith.tryMatch?_append, Option.map_map]
  simp only [Function.comp_def, Match.shift_shift, Nat.add_comm]

theorem usedMatch?_ahead (h : g.Visits text p before run rest) (hgreedy : p.greedy = true)
    (hrest : rest ≠ []) {front : List Char} (htext : text = front ++ (run ++ spell rest))
    (start : Nat) :
    usedMatch? p (start + byteLength front) before run rest =
      (p.tryMatch? (String.ofList text) (byteLength front)).map (·.shift start) := by
  rw [h.tryMatch?_eq htext, usedMatch?, Target.sought_ahead hgreedy hrest]

theorem usedMatch?_last {text : String} {s : Span} {front : List Char}
    (hpart : Text.IsPart text.toList s (front ++ (run ++ spell []))) :
    usedMatch? p (s.start + byteLength front) before run [] =
      p.findIn? text ⟨s.start + byteLength front, s.start + byteLength front + byteLength run⟩ := by
  rw [Piece.spell_nil, ← List.append_assoc] at hpart
  rw [p.findIn?_part hpart.middle, usedMatch?, Target.sought_last, Piece.spell_nil, List.append_nil]

/-- At the last run the two searches agree exactly if the character in front makes no difference. -/
theorem usedMatch?_last_iff (h : g.Visits text p before run []) {front : List Char}
    (htext : text = front ++ (run ++ spell [])) (start : Nat) :
    usedMatch? p (start + byteLength front) before run [] =
      (p.tryMatch? (String.ofList text) (byteLength front)).map (·.shift start) ↔
    p.Indifferent before run := by
  rw [h.tryMatch?_eq htext, usedMatch?, Target.sought_last, Piece.spell_nil, List.append_nil,
    ← PatternWith.search_eq_iff_indifferent, eq_comm]
  have hshift : ∀ found : Option Hit,
      found.map (fun hit => (Match.ofHit run hit).shift (start + byteLength front)) =
        (found.map (Match.ofHit run)).map (·.shift (start + byteLength front)) := by
    intro found
    rw [Option.map_map]
    rfl
  rw [hshift, hshift]
  exact Option.map_inj_right fun _ _ => Match.shift_injective _

/-- What a greedy pattern does at a run follows from the match it uses. That is the first one in the
whole span from the run on, with what precedes the run in sight, unless the run is the last piece: then
it is the first one in the run on its own. So every search sees what precedes its run exactly if at the
last runs this makes no difference. -/
theorem seesContext_iff_indifferent (g : Grammar) (text : String) (s : Span)
    (hs : Text.OnBoundaries text.toList s) :
    (∀ p front before run rest, p.greedy = true → g.Visits (slice text.toList s) p before run rest →
      slice text.toList s = front ++ (run ++ spell rest) →
      Target.ofRun p before run rest = Target.ofHit? run rest (Target.sought p before run rest) ∧
      usedMatch? p (s.start + byteLength front) before run rest =
        if rest.isEmpty then
          p.findIn? text ⟨s.start + byteLength front, s.start + byteLength front + byteLength run⟩
        else
          (p.tryMatch? (String.ofList (slice text.toList s)) (byteLength front)).map
            (·.shift s.start)) ∧
    (g.SeesContext text s ↔ ∀ p before run, p.greedy = true →
      g.Visits (slice text.toList s) p before run [] → p.Indifferent before run) := by
  refine ⟨?_, ?_, ?_⟩
  · intro p front before run rest hgreedy hvisit hfront
    refine ⟨Target.ofRun_greedy hgreedy, ?_⟩
    cases rest with
    | nil =>
      have hpart := hs.isPart
      rw [hfront] at hpart
      exact usedMatch?_last hpart
    | cons piece rest => exact usedMatch?_ahead hvisit hgreedy (List.cons_ne_nil _ _) hfront s.start
  · intro hall p before run hgreedy hvisit
    obtain ⟨front, hfront⟩ := hvisit.exists_front
    exact (usedMatch?_last_iff hvisit hfront s.start).mp
      (hall p front before run [] hgreedy hvisit hfront)
  · intro hall p front before run rest hgreedy hvisit hfront
    cases rest with
    | nil => exact (usedMatch?_last_iff hvisit hfront s.start).mpr (hall p before run hgreedy hvisit)
    | cons piece rest => exact usedMatch?_ahead hvisit hgreedy (List.cons_ne_nil _ _) hfront s.start

namespace Anchored

/-- A `b` at the beginning of the text, greedy. -/
def second : Pattern where
  regex := .ofExpr "^b" (.cat (.anchor .textStart) (.literal ['b']))
  greedy := true

/-- Each `a`. -/
def first : Pattern where
  regex := .ofExpr "a" (.literal ['a'])

/-- Each `a`, and then a `b` with which the text begins. -/
def grammar : Grammar := .mk "anchored" [⟨"a", [first]⟩, ⟨"b", [second]⟩]

theorem applyRules_first :
    applyRules [⟨"a", [first]⟩] 2 none none (Piece.ofFree ['a', 'b']) =
      [.claimed ⟨"a", first, ['a']⟩, .free ['b']] := by rfl

/-- The second rule comes to the last run behind the token of the first. -/
theorem visits : grammar.Visits ['a', 'b'] second (some 'a') ['b'] [] := by
  have hsplit : (⟨"b", [second]⟩ : Rule).patterns = [] ++ second :: [] := rfl
  refine ⟨[⟨"a", [first]⟩], "b", 0, none, by simp, .next (.pattern hsplit) ?_⟩
  change Stage.Reaches (.sweep [⟨"a", [first]⟩] "b" second 2 none none
    (applyRules [⟨"a", [first]⟩] 2 none none (Piece.ofFree ['a', 'b']))) _
  rw [applyRules_first]
  exact .next .token (.refl _)

end Anchored

/-- In a span away from the beginning, a last run at which it does make a difference. -/
theorem anchored_not_seesContext :
    Text.OnBoundaries "éab".toList ⟨2, 4⟩ ∧ ¬ Anchored.grammar.SeesContext "éab" ⟨2, 4⟩ := by
  have hs : Text.OnBoundaries "éab".toList ⟨2, 4⟩ :=
    ⟨by decide, by decide +kernel, by decide +kernel⟩
  have hslice : slice "éab".toList ⟨2, 4⟩ = ['a', 'b'] := by decide +kernel
  have hiff := (seesContext_iff_indifferent Anchored.grammar "éab" ⟨2, 4⟩ hs).2
  refine ⟨hs, fun hsees => ?_⟩
  have hsame : Anchored.second.Indifferent (some 'a') ['b'] := by
    apply hiff.mp hsees Anchored.second (some 'a') ['b'] rfl
    rw [hslice]
    exact Anchored.visits
  revert hsame
  rw [PatternWith.Indifferent]
  decide +kernel

/-- So a greedy search need not see what precedes its run. -/
theorem not_forall_seesContext :
    ¬ ∀ (g : Grammar) (text : String) (s : Span), Text.OnBoundaries text.toList s →
      g.SeesContext text s := by
  intro hall
  have hs : Text.OnBoundaries "ab".toList ⟨0, 2⟩ :=
    ⟨by decide, by decide +kernel, by decide +kernel⟩
  have hslice : slice "ab".toList ⟨0, 2⟩ = ['a', 'b'] := by decide +kernel
  have hsees := hall Anchored.grammar "ab" ⟨0, 2⟩ hs Anchored.second ['a'] (some 'a') ['b'] [] rfl
  rw [hslice] at hsees
  have hsame := hsees Anchored.visits rfl
  revert hsame
  decide +kernel

end Grammar

end Highlight
