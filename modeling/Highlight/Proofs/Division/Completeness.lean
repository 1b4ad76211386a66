import Highlight.Proofs.Division.Missed
import Highlight.Proofs.Division.Parted
import Highlight.Proofs.Division.Spelling

/-!
# Which matches are missed

Each rule of the lists here has a single plain pattern. A sweep leaves no match of its own pattern
before its limit (`sweep_complete`). For a pattern that had its turn before, it leaves what was
missed already and what it frees (`sweep_missed`); rescans offer what is freed to that pattern
again, but a rescan may itself free text behind its limit. So a match is missed behind the limit,
or in text that escapes its pattern: `applyRules_complete`.
-/

namespace Highlight

open Piece (spell Solid Parted Missed missed_append missed_claimed missed_free missed_ofFree
  missed_joinFree not_missed_nil not_missed_of_search)
open Stage (Leads Reaches Frees EverFrees Beyond Escapes)

section Claim

variable {c : Claim} {run : List Char} {region ps : List Piece} {q : Pattern}

/-- What is missed in front of a new token was missed before. -/
theorem Claim.Covers.missed_lead (h : c.Covers run region)
    (hps : ps = c.passed ++ .free run :: region ++ c.rest) (hq : q.Plain) {place : Nat}
    (hm : Missed q c.lead place) :
    Missed q ps (place + (c.token.length + (c.after.length + (Piece.spell c.rest).length))) := by
  have hlen := congrArg List.length h.spell
  simp only [List.length_append] at hlen
  rw [hps, List.append_assoc, List.cons_append]
  rcases missed_append hm with ⟨e, he, rfl⟩ | hbefore
  · refine (he.append_right (.free run :: (region ++ c.rest))).cast ?_
    simp only [Piece.spell_ofFree, Piece.spell_cons, Piece.spell_append, Piece.text_free,
      List.length_append]
    omega
  · obtain ⟨x, y, hsplit, hy, rfl⟩ := missed_ofFree hbefore
    -- the run goes on behind what stays in front of the token
    obtain ⟨z, hrun⟩ : ∃ z, run = c.before ++ z := by
      rcases List.append_eq_append_iff.mp (h.spell.trans (List.append_assoc ..)) with
        ⟨mid, hbefore, -⟩ | ⟨mid, hrun, -⟩
      · have := h.begins
        rw [hbefore, List.length_append] at this
        omega
      · exact ⟨mid, hrun⟩
    have hlenrun := congrArg List.length hrun
    rw [List.length_append] at hlenrun
    rw [hrun, hsplit, List.append_assoc]
    refine ((Missed.of_hits (hq.hits_append hy z) _).append_left _).cast ?_
    simp only [Piece.spell_append, List.length_append]
    omega

theorem Claim.length_token_ahead {kind : String} {p : Pattern} {swept : List Piece}
    (hswept : Piece.spell swept = c.after ++ Piece.spell c.rest) :
    (Piece.spell (.claimed ⟨kind, p, c.token⟩ :: swept)).length =
      c.token.length + (c.after.length + (Piece.spell c.rest).length) := by
  rw [Piece.spell_cons, List.length_append, hswept, List.length_append, Piece.text_claimed]

/-- What is missed behind the claim was missed before. -/
theorem Claim.missed_rest (hps : ps = c.passed ++ .free run :: region ++ c.rest) {place : Nat}
    (hm : Missed q c.rest place) : Missed q ps place := by
  rw [hps]
  exact hm.append_left _

/-- What is missed in the leftover of a claim on a single run was missed before. -/
theorem Claim.Covers.missed_after (h : c.Covers run region)
    (hps : ps = c.passed ++ .free run :: region ++ c.rest) (hparted : Parted ps)
    (hsingle : c.dissolves = false) {place : Nat} (hm : Missed q c.ahead place) :
    Missed q ps place := by
  have hregion : region = [] := by
    rw [h.dissolves] at hsingle
    simpa using hsingle
  have hspell := h.spell
  rw [hregion] at hps hspell
  rw [Piece.spell_nil, List.append_nil] at hspell
  rw [List.append_assoc, List.singleton_append] at hps
  have hbegins : Piece.beginsFree c.rest = false := by
    rw [hps] at hparted
    exact (Piece.parted_free.mp hparted.of_append).1
  rw [ahead, Piece.joinFree_of_parted hbegins] at hm
  rcases missed_append hm with ⟨e, he, rfl⟩ | hrest
  · obtain ⟨x, y, hafter, hy, rfl⟩ := missed_ofFree he
    rw [hps, hspell, hafter, ← List.append_assoc]
    exact (Missed.of_hits hy _).append_left _
  · rw [hps]
    exact (hrest.append_left [.free run]).append_left _

end Claim

section Own

variable {p : Pattern}

/-- The place that a search finds comes before all places that are missed. -/
theorem Target.Found.missed_le (hp : p.Plain) {before : Option Char} {run : List Char}
    {rest : List Piece} {hit : Hit} (hfound : Found p before run rest hit) {place : Nat}
    (hm : Missed p (.free run :: rest) place) :
    place + hit.token.start ≤ (spell (.free run :: rest)).length := by
  cases hfound with
  | ahead _ _ hs => exact hm.le_of_search hp hs
  | alone hs =>
    rw [Piece.spell_cons, List.length_append, Piece.text_free]
    rcases missed_free hm with ⟨x, y, rfl, hy, rfl⟩ | hrest
    · have hfirst := hp.search_first hs rfl hy
      rw [List.length_append]
      omega
    · have hle := hrest.le
      have hw := PatternWith.search_within hs
      have hne := hw.nonempty
      have hstop := hw.stop_le
      omega

/-- No place that a sweep passes over is missed. -/
theorem Target.not_missed_behind (hp : p.Plain) {before : Option Char} {run : List Char}
    {rest passed rest' : List Piece} (h : ofRun p before run rest = .behind passed rest')
    (place : Nat) : ¬ Missed p passed place := by
  intro hm
  rcases ofRun_behind h with ⟨rfl, -, -, hnone⟩ | ⟨hit, front, c, -, -, hs, rfl, hps, hstart⟩
  · have hnone' : p.search none (spell [.free run]) = none := by simpa using hnone
    exact not_missed_of_search hp hnone' place hm
  · rcases missed_append hm with ⟨e, he, rfl⟩ | hlast
    · have hs' : p.search before (spell (front ++ [.claimed c] ++ rest')) = some hit := hps ▸ hs
      have hle := (hm.append_right rest').le_of_search hp hs'
      have hpos := he.pos
      simp only [Piece.spell_append, List.length_append] at hle
      omega
    · exact not_missed_nil (missed_claimed hlast)

/-- A sweep that has enough fuel leaves no match of its own pattern before its limit. -/
theorem sweep_complete {rescan : Nat → Nat → Option Char → List Piece → List Piece} {kind : String}
    (hp : p.Plain) (hrescan : ∀ fuel limit before, Keeps (rescan fuel limit before)) :
    ∀ fuel limit before ps, Solid ps → (spell ps).length ≤ fuel → ∀ place,
      Missed p (sweep rescan kind p fuel limit before ps) place →
      Beyond limit (spell ps).length place := by
  apply sweep_induction_solid (motive := fun _ limit _ ps swept => ∀ place,
    Missed p swept place → Beyond limit (spell ps).length place) hrescan
  case done => exact fun _ _ _ place hm => absurd hm not_missed_nil
  case token =>
    intro fuel limit before c rest swept _ ih place hm
    rw [Piece.spell_cons, List.length_append]
    exact (ih place (missed_claimed hm)).of_sub
  case ends =>
    intro fuel limit before run rest hends place hm
    rcases hends with rfl | hnowhere | ⟨c, htarget, l, rfl, hle⟩
    · exact ⟨0, rfl, hm.le⟩
    · obtain ⟨-, -, hnone⟩ := Target.ofRun_nowhere hnowhere
      have hnone' : p.search before (spell (.free run :: rest)) = none := hnone
      exact absurd hm (not_missed_of_search hp hnone' place)
    · obtain ⟨hit, _, _, hfound, -, -, hoffset, -⟩ := Target.ofRun_claim htarget
      have := hfound.missed_le hp hm
      exact ⟨l, rfl, by omega⟩
  case behind =>
    intro fuel limit before run rest passed rest' swept _ htarget _ ih place hm
    rw [(Target.ofRun_behind_cut htarget).1, Piece.spell_append, List.length_append]
    rcases missed_append hm with ⟨e, he, -⟩ | hm
    · exact absurd he (Target.not_missed_behind hp htarget e)
    · exact (ih place hm).of_sub
  case claim =>
    intro fuel limit before run rest c swept _ _ htarget _ hswept ih place hm
    obtain ⟨hit, free, region, hfound, hps, hc, hoffset, -⟩ := Target.ofRun_claim htarget
    have htotal := hc.length_eq hps
    rcases missed_append hm with ⟨e, he, rfl⟩ | hm
    · -- a match in front of the token would have been found before the token
      have hle := hfound.missed_le hp (hc.missed_lead hps hp he)
      have hpos := he.pos
      omega
    · have hbeyond := ih place (missed_claimed hm)
      rw [Claim.spell_aheadOf hrescan, List.length_append] at hbeyond
      rw [htotal]
      exact hbeyond.of_sub

end Own

section Others

variable {q : Pattern} {earlier : List Rule} {kind : String} {p : Pattern}

/-- What a pattern misses after a sweep was missed before, unless a claim that dissolves tokens
accounts for it. `Accounts` says of a stage which places it accounts for. -/
theorem sweep_missed (Accounts : Stage → Nat → Prop) (hq : q.Plain)
    (hleads : ∀ s t place, Leads s t → Accounts t place → Accounts s place)
    (hdissolved : ∀ fuel limit before run rest c place, Solid (.free run :: rest) →
      Parted (.free run :: rest) → (spell (.free run :: rest)).length ≤ fuel + 1 →
      Target.ofRun p before run rest = .claim c → (∀ l, limit = some l → c.offset < l) →
      c.dissolves = true → Missed q (c.aheadOf (rescanWith earlier) fuel before) place →
      Missed q c.rest place ∨
        Accounts (.sweep earlier kind p (fuel + 1) limit before (.free run :: rest)) place) :
    ∀ fuel limit before ps, Solid ps → (spell ps).length ≤ fuel → Parted ps → ∀ place,
      Missed q (sweep (rescanWith earlier) kind p fuel limit before ps) place →
      Missed q ps place ∨ Accounts (.sweep earlier kind p fuel limit before ps) place := by
  apply sweep_induction_solid (motive := fun fuel limit before ps swept => Parted ps → ∀ place,
    Missed q swept place →
    Missed q ps place ∨ Accounts (.sweep earlier kind p fuel limit before ps) place)
    fun fuel limit => applyRules_keeps earlier fuel (some limit)
  case done => exact fun _ _ _ _ place hm => absurd hm not_missed_nil
  case token =>
    intro fuel limit before c rest swept _ ih hparted place hm
    rcases ih (Piece.parted_claimed.mp hparted) place (missed_claimed hm) with hm | haccounts
    · exact .inl (hm.append_left [.claimed c])
    · exact .inr (hleads _ _ place .token haccounts)
  case ends => exact fun _ _ _ _ _ _ _ place hm => .inl hm
  case behind =>
    intro fuel limit before run rest passed rest' swept hlimit htarget hswept ih hparted place hm
    have hcut := (Target.ofRun_behind_cut htarget).1
    rw [hcut] at hparted
    rcases missed_append hm with ⟨e, he, rfl⟩ | hm
    · rw [hswept, hcut]
      exact .inl (he.append_right rest')
    · rcases ih hparted.of_append place hm with hm | haccounts
      · rw [hcut]
        exact .inl (hm.append_left _)
      · exact .inr (hleads _ _ place (.behind hlimit htarget) haccounts)
  case claim =>
    intro fuel limit before run rest c swept hsolid hfuel htarget hlimit hswept ih hparted place hm
    obtain ⟨hit, free, region, -, hps, hc, -, -⟩ := Target.ofRun_claim htarget
    rcases missed_append hm with ⟨e, he, rfl⟩ | hm
    · rw [c.length_token_ahead hswept]
      exact .inl (hc.missed_lead hps hq he)
    have hahead : Parted (c.aheadOf (rescanWith earlier) fuel before) := by
      rw [hps] at hparted
      have hjoined := hparted.of_append.joinFree c.after
      rw [Claim.aheadOf]
      split
      · exact applyRules_parted earlier _ _ _ _ hjoined
      · exact hjoined
    rcases ih hahead place (missed_claimed hm) with hm | haccounts
    · cases hdissolves : c.dissolves with
      | false =>
        rw [Claim.aheadOf, if_neg (by simp [hdissolves])] at hm
        exact .inl (hc.missed_after hps hparted hdissolves hm)
      | true =>
        exact (hdissolved _ _ _ _ _ _ place hsolid hparted hfuel htarget hlimit hdissolves hm).imp
          (Claim.missed_rest hps) id
    · exact .inr (hleads _ _ place (.claim htarget hlimit) haccounts)

end Others

/-- Each of the rules has a single pattern, which is plain. -/
def PlainRules (rules : List Rule) : Prop := ∀ rule ∈ rules, ∃ p, rule.patterns = [p] ∧ p.Plain

section Rules

variable {q : Pattern} {rule : Rule} {rules : List Rule} {p : Pattern}

theorem PlainRules.tail (h : PlainRules (rule :: rules)) : PlainRules rules :=
  fun r hr => h r (List.mem_cons_of_mem _ hr)

theorem PlainRules.head (h : PlainRules (rule :: rules)) :
    ∃ p, rule.patterns = [p] ∧ p.Plain := h rule (List.mem_cons_self ..)

theorem applyRules_single (hrule : rule.patterns = [p]) (fuel : Nat) (limit : Option Nat)
    (before : Option Char) (ps : List Piece) :
    applyRules (rule :: rules) fuel limit before ps =
      sweep (rescanWith rules) rule.name p fuel limit before
        (applyRules rules fuel limit before ps) := by
  rw [applyRules_cons, hrule]
  rfl

theorem Stage.Leads.single (hrule : rule.patterns = [p]) {fuel : Nat} {limit : Option Nat}
    {before : Option Char} {ps : List Piece} :
    Leads (.rules (rule :: rules) fuel limit before ps)
      (.sweep rules rule.name p fuel limit before (applyRules rules fuel limit before ps)) := by
  have hsplit : rule.patterns = [] ++ p :: [] := hrule
  exact .pattern hsplit

/-- What is set free behind a new token is in the reach of the rescan. -/
theorem Claim.ahead_bounds {c : Claim} {run : List Char} {region rest : List Piece} {fuel : Nat}
    (hc : c.Covers run region) (hps : rest = c.passed ++ .free run :: region ++ c.rest)
    (hsolid : Solid rest) (hparted : Parted rest) (hfuel : (Piece.spell rest).length ≤ fuel + 1) :
    Solid c.ahead ∧ (Piece.spell c.ahead).length ≤ fuel ∧ Parted c.ahead := by
  have htotal := hc.length_eq hps
  have hpos := Claim.token_pos hc
  rw [hps] at hsolid hparted
  refine ⟨Piece.solid_joinFree (Piece.solid_append.mp hsolid).2, ?_, hparted.of_append.joinFree _⟩
  rw [spell_ahead, List.length_append]
  omega

/-- What a pattern misses after rules have been applied was missed before, or has been freed. -/
theorem applyRules_missed (hrules : PlainRules rules) (hq : q.Plain) :
    ∀ fuel limit before ps, Solid ps → (spell ps).length ≤ fuel → Parted ps → ∀ place,
      Missed q (applyRules rules fuel limit before ps) place →
      Missed q ps place ∨ EverFrees (.rules rules fuel limit before ps) place := by
  induction rules with
  | nil => exact fun _ _ _ _ _ _ _ _ hm => .inl hm
  | cons rule earlier ih =>
    intro fuel limit before ps hsolid hfuel hparted place hm
    obtain ⟨p, hrule, -⟩ := hrules.head
    have hkeeps := applyRules_keeps earlier fuel limit before
    rw [applyRules_single hrule] at hm
    have hswept := sweep_missed EverFrees hq (fun _ _ _ => EverFrees.of_leads) ?_ fuel limit before _
      (hkeeps.solid ps hsolid) (by rwa [hkeeps.spell]) (applyRules_parted _ _ _ _ _ hparted) place hm
    · rcases hswept with hm | hfrees
      · exact (ih hrules.tail _ _ _ _ hsolid hfuel hparted place hm).imp id (.of_leads .earlier)
      · exact .inr (hfrees.of_leads (.single hrule))
    · intro fuel limit before run rest c place hsolid hparted hfuel htarget hlimit hdissolves hm
      obtain ⟨hit, free, region, -, hps, hc, -, -⟩ := Target.ofRun_claim htarget
      obtain ⟨hs, hf, hpt⟩ := Claim.ahead_bounds hc hps hsolid hparted hfuel
      rw [Claim.aheadOf, if_pos hdissolves] at hm
      rcases ih hrules.tail _ _ _ _ hs hf hpt place hm with hm | hfrees
      · by_cases hle : place ≤ (spell c.rest).length
        · exact .inl (missed_joinFree hm hle)
        · exact .inr ⟨_, .refl _, .claim htarget hlimit hdissolves (by omega) hm.le⟩
      · exact .inr (hfrees.of_leads (.rescan htarget hlimit hdissolves))

/-- A pattern of the rules misses a match only at the limit or behind it, or in text that escapes
the pattern. -/
theorem applyRules_complete (hrules : PlainRules rules) (hq : q.Plain)
    (hmem : ∃ rule ∈ rules, q ∈ rule.patterns) :
    ∀ fuel limit before ps, Solid ps → (spell ps).length ≤ fuel → Parted ps → ∀ place,
      Missed q (applyRules rules fuel limit before ps) place →
      Beyond limit (spell ps).length place ∨ Escapes q (.rules rules fuel limit before ps) place := by
  induction rules with
  | nil => simp at hmem
  | cons rule earlier ih =>
    intro fuel limit before ps hsolid hfuel hparted place hm
    obtain ⟨p, hrule, hp⟩ := hrules.head
    have hkeeps := applyRules_keeps earlier fuel limit before
    have hsolid' := hkeeps.solid ps hsolid
    have hspell := hkeeps.spell ps
    rw [applyRules_single hrule] at hm
    obtain ⟨r, hr, hqr⟩ := hmem
    rcases List.mem_cons.mp hr with rfl | hr
    · -- the rule's own pattern: its sweep comes last and stops at the limit only
      rw [hrule, List.mem_singleton] at hqr
      rw [hqr] at hm
      have hbeyond := sweep_complete hp (fun fuel limit => applyRules_keeps earlier fuel (some limit))
        fuel limit before _ hsolid' (by rwa [hspell]) place hm
      rw [hspell] at hbeyond
      exact .inl hbeyond
    · -- a pattern that had its turn before: what is freed is offered to it by rescans
      have hswept := sweep_missed (Escapes q) hq (fun _ _ _ => Escapes.of_leads) ?_ fuel limit before _
        hsolid' (by rwa [hspell]) (applyRules_parted _ _ _ _ _ hparted) place hm
      · rcases hswept with hm | hescapes
        · exact (ih hrules.tail ⟨r, hr, hqr⟩ _ _ _ _ hsolid hfuel hparted place hm).imp id
            (.of_leads .earlier)
        · exact .inr (hescapes.of_leads (.single hrule))
      · intro fuel limit before run rest c place hsolid hparted hfuel htarget hlimit hdissolves hm
        obtain ⟨hit, free, region, -, hps, hc, -, -⟩ := Target.ofRun_claim htarget
        obtain ⟨hs, hf, hpt⟩ := Claim.ahead_bounds hc hps hsolid hparted hfuel
        have hleads := @Leads.rescan earlier rule.name p fuel limit before run rest c htarget hlimit
          hdissolves
        rw [Claim.aheadOf, if_pos hdissolves] at hm
        rcases ih hrules.tail ⟨r, hr, hqr⟩ _ _ _ _ hs hf hpt place hm with hbeyond | hescapes
        · rcases applyRules_missed hrules.tail hq _ _ _ _ hs hf hpt place hm with hm | hfrees
          · obtain ⟨l, hl, hle⟩ := hbeyond
            cases hl
            rw [c.spell_ahead, List.length_append] at hle
            exact .inl (missed_joinFree hm (by omega))
          · exact .inr ⟨_, _, _, _, _, .next hleads (.refl _), ⟨r, hr, hqr⟩, hbeyond, hfrees⟩
        · exact .inr (hescapes.of_leads hleads)

def Grammar.startStage (g : Grammar) (text : List Char) : Stage :=
  .rules g.rules.reverse text.length none none (Piece.ofFree text)

/-- Among the pieces of a divided text a plain pattern misses a match only in text that escapes
it. -/
theorem Grammar.escapes_of_missed {g : Grammar} (hg : PlainRules g.rules) {rule : Rule}
    (hrule : rule ∈ g.rules) (hq : q ∈ rule.patterns) {text : List Char} {place : Nat}
    (hm : Missed q (g.divide text) place) : Escapes q (g.startStage text) place := by
  have hrules : PlainRules g.rules.reverse := fun r hr => hg r (List.mem_reverse.mp hr)
  obtain ⟨p, hsingle, hp⟩ := hg rule hrule
  rw [hsingle, List.mem_singleton] at hq
  subst hq
  have hmem : ∃ rule ∈ g.rules.reverse, q ∈ rule.patterns :=
    ⟨rule, List.mem_reverse.mpr hrule, by rw [hsingle]; exact List.mem_singleton_self q⟩
  have hfuel : (spell (Piece.ofFree text)).length ≤ text.length :=
    Nat.le_of_eq (congrArg List.length (Piece.spell_ofFree text))
  rcases applyRules_complete hrules hp hmem text.length none none (Piece.ofFree text)
    (Piece.solid_ofFree text) hfuel (Piece.parted_ofFree text) place hm with ⟨l, hl, -⟩ | hescapes
  · cases hl
  · exact hescapes

end Rules

end Highlight
