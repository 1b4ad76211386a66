import Highlight.Proofs.Division.Parted
import Highlight.Proofs.Division.Spelling
import Highlight.Proofs.Division.Stages
import Highlight.Proofs.Grammar.Stable

/-!
# Sweeps of steady patterns leave no match before their limit

A steady pattern finds in a part of a run only what it finds, at the same place or before, in the whole
run. So after its sweep no free run holds a match that begins before the limit: the text in front of a
token is a part of the run in which the token was the first match. And sweeps of other patterns keep it so,
since those that are not greedy only cut runs into parts. This goes through all patterns of all rules:
`applyRules_quiet`.

The limit is given by the number of characters behind it, since sweeps never change that.
-/

namespace Highlight

open Piece (spell Solid Parted ofFree)

theorem infix_front {a b cs : List Char} (h : a ++ b <:+: cs) : a <:+: cs :=
  (List.prefix_append a b).isInfix.trans h

theorem infix_behind {a b cs : List Char} (h : a ++ b <:+: cs) : b <:+: cs :=
  (List.suffix_append a b).isInfix.trans h

/-- What a search for the pattern in the run `t`, with `behind` characters behind it, finds begins no more
than `bound` characters before the end. -/
def Late (q : Pattern) (t : List Char) (behind bound : Nat) : Prop :=
  ∀ hit, q.search none t = some hit → t.length + behind ≤ hit.raw.start + bound

namespace Late

variable {q : Pattern} {behind bound : Nat}

theorem of_none {t : List Char} (h : q.search none t = none) : Late q t behind bound := by
  intro hit hs
  rw [h] at hs
  cases hs

theorem of_le {t : List Char} (h : t.length + behind ≤ bound) : Late q t behind bound :=
  fun _ _ => Nat.le_trans h (Nat.le_add_left _ _)

/-- What holds of a run holds of each part of it. -/
theorem part {cs x t y : List Char} (hq : q.StableSearch cs) (hcs : x ++ t ++ y <:+: cs)
    (h : Late q (x ++ t ++ y) behind bound) : Late q t (y.length + behind) bound := by
  intro hit hs
  obtain ⟨hit', hs', hle⟩ := hq x t y hit hcs hs
  have hlate := h hit' hs'
  simp only [List.length_append] at hlate
  omega

/-- Nothing is found in front of the first match. -/
theorem front {cs t y : List Char} (hq : q.StableSearch cs) (hcs : t ++ y <:+: cs) {hit : Hit}
    (hs : q.search none (t ++ y) = some hit) (hstart : t.length ≤ hit.raw.start) :
    Late q t behind bound := by
  refine of_none (Option.eq_none_iff_forall_ne_some.mpr fun early hearly => ?_)
  obtain ⟨hit', hs', hle⟩ := hq [] t y early hcs hearly
  rw [List.nil_append, hs, Option.some.injEq] at hs'
  have hlt := PatternWith.raw_start_lt_of_search hearly
  rw [← hs', List.length_nil] at hle
  omega

end Late

namespace Piece

/-- In each free run, what a search for the pattern finds begins no more than `bound` characters before the
end of the pieces. -/
def Quiet (q : Pattern) (bound : Nat) : List Piece → Prop
  | [] => True
  | .claimed _ :: ps => Quiet q bound ps
  | .free t :: ps => Late q t (spell ps).length bound ∧ Quiet q bound ps

variable {q : Pattern} {bound : Nat}

theorem Quiet.of_append {a b : List Piece} (h : Quiet q bound (a ++ b)) : Quiet q bound b := by
  induction a with
  | nil => exact h
  | cons p a ih =>
    cases p with
    | free t => exact ih h.2
    | claimed c => exact ih h

theorem quiet_ofFree_append {t : List Char} {ps : List Piece}
    (ht : Late q t (spell ps).length bound) (hps : Quiet q bound ps) :
    Quiet q bound (ofFree t ++ ps) := by
  rw [ofFree]
  split
  · exact hps
  · exact ⟨ht, hps⟩

/-- Behind the limit there is nothing to ask for. -/
theorem quiet_of_length_le {ps : List Piece} (h : (spell ps).length ≤ bound) : Quiet q bound ps := by
  induction ps with
  | nil => trivial
  | cons p ps ih =>
    rw [spell_cons, List.length_append] at h
    cases p with
    | free t => exact ⟨.of_le h, ih (by omega)⟩
    | claimed c => exact ih (by omega)

end Piece

open Piece (Quiet)

/-- A claim on a part of a run that a search of that run has found. -/
structure Claim.OnRun (c : Claim) (p : Pattern) (run : List Char) (rest : List Piece) : Prop where
  found : ∃ hit, p.search none run = some hit ∧ hit.token.start = c.before.length
  run_eq : run = c.before ++ (c.token ++ c.after)
  lead : c.lead = ofFree c.before
  rest : c.rest = rest
  single : c.dissolves = false

/-- All claims of a pattern that is not greedy are such. -/
theorem Target.ofRun_claim_onRun {p : Pattern} (hp : p.greedy = false) {before : Option Char}
    {run : List Char} {rest : List Piece} {c : Claim} (h : ofRun p before run rest = .claim c) :
    c.OnRun p run rest := by
  rw [ofRun_eq_alone (.inl hp)] at h
  split at h
  · next hit hs =>
    injection h with h
    have hw := PatternWith.search_within hs
    have hcovers : (Claim.within hit.token run rest).Covers run [] := (within_covers hw.nonempty hw.stop_le).1
    have hoffset : (Claim.within hit.token run rest).offset = hit.token.start :=
      (within_covers hw.nonempty hw.stop_le).2.1
    rw [h] at hcovers hoffset
    have hpassed : c.passed = [] := by rw [← h]; rfl
    have hspell := hcovers.spell
    rw [Piece.spell_nil, List.append_nil, List.append_assoc] at hspell
    refine ⟨⟨hit, hs, ?_⟩, hspell, ?_, by rw [← h]; rfl, by rw [← h]; rfl⟩
    · rw [← hoffset, Claim.offset, hpassed]
      exact Nat.zero_add _
    · rw [Claim.lead, hpassed]
      rfl
  · cases h

/-- Such a pattern passes over a run in which it finds nothing. -/
theorem Target.ofRun_behind_onRun {p : Pattern} (hp : p.greedy = false) {before : Option Char}
    {run : List Char} {rest passed rest' : List Piece}
    (h : ofRun p before run rest = .behind passed rest') :
    passed = [.free run] ∧ rest' = rest ∧ p.search none run = none := by
  rcases ofRun_behind h with ⟨hpassed, hrest, -, hnone⟩ | ⟨_, _, _, hgreedy, -⟩
  · exact ⟨hpassed, hrest, hnone⟩
  · rw [hp] at hgreedy
    cases hgreedy

namespace Claim.OnRun

variable {c : Claim} {p : Pattern} {run : List Char} {rest : List Piece}

theorem aheadOf_eq (h : c.OnRun p run rest)
    (rescan : Nat → Nat → Option Char → List Piece → List Piece) (fuel : Nat)
    (before : Option Char) : c.aheadOf rescan fuel before = c.ahead := by
  rw [aheadOf, h.single, if_neg Bool.false_ne_true]

theorem offset_eq (h : c.OnRun p run rest) : c.offset = c.before.length := by
  rw [← c.length_spell_lead, h.lead, Piece.spell_ofFree]

theorem spell_eq (h : c.OnRun p run rest) :
    spell (.free run :: rest) = c.before ++ c.token ++ spell c.ahead := by
  rw [Piece.spell_cons, Piece.text_free, spell_ahead, h.run_eq, h.rest]
  simp only [List.append_assoc]

end Claim.OnRun

/-- Of the characters ahead, no more than `bound` lie behind the limit. -/
def Confines (limit : Option Nat) (ahead bound : Nat) : Prop :=
  ∀ l, limit = some l → ahead ≤ l + bound

theorem Confines.behind {limit : Option Nat} {passed ahead bound : Nat}
    (h : Confines limit (passed + ahead) bound) : Confines (limit.map (· - passed)) ahead bound := by
  intro l hl
  obtain ⟨l', hl', rfl⟩ := Option.map_eq_some_iff.mp hl
  have hle := h l' hl'
  omega

section Sweep

variable {rescan : Nat → Nat → Option Char → List Piece → List Piece} {kind : String} {p q : Pattern}
  {text : String} {bound : Nat}

/-- The sweep of a steady pattern leaves none of its matches before the limit. -/
theorem sweep_quiet_own (hkeeps : ∀ fuel limit before, Keeps (rescan fuel limit before))
    (hq : q.Steady text) :
    ∀ fuel limit before ps, Solid ps → (spell ps).length ≤ fuel → spell ps <:+: text.toList →
      Confines limit (spell ps).length bound →
      Quiet q bound (sweep rescan kind q fuel limit before ps) := by
  apply sweep_induction_solid (motive := fun _ limit _ ps swept => spell ps <:+: text.toList →
    Confines limit (spell ps).length bound → Quiet q bound swept) hkeeps
  case done => exact fun _ _ _ _ _ => trivial
  case token =>
    intro fuel limit before c rest swept _ ih htext hlimit
    rw [Piece.spell_cons] at htext hlimit
    rw [List.length_append] at hlimit
    exact ih (infix_behind htext) hlimit.behind
  case ends =>
    intro fuel limit before run rest hends htext hlimit
    rw [Piece.spell_cons, Piece.text_free, List.length_append] at hlimit
    rcases hends with rfl | hnowhere | ⟨c, htarget, l, rfl, hle⟩
    · have hbound := hlimit 0 rfl
      exact Piece.quiet_of_length_le (by simpa using hbound)
    · have hgreedy := (Target.ofRun_nowhere hnowhere).1
      rw [hq.greedy] at hgreedy
      cases hgreedy
    · -- the first match in the run begins at the limit or behind it
      have hrun := Target.ofRun_claim_onRun hq.greedy htarget
      obtain ⟨hit, hs, hstart⟩ := hrun.found
      have hbound := hlimit l rfl
      have hraw := PatternWith.raw_start_of_search hq.lookbehind hs
      have hlt := PatternWith.raw_start_lt_of_search hs
      rw [hrun.offset_eq] at hle
      refine ⟨fun hit' hs' => ?_, Piece.quiet_of_length_le (by omega)⟩
      obtain rfl : hit = hit' := Option.some.inj (hs.symm.trans hs')
      omega
  case behind =>
    intro fuel limit before run rest passed rest' swept _ htarget hswept ih htext hlimit
    obtain ⟨rfl, rfl, hnone⟩ := Target.ofRun_behind_onRun hq.greedy htarget
    rw [Piece.spell_cons] at htext hlimit
    rw [List.length_append] at hlimit
    rw [Piece.spell_cons, Piece.spell_nil, List.append_nil] at ih
    exact ⟨.of_none hnone, ih (infix_behind htext) hlimit.behind⟩
  case claim =>
    intro fuel limit before run rest c swept _ _ htarget _ hswept ih htext hlimit
    have hrun := Target.ofRun_claim_onRun hq.greedy htarget
    rw [hrun.aheadOf_eq] at ih
    rw [hrun.spell_eq] at hlimit
    rw [List.length_append, List.length_append, ← hrun.offset_eq] at hlimit
    have hahead : spell c.ahead <:+: text.toList := by
      rw [hrun.spell_eq] at htext
      exact infix_behind htext
    -- in front of the token there is none, since the token is the first match in the run
    obtain ⟨hit, hs, hstart⟩ := hrun.found
    rw [← PatternWith.raw_start_of_search hq.lookbehind hs] at hstart
    rw [Piece.spell_cons, Piece.text_free, hrun.run_eq] at htext
    rw [hrun.run_eq] at hs
    have hfront : ∀ behind, Late q _ behind bound := fun behind =>
      Late.front hq.search (infix_front htext) hs (Nat.le_of_eq hstart.symm)
    rw [hrun.lead]
    exact Piece.quiet_ofFree_append (hfront _) (ih hahead hlimit.behind)

/-- The sweep of a pattern that is not greedy keeps all matches of another one behind the limit. -/
theorem sweep_quiet_other (hkeeps : ∀ fuel limit before, Keeps (rescan fuel limit before))
    (hp : p.greedy = false) (hq : q.StableSearch text.toList) :
    ∀ fuel limit before ps, Solid ps → (spell ps).length ≤ fuel → spell ps <:+: text.toList →
      Parted ps → Quiet q bound ps → Quiet q bound (sweep rescan kind p fuel limit before ps) := by
  apply sweep_induction_solid (motive := fun _ _ _ ps swept => spell ps <:+: text.toList →
    Parted ps → Quiet q bound ps → Quiet q bound swept) hkeeps
  case done => exact fun _ _ _ _ _ _ => trivial
  case token =>
    intro fuel limit before c rest swept _ ih htext hparted hquiet
    rw [Piece.spell_cons] at htext
    exact ih (infix_behind htext) (Piece.parted_claimed.mp hparted) hquiet
  case ends => exact fun _ _ _ _ _ _ _ _ hquiet => hquiet
  case behind =>
    intro fuel limit before run rest passed rest' swept _ htarget hswept ih htext hparted hquiet
    obtain ⟨rfl, rfl, -⟩ := Target.ofRun_behind_onRun hp htarget
    rw [Piece.spell_cons] at htext
    have hlate := hquiet.1
    rw [← hswept] at hlate
    exact ⟨hlate, ih (infix_behind htext) (Piece.parted_free.mp hparted).2 hquiet.2⟩
  case claim =>
    intro fuel limit before run rest c swept _ _ htarget _ hswept ih htext hparted hquiet
    obtain ⟨hbegins, hrest⟩ := Piece.parted_free.mp hparted
    have hrun := Target.ofRun_claim_onRun hp htarget
    have hahead : c.ahead = ofFree c.after ++ rest := by
      rw [Claim.ahead, hrun.rest, Piece.joinFree_of_parted hbegins]
    have hinfix : spell c.ahead <:+: text.toList := by
      rw [hrun.spell_eq] at htext
      exact infix_behind htext
    rw [Piece.spell_cons, Piece.text_free, hrun.run_eq] at htext
    have hrunText := infix_front htext
    have hlate := hquiet.1
    rw [hrun.run_eq] at hlate
    -- what is left of the run on both sides of the token is a part of it
    have hfront : Late q c.before (spell (.claimed ⟨kind, p, c.token⟩ :: swept)).length bound := by
      have hpart := Late.part (x := []) hq hrunText hlate
      rw [Piece.spell_cons, hswept, hrun.rest]
      simpa [Nat.add_assoc] using hpart
    have hbehind : Late q c.after (spell rest).length bound := by
      have hpart := Late.part (x := c.before ++ c.token) (t := c.after) (y := []) hq
        (by simpa using hrunText) (by simpa using hlate)
      simpa using hpart
    rw [hrun.aheadOf_eq, hahead] at ih
    rw [hrun.lead]
    refine Piece.quiet_ofFree_append hfront (ih ?_ ?_ (Piece.quiet_ofFree_append hbehind hquiet.2))
    · rwa [← hahead]
    · rw [← Piece.joinFree_of_parted hbegins]
      exact hrest.joinFree c.after

end Sweep

section Rules

variable {text : String} {q : Pattern} {fuel bound : Nat} {limit : Option Nat} {ps : List Piece}

/-- Pieces of the text, in order for a pass under a limit that has `bound` characters behind it. -/
structure InPass (text : String) (fuel : Nat) (limit : Option Nat) (bound : Nat) (ps : List Piece) :
    Prop where
  solid : Solid ps
  parted : Parted ps
  text : spell ps <:+: text.toList
  fuel : (spell ps).length ≤ fuel
  limit : Confines limit (spell ps).length bound

theorem InPass.keeps {f : List Piece → List Piece} (h : InPass text fuel limit bound ps) (hf : Keeps f)
    (hparted : Parted (f ps)) : InPass text fuel limit bound (f ps) := by
  refine ⟨hf.solid ps h.solid, hparted, ?_, ?_, ?_⟩
  · rw [hf.spell]
    exact h.text
  · rw [hf.spell]
    exact h.fuel
  · rw [hf.spell]
    exact h.limit

def SteadyRules (rules : List Rule) (text : String) : Prop :=
  ∀ rule ∈ rules, ∀ p ∈ rule.patterns, p.Steady text

/-- Behind the sweeps of steady patterns there is none of the matches of any of them before the limit, nor
of a pattern of which there was none before. -/
theorem sweepAll_quiet (earlier : List Rule) (kind : String) {patterns : List Pattern}
    (hpatterns : ∀ p ∈ patterns, p.Steady text) (hq : q.Steady text) (before : Option Char)
    (h : InPass text fuel limit bound ps) (hmem : q ∈ patterns ∨ Quiet q bound ps) :
    Quiet q bound (sweepAll earlier kind patterns fuel limit before ps) := by
  have hkeeps : ∀ fuel limit before, Keeps (rescanWith earlier fuel limit before) :=
    fun fuel limit => applyRules_keeps earlier fuel (some limit)
  induction patterns generalizing ps with
  | nil =>
    rcases hmem with hmem | hquiet
    · cases hmem
    · exact hquiet
  | cons p patterns ih =>
    have hswept : InPass text fuel limit bound (sweep (rescanWith earlier) kind p fuel limit before ps) :=
      h.keeps ⟨sweep_spell hkeeps fuel limit before, sweep_solid hkeeps fuel limit before⟩
        (sweep_parted (fun fuel limit => applyRules_parted_append earlier fuel (some limit)) fuel limit
          before ps [] h.parted)
    refine ih (fun p' hp' => hpatterns p' (List.mem_cons_of_mem _ hp')) hswept ?_
    rcases hmem with hmem | hquiet
    · rcases List.mem_cons.mp hmem with rfl | hmem
      · exact .inr (sweep_quiet_own hkeeps hq fuel limit before ps h.solid h.fuel h.text h.limit)
      · exact .inl hmem
    · have hp := (hpatterns p (List.mem_cons_self ..)).greedy
      exact .inr (sweep_quiet_other hkeeps hp hq.search fuel limit before ps h.solid h.fuel h.text
        h.parted hquiet)

/-- Applying rules of steady patterns leaves no match of any of them before the limit. -/
theorem applyRules_quiet {rules : List Rule} (hrules : SteadyRules rules text) {rule : Rule}
    (hrule : rule ∈ rules) (hq : q ∈ rule.patterns) (before : Option Char)
    (h : InPass text fuel limit bound ps) :
    Quiet q bound (applyRules rules fuel limit before ps) := by
  induction rules with
  | nil => cases hrule
  | cons first earlier ih =>
    have hsteady := hrules rule hrule q hq
    have hdone : InPass text fuel limit bound (applyRules earlier fuel limit before ps) :=
      h.keeps (applyRules_keeps earlier fuel limit before) (applyRules_parted _ _ _ _ _ h.parted)
    rw [applyRules_cons]
    refine sweepAll_quiet earlier first.name (hrules first (List.mem_cons_self ..)) hsteady before hdone ?_
    rcases List.mem_cons.mp hrule with rfl | hearlier
    · exact .inl hq
    · exact .inr (ih (fun r hr => hrules r (List.mem_cons_of_mem _ hr)) hearlier)

end Rules

end Highlight
