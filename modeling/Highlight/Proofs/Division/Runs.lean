import Highlight.Proofs.Division.Claims
import Highlight.Proofs.Division.Spelling
import Highlight.Proofs.Division.Stages

/-!
# Rules without greedy patterns work run by run

A pattern that is not greedy looks at each free run on its own, and what it leaves over of a run never
meets another free run. So a sweep of it puts pieces in the place of each free run, which depend on
nothing but that run, and leaves the tokens alone. This goes on to rules, one pattern after another,
whatever rules come before them.
-/

namespace Highlight

open Piece (spell Solid Parted ofFree)

namespace Piece

/-- Pieces in which other pieces take the place of each free run. -/
def replaceRuns (f : List Char → List Piece) (ps : List Piece) : List Piece :=
  ps.flatMap fun
    | free t => f t
    | claimed c => [claimed c]

variable {f g : List Char → List Piece}

@[simp] theorem replaceRuns_nil : replaceRuns f [] = [] := rfl

@[simp] theorem replaceRuns_free (t : List Char) (ps : List Piece) :
    replaceRuns f (free t :: ps) = f t ++ replaceRuns f ps := rfl

@[simp] theorem replaceRuns_claimed (c : Claimed) (ps : List Piece) :
    replaceRuns f (claimed c :: ps) = claimed c :: replaceRuns f ps := rfl

theorem replaceRuns_append (a b : List Piece) :
    replaceRuns f (a ++ b) = replaceRuns f a ++ replaceRuns f b := List.flatMap_append

theorem replaceRuns_replaceRuns (ps : List Piece) :
    replaceRuns g (replaceRuns f ps) = replaceRuns (fun t => replaceRuns g (f t)) ps := by
  induction ps with
  | nil => rfl
  | cons p ps ih =>
    cases p with
    | free t => rw [replaceRuns_free, replaceRuns_append, ih, replaceRuns_free]
    | claimed c => rw [replaceRuns_claimed, replaceRuns_claimed, ih, replaceRuns_claimed]

theorem replaceRuns_congr {ps : List Piece} (hps : Solid ps) (h : ∀ t, t ≠ [] → f t = g t) :
    replaceRuns f ps = replaceRuns g ps := by
  induction ps with
  | nil => rfl
  | cons p ps ih =>
    obtain ⟨hp, hsolid⟩ := solid_cons.mp hps
    cases p with
    | free t => rw [replaceRuns_free, replaceRuns_free, h t hp, ih hsolid]
    | claimed c => rw [replaceRuns_claimed, replaceRuns_claimed, ih hsolid]

theorem replaceRuns_ofFree {t : List Char} (ht : t ≠ []) : replaceRuns f (ofFree t) = f t := by
  rw [ofFree_of_ne ht, replaceRuns_free, replaceRuns_nil, List.append_nil]

/-- Each free run in its own place. -/
theorem replaceRuns_self {ps : List Piece} (hps : Solid ps) : replaceRuns ofFree ps = ps := by
  induction ps with
  | nil => rfl
  | cons p ps ih =>
    obtain ⟨hp, hsolid⟩ := solid_cons.mp hps
    cases p with
    | free t =>
      rw [replaceRuns_free, ofFree_of_ne (t := t) hp, ih hsolid]
      rfl
    | claimed c => rw [replaceRuns_claimed, ih hsolid]

theorem length_spell_joinFree (t : List Char) (ps : List Piece) :
    (spell (joinFree t ps)).length = t.length + (spell ps).length := by
  rw [spell_joinFree, List.length_append]

end Piece

open Piece (replaceRuns)

/-- A hit cuts the text that was searched in three. -/
theorem Hit.Within.exists_cut {h : Hit} {text : List Char} (hw : h.Within text.length) :
    ∃ lead token after, text = lead ++ (token ++ after) ∧ token ≠ [] ∧
      h.token = ⟨lead.length, lead.length + token.length⟩ := by
  have hne := hw.nonempty
  have hle := hw.stop_le
  obtain ⟨⟨start, stop⟩, htoken⟩ : ∃ s, h.token = s := ⟨_, rfl⟩
  rw [htoken] at hne hle ⊢
  dsimp only at hne hle
  have hlen : ((text.drop start).take (stop - start)).length = stop - start := by
    rw [List.length_take, List.length_drop]
    omega
  refine ⟨text.take start, (text.drop start).take (stop - start), text.drop stop, ?_, ?_, ?_⟩
  · have hcut : text.take start ++ (text.drop start).take (stop - start) ++
        text.drop (start + (stop - start)) = text := take_token_drop text
    rw [Nat.add_sub_cancel' (Nat.le_of_lt hne), List.append_assoc] at hcut
    exact hcut.symm
  · rw [← List.length_pos_iff, hlen]
    omega
  · rw [hlen, List.length_take, Nat.min_eq_left (by omega), Nat.add_sub_cancel' (Nat.le_of_lt hne)]

section Sweep

variable {p : Pattern}

/-- What a sweep puts in the place of a free run. -/
def sweepRun (kind : String) (p : Pattern) (t : List Char) : List Piece :=
  sweep (fun _ _ _ ps => ps) kind p t.length none none (ofFree t)

theorem sweep_eq_replaceRuns (hp : p.greedy = false) (kind : String) (n : Nat) :
    ∀ (rescan : Nat → Nat → Option Char → List Piece → List Piece) fuel before ps, Solid ps →
      Parted ps → (spell ps).length ≤ n → (spell ps).length ≤ fuel →
      sweep rescan kind p fuel none before ps = replaceRuns (sweepRun kind p) ps := by
  induction n with
  | zero =>
    intro rescan fuel before ps hsolid _ hn _
    cases ps with
    | nil => exact sweep_nil
    | cons q ps =>
      have := Piece.length_spell_pos hsolid (List.cons_ne_nil _ _)
      omega
  | succ n ih =>
    intro rescan fuel before ps hsolid hparted hn hfuel
    cases ps with
    | nil => exact sweep_nil
    | cons q rest =>
      obtain ⟨hq, hrest⟩ := Piece.solid_cons.mp hsolid
      have hpos := List.length_pos_iff.mpr hq
      rw [Piece.spell_cons, List.length_append] at hn hfuel
      obtain ⟨fuel, rfl⟩ : ∃ k, fuel = k + 1 := ⟨fuel - 1, by omega⟩
      cases q with
      | claimed c =>
        have htail := ih rescan fuel (Text.lastOr before c.text) rest hrest
          (Piece.parted_claimed.mp hparted) (by omega) (by omega)
        rw [sweep, Option.map_none, htail, Piece.replaceRuns_claimed]
      | free run =>
        rw [Piece.text_free] at hq hpos hn hfuel
        obtain ⟨hbegins, hparted⟩ := Piece.parted_free.mp hparted
        obtain ⟨k, hk⟩ : ∃ k, run.length = k + 1 := ⟨run.length - 1, by omega⟩
        rw [Piece.replaceRuns_free, sweepRun, Piece.ofFree_of_ne hq, hk]
        cases hs : p.search none run with
        | none =>
          have htail := ih rescan fuel (Text.lastOr before run) rest hrest hparted (by omega) (by omega)
          rw [sweep_alone_none (.inl hp) hs, sweep_alone_none (.inl hp) hs, sweep_nil, htail]
          rfl
        | some hit =>
          obtain ⟨lead, token, after, hrun, htoken, hspan⟩ := (PatternWith.search_within hs).exists_cut
          have hlen := congrArg List.length hrun
          rw [List.length_append, List.length_append] at hlen
          have htoken' := List.length_pos_iff.mpr htoken
          have hnone : Parted [] := trivial
          -- what is left of the run is swept in the same way, with the rest behind it or alone
          have htail := ih rescan fuel (Text.lastOr before token) (Piece.joinFree after rest)
            (Piece.solid_joinFree hrest) (hparted.joinFree after)
          have halone := ih (fun _ _ _ ps => ps) k (Text.lastOr none token) (Piece.joinFree after [])
            (Piece.solid_joinFree Piece.solid_nil) (hnone.joinFree after)
          rw [Piece.length_spell_joinFree] at htail halone
          rw [Piece.spell_nil, List.length_nil] at halone
          rw [sweep_alone_some (.inl hp) hs hrun hspan, sweep_alone_some (.inl hp) hs hrun hspan,
            htail (by omega) (by omega), halone (by omega) (by omega), Piece.joinFree_of_parted hbegins,
            Piece.joinFree_nil_eq, Piece.replaceRuns_append]
          simp only [List.append_assoc, List.cons_append]

/-- A run in which nothing is found stays as it is. -/
theorem sweepRun_of_none (hp : p.greedy = false) (kind : String) {t : List Char}
    (hs : p.search none t = none) : sweepRun kind p t = ofFree t := by
  by_cases ht : t = []
  · rw [ht]
    exact sweep_nil
  · obtain ⟨k, hk⟩ : ∃ k, t.length = k + 1 :=
      ⟨t.length - 1, by have := List.length_pos_iff.mpr ht; omega⟩
    rw [sweepRun, hk, Piece.ofFree_of_ne ht, sweep_alone_none (.inl hp) hs, sweep_nil]

/-- What is found in a run is claimed, and what is left of the run is swept on its own. -/
theorem sweepRun_of_some (hp : p.greedy = false) (kind : String) {t lead token after : List Char}
    {hit : Hit} (hs : p.search none t = some hit) (hrun : t = lead ++ (token ++ after))
    (htoken : hit.token = ⟨lead.length, lead.length + token.length⟩) :
    sweepRun kind p t = ofFree lead ++ .claimed ⟨kind, p, token⟩ :: sweepRun kind p after := by
  have hpos : 0 < token.length := by
    have hne := (PatternWith.search_within hs).nonempty
    rw [htoken] at hne
    exact Nat.lt_add_right_iff_pos.mp hne
  have hlen := congrArg List.length hrun
  rw [List.length_append, List.length_append] at hlen
  have ht : t ≠ [] := List.length_pos_iff.mp (by omega)
  obtain ⟨k, hk⟩ : ∃ k, t.length = k + 1 := ⟨t.length - 1, by omega⟩
  have hafter : (spell (ofFree after)).length = after.length := by rw [Piece.spell_ofFree]
  have hrest := sweep_eq_replaceRuns hp kind k (fun _ _ _ ps => ps) k (Text.lastOr none token)
    (ofFree after) (Piece.solid_ofFree after) (Piece.parted_ofFree after) (by omega) (by omega)
  have hswept : replaceRuns (sweepRun kind p) (ofFree after) = sweepRun kind p after := by
    by_cases hne : after = []
    · rw [hne]
      exact sweep_nil.symm
    · exact Piece.replaceRuns_ofFree hne
  rw [sweepRun, hk, Piece.ofFree_of_ne ht, sweep_alone_some (.inl hp) hs hrun htoken,
    Piece.joinFree_nil_eq, hrest, hswept]

end Sweep

section Rules

variable {rules : List Rule} {rule : Rule}

/-- No pattern of the rules is greedy. -/
def Unassuming (rules : List Rule) : Prop :=
  ∀ rule ∈ rules, ∀ p ∈ rule.patterns, p.greedy = false

/-- What a pass over pieces does to each free run, if it has enough fuel. -/
structure RunByRun (pass : Nat → Option Char → List Piece → List Piece)
    (f : List Char → List Piece) : Prop where
  keeps : ∀ fuel before, Keeps (pass fuel before)
  parted : ∀ fuel before ps, Parted ps → Parted (pass fuel before ps)
  eq : ∀ fuel before ps, Solid ps → Parted ps → (spell ps).length ≤ fuel →
    pass fuel before ps = replaceRuns f ps

theorem RunByRun.id : RunByRun (fun _ _ ps => ps) ofFree := by
  constructor
  · exact fun _ _ => Keeps.id
  · exact fun _ _ _ h => h
  · exact fun _ _ ps hsolid _ _ => (Piece.replaceRuns_self hsolid).symm

/-- One pass behind another. -/
theorem RunByRun.comp {pass pass' : Nat → Option Char → List Piece → List Piece}
    {f f' : List Char → List Piece} (h' : RunByRun pass' f') (h : RunByRun pass f) :
    RunByRun (fun fuel before ps => pass' fuel before (pass fuel before ps))
      (fun t => replaceRuns f' (f t)) := by
  constructor
  · exact fun fuel before => (h'.keeps fuel before).comp (h.keeps fuel before)
  · exact fun fuel before ps hparted => h'.parted _ _ _ (h.parted _ _ _ hparted)
  · intro fuel before ps hsolid hparted hfuel
    have hkeeps := h.keeps fuel before
    have hlen : (spell (pass fuel before ps)).length ≤ fuel := by rwa [hkeeps.spell]
    rw [h'.eq _ _ _ (hkeeps.solid ps hsolid) (h.parted _ _ _ hparted) hlen,
      h.eq _ _ _ hsolid hparted hfuel, Piece.replaceRuns_replaceRuns]

theorem sweep_runByRun {p : Pattern} (hp : p.greedy = false) (earlier : List Rule) (kind : String) :
    RunByRun (fun fuel => sweep (rescanWith earlier) kind p fuel none) (sweepRun kind p) := by
  have hrescan : ∀ fuel limit before, Keeps (rescanWith earlier fuel limit before) :=
    fun fuel limit => applyRules_keeps earlier fuel (some limit)
  constructor
  · intro fuel before
    exact ⟨sweep_spell hrescan fuel none before, sweep_solid hrescan fuel none before⟩
  · intro fuel before ps
    exact sweep_parted (fun fuel limit => applyRules_parted_append earlier fuel (some limit)) fuel none
      before ps []
  · intro fuel before ps hsolid hparted hfuel
    exact sweep_eq_replaceRuns hp kind fuel _ _ _ _ hsolid hparted hfuel hfuel

theorem sweepAll_runByRun {patterns : List Pattern} (hpatterns : ∀ p ∈ patterns, p.greedy = false)
    (kind : String) :
    ∃ f, ∀ earlier, RunByRun (fun fuel => sweepAll earlier kind patterns fuel none) f := by
  induction patterns with
  | nil => exact ⟨ofFree, fun _ => .id⟩
  | cons p patterns ih =>
    obtain ⟨f, hf⟩ := ih fun q hq => hpatterns q (List.mem_cons_of_mem _ hq)
    refine ⟨fun t => replaceRuns f (sweepRun kind p t), fun earlier => ?_⟩
    exact (hf earlier).comp (sweep_runByRun (hpatterns p (List.mem_cons_self ..)) earlier kind)

/-- Rules without greedy patterns work run by run on what the rules before them have left. -/
theorem applyRules_append (hrules : Unassuming rules) :
    ∃ f, ∀ earlier fuel before ps, Solid ps → Parted ps → (spell ps).length ≤ fuel →
      applyRules (rules ++ earlier) fuel none before ps =
        replaceRuns f (applyRules earlier fuel none before ps) := by
  induction rules with
  | nil =>
    refine ⟨ofFree, ?_⟩
    intro earlier fuel before ps hsolid _ _
    exact (Piece.replaceRuns_self ((applyRules_keeps earlier fuel none before).solid ps hsolid)).symm
  | cons rule rules ih =>
    obtain ⟨f, hf⟩ := ih fun r hr => hrules r (List.mem_cons_of_mem _ hr)
    obtain ⟨g, hg⟩ := sweepAll_runByRun (hrules rule (List.mem_cons_self ..)) rule.name
    refine ⟨fun t => replaceRuns g (f t), ?_⟩
    intro earlier fuel before ps hsolid hparted hfuel
    have hkeeps := applyRules_keeps (rules ++ earlier) fuel none before
    have hlen : (spell (applyRules (rules ++ earlier) fuel none before ps)).length ≤ fuel := by
      rwa [hkeeps.spell]
    rw [List.cons_append, applyRules_cons, (hg (rules ++ earlier)).eq _ _ _ (hkeeps.solid ps hsolid)
      (applyRules_parted _ _ _ _ _ hparted) hlen, hf earlier _ _ _ hsolid hparted hfuel,
      Piece.replaceRuns_replaceRuns]

end Rules

/-- Rules without greedy patterns divide each run that the rules before them leave as they divide that
run on its own. -/
theorem Grammar.divide_append (name first' later' : String) (first later : List Rule)
    (hlater : Unassuming later) (text : List Char) :
    (Grammar.mk name (first ++ later)).divide text =
      replaceRuns (Grammar.mk later' later).divide ((Grammar.mk first' first).divide text) := by
  have hreverse : Unassuming later.reverse := fun r hr => hlater r (List.mem_reverse.mp hr)
  obtain ⟨f, hf⟩ := applyRules_append hreverse
  have hfuel : ∀ t : List Char, (spell (ofFree t)).length ≤ t.length :=
    fun t => Nat.le_of_eq (congrArg List.length (Piece.spell_ofFree t))
  have hwhole := hf first.reverse text.length none (ofFree text) (Piece.solid_ofFree text)
    (Piece.parted_ofFree text) (hfuel text)
  have hrun : ∀ t, t ≠ [] → f t = (Grammar.mk later' later).divide t := by
    intro t ht
    have halone := hf [] t.length none (ofFree t) (Piece.solid_ofFree t) (Piece.parted_ofFree t)
      (hfuel t)
    rw [List.append_nil, applyRules, Piece.replaceRuns_ofFree ht] at halone
    exact halone.symm
  rw [divide, rules, List.reverse_append, hwhole]
  exact Piece.replaceRuns_congr ((Grammar.mk first' first).solid_divide text) hrun

end Highlight
