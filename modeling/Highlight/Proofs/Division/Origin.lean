import Highlight.Proofs.Division.Sweep

/-!
# Where tokens come from

Every token of a divided text was made by a pattern of the grammar, and bears the name of the rule
that the pattern belongs to. Rescans run only rules of the grammar, so they keep this as well.
-/

namespace Highlight

namespace Piece

/-- All tokens among the pieces were made by patterns of the rules. -/
def From (rules : List Rule) (ps : List Piece) : Prop :=
  ∀ c, .claimed c ∈ ps → ∃ rule ∈ rules, c.kind = rule.name ∧ c.pattern ∈ rule.patterns

theorem from_append {rules : List Rule} {a b : List Piece} :
    From rules (a ++ b) ↔ From rules a ∧ From rules b := by
  simp only [From, List.mem_append]
  constructor
  · intro h
    exact ⟨fun c hc => h c (.inl hc), fun c hc => h c (.inr hc)⟩
  · rintro ⟨ha, hb⟩ c (hc | hc)
    · exact ha c hc
    · exact hb c hc

theorem from_ofFree (rules : List Rule) (t : List Char) : From rules (ofFree t) := by
  intro c hc
  rw [ofFree] at hc
  split at hc <;> simp at hc

theorem From.joinFree {rules : List Rule} {ps : List Piece} (h : From rules ps) (t : List Char) :
    From rules (joinFree t ps) := by
  by_cases ht : t = []
  · rw [ht]
    exact h
  · intro c hc
    apply h
    cases ps with
    | nil => simp [joinFree_nil ht] at hc
    | cons p ps =>
      cases p with
      | free u => simpa [joinFree_free ht] using hc
      | claimed d => simpa [joinFree_claimed ht] using hc

end Piece

open Piece (From from_append from_ofFree)

/-- A sweep of a rule of the grammar makes tokens of that rule only. -/
theorem sweep_from {rules : List Rule} {rule : Rule} {p : Pattern} (hrule : rule ∈ rules)
    (hp : p ∈ rule.patterns) {rescan : Nat → Nat → Option Char → List Piece → List Piece}
    (hrescan : ∀ fuel limit before ps, From rules ps → From rules (rescan fuel limit before ps)) :
    ∀ fuel limit before ps,
      From rules ps → From rules (sweep rescan rule.name p fuel limit before ps) := by
  apply sweep_induction (motive := fun _ _ _ ps swept => From rules ps → From rules swept)
  case spent => exact fun _ _ _ h => h
  case done => exact fun _ _ _ h => h
  case token =>
    intro fuel limit before c rest swept ih h
    obtain ⟨hc, hrest⟩ := from_append.mp (List.singleton_append ▸ h)
    exact from_append.mpr ⟨hc, ih hrest⟩
  case ends => exact fun _ _ _ _ _ _ h => h
  case behind =>
    intro fuel limit before run rest passed rest' swept _ htarget ih h
    rw [(Target.ofRun_behind_cut htarget).1] at h
    exact from_append.mpr ⟨(from_append.mp h).1, ih (from_append.mp h).2⟩
  case claim =>
    intro fuel limit before run rest c swept htarget _ ih h
    obtain ⟨hit, free, region, -, hps, -, -, -⟩ := Target.ofRun_claim htarget
    rw [hps] at h
    have hpassed := (from_append.mp (from_append.mp h).1).1
    have hahead : From rules (c.aheadOf rescan fuel before) := by
      have hrest := (from_append.mp h).2.joinFree c.after
      rw [Claim.aheadOf]
      split
      · exact hrescan _ _ _ _ hrest
      · exact hrest
    refine from_append.mpr ⟨from_append.mpr ⟨hpassed, from_ofFree _ _⟩, ?_⟩
    intro d hd
    rcases List.mem_cons.mp hd with hd | hd
    · cases hd
      exact ⟨rule, hrule, rfl, hp⟩
    · exact ih hahead d hd

/-- So do all sweeps of all rules together. -/
theorem applyRules_from {all rules : List Rule} (hrules : ∀ rule ∈ rules, rule ∈ all) :
    ∀ fuel limit before ps, From all ps → From all (applyRules rules fuel limit before ps) := by
  apply applyRules_induction (motive := fun f => ∀ ps, From all ps → From all (f ps))
  case hid => exact fun _ h => h
  case hcomp => exact fun f g hf hg ps h => hf _ (hg ps h)
  case hsweep =>
    intro rule hrule p hp rescan hrescan
    exact sweep_from (hrules rule hrule) hp hrescan

/-- Every token of a divided text was made by a pattern of the grammar. -/
theorem Grammar.from_divide (g : Grammar) (text : List Char) : From g.rules (g.divide text) :=
  applyRules_from (fun _ hr => List.mem_reverse.mp hr) _ _ _ _ (from_ofFree _ _)

end Highlight
