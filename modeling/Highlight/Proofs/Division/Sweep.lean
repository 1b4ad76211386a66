import Highlight.Division.Basic
import Highlight.Proofs.Division.Pieces

/-!
# What a sweep does, step by step

`Target.ofRun_claim`, `ofRun_behind` and `ofRun_nowhere` say where a pattern may lead from a free
run. `sweep_induction` splits a sweep into its steps, so that a property of all sweeps needs one
argument for each kind of step. From it follows that sweeping spells the same text as before and
never makes an empty piece, whatever the rescan does, as long as the rescan does the same.
-/

namespace Highlight

namespace Target

/-- The two kinds of search: a run on its own, or all of the text ahead. -/
inductive Found (p : Pattern) (before : Option Char) (run : List Char) (rest : List Piece)
    (hit : Hit) : Prop where
  | alone (h : p.search none run = some hit)
  | ahead (hgreedy : p.greedy = true) (hrest : rest ≠ [])
      (h : p.search before (run ++ Piece.spell rest) = some hit)

theorem ofRun_eq_across {p : Pattern} {before : Option Char} {run : List Char} {rest : List Piece}
    (hgreedy : p.greedy = true) (hrest : rest ≠ []) :
    ofRun p before run rest =
      match p.search before (run ++ Piece.spell rest) with
      | some hit => across hit.token (.free run :: rest)
      | none => .nowhere := by
  have hcond : (p.greedy && !rest.isEmpty) = true := by simpa [hgreedy] using hrest
  cases h : p.search before (run ++ Piece.spell rest) <;> rw [ofRun, if_pos hcond] <;> simp only [h]

theorem ofRun_eq_alone {p : Pattern} {before : Option Char} {run : List Char} {rest : List Piece}
    (h : p.greedy = false ∨ rest = []) :
    ofRun p before run rest =
      match p.search none run with
      | some hit => .claim (.within hit.token run rest)
      | none => .behind [.free run] rest := by
  have hcond : ¬ (p.greedy && !rest.isEmpty) = true := by
    rcases h with h | rfl
    · simp [h]
    · simp
  cases hs : p.search none run <;> rw [ofRun, if_neg hcond] <;> simp only [hs]

/-- Which of the two searches a pattern makes. -/
theorem alone_or_ahead (p : Pattern) (rest : List Piece) :
    (p.greedy = false ∨ rest = []) ∨ (p.greedy = true ∧ rest ≠ []) := by
  by_cases hrest : rest = []
  · exact .inl (.inr hrest)
  · cases hg : p.greedy with
    | false => exact .inl (.inl rfl)
    | true => exact .inr ⟨rfl, hrest⟩

theorem ofRun_nowhere {p : Pattern} {before : Option Char} {run : List Char} {rest : List Piece}
    (h : ofRun p before run rest = .nowhere) :
    p.greedy = true ∧ rest ≠ [] ∧ p.search before (run ++ Piece.spell rest) = none := by
  rcases alone_or_ahead p rest with halone | ⟨hgreedy, hrest⟩
  · rw [ofRun_eq_alone halone] at h
    split at h <;> cases h
  · rw [ofRun_eq_across hgreedy hrest] at h
    split at h
    · exact absurd h across_ne_nowhere
    · next hnone => exact ⟨hgreedy, hrest, hnone⟩

theorem ofRun_behind {p : Pattern} {before : Option Char} {run : List Char}
    {rest passed rest' : List Piece} (h : ofRun p before run rest = .behind passed rest') :
    (passed = [.free run] ∧ rest' = rest ∧ (p.greedy = false ∨ rest = []) ∧
      p.search none run = none) ∨
    ∃ hit front c, p.greedy = true ∧ rest ≠ [] ∧
      p.search before (run ++ Piece.spell rest) = some hit ∧
      passed = front ++ [.claimed c] ∧ .free run :: rest = passed ++ rest' ∧
      (Piece.spell front).length ≤ hit.token.start := by
  rcases alone_or_ahead p rest with halone | ⟨hgreedy, hrest⟩
  · rw [ofRun_eq_alone halone] at h
    split at h
    · cases h
    · next hnone =>
      cases h
      exact .inl ⟨rfl, rfl, halone, hnone⟩
  · rw [ofRun_eq_across hgreedy hrest] at h
    split at h
    · next hit hsome =>
      have hw := PatternWith.search_within hsome
      have hne := hw.nonempty
      have hle := hw.stop_le
      obtain ⟨front, c, hpassed, hps, hfront⟩ := across_behind h (by
        rw [Piece.spell_cons, Piece.text_free]
        omega)
      exact .inr ⟨hit, front, c, hgreedy, hrest, hsome, hpassed, hps, hfront⟩
    · cases h

/-- What is passed over and what comes behind it are the pieces that were ahead. -/
theorem ofRun_behind_cut {p : Pattern} {before : Option Char} {run : List Char}
    {rest passed rest' : List Piece} (h : ofRun p before run rest = .behind passed rest') :
    .free run :: rest = passed ++ rest' ∧ passed ≠ [] := by
  rcases ofRun_behind h with ⟨rfl, rfl, -, -⟩ | ⟨_, front, c, -, -, -, rfl, hps, -⟩
  · exact ⟨rfl, List.cons_ne_nil _ _⟩
  · exact ⟨hps, by simp⟩

theorem ofRun_claim {p : Pattern} {before : Option Char} {run : List Char} {rest : List Piece}
    {c : Claim} (h : ofRun p before run rest = .claim c) :
    ∃ hit free region, Found p before run rest hit ∧
      .free run :: rest = c.passed ++ .free free :: region ++ c.rest ∧ c.Covers free region ∧
      c.offset = hit.token.start ∧ c.token.length = hit.token.length := by
  rcases alone_or_ahead p rest with halone | ⟨hgreedy, hrest⟩
  · rw [ofRun_eq_alone halone] at h
    split at h
    · next hit hsome =>
      injection h with h
      subst h
      have hw := PatternWith.search_within hsome
      exact ⟨hit, run, [], .alone hsome, rfl, within_covers hw.nonempty hw.stop_le⟩
    · cases h
  · rw [ofRun_eq_across hgreedy hrest] at h
    split at h
    · next hit hsome =>
      have hw := PatternWith.search_within hsome
      obtain ⟨free, region, hps, hc⟩ := across_claim h hw.nonempty (by
        rw [Piece.spell_cons, Piece.text_free]
        exact hw.stop_le)
      exact ⟨hit, free, region, .ahead hgreedy hrest hsome, hps, hc⟩
    · cases h

/-- Each token that a claim covers is one that the claimed text runs into. -/
theorem ofRun_claim_touches {p : Pattern} {before : Option Char} {run : List Char} {rest : List Piece}
    {c : Claim} (h : ofRun p before run rest = .claim c) {free : List Char} {region : List Piece}
    (hps : .free run :: rest = c.passed ++ .free free :: region ++ c.rest) {a b : List Piece}
    {d : Claimed} (hregion : region = a ++ .claimed d :: b) :
    free.length + (Piece.spell a).length < c.before.length + c.token.length := by
  rcases alone_or_ahead p rest with halone | ⟨hgreedy, hrest⟩
  · rw [ofRun_eq_alone halone] at h
    split at h
    · injection h with h
      have hlength := congrArg List.length hps
      rw [← h, hregion] at hlength
      simp only [Claim.within, List.length_append, List.length_cons, List.length_nil] at hlength
      omega
    · cases h
  · rw [ofRun_eq_across hgreedy hrest] at h
    split at h
    · next hit hsome =>
      have hw := PatternWith.search_within hsome
      exact across_claim_touches h hw.nonempty (by
        rw [Piece.spell_cons, Piece.text_free]
        exact hw.stop_le) hps hregion
    · cases h

end Target

section Sweep

variable {rescan : Nat → Nat → Option Char → List Piece → List Piece} {kind : String} {p : Pattern}

/-- Why a sweep ends at a free run: a limit has been reached, or there is no match ahead. -/
def SweepEnds (p : Pattern) (limit : Option Nat) (before : Option Char) (run : List Char)
    (rest : List Piece) : Prop :=
  limit = some 0 ∨ Target.ofRun p before run rest = .nowhere ∨
    ∃ c, Target.ofRun p before run rest = .claim c ∧ ∃ l, limit = some l ∧ l ≤ c.offset

/-- The pieces behind a new token, once a rescan has gone over them where it is due. -/
def Claim.aheadOf (c : Claim) (rescan : Nat → Nat → Option Char → List Piece → List Piece)
    (fuel : Nat) (before : Option Char) : List Piece :=
  if c.dissolves then rescan fuel c.after.length (Text.lastOr before c.token) c.ahead else c.ahead

theorem sweep_free_ends {fuel : Nat} {limit : Option Nat} {before : Option Char} {run : List Char}
    {rest : List Piece} (h : SweepEnds p limit before run rest) :
    sweep rescan kind p (fuel + 1) limit before (.free run :: rest) = .free run :: rest := by
  rw [sweep]
  split
  · rfl
  · next hlimit =>
    rcases h with rfl | h | ⟨c, h, l, rfl, hl⟩
    · exact absurd rfl hlimit
    · rw [h]
    · rw [h]
      simp [hl]

theorem sweep_free_behind {fuel : Nat} {limit : Option Nat} {before : Option Char}
    {run : List Char} {rest passed rest' : List Piece} (hlimit : limit ≠ some 0)
    (h : Target.ofRun p before run rest = .behind passed rest') :
    sweep rescan kind p (fuel + 1) limit before (.free run :: rest) =
      passed ++ sweep rescan kind p fuel (limit.map (· - (Piece.spell passed).length))
        (Text.lastOr before (Piece.spell passed)) rest' := by
  rw [sweep, if_neg (by simpa using hlimit), h]

theorem sweep_free_claim {fuel : Nat} {limit : Option Nat} {before : Option Char}
    {run : List Char} {rest : List Piece} {c : Claim}
    (h : Target.ofRun p before run rest = .claim c) (hlimit : ∀ l, limit = some l → c.offset < l) :
    sweep rescan kind p (fuel + 1) limit before (.free run :: rest) =
      c.lead ++ .claimed ⟨kind, p, c.token⟩ ::
        sweep rescan kind p fuel (limit.map (· - (c.offset + c.token.length)))
          (Text.lastOr before c.token) (c.aheadOf rescan fuel before) := by
  have hne : ¬ (limit == some 0) = true := by
    intro h0
    have := hlimit 0 (by simpa using h0)
    omega
  have hany : ¬ (limit.any (· ≤ c.offset)) = true := by
    cases limit with
    | none => simp
    | some l =>
      have := hlimit l rfl
      simp only [Option.any_some, decide_eq_true_eq]
      omega
  rw [sweep, if_neg hne, h]
  simp only [hany]
  rfl

/-- A sweep, step by step. -/
theorem sweep_induction
    {motive : Nat → Option Nat → Option Char → List Piece → List Piece → Prop}
    (spent : ∀ limit before pieces, motive 0 limit before pieces pieces)
    (done : ∀ fuel limit before, motive (fuel + 1) limit before [] [])
    (token : ∀ fuel limit before (c : Claimed) rest swept,
      motive fuel (limit.map (· - c.text.length)) (Text.lastOr before c.text) rest swept →
      motive (fuel + 1) limit before (.claimed c :: rest) (.claimed c :: swept))
    (ends : ∀ fuel limit before run rest, SweepEnds p limit before run rest →
      motive (fuel + 1) limit before (.free run :: rest) (.free run :: rest))
    (behind : ∀ fuel limit before run rest passed rest' swept, limit ≠ some 0 →
      Target.ofRun p before run rest = .behind passed rest' →
      motive fuel (limit.map (· - (Piece.spell passed).length))
        (Text.lastOr before (Piece.spell passed)) rest' swept →
      motive (fuel + 1) limit before (.free run :: rest) (passed ++ swept))
    (claim : ∀ fuel limit before run rest c swept, Target.ofRun p before run rest = .claim c →
      (∀ l, limit = some l → c.offset < l) →
      motive fuel (limit.map (· - (c.offset + c.token.length))) (Text.lastOr before c.token)
        (c.aheadOf rescan fuel before) swept →
      motive (fuel + 1) limit before (.free run :: rest)
        (c.lead ++ .claimed ⟨kind, p, c.token⟩ :: swept)) :
    ∀ fuel limit before pieces,
      motive fuel limit before pieces (sweep rescan kind p fuel limit before pieces) := by
  intro fuel
  induction fuel with
  | zero =>
    intro limit before pieces
    rw [sweep]
    exact spent limit before pieces
  | succ fuel ih =>
    intro limit before pieces
    match pieces with
    | [] =>
      rw [sweep]
      exact done fuel limit before
    | .claimed c :: rest =>
      rw [sweep]
      exact token fuel limit before c rest _ (ih _ _ _)
    | .free run :: rest =>
      by_cases hends : SweepEnds p limit before run rest
      · rw [sweep_free_ends hends]
        exact ends fuel limit before run rest hends
      · cases htarget : Target.ofRun p before run rest with
        | nowhere => exact absurd (.inr (.inl htarget)) hends
        | behind passed rest' =>
          have hlimit : limit ≠ some 0 := fun h => hends (.inl h)
          rw [sweep_free_behind hlimit htarget]
          exact behind fuel limit before run rest passed rest' _ hlimit htarget (ih _ _ _)
        | claim c =>
          have hlimit : ∀ l, limit = some l → c.offset < l := by
            intro l hl
            exact Nat.lt_of_not_le fun hle => hends (.inr (.inr ⟨c, htarget, l, hl, hle⟩))
          rw [sweep_free_claim htarget hlimit]
          exact claim fuel limit before run rest c _ htarget hlimit (ih _ _ _)

end Sweep

section ApplyRules

/-- Passes one after another have what doing nothing has and what composing keeps. -/
theorem foldl_passes {α : Type} {motive : (List Piece → List Piece) → Prop}
    {f : List Piece → α → List Piece} {as : List α} (hid : motive fun ps => ps)
    (hcomp : ∀ f g, motive f → motive g → motive fun ps => f (g ps))
    (h : ∀ a ∈ as, motive fun ps => f ps a) : motive fun ps => as.foldl f ps := by
  induction as with
  | nil => exact hid
  | cons a as ih =>
    have ha := h a (List.mem_cons_self ..)
    have has := ih fun b hb => h b (List.mem_cons_of_mem _ hb)
    exact hcomp _ _ has ha

/-- What every sweep of some rules has, given that its rescan has it, applying the rules has. All
passes over the same pieces have the same character in front of them. -/
theorem applyRules_induction_before
    {motive : Option Char → (List Piece → List Piece) → Prop} {rules : List Rule}
    (hid : ∀ before, motive before fun ps => ps)
    (hcomp : ∀ before f g, motive before f → motive before g → motive before fun ps => f (g ps))
    (hsweep : ∀ rule ∈ rules, ∀ p ∈ rule.patterns,
      ∀ rescan : Nat → Nat → Option Char → List Piece → List Piece,
      (∀ fuel limit before, motive before (rescan fuel limit before)) →
      ∀ fuel limit before, motive before (sweep rescan rule.name p fuel limit before)) :
    ∀ fuel limit before, motive before (applyRules rules fuel limit before) := by
  induction rules with
  | nil => exact fun _ _ before => hid before
  | cons rule earlier ih =>
    intro fuel limit before
    have hearlier := ih fun r hr => hsweep r (List.mem_cons_of_mem _ hr)
    have hrule := hsweep rule (List.mem_cons_self ..)
    have hpatterns := foldl_passes (hid before) (hcomp before) fun p hp =>
      hrule p hp _ (fun fuel limit => hearlier fuel (some limit)) fuel limit before
    have hall := hcomp before _ _ hpatterns (hearlier fuel limit before)
    exact hall

/-- The same for what does not depend on the character in front. -/
theorem applyRules_induction {motive : (List Piece → List Piece) → Prop} {rules : List Rule}
    (hid : motive fun ps => ps)
    (hcomp : ∀ f g, motive f → motive g → motive fun ps => f (g ps))
    (hsweep : ∀ rule ∈ rules, ∀ p ∈ rule.patterns,
      ∀ rescan : Nat → Nat → Option Char → List Piece → List Piece,
      (∀ fuel limit before, motive (rescan fuel limit before)) →
      ∀ fuel limit before, motive (sweep rescan rule.name p fuel limit before)) :
    ∀ fuel limit before, motive (applyRules rules fuel limit before) := by
  intro fuel limit before
  apply applyRules_induction_before (motive := fun _ => motive)
  · exact fun _ => hid
  · exact fun _ => hcomp
  · exact hsweep

end ApplyRules

end Highlight
