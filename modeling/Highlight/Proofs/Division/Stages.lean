import Highlight.Proofs.Division.Sweep

/-!
# The stages of applying rules

Applying rules goes through stages: the rules of a list are about to be applied, or a pattern is
about to sweep what is left of the pieces. `Stage.Leads` has one case for each way in which one
stage brings about another. A stage frees text where it claims across tokens. Such text escapes a
pattern if a rescan that holds the pattern frees it behind the limit of the rescan: the pattern
has had its turn in that rescan, or will stop at the limit.

Places are given by the number of characters behind them, since sweeps never change that.
-/

namespace Highlight

/-- What a sweep offers freed text to: the rules of higher priority, up to a limit. -/
def rescanWith (earlier : List Rule) (fuel limit : Nat) :
    Option Char → List Piece → List Piece :=
  applyRules earlier fuel (some limit)

/-- The pieces when the first patterns of a rule have swept them. -/
def sweepAll (earlier : List Rule) (kind : String) (patterns : List Pattern) (fuel : Nat)
    (limit : Option Nat) (before : Option Char) (pieces : List Piece) : List Piece :=
  patterns.foldl (fun pieces p => sweep (rescanWith earlier) kind p fuel limit before pieces) pieces

theorem applyRules_cons (rule : Rule) (earlier : List Rule) (fuel : Nat) (limit : Option Nat)
    (before : Option Char) (pieces : List Piece) :
    applyRules (rule :: earlier) fuel limit before pieces =
      sweepAll earlier rule.name rule.patterns fuel limit before
        (applyRules earlier fuel limit before pieces) := rfl

/-- A point in the course of applying rules. -/
inductive Stage where
  /-- Rules are about to be applied, the one with the lowest priority first in the list. -/
  | rules (rules : List Rule) (fuel : Nat) (limit : Option Nat) (before : Option Char)
      (pieces : List Piece)
  /-- A pattern is about to sweep pieces; `earlier` are the rules before its own. -/
  | sweep (earlier : List Rule) (kind : String) (p : Pattern) (fuel : Nat) (limit : Option Nat)
      (before : Option Char) (pieces : List Piece)

namespace Stage

/-- What a stage brings about next. -/
inductive Leads : Stage → Stage → Prop where
  | earlier {rule : Rule} {earlier : List Rule} {fuel : Nat} {limit : Option Nat}
      {before : Option Char} {pieces : List Piece} :
      Leads (rules (rule :: earlier) fuel limit before pieces)
        (rules earlier fuel limit before pieces)
  | pattern {rule : Rule} {earlier : List Rule} {fuel : Nat} {limit : Option Nat}
      {before : Option Char} {pieces : List Piece} {done todo : List Pattern} {p : Pattern}
      (h : rule.patterns = done ++ p :: todo) :
      Leads (rules (rule :: earlier) fuel limit before pieces)
        (sweep earlier rule.name p fuel limit before
          (sweepAll earlier rule.name done fuel limit before
            (applyRules earlier fuel limit before pieces)))
  | token {earlier : List Rule} {kind : String} {p : Pattern} {fuel : Nat} {limit : Option Nat}
      {before : Option Char} {c : Claimed} {rest : List Piece} :
      Leads (sweep earlier kind p (fuel + 1) limit before (.claimed c :: rest))
        (sweep earlier kind p fuel (limit.map (· - c.text.length)) (Text.lastOr before c.text) rest)
  | behind {earlier : List Rule} {kind : String} {p : Pattern} {fuel : Nat} {limit : Option Nat}
      {before : Option Char} {run : List Char} {rest passed rest' : List Piece}
      (hlimit : limit ≠ some 0) (h : Target.ofRun p before run rest = .behind passed rest') :
      Leads (sweep earlier kind p (fuel + 1) limit before (.free run :: rest))
        (sweep earlier kind p fuel (limit.map (· - (Piece.spell passed).length))
          (Text.lastOr before (Piece.spell passed)) rest')
  | claim {earlier : List Rule} {kind : String} {p : Pattern} {fuel : Nat} {limit : Option Nat}
      {before : Option Char} {run : List Char} {rest : List Piece} {c : Claim}
      (h : Target.ofRun p before run rest = .claim c) (hlimit : ∀ l, limit = some l → c.offset < l) :
      Leads (sweep earlier kind p (fuel + 1) limit before (.free run :: rest))
        (sweep earlier kind p fuel (limit.map (· - (c.offset + c.token.length)))
          (Text.lastOr before c.token) (c.aheadOf (rescanWith earlier) fuel before))
  | rescan {earlier : List Rule} {kind : String} {p : Pattern} {fuel : Nat} {limit : Option Nat}
      {before : Option Char} {run : List Char} {rest : List Piece} {c : Claim}
      (h : Target.ofRun p before run rest = .claim c) (hlimit : ∀ l, limit = some l → c.offset < l)
      (hdissolves : c.dissolves = true) :
      Leads (sweep earlier kind p (fuel + 1) limit before (.free run :: rest))
        (rules earlier fuel (some c.after.length) (Text.lastOr before c.token) c.ahead)

/-- What a stage brings about, sooner or later. -/
inductive Reaches : Stage → Stage → Prop where
  | refl (s : Stage) : Reaches s s
  | next {s t u : Stage} (h : Leads s t) (htu : Reaches t u) : Reaches s u

/-- The stage claims text across tokens and leaves over text behind the new token, with a place
that has `place` characters behind it. -/
inductive Frees : Stage → (place : Nat) → Prop where
  | claim {earlier : List Rule} {kind : String} {p : Pattern} {fuel : Nat} {limit : Option Nat}
      {before : Option Char} {run : List Char} {rest : List Piece} {c : Claim} {place : Nat}
      (h : Target.ofRun p before run rest = .claim c) (hlimit : ∀ l, limit = some l → c.offset < l)
      (hdissolves : c.dissolves = true) (hbehind : (Piece.spell c.rest).length < place)
      (hwithin : place ≤ (Piece.spell c.ahead).length) :
      Frees (sweep earlier kind p (fuel + 1) limit before (.free run :: rest)) place

/-- The stage, or one that it brings about, frees text at a place. -/
def EverFrees (s : Stage) (place : Nat) : Prop := ∃ t, Reaches s t ∧ Frees t place

/-- Among `count` characters ahead, a place lies at the limit or behind it. -/
def Beyond (limit : Option Nat) (count place : Nat) : Prop := ∃ l, limit = some l ∧ place + l ≤ count

/-- A rescan in which the pattern takes part frees text at a place behind the rescan's limit. -/
def Escapes (q : Pattern) (s : Stage) (place : Nat) : Prop :=
  ∃ rs fuel limit before pieces, Reaches s (rules rs fuel (some limit) before pieces) ∧
    (∃ rule ∈ rs, q ∈ rule.patterns) ∧ Beyond (some limit) (Piece.spell pieces).length place ∧
    EverFrees (rules rs fuel (some limit) before pieces) place

theorem EverFrees.of_leads {s t : Stage} {place : Nat} (hst : Leads s t) (h : EverFrees t place) :
    EverFrees s place := by
  obtain ⟨u, htu, hu⟩ := h
  exact ⟨u, .next hst htu, hu⟩

theorem Escapes.of_leads {q : Pattern} {s t : Stage} {place : Nat} (hst : Leads s t)
    (h : Escapes q t place) : Escapes q s place := by
  obtain ⟨rs, fuel, limit, before, pieces, htr, hrest⟩ := h
  exact ⟨rs, fuel, limit, before, pieces, .next hst htr, hrest⟩

/-- A limit seen from further ahead is no nearer. -/
theorem Beyond.of_sub {limit : Option Nat} {passed ahead place : Nat}
    (h : Beyond (limit.map (· - passed)) ahead place) : Beyond limit (passed + ahead) place := by
  obtain ⟨l, hl, hle⟩ := h
  obtain ⟨l', rfl, rfl⟩ := Option.map_eq_some_iff.mp hl
  exact ⟨l', rfl, by omega⟩

end Stage

end Highlight
