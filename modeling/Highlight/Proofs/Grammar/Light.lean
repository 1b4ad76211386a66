import Highlight.Grammar.Pattern
import Highlight.Proofs.Regex.Footprint

/-!
# Patterns that are built

A pattern is built if its regular expression is read and has the groups that are asked for, and if its
automata are small enough. `Draft.light` checks all of this without laying the automata down.
-/

namespace Highlight.Pattern.Draft

open Regex (Expr)

variable {d : Draft}

theorem build_of_light {e : Expr} {p : Pattern}
    (he : (Expr.ofSource d.flags d.source.toList).toOption = some e) (hlight : e.light = true)
    (hlookbehind : inRange e.groupCount d.lookbehind = true)
    (hlookahead : inRange e.groupCount (d.lookaheadGroup e.groupCount) = true)
    (hp : p = ⟨.ofExpr d.source e, d.lookbehind, d.lookaheadGroup e.groupCount, d.greedy, d.altKind,
      d.inside⟩) :
    d.build = .ok p := by
  have hcount : (Regex.ofExpr d.source e).groupCount = e.groupCount := rfl
  rw [build, Regex.compile_of_light he hlight]
  dsimp only
  rw [hcount, hlookbehind, hlookahead, hp]
  rfl

/-- The regular expression is read and light, and has the groups that the contexts name. -/
def light (d : Draft) : Bool :=
  match Expr.ofSource d.flags d.source.toList with
  | .ok e => e.light && inRange e.groupCount d.lookbehind &&
      inRange e.groupCount (d.lookaheadGroup e.groupCount)
  | .error _ => false

theorem exists_build (h : d.light = true) : ∃ p, d.build = .ok p := by
  rw [light] at h
  cases he : Expr.ofSource d.flags d.source.toList with
  | error cause =>
    rw [he] at h
    cases h
  | ok e =>
    rw [he] at h
    simp only [Bool.and_eq_true] at h
    obtain ⟨⟨hlight, hlookbehind⟩, hlookahead⟩ := h
    have hread : (Expr.ofSource d.flags d.source.toList).toOption = some e := congrArg _ he
    exact ⟨_, build_of_light hread hlight hlookbehind hlookahead rfl⟩

end Highlight.Pattern.Draft
