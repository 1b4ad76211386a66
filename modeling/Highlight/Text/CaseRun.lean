/-!
# Case mappings as arithmetic runs

A table of case pairs is stored as runs: every `step`-th code point from `first` to `last` is
mapped by adding `offset`. The runs of a table are ascending and do not overlap.
-/

namespace Highlight.Text

/-- Code points `first`, `first + step`, … up to `last`, each mapped to itself plus `offset`. -/
structure CaseRun where
  first : Nat
  last : Nat
  step : Nat
  offset : Int
  deriving Repr, DecidableEq

namespace CaseRun

def covers (r : CaseRun) (n : Nat) : Bool :=
  r.first ≤ n && n ≤ r.last && (n - r.first) % r.step == 0

def image (r : CaseRun) (n : Nat) : Nat := (n + r.offset).toNat

def pairs (r : CaseRun) : List (Nat × Nat) :=
  (List.range ((r.last - r.first) / r.step + 1)).map fun k =>
    (r.first + k * r.step, r.image (r.first + k * r.step))

end CaseRun

/-- The image of a code point under an ascending table of runs, itself where no run covers it. -/
def mapCase : List CaseRun → Nat → Nat
  | [], n => n
  | r :: runs, n => if n < r.first then n else if r.covers n then r.image n else mapCase runs n

end Highlight.Text
