import Highlight.CharSet.Basic
import Highlight.Text.FoldTable

/-!
# Sets closed under case

A pattern that ignores case reads every set of characters as its closure: with a character it
holds all of that character's case variants. Among ASCII characters alone, the variants are the
two cases of a letter.
-/

namespace Highlight.CharSet

open Highlight.Text (foldRuns)

/-- Whether some code point from `lo` to `hi` lies in one of the ranges; the search ends where the
ranges pass them. -/
def meets (lo hi : Nat) : List (Nat × Nat) → Bool
  | [] => false
  | (a, b) :: rest => a.ble hi && (lo.ble b || meets lo hi rest)

/-- The pairs of a code point and the representative it folds to, where the two differ. Runs that
have neither a code point nor a representative among the ranges are passed over as a whole. -/
def foldPairs (ranges : List (Nat × Nat)) : List (Nat × Nat) :=
  (foldRuns.filter fun r =>
    meets r.first r.last ranges || meets (r.image r.first) (r.image r.last) ranges).flatMap (·.pairs)

/-- The set together with every case variant of its members. -/
def foldClosure (s : CharSet) : CharSet :=
  let touched := (foldPairs s.ranges).filter fun p => covers s.ranges p.1 || covers s.ranges p.2
  let representatives := ofRanges (touched.map fun p => (p.2, p.2))
  let variants := (foldPairs representatives.ranges).filter fun p =>
    covers representatives.ranges p.2
  (ofRanges (variants.map fun p => (p.1, p.1))).union (representatives.union s)

/-- The set together with both cases of the ASCII letters in it. -/
def asciiFoldClosure (s : CharSet) : CharSet :=
  let uppers := s.inter ⟨[(0x41, 0x5A)]⟩
  let lowers := s.inter ⟨[(0x61, 0x7A)]⟩
  let lowered : CharSet := ⟨uppers.ranges.map fun r => (r.1 + 32, r.2 + 32)⟩
  let uppered : CharSet := ⟨lowers.ranges.map fun r => (r.1 - 32, r.2 - 32)⟩
  lowered.union (uppered.union s)

end Highlight.CharSet
