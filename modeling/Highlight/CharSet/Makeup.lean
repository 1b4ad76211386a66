import Highlight.CharSet.Basic
import Highlight.CharSet.CategoryTable

/-!
# Sets put together from tables

The tables spell sets of characters as lines of hexadecimal runs, such as `41-5A 5F`. A `Makeup`
says how a property's members follow from such tables: whole categories and some runs, less some
others.
-/

namespace Highlight.CharSet

def runDigit (c : Char) : Nat :=
  if c.isDigit then c.toNat - '0'.toNat else c.toNat - 'A'.toNat + 10

/-- Read a line of runs. `first` is the first code point of a run whose last one is being read,
and `value` is the number read so far. -/
def readRuns : (first : Option Nat) → (value : Nat) → List Char → List (Nat × Nat)
  | first, value, [] => [(first.getD value, value)]
  | first, value, c :: cs =>
    if c == ' ' then (first.getD value, value) :: readRuns none 0 cs
    else if c == '-' then readRuns (some value) 0 cs
    else readRuns first (value * 16 + runDigit c) cs

def rangesOf (lines : List String) : List (Nat × Nat) :=
  lines.flatMap fun line => readRuns none 0 line.toList

/-- The set that lines of ascending runs name. -/
def ofRuns (lines : List String) : CharSet := ofRanges (rangesOf lines)

/-- How a property's members follow from tables. -/
structure Makeup where
  /-- Categories whose members all belong to the property. -/
  categories : List Category := []
  /-- Further members. -/
  members : List String := []
  /-- What does not belong to the property all the same. -/
  outsiders : List String := []
  deriving Repr, DecidableEq, Inhabited

def ofMakeup (m : Makeup) : CharSet :=
  let members := m.categories.map (fun c => ofRuns c.runs) ++ [ofRuns m.members]
  (members.foldl union empty).diff (ofRuns m.outsiders)

end Highlight.CharSet
