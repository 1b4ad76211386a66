/-!
# Sets of characters as ascending ranges

A set is a list of closed ranges of code points, kept ascending, disjoint and not touching, so
that a lookup stops at the first range that begins behind the character. All operations keep
that form. The ends of a range are code points of characters. The surrogates, which are no
characters, may lie between them; no character ever asks for one.
-/

namespace Highlight

/-- A set of characters, as closed ranges of code points in ascending order. -/
structure CharSet where
  ranges : List (Nat × Nat)
  deriving Repr, DecidableEq, Inhabited

namespace CharSet

def maxCodePoint : Nat := 0x10FFFF

/-- The code point of the next character; the surrogates are passed over. -/
def nextCode (n : Nat) : Nat := if n == 0xD7FF then 0xE000 else n + 1

/-- The code point of the character before; the surrogates are passed over. -/
def previousCode (n : Nat) : Nat := if n == 0xE000 then 0xD7FF else n - 1

/-- Whether a code point lies in one of the ranges; the search ends where the ranges pass it. -/
def covers : List (Nat × Nat) → Nat → Bool
  | [], _ => false
  | (lo, hi) :: rest, n => if n < lo then false else if n ≤ hi then true else covers rest n

def contains (s : CharSet) (c : Char) : Bool := covers s.ranges c.toNat

/-- Add a closed range to ascending ranges, merging it with all that it overlaps or touches. -/
def insertRange (lo hi : Nat) : List (Nat × Nat) → List (Nat × Nat)
  | [] => [(lo, hi)]
  | (a, b) :: rest =>
    if hi + 1 < a then (lo, hi) :: (a, b) :: rest
    else if b + 1 < lo then (a, b) :: insertRange lo hi rest
    else insertRange (min lo a) (max hi b) rest

/-- The ranges behind `last` that the given ascending ranges leave out. A range that ends before
the surrogates and one that begins behind them do not touch, but no character lies between them;
the gap is then taken to be the two characters on its sides. -/
def gapsBehind (last : Nat) : List (Nat × Nat) → List (Nat × Nat)
  | [] => if last < maxCodePoint then [(nextCode last, maxCodePoint)] else []
  | (lo, hi) :: rest =>
    (min (nextCode last) (previousCode lo), max (nextCode last) (previousCode lo))
      :: gapsBehind hi rest

/-- The ranges that the given ascending ranges leave out. -/
def gaps : List (Nat × Nat) → List (Nat × Nat)
  | [] => [(0, maxCodePoint)]
  | (lo, hi) :: rest =>
    if 0 < lo then (0, previousCode lo) :: gapsBehind hi rest else gapsBehind hi rest

/-- What is left of a range when ascending ranges are taken out of it. -/
def cutRange (lo hi : Nat) : List (Nat × Nat) → List (Nat × Nat)
  | [] => [(lo, hi)]
  | (a, b) :: rest =>
    if b < lo then cutRange lo hi rest
    else if hi < a then [(lo, hi)]
    else
      let front := if lo < a then [(lo, previousCode a)] else []
      if b < hi then front ++ cutRange (nextCode b) hi rest else front

def overlap? (r s : Nat × Nat) : Option (Nat × Nat) :=
  if max r.1 s.1 ≤ min r.2 s.2 then some (max r.1 s.1, min r.2 s.2) else none

def empty : CharSet := ⟨[]⟩

def isEmpty (s : CharSet) : Bool := s.ranges.isEmpty

def range (lo hi : Char) : CharSet := ⟨[(lo.toNat, hi.toNat)]⟩

def singleton (c : Char) : CharSet := range c c

/-- The only member of a set, if there is just one. -/
def singleton? (s : CharSet) : Option Char :=
  match s.ranges with
  | [(lo, hi)] => if lo == hi then some (Char.ofNat lo) else none
  | _ => none

/-- The set with the given ranges, in any order. -/
def ofRanges (ranges : List (Nat × Nat)) : CharSet :=
  ⟨ranges.foldr (fun r acc => insertRange r.1 r.2 acc) []⟩

def ofList (cs : List Char) : CharSet := ofRanges (cs.map fun c => (c.toNat, c.toNat))

def union (s t : CharSet) : CharSet :=
  ⟨s.ranges.foldr (fun r acc => insertRange r.1 r.2 acc) t.ranges⟩

def complement (s : CharSet) : CharSet := ⟨gaps s.ranges⟩

def inter (s t : CharSet) : CharSet :=
  ⟨s.ranges.flatMap fun r => t.ranges.filterMap (overlap? r)⟩

def diff (s t : CharSet) : CharSet := ⟨s.ranges.flatMap fun r => cutRange r.1 r.2 t.ranges⟩

def symmDiff (s t : CharSet) : CharSet := (s.union t).diff (s.inter t)

def all : CharSet := empty.complement

/-- Whether some member is not an ASCII character. -/
def beyondAscii (s : CharSet) : Bool := s.ranges.any fun r => 0x7F < r.2

end CharSet

end Highlight
