import Highlight.CharSet.Basic

/-!
# Sets of characters as sequences of bytes

The bytes of the characters in a range need not make up ranges themselves: behind some first bytes
all second bytes may follow, and behind others a few. A range is therefore cut into blocks, in
which every byte runs over a range of its own. A set then is a list of sequences of byte ranges.
-/

namespace Highlight.Regex

structure ByteRange where
  lo : Nat
  hi : Nat
  deriving Repr, DecidableEq, Inhabited

def utf8Bytes (n : Nat) : List Nat :=
  if n ≤ 0x7F then [n]
  else if n ≤ 0x7FF then [0xC0 + n / 64, 0x80 + n % 64]
  else if n ≤ 0xFFFF then [0xE0 + n / 4096, 0x80 + n / 64 % 64, 0x80 + n % 64]
  else [0xF0 + n / 262144, 0x80 + n / 4096 % 64, 0x80 + n / 64 % 64, 0x80 + n % 64]

/-- The last code point of the lower part, where a range has to be cut because its ends lie in
different groups of `size` code points and one of these groups is not filled. -/
def cutAtGroup? (lo hi size : Nat) : Option Nat :=
  if lo / size == hi / size then none
  else if lo % size != 0 then some ((lo / size + 1) * size - 1)
  else if hi % size != size - 1 then some (hi / size * size - 1)
  else none

/-- The last code point of the lower part, where a range has to be cut: first between code points
with different numbers of bytes, then between groups with the same bytes but the last one, the
last two and the last three. -/
def cut? (lo hi : Nat) : Option Nat :=
  match [0x7F, 0x7FF, 0xFFFF].find? fun last => lo ≤ last && last < hi with
  | some last => some last
  | none => if hi ≤ 0x7F then none else [64, 4096, 262144].findSome? (cutAtGroup? lo hi)

/-- The blocks that make up a range, in ascending order. -/
def blocks (lo hi : Nat) : List (Nat × Nat) :=
  match cut? lo hi with
  | some last =>
    if lo ≤ last ∧ last < hi then blocks lo last ++ blocks (last + 1) hi else [(lo, hi)]
  | none => [(lo, hi)]
termination_by hi - lo

/-- A range without the surrogates, which have no bytes. -/
def withoutSurrogates (r : Nat × Nat) : List (Nat × Nat) :=
  if r.1 < 0xE000 && 0xD7FF < r.2 then
    [(r.1, 0xD7FF), (0xE000, r.2)].filter fun part => part.1 ≤ part.2
  else [r]

/-- The sequences of byte ranges that a set's members are written with. -/
def byteSequences (s : CharSet) : List (List ByteRange) :=
  ((s.ranges.flatMap withoutSurrogates).flatMap fun r => blocks r.1 r.2).map fun block =>
    List.zipWith ByteRange.mk (utf8Bytes block.1) (utf8Bytes block.2)

end Highlight.Regex
