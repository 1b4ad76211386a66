/-!
# Spans and byte offsets

A span is a half-open interval of positions. Within the matcher positions count characters;
everything a caller sees counts bytes of the UTF-8 text, and the functions here convert.
-/

namespace Highlight

/-- The positions from `start` up to, but not including, `stop`. -/
structure Span where
  start : Nat
  stop : Nat
  deriving Repr, DecidableEq, Inhabited

namespace Span

def shift (s : Span) (n : Nat) : Span := ⟨s.start + n, s.stop + n⟩

def length (s : Span) : Nat := s.stop - s.start

end Span

namespace Text

/-- Length of a text in bytes of UTF-8. -/
def byteLength : List Char → Nat
  | [] => 0
  | c :: cs => c.utf8Size + byteLength cs

/-- The byte offset of the character boundary behind the first `n` characters. -/
def byteOffset (cs : List Char) (n : Nat) : Nat := byteLength (cs.take n)

/-- The number of characters before the first character boundary at or behind a byte offset;
one more than there are characters if no boundary is that far. -/
def charIndex : List Char → Nat → Nat
  | _, 0 => 0
  | [], _ + 1 => 1
  | c :: cs, b + 1 => charIndex cs (b + 1 - c.utf8Size) + 1

/-- A span of characters as the span of the bytes that encode them. -/
def byteSpan (cs : List Char) (s : Span) : Span := ⟨byteOffset cs s.start, byteOffset cs s.stop⟩

def slice (cs : List Char) (s : Span) : List Char :=
  (cs.take (charIndex cs s.stop)).drop (charIndex cs s.start)

/-- The last character of a text, or `fallback` where the text is empty. -/
def lastOr (fallback : Option Char) : List Char → Option Char
  | [] => fallback
  | c :: cs => lastOr (some c) cs

@[simp] theorem byteLength_nil : byteLength [] = 0 := rfl

@[simp] theorem byteLength_cons (c : Char) (cs : List Char) :
    byteLength (c :: cs) = c.utf8Size + byteLength cs := rfl

@[simp] theorem byteLength_append (a b : List Char) :
    byteLength (a ++ b) = byteLength a + byteLength b := by
  induction a with
  | nil => simp
  | cons c a ih => simp [ih, Nat.add_assoc]

end Text

end Highlight
