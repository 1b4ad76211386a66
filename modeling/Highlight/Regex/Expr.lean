import Highlight.CharSet.Basic

/-!
# Regular expressions

The expressions that the matcher understands: texts, sets of characters, conditions on a
position, numbered groups, sequence, ordered choice and counted repetition. Flags, escapes and
named classes are resolved when an expression is read; none is left here.
-/

namespace Highlight.Regex

/-- A condition on a position, decided by the characters on its two sides. -/
inductive Anchor where
  /-- The beginning of the text. -/
  | textStart
  /-- The end of the text. -/
  | textEnd
  /-- The beginning of the text, or behind a line feed. -/
  | lineStart
  /-- The end of the text, or before a line feed. -/
  | lineEnd
  /-- Like `lineStart`, where a carriage return ends a line too, but not between the two. -/
  | lineStartCrlf
  /-- Like `lineEnd`, where a carriage return ends a line too, but not between the two. -/
  | lineEndCrlf
  /-- A word begins or ends here; `word` says which characters make a word. -/
  | wordBoundary (word : CharSet)
  | notWordBoundary (word : CharSet)
  /-- A word begins here. -/
  | wordStart (word : CharSet)
  /-- A word ends here. -/
  | wordEnd (word : CharSet)
  /-- No word reaches here from the left. -/
  | wordStartHalf (word : CharSet)
  /-- No word goes on from here. -/
  | wordEndHalf (word : CharSet)
  deriving Repr, DecidableEq

/-- Whether the condition holds between `before` and `after`; `none` stands for an end of the
text. -/
def Anchor.holds (a : Anchor) (before after : Option Char) : Bool :=
  match a with
  | textStart => before.isNone
  | textEnd => after.isNone
  | lineStart => before.isNone || before == some '\n'
  | lineEnd => after.isNone || after == some '\n'
  | lineStartCrlf =>
    before.isNone || before == some '\n' || (before == some '\r' && after != some '\n')
  | lineEndCrlf =>
    after.isNone || after == some '\r' || (after == some '\n' && before != some '\r')
  | wordBoundary word => before.any word.contains != after.any word.contains
  | notWordBoundary word => before.any word.contains == after.any word.contains
  | wordStart word => !before.any word.contains && after.any word.contains
  | wordEnd word => before.any word.contains && !after.any word.contains
  | wordStartHalf word => !before.any word.contains
  | wordEndHalf word => !after.any word.contains

inductive Expr where
  /-- The empty text. -/
  | empty
  /-- A text of one or more characters, which stands for itself. -/
  | literal (text : List Char)
  /-- One character of the set. -/
  | set (s : CharSet)
  /-- The empty text, where the condition holds. -/
  | anchor (a : Anchor)
  /-- What `e` matches, remembered under a number. -/
  | group (index : Nat) (e : Expr)
  /-- `a`, then `b`. -/
  | cat (a b : Expr)
  /-- `a`, or else `b`. -/
  | alt (a b : Expr)
  /-- `e` at least `min` times and at most `max` times, as often as possible if `greedy`, else
  as seldom as possible. -/
  | rep (min : Nat) (max : Option Nat) (greedy : Bool) (e : Expr)
  deriving Repr, DecidableEq, Inhabited

namespace Expr

/-- The length of a shortest text that the expression can match, in characters and with
conditions on the position put aside. An expression that needs a member of the empty set has
none, and neither has a choice with such a branch. -/
def minLength? : Expr → Option Nat
  | empty | anchor _ => some 0
  | literal text => some text.length
  | set s => if s.isEmpty then none else some 1
  | group _ e => e.minLength?
  | cat a b => do return (← a.minLength?) + (← b.minLength?)
  | alt a b => do return Nat.min (← a.minLength?) (← b.minLength?)
  | rep min _ _ e => e.minLength?.map (min * ·)

/-- Whether the expression is known to match one character or more. -/
def consumes (e : Expr) : Bool := e.minLength?.any (0 < ·)

/-- Whether the expression can match nothing but the empty text. -/
def onlyEmpty : Expr → Bool
  | empty | anchor _ => true
  | literal _ | set _ => false
  | group _ e => e.onlyEmpty
  | cat a b | alt a b => a.onlyEmpty && b.onlyEmpty
  | rep _ max _ e => max == some 0 || e.onlyEmpty

/-- Whether a match can begin at the beginning of the text only, since a condition that comes
before all characters says so. -/
def bindsStart : Expr → Bool
  | empty | literal _ | set _ => false
  | anchor a => a == .textStart
  | group _ e => e.bindsStart
  | cat a b => a.bindsStart || (a.onlyEmpty && b.bindsStart)
  | alt a b => a.bindsStart && b.bindsStart
  | rep min _ _ e => 0 < min && e.bindsStart

/-- Whether a match can end at the end of the text only, since a condition that comes behind all
characters says so. -/
def bindsEnd : Expr → Bool
  | empty | literal _ | set _ => false
  | anchor a => a == .textEnd
  | group _ e => e.bindsEnd
  | cat a b => b.bindsEnd || (b.onlyEmpty && a.bindsEnd)
  | alt a b => a.bindsEnd && b.bindsEnd
  | rep min _ _ e => 0 < min && e.bindsEnd

/-- The largest number of a group, zero if there is none. -/
def groupCount : Expr → Nat
  | empty | literal _ | set _ | anchor _ => 0
  | group index e => max index e.groupCount
  | cat a b | alt a b => max a.groupCount b.groupCount
  | rep _ _ _ e => e.groupCount

end Expr

end Highlight.Regex
