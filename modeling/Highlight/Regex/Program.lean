import Highlight.Regex.Expr

/-!
# Programs for the matcher

An expression becomes a graph of instructions. The instructions are laid down from the end to
the beginning: an expression is compiled for the instruction that comes after it, so a jump never
has to be filled in later, the jump back of a loop apart.

A loop over an expression that can match the empty text is laid down as an optional repetition of
at least one round. So the order of preference among its rounds stays the one of the unrolled
expression, and a round that takes nothing ends the loop.
-/

namespace Highlight.Regex

/-- One instruction. Numbers of instructions are positions in the program. -/
inductive Instr where
  /-- The whole expression has matched. -/
  | accept
  /-- Take one character of the set. -/
  | consume (s : CharSet) (next : Nat)
  /-- Go on at `first`, or else at `second`. -/
  | split (first second : Nat)
  /-- Go on if the condition holds. -/
  | check (a : Anchor) (next : Nat)
  /-- A group begins. -/
  | enter (group next : Nat)
  /-- A group ends. -/
  | leave (group next : Nat)
  deriving Repr, DecidableEq, Inhabited

structure Program where
  code : Array Instr
  start : Nat
  deriving Repr, DecidableEq, Inhabited

/-- Append an instruction; the result begins with its position. -/
def emit (i : Instr) (code : Array Instr) : Nat × Array Instr := (code.size, code.push i)

/-- A choice that prefers `body` if `greedy`, and `exit` otherwise. -/
def Instr.branch (greedy : Bool) (body exit : Nat) : Instr :=
  if greedy then .split body exit else .split exit body

def emitCopies (body : Nat → Array Instr → Nat × Array Instr) :
    (n next : Nat) → Array Instr → Nat × Array Instr
  | 0, next, code => (next, code)
  | n + 1, next, code =>
    let (next, code) := body next code
    emitCopies body n next code

/-- Lay down something up to `n` times in a row, each time on condition that all earlier ones
were taken. `next` comes after the last time, and `exit` instead of any of them. -/
def emitOptional (greedy : Bool) (body : Nat → Array Instr → Nat × Array Instr) (exit : Nat) :
    (n next : Nat) → Array Instr → Nat × Array Instr
  | 0, next, code => (next, code)
  | n + 1, next, code =>
    let (entry, code) := body next code
    let (next, code) := emit (.branch greedy entry exit) code
    emitOptional greedy body exit n next code

/-- Lay down a text, given by its characters from the last one to the first. -/
def emitText : (reversed : List Char) → (next : Nat) → Array Instr → Nat × Array Instr
  | [], next, code => (next, code)
  | c :: cs, next, code =>
    let (next, code) := emit (.consume (CharSet.singleton c) next) code
    emitText cs next code

/-- Lay down a loop that is gone through at least once; the result names its first round and its
jump back. -/
def emitLoop (greedy : Bool) (body : Nat → Array Instr → Nat × Array Instr) (exit : Nat)
    (code : Array Instr) : (Nat × Nat) × Array Instr :=
  let again := code.size
  let (entry, code) := body again (code.push .accept)
  ((entry, again), code.setIfInBounds again (.branch greedy entry exit))

/-- Lay down an expression so that `next` comes after it; the result begins with its entry. -/
def Expr.emit : Expr → (next : Nat) → Array Instr → Nat × Array Instr
  | empty, next, code => (next, code)
  | literal text, next, code => emitText text.reverse next code
  | set s, next, code => Regex.emit (.consume s next) code
  | anchor a, next, code => Regex.emit (.check a next) code
  | group index e, next, code =>
    let (leave, code) := Regex.emit (.leave index next) code
    let (entry, code) := e.emit leave code
    Regex.emit (.enter index entry) code
  | cat a b, next, code =>
    let (entry, code) := b.emit next code
    a.emit entry code
  | alt a b, next, code =>
    let (second, code) := b.emit next code
    let (first, code) := a.emit next code
    Regex.emit (.split first second) code
  | rep min (some max) greedy e, next, code =>
    let (entry, code) := emitOptional greedy e.emit next (max - min) next code
    emitCopies e.emit min entry code
  | rep 0 none greedy e, next, code =>
    let ((entry, again), code) := emitLoop greedy e.emit next code
    if e.consumes then (again, code) else Regex.emit (.branch greedy entry next) code
  | rep (min + 1) none greedy e, next, code =>
    let ((entry, _), code) := emitLoop greedy e.emit next code
    emitCopies e.emit min entry code

def Expr.program (e : Expr) : Program :=
  let (start, code) := e.emit 0 #[.accept]
  ⟨code, start⟩

end Highlight.Regex
