import Highlight.Regex.Program
import Highlight.Text.Span

/-!
# Running a program

All ways to match are followed side by side, one character at a time, in order of preference.
At each position the instructions that take no character are carried out first (`settle`); an
instruction that has been reached before at the same position is not carried out again, since the
earlier arrival is preferred and their futures are alike. A thread that accepts ends all threads
behind it, and the last thread to accept is the preferred one.

Positions count characters from the place where the match begins.
-/

namespace Highlight.Regex

/-- One way to match that is still open. -/
structure Thread where
  /-- The instruction to carry out next. -/
  state : Nat
  /-- Where groups were entered, the latest first. -/
  entered : List (Nat × Nat) := []
  /-- What groups have matched, the latest first. -/
  groups : List (Nat × Span) := []
  deriving Repr, DecidableEq

namespace Thread

def goto (t : Thread) (state : Nat) : Thread := { t with state := state }

def enter (t : Thread) (group here next : Nat) : Thread :=
  { t with state := next, entered := (group, here) :: t.entered }

def leave (t : Thread) (group here next : Nat) : Thread :=
  match t.entered.lookup group with
  | some start => { t with state := next, groups := (group, ⟨start, here⟩) :: t.groups }
  | none => { t with state := next }

end Thread

structure Waiting where
  set : CharSet
  thread : Thread

/-- The threads at one position when nothing but characters can move them on: those that wait,
in order of preference, and the one behind them that accepts, if any. -/
structure Settled where
  waiting : List Waiting
  accepted : Option Thread

/-- A set of instructions of a program: for each instruction, whether it is in the set. -/
structure Marks where
  flags : Array Bool
  deriving Repr, DecidableEq

namespace Marks

def none (size : Nat) : Marks := ⟨Array.replicate size false⟩

def contains (m : Marks) (state : Nat) : Bool := m.flags.getD state false

def insert (m : Marks) (state : Nat) : Marks := ⟨m.flags.setIfInBounds state true⟩

end Marks

/-- Carry out all instructions that take no character, at position `here` between the characters
`before` and `after`. `seen` holds the instructions that have been reached at this position. -/
def Program.settle (p : Program) (before after : Option Char) (here : Nat) :
    (fuel : Nat) → (seen : Marks) → List Thread → Settled
  | 0, _, _ => ⟨[], none⟩
  | _ + 1, _, [] => ⟨[], none⟩
  | fuel + 1, seen, t :: rest =>
    if seen.contains t.state then p.settle before after here fuel seen rest
    else
      let seen := seen.insert t.state
      match p.code[t.state]? with
      | none => p.settle before after here fuel seen rest
      | some .accept => ⟨[], some t⟩
      | some (.consume s next) =>
        let settled := p.settle before after here fuel seen rest
        { settled with waiting := ⟨s, t.goto next⟩ :: settled.waiting }
      | some (.split first second) =>
        p.settle before after here fuel seen (t.goto first :: t.goto second :: rest)
      | some (.check a next) =>
        if a.holds before after then p.settle before after here fuel seen (t.goto next :: rest)
        else p.settle before after here fuel seen rest
      | some (.enter group next) =>
        p.settle before after here fuel seen (t.enter group here next :: rest)
      | some (.leave group next) =>
        p.settle before after here fuel seen (t.leave group here next :: rest)

/-- Enough fuel to settle `threads` threads: each instruction is carried out once at most and
puts at most two threads in the place of one. -/
def Program.settleFuel (p : Program) (threads : Nat) : Nat := 2 * p.code.size + threads + 1

/-- Threads that can take the character `c`, moved behind it. -/
def advance (c : Char) (waiting : List Waiting) : List Thread :=
  waiting.filterMap fun w => if w.set.contains c then some w.thread else none

/-- A match in the making: where it ends, and the thread that found it. -/
structure Found where
  stop : Nat
  thread : Thread

/-- Follow the threads through the text; `best` is the preferred match so far. -/
def Program.follow (p : Program) : (text : List Char) → (before : Option Char) → (here : Nat) →
    List Thread → (best : Option Found) → Option Found
  | text, before, here, threads, best =>
    let settled := p.settle before text.head? here (p.settleFuel threads.length)
      (Marks.none p.code.size) threads
    let best := match settled.accepted with
      | some t => some ⟨here, t⟩
      | none => best
    match text with
    | [] => best
    | c :: rest =>
      match advance c settled.waiting with
      | [] => best
      | threads => p.follow rest (some c) (here + 1) threads best

/-- What an expression matched: how many characters, and what its groups matched among them. -/
structure Captures where
  stop : Nat
  groups : List (Option Span)
  deriving Repr, DecidableEq

/-- The preferred match that begins where `text` begins; `before` is the character in front. -/
def Program.matchAt (p : Program) (groupCount : Nat) (before : Option Char) (text : List Char) :
    Option Captures :=
  match p.follow text before 0 [{ state := p.start }] none with
  | some found =>
    some ⟨found.stop, (List.range groupCount).map fun i => found.thread.groups.lookup (i + 1)⟩
  | none => none

end Highlight.Regex
