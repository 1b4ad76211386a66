import Highlight.Regex.Footprint.Bytes

/-!
# Laying down the states of an automaton

A `Layout` counts the states of an automaton over bytes and what they hold. States are numbered in
the order in which they are laid down. The states for a set of characters share what they have in
common: forwards the ends of its byte sequences, backwards the beginnings. Sharing goes through a
table with a fixed number of slots, in which a state displaces another one that falls into the
same slot; so it can miss, and the count depends on the numbers of the states.
-/

namespace Highlight.Regex

/-- The number of states laid down, and the bytes held outside of them. -/
structure Layout where
  states : Nat := 0
  payload : Nat := 0
  deriving Repr, DecidableEq, Inhabited

namespace Layout

def stateBytes : Nat := 32

/-- The bytes that a transition to another state takes where there can be several. -/
def transitionBytes : Nat := 8

def branchBytes : Nat := 4

def bytes (l : Layout) : Nat := stateBytes * l.states + l.payload

def add (l : Layout) (states payload : Nat) : Layout :=
  ⟨l.states + states, l.payload + payload⟩

def limit : Nat := 10 * 1024 * 1024

def tooLarge (l : Layout) : Bool := limit < l.bytes

end Layout

/-- A layout in the making, with the states that can be shared. -/
structure Sharing where
  layout : Layout
  /-- What stands in each slot: the content of a state, and its number. -/
  slots : Array (Option (List Nat × Nat))

namespace Sharing

/-- No states to share yet, among `size` slots. -/
def start (l : Layout) (size : Nat) : Sharing := ⟨l, Array.replicate size none⟩

/-- The slot for some content: the numbers are mixed one after another into 64 bits, by an
exclusive or and a product with a prime. -/
def slotOf (s : Sharing) (content : List Nat) : Nat :=
  let mixed := content.foldl (fun h n => (h ^^^ UInt64.ofNat n) * 1099511628211)
    (14695981039346656037 : UInt64)
  mixed.toNat % s.slots.size

/-- The number of the state with some content, if it stands in the slot. -/
def number? (s : Sharing) (slot : Nat) (content : List Nat) : Option Nat :=
  match s.slots.getD slot none with
  | some (content', number) => if content' = content then some number else none
  | none => none

/-- The number of the state with some content, which is laid down if it is not known. -/
def state (s : Sharing) (content : List Nat) (payload : Nat) : Nat × Sharing :=
  let slot := s.slotOf content
  match s.number? slot content with
  | some number => (number, s)
  | none =>
    let fresh := s.layout.states
    (fresh, ⟨s.layout.add 1 payload, s.slots.setIfInBounds slot (some (content, fresh))⟩)

end Sharing

/-- A state that may still get transitions. -/
structure OpenState where
  /-- The finished transitions, each as its two ends and the number of the state it leads to. -/
  arrows : List Nat := []
  /-- The bytes of the last transition, which leads to another open state. -/
  last : Option ByteRange := none

namespace OpenState

/-- Lead the last transition to the state `next`. -/
def finish (o : OpenState) (next : Nat) : OpenState :=
  match o.last with
  | some r => { arrows := o.arrows ++ [r.lo, r.hi, next] }
  | none => o

/-- Lay down open states, each of which leads to the one behind it and the last one to `target`.
The result begins with the number of the first one. -/
def closeAll (target : Nat) : List OpenState → Sharing → Nat × Sharing
  | [], s => (target, s)
  | o :: deeper, s =>
    let (next, s) := closeAll target deeper s
    let arrows := (o.finish next).arrows
    s.state arrows (Layout.transitionBytes * (arrows.length / 3))

/-- Add a byte sequence to the open states, which stand for the sequence added last. What the two
begin with in common stays open; the rest of the old one is laid down. -/
def addSequence (target : Nat) : List OpenState → List ByteRange → Sharing →
    List OpenState × Sharing
  | o :: deeper, r :: rs, s =>
    if o.last = some r then
      let (deeper, s) := addSequence target deeper rs s
      (o :: deeper, s)
    else
      let (next, s) := closeAll target deeper s
      ({ o.finish next with last := some r } :: rs.map fun r => { last := some r }, s)
  | states, _, s => (states, s)

end OpenState

namespace Layout

def forwardSlots : Nat := 10000

def backwardSlots : Nat := 1000

/-- Lay down ascending byte sequences to be read forwards. -/
def addForwards (l : Layout) (sequences : List (List ByteRange)) : Layout :=
  let target := l.states
  let start : List OpenState × Sharing := ([{}], .start (l.add 1 0) forwardSlots)
  let (rest, s) := sequences.foldl
    (fun (states, s) sequence => OpenState.addSequence target states sequence s) start
  (OpenState.closeAll target rest s).2.layout

/-- Lay down byte sequences to be read backwards: a branch to the last byte of each one. -/
def addBackwards (l : Layout) (sequences : List (List ByteRange)) : Layout :=
  let target := l.states + 1
  let start : Sharing :=
    .start (l.add 2 (branchBytes * sequences.length)) backwardSlots
  let addOne (s : Sharing) (sequence : List ByteRange) : Sharing :=
    (sequence.foldl (fun (next, s) r => s.state [next, r.lo, r.hi] 0) (target, s)).2
  (sequences.foldl addOne start).layout

end Layout

end Highlight.Regex
