import Highlight.Regex.Expr
import Highlight.Regex.Footprint.Texts

/-!
# The footprint of an expression

An expression is refused if an automaton over bytes for it would take more than
`Layout.limit` bytes, whether it reads forwards or backwards. The footprint is what the two
automata take. A `Shape` says which states are laid down one after another; runs of states that do
not depend on their numbers are counted at once, so that a large number of repetitions costs
nothing.
-/

namespace Highlight.Regex

inductive Direction where
  | forwards
  | backwards
  deriving Repr, DecidableEq

/-- States in the order in which they are laid down. -/
inductive Shape where
  /-- States whose number and content are known. -/
  | block (l : Layout)
  /-- The states for the byte sequences of a set. -/
  | spread (sequences : List (List ByteRange))
  | both (a b : Shape)
  | copies (n : Nat) (s : Shape)

namespace Shape

/-- States that hold `payload` bytes together. -/
def states (n payload : Nat) : Shape := .block ⟨n, payload⟩

def branch : Shape := states 1 (2 * Layout.branchBytes)

def append : Shape → Shape → Shape
  | block l, block l' => block (l.add l'.states l'.payload)
  | block l, both (block l') s => both (block (l.add l'.states l'.payload)) s
  | s, s' => both s s'

instance : Append Shape := ⟨append⟩

def times (n : Nat) : Shape → Shape
  | block l => block ⟨n * l.states, n * l.payload⟩
  | s => copies n s

/-- A choice: the first two branches come before the state that chooses and the one where all
branches meet. -/
def ofBranches : List Shape → Shape
  | [] => states 0 0
  | [s] => s
  | s :: s' :: rest =>
    s ++ s' ++ rest.foldl (· ++ ·) (states 2 (Layout.branchBytes * (rest.length + 2)))

/-- Lay down a shape several times, or until the layout is too large. -/
def layCopies (lay : Layout → Layout) : (n : Nat) → Layout → Layout
  | 0, l => l
  | n + 1, l => if l.tooLarge then l else layCopies lay n (lay l)

/-- Lay down a shape; what comes behind a layout that is too large makes no difference. -/
def lay (d : Direction) : Shape → Layout → Layout
  | block l', l => l.add l'.states l'.payload
  | spread sequences, l =>
    if l.tooLarge then l
    else
      match d with
      | .forwards => l.addForwards sequences
      | .backwards => l.addBackwards sequences
  | both a b, l => b.lay d (a.lay d l)
  | copies n s, l => layCopies (s.lay d) n l

end Shape

namespace Expr

def textBytes (text : List Char) : List Nat := text.flatMap fun c => utf8Bytes c.toNat

/-- The texts of an expression that is a choice among nothing else. -/
def texts? : Expr → Option (List (List Nat))
  | literal text => some [textBytes text]
  | alt (literal text) e => e.texts?.map (textBytes text :: ·)
  | _ => none

def shapeOf (d : Direction) (e : Expr) (branches : List Shape) : Shape :=
  match e.texts? with
  | some (text :: text' :: texts) =>
    let texts := text :: text' :: texts
    .block (textsSize (if d = .forwards then texts else texts.map List.reverse))
  | _ => .ofBranches branches

def branchShapes (d : Direction) : Expr → List Shape
  | empty | anchor _ => [.states 1 0]
  | literal text => [.states (textBytes text).length 0]
  | set s =>
    if s.beyondAscii then [.spread (byteSequences s)]
    else [.states 2 (Layout.transitionBytes * s.ranges.length)]
  | group _ e =>
    let s := e.shapeOf d (e.branchShapes d)
    match d with
    | .forwards => [.states 1 0 ++ s ++ .states 1 0]
    | .backwards => [s]
  | cat a b =>
    let s := a.shapeOf d (a.branchShapes d)
    let s' := b.shapeOf d (b.branchShapes d)
    match d with
    | .forwards => [s ++ s']
    | .backwards => [s' ++ s]
  | alt a b => a.shapeOf d (a.branchShapes d) :: b.branchShapes d
  | rep min max _ e =>
    let s := e.shapeOf d (e.branchShapes d)
    match min, max with
    | 0, some 1 => [.branch ++ s ++ .states 1 0]
    | 0, none =>
      if e.consumes then [.branch ++ s] else [s ++ .branch ++ .branch ++ .states 1 0]
    | min, none => [s.times min ++ .branch]
    | min, some max =>
      let needed := if min == 0 then .states 1 0 else s.times min
      if min == max then [needed]
      else [needed ++ .states 1 0 ++ (Shape.branch ++ s).times (max - min)]

def shape (d : Direction) (e : Expr) : Shape := e.shapeOf d (e.branchShapes d)

/-- What an automaton begins with: a loop over any bytes, unless a match has to begin where the
reading does. -/
def lead (bound : Bool) : Layout :=
  if bound then ⟨1, 0⟩ else ⟨3, 2 * Layout.branchBytes + Layout.transitionBytes⟩

/-- What an automaton for the expression takes. Forwards it notes where a match begins and ends. -/
def footprint (e : Expr) : Direction → Layout
  | .forwards => (Shape.states 1 0 ++ e.shape .forwards ++ .states 2 0).lay .forwards
      (lead e.bindsStart)
  | .backwards => (e.shape .backwards ++ .states 1 0).lay .backwards (lead e.bindsEnd)

def fits (e : Expr) : Bool :=
  !(e.footprint .forwards).tooLarge && !(e.footprint .backwards).tooLarge

end Expr

end Highlight.Regex
