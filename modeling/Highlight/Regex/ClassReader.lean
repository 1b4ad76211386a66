import Highlight.Regex.Reader

/-!
# Reading bracketed classes

A class in brackets is a union of characters, ranges and further classes; unions are combined
by `&&`, `--` and `~~`, which all bind alike and to the left. The reader keeps one level for each
bracket that is open. Each step takes at least one character, so the length of the source bounds
the steps.
-/

namespace Highlight.Regex

/-- The operators that combine two unions in a class. -/
inductive SetOperator where
  | inter
  | diff
  | symmDiff
  deriving Repr, DecidableEq

def SetOperator.apply : SetOperator → CharSet → CharSet → CharSet
  | inter, s, t => s.inter t
  | diff, s, t => s.diff t
  | symmDiff, s, t => s.symmDiff t

/-- The operator that two equal characters spell. -/
def setOperator? : Char → Option SetOperator
  | '&' => some .inter
  | '-' => some .diff
  | '~' => some .symmDiff
  | _ => none

/-- A class whose closing bracket has not been read. -/
structure ClassLevel where
  negated : Bool := false
  /-- Whether nothing but hyphens has been read; a hyphen is then a character, and so is a
  closing bracket that comes first of all. -/
  leading : Bool := true
  /-- The operator that waits for its right operand, with its left one. -/
  pending : Option (SetOperator × CharSet) := none
  /-- How deep the left operand of the waiting operator nests. -/
  pendingDepth : Nat := 0
  /-- The union read since the class or its last operator began. -/
  items : CharSet := CharSet.empty
  /-- The number of items in that union. -/
  count : Nat := 0
  /-- How deep the deepest of those items nests. -/
  itemDepth : Nat := 0

namespace ClassLevel

/-- Add a set to the union that is being read, unless it could split a character. -/
def add (l : ClassLevel) (f : Flags) (s : CharSet) (depth : Nat) :
    Except ReadError ClassLevel :=
  if f.admits s then
    .ok { l with
      leading := false
      items := l.items.union s
      count := l.count + 1
      itemDepth := max l.itemDepth depth }
  else .error .splitsCharacter

/-- The set read so far, and how deep it nests. -/
def value (l : ClassLevel) (f : Flags) : CharSet × Nat :=
  let right := f.fold l.items
  let depth := if l.count < 2 then l.itemDepth else l.itemDepth + 1
  match l.pending with
  | none => (right, depth)
  | some (op, left) => (op.apply left right, max l.pendingDepth depth + 1)

/-- Begin the right operand of an operator. -/
def operate (l : ClassLevel) (f : Flags) (op : SetOperator) : ClassLevel :=
  let (left, depth) := l.value f
  { negated := l.negated, leading := false, pending := some (op, left), pendingDepth := depth }

/-- The set that the finished class stands for, and how deep it nests. -/
def close (l : ClassLevel) (f : Flags) : CharSet × Nat :=
  let (s, depth) := l.value f
  (if l.negated then s.complement else s, depth + 1)

end ClassLevel

/-- Read the inside of a named class such as `[:alpha:]`, if that is what stands here. -/
def readNamedClass? (f : Flags) : List Char → Option (CharSet × List Char)
  | ':' :: cs =>
    let (negated, cs) := match cs with
      | '^' :: cs => (true, cs)
      | cs => (false, cs)
    match cs.dropWhile (· != ':') with
    | ':' :: ']' :: rest =>
      match CharSet.asciiClass? (String.ofList (cs.takeWhile (· != ':'))) with
      | some s =>
        let s := f.fold s
        some (if negated then s.complement else s, rest)
      | none => none
    | _ => none
  | _ => none

/-- The character that decides about a hyphen before `cs`: the next one that counts. Only the
first comment sign on the way is passed over, and not the comment behind it. -/
def Flags.peek (f : Flags) (cs : List Char) : Option Char :=
  let ahead := cs.dropWhile isBlank
  let ahead := if ahead.head? == some '#' then ahead.tail.dropWhile isBlank else ahead
  if f.verbose then ahead.head?.orElse fun _ => cs.head? else cs.head?

/-- Read a single character or class, where no range can begin otherwise. -/
def readClassAtom (f : Flags) (c : Char) (cs : List Char) :
    Except ReadError ((Char ⊕ CharSet) × List Char) := do
  if c == '\\' then
    match ← readEscape f cs with
    | (.literal c, rest) => return (.inl c, rest)
    | (.oneOf s, rest) => return (.inr s, rest)
    | (.anchor _, _) => throw .invalidClassItem
  else return (.inl c, cs)

/-- Read a character, a range or a named class, beginning with `c`. -/
def readClassItem (f : Flags) (c : Char) (cs : List Char) :
    Except ReadError (CharSet × List Char) := do
  let (first, rest) ← readClassAtom f c cs
  let one : CharSet := match first with
    | .inl c => CharSet.singleton c
    | .inr s => s
  match f.skip rest with
  | [] => throw .unclosedClass
  | '-' :: behind =>
    if f.peek behind == some ']' || f.peek behind == some '-' then return (one, f.skip rest)
    else
      match f.skip behind with
      | [] => throw .unclosedClass
      | d :: ds =>
        match first, ← readClassAtom f d ds with
        | .inl lo, (.inl hi, rest) =>
          if lo ≤ hi then return (CharSet.range lo hi, rest) else throw .invalidRange
        | _, _ => throw .invalidRange
  | rest => return (one, rest)

/-- One step of reading a class: either brackets are still open, or the class is complete. -/
inductive ClassStep where
  | more (level : ClassLevel) (outer : List ClassLevel) (rest : List Char)
  | done (s : CharSet) (depth : Nat) (rest : List Char)

/-- Take one item, operator or bracket that begins with `c`. -/
def ClassLevel.step (f : Flags) (level : ClassLevel) (outer : List ClassLevel) (c : Char)
    (cs : List Char) : Except ReadError ClassStep := do
  if level.leading && (c == '-' || (c == ']' && level.count == 0)) then
    return .more { ← level.add f (CharSet.singleton c) 0 with leading := c == '-' } outer cs
  else if c == '[' then
    match readNamedClass? f cs with
    | some (s, rest) => return .more (← level.add f s 0) outer rest
    | none =>
      let outer := { level with leading := false } :: outer
      match f.skip cs with
      | '^' :: rest => return .more { negated := true } outer rest
      | rest => return .more {} outer rest
  else if c == ']' then
    let (s, depth) := level.close f
    match outer with
    | [] => if f.admits s then return .done s depth cs else throw .splitsCharacter
    | enclosing :: outer => return .more (← enclosing.add f s depth) outer cs
  else
    match setOperator? c, cs with
    | some op, d :: rest =>
      if d == c then return .more (level.operate f op) outer rest
      else
        let (s, rest) ← readClassItem f c cs
        return .more (← level.add f s 0) outer rest
    | _, _ =>
      let (s, rest) ← readClassItem f c cs
      return .more (← level.add f s 0) outer rest

/-- Read the rest of a class, given the levels that are open. -/
def readClassFrom (f : Flags) : (fuel : Nat) → ClassLevel → List ClassLevel → List Char →
    Except ReadError ((CharSet × Nat) × List Char)
  | 0, _, _, _ => .error .unclosedClass
  | fuel + 1, level, outer, cs =>
    match f.skip cs with
    | [] => .error .unclosedClass
    | c :: cs =>
      match level.step f outer c cs with
      | .error e => .error e
      | .ok (.done s depth rest) => .ok ((s, depth), rest)
      | .ok (.more level outer rest) => readClassFrom f fuel level outer rest

/-- Read what follows an opening bracket, the closing one included: the class and how deep it
nests. -/
def readClass (f : Flags) (cs : List Char) : Except ReadError ((CharSet × Nat) × List Char) :=
  match f.skip cs with
  | '^' :: rest => readClassFrom f (rest.length + 1) { negated := true } [] rest
  | rest => readClassFrom f (rest.length + 1) {} [] rest

end Highlight.Regex
