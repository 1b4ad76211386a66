import Highlight.Regex.ClassReader

/-!
# Reading a regular expression

`Expr.ofSource` reads the source of a regular expression under the flags it begins with. The
reader keeps one frame for each group that is open; each step takes at least one character, so
the length of the source bounds the steps. How deep the source may nest is limited.
-/

namespace Highlight.Regex

/-- An expression on its way into a sequence. -/
structure Item where
  expr : Expr
  /-- How deep the source of the expression nests. -/
  depth : Nat := 0
  /-- Whether a repetition may follow; it may not follow a change of flags. -/
  repeatable : Bool := true

/-- A sequence as one item, the last part first. -/
def Item.ofSequence (items : List Item) : Item :=
  match items with
  | [] => { expr := .empty }
  | [item] => item
  | items =>
    { expr := .sequence (items.reverse.map (·.expr))
      depth := items.foldl (fun d i => max d i.depth) 0 + 1 }

/-- A choice as one item, the last branch first. -/
def Item.ofChoice (branches : List Item) : Item :=
  match branches with
  | [item] => item
  | items =>
    { expr := .choice (items.reverse.map (·.expr))
      depth := items.foldl (fun d i => max d i.depth) 0 + 1 }

/-- What surrounds a group that is open. -/
structure Frame where
  /-- The group's number, if it remembers what it matches. -/
  index : Option Nat
  /-- The flags to return to behind the group. -/
  flags : Flags
  branches : List Item
  items : List Item

/-- A partly read expression. -/
structure Draft where
  flags : Flags
  /-- The finished branches of the current group, the last one first. -/
  branches : List Item := []
  /-- The parts of the current branch, the last one first. -/
  items : List Item := []
  /-- The frames around the current group, the innermost first. -/
  outer : List Frame := []
  /-- The number of groups begun so far. -/
  groups : Nat := 0
  /-- The names given to groups so far. -/
  names : List String := []

namespace Draft

def add (d : Draft) (item : Item) : Draft := { d with items := item :: d.items }

/-- Append a set of characters, which must not be able to split a character. -/
def addSet (d : Draft) (s : CharSet) (depth : Nat) : Except ReadError Draft :=
  if d.flags.admits s then .ok (d.add { expr := .ofSet s, depth := depth })
  else .error .splitsCharacter

def openGroup (d : Draft) (index : Option Nat) (flags : Flags) : Draft :=
  { d with
    flags := flags
    branches := []
    items := []
    outer := ⟨index, d.flags, d.branches, d.items⟩ :: d.outer }

/-- Begin a group that remembers what it matches. -/
def openCapture (d : Draft) : Draft :=
  { d.openGroup (some (d.groups + 1)) d.flags with groups := d.groups + 1 }

/-- The current group so far, as one item. -/
def body (d : Draft) : Item := Item.ofChoice (Item.ofSequence d.items :: d.branches)

def closeGroup (d : Draft) : Except ReadError Draft :=
  match d.outer with
  | [] => .error .unopenedGroup
  | frame :: outer =>
    let body := d.body
    let expr := match frame.index with
      | some index => Expr.group index body.expr
      | none => body.expr
    .ok { d with
      flags := frame.flags
      branches := frame.branches
      items := { expr := expr, depth := body.depth + 1 } :: frame.items
      outer := outer }

/-- End the current branch and begin another one. -/
def alternate (d : Draft) : Draft :=
  { d with branches := Item.ofSequence d.items :: d.branches, items := [] }

def repeatLast (d : Draft) (count : Count) (greedy : Bool) : Except ReadError Draft :=
  match d.items with
  | item :: items =>
    if item.repeatable then
      .ok { d with
        items :=
          { expr := Expr.repeated count.min count.max (greedy != d.flags.swapGreed) item.expr
            depth := item.depth + 1 } :: items }
    else .error .nothingToRepeat
  | [] => .error .nothingToRepeat

/-- Read what follows an opening parenthesis. -/
def readGroup (d : Draft) (cs : List Char) : Except ReadError (Draft × List Char) := do
  let named (rest : List Char) : Except ReadError (Draft × List Char) := do
    let (name, rest) ← readGroupName rest
    if d.names.contains name then throw .duplicateGroupName
    else return ({ d.openCapture with names := name :: d.names }, rest)
  match d.flags.skip cs with
  | '?' :: '=' :: _ | '?' :: '!' :: _ => throw .unsupportedLookaround
  | '?' :: '<' :: '=' :: _ | '?' :: '<' :: '!' :: _ => throw .unsupportedLookaround
  | '?' :: 'P' :: '<' :: rest => named rest
  | '?' :: '<' :: rest => named rest
  | '?' :: rest =>
    let ((flags, isGroup), rest) ← readFlags d.flags [] rest
    if isGroup then return (d.openGroup none flags, rest)
    else return ({ d with flags := flags }.add { expr := .empty, repeatable := false }, rest)
  | rest => return (d.openCapture, rest)

/-- Read what follows a backslash outside brackets. -/
def readEscaped (d : Draft) (cs : List Char) : Except ReadError (Draft × List Char) := do
  match ← readEscape d.flags cs with
  | (.literal c, rest) => return (d.add { expr := d.flags.literal c }, rest)
  | (.oneOf s, rest) => return (← d.addSet s 0, rest)
  | (.anchor a, rest) => return (d.add { expr := .anchor a }, rest)

/-- Read one part of the source, which begins with `c`. -/
def step (d : Draft) (c : Char) (cs : List Char) : Except ReadError (Draft × List Char) := do
  let lazily (count : Count) : Except ReadError (Draft × List Char) := do
    match cs with
    | '?' :: rest => return (← d.repeatLast count false, rest)
    | rest => return (← d.repeatLast count true, rest)
  match c with
  | '(' => d.readGroup cs
  | ')' => return (← d.closeGroup, cs)
  | '|' => return (d.alternate, cs)
  | '[' =>
    let ((s, depth), rest) ← readClass d.flags cs
    return (← d.addSet s depth, rest)
  | '?' => lazily ⟨0, some 1⟩
  | '*' => lazily ⟨0, none⟩
  | '+' => lazily ⟨1, none⟩
  | '\x7b' =>
    if d.items.isEmpty then throw .nothingToRepeat
    let (count, rest) ← readCount d.flags cs
    match d.flags.skip rest with
    | '?' :: rest => return (← d.repeatLast count false, rest)
    | _ => return (← d.repeatLast count true, rest)
  | '\\' => d.readEscaped cs
  | '.' => return (← d.addSet d.flags.dot 0, cs)
  | '^' => return (d.add { expr := .anchor d.flags.caret }, cs)
  | '$' => return (d.add { expr := .anchor d.flags.dollar }, cs)
  | c => return (d.add { expr := d.flags.literal c }, cs)

def readAll : (fuel : Nat) → Draft → List Char → Except ReadError Draft
  | 0, d, _ => .ok d
  | fuel + 1, d, cs =>
    match d.flags.skip cs with
    | [] => .ok d
    | c :: cs =>
      match d.step c cs with
      | .error e => .error e
      | .ok (d, rest) => readAll fuel d rest

end Draft

def nestingLimit : Nat := 250

def Expr.ofSource (flags : Flags) (source : List Char) : Except ReadError Expr := do
  let d ← Draft.readAll (source.length + 1) { flags := flags } source
  if !d.outer.isEmpty then throw .unclosedGroup
  let body := d.body
  if body.depth > nestingLimit then throw .nestedTooDeep
  return body.expr

end Highlight.Regex
