import Highlight.Toml.Scalar
import Highlight.Toml.Text

/-!
# Documents

A document is a list of statements: headers, which name the table or the item of an array of
tables that comes next, and entries, which give it values. `Document.parse` reads the statements
and puts the tables together. A table may be opened once, an array of tables grows by one with
each header, and no key is given twice.
-/

namespace Highlight.Toml

/-- What a key stands for while a document is put together. -/
inductive Item where
  | value (v : Value)
  /-- A table; `opened` says whether a header has named it. -/
  | table (opened : Bool) (entries : List (String × Item))
  /-- An array of tables: the last one, and the ones before it, the latest first. -/
  | tables (last : List (String × Item)) (earlier : List (List (String × Item)))

mutual

def Item.toValue : Item → Value
  | .value v => v
  | .table _ entries => .table (entriesToValues entries)
  | .tables last earlier => .array (tablesToValues earlier ++ [.table (entriesToValues last)])

def entriesToValues : List (String × Item) → List (String × Value)
  | [] => []
  | (key, item) :: entries => (key, item.toValue) :: entriesToValues entries

/-- The tables of an array, the first one first. -/
def tablesToValues : List (List (String × Item)) → List Value
  | [] => []
  | entries :: earlier => tablesToValues earlier ++ [.table (entriesToValues entries)]

end

abbrev Entries := List (String × Item)

namespace Entries

def replace (entries : Entries) (key : String) (item : Item) : Entries :=
  entries.map fun (k, old) => if k == key then (k, item) else (k, old)

/-- Change the table at the end of a path. A table on the way that is not there is made, and of
an array of tables the last one is meant. -/
def change (f : Entries → Except Fault Entries) : (path : List String) → Entries →
    Except Fault Entries
  | [], entries => f entries
  | key :: path, entries =>
    match entries.lookup key with
    | none => (change f path []).map fun sub => entries ++ [(key, .table false sub)]
    | some (.table opened sub) =>
      (change f path sub).map fun sub => entries.replace key (.table opened sub)
    | some (.tables last earlier) =>
      (change f path last).map fun last => entries.replace key (.tables last earlier)
    | some (.value _) => .error .redefined

/-- Add an entry under a key that is not there. -/
def add (entries : Entries) (key : String) (v : Value) : Except Fault Entries :=
  if (entries.lookup key).isSome then .error .redefined else .ok (entries ++ [(key, .value v)])

def openTable (entries : Entries) (key : String) : Except Fault Entries :=
  match entries.lookup key with
  | none => .ok (entries ++ [(key, .table true [])])
  | some (.table false sub) => .ok (entries.replace key (.table true sub))
  | some _ => .error .redefined

/-- Begin another table in the array of tables under a key. -/
def growTables (entries : Entries) (key : String) : Except Fault Entries :=
  match entries.lookup key with
  | none => .ok (entries ++ [(key, .tables [] [])])
  | some (.tables last earlier) => .ok (entries.replace key (.tables [] (last :: earlier)))
  | some _ => .error .redefined

/-- Give a value to a key of one or more parts, within the table at the end of a path. -/
def assign (entries : Entries) (path key : List String) (v : Value) : Except Fault Entries :=
  match key.getLast? with
  | some last => change (fun table => table.add last v) (path ++ key.dropLast) entries
  | none => .error .malformed

end Entries

mutual

/-- Read a value inside of `depth` arrays and tables. -/
def readValue (depth : Nat) : (fuel : Nat) → List Char → Except Fault (Value × List Char)
  | 0, _ => .error .malformed
  | fuel + 1, cs =>
    match readString? cs with
    | some read => read.map fun (text, rest) => (.string (String.ofList text), rest)
    | none =>
      match cs with
      | 't' :: 'r' :: 'u' :: 'e' :: rest => .ok (.boolean true, rest)
      | 'f' :: 'a' :: 'l' :: 's' :: 'e' :: rest => .ok (.boolean false, rest)
      | '[' :: rest =>
        if depth + 1 < depthLimit then
          (readArray (depth + 1) fuel rest).map fun (items, rest) => (.array items, rest)
        else .error .tooDeep
      | '\x7b' :: rest =>
        if depth + 1 < depthLimit then
          match skipSpaces rest with
          | '\x7d' :: rest => .ok (.table [], rest)
          | rest => (readInline (depth + 1) fuel [] rest).map fun (entries, rest) =>
            (.table (entriesToValues entries), rest)
        else .error .tooDeep
      | cs =>
        match readScalar? cs with
        | some (spelling, rest) => .ok (.scalar spelling, rest)
        | none => .error .malformed

/-- Read the rest of an array. A comma may stand behind the last item. -/
def readArray (depth : Nat) : (fuel : Nat) → List Char → Except Fault (List Value × List Char)
  | 0, _ => .error .malformed
  | fuel + 1, cs =>
    match skipLines false cs with
    | ']' :: rest => .ok ([], rest)
    | cs => do
      let (item, rest) ← readValue depth fuel cs
      match skipLines false rest with
      | ',' :: rest =>
        let (items, rest) ← readArray depth fuel rest
        return (item :: items, rest)
      | ']' :: rest => return ([item], rest)
      | _ => throw .malformed

/-- Read the rest of a table on one line, given the entries before. No comma may stand behind the
last entry. -/
def readInline (depth : Nat) :
    (fuel : Nat) → Entries → List Char → Except Fault (Entries × List Char)
  | 0, _, _ => .error .malformed
  | fuel + 1, entries, cs => do
    let (key, rest) ← readKey cs
    match rest with
    | '=' :: rest =>
      let (v, rest) ← readValue depth fuel (skipSpaces rest)
      let entries ← entries.assign [] key v
      match skipSpaces rest with
      | ',' :: rest => readInline depth fuel entries rest
      | '\x7d' :: rest => return (entries, rest)
      | _ => throw .malformed
    | _ => throw .malformed

end

/-- Pass over what may stand behind a statement on its line, and the line end. -/
def endLine (cs : List Char) : Except Fault (List Char) :=
  match skipComment (skipSpaces cs) with
  | [] => .ok []
  | cs =>
    match lineEnd? cs with
    | some rest => .ok rest
    | none => .error .malformed

structure Draft where
  entries : Entries := []
  /-- The table that entries go to. -/
  current : List String := []

namespace Draft

/-- Take a header, and go on in the table it names. -/
def header (d : Draft) (path : List String) (isArray : Bool) : Except Fault Draft :=
  match path.getLast? with
  | some last =>
    let enter (table : Entries) := if isArray then table.growTables last else table.openTable last
    (Entries.change enter path.dropLast d.entries).map fun entries => ⟨entries, path⟩
  | none => .error .malformed

/-- Read the statement that begins here, with the rest of its line. -/
def statement (d : Draft) (cs : List Char) : Except Fault (Draft × List Char) := do
  let fuel := cs.length + 1
  match cs with
  | '[' :: '[' :: rest =>
    let (path, rest) ← readKey rest
    match rest with
    | ']' :: ']' :: rest => return (← d.header path true, ← endLine rest)
    | _ => throw .malformed
  | '[' :: rest =>
    let (path, rest) ← readKey rest
    match rest with
    | ']' :: rest => return (← d.header path false, ← endLine rest)
    | _ => throw .malformed
  | cs =>
    let (key, rest) ← readKey cs
    match rest with
    | '=' :: rest =>
      let (v, rest) ← readValue 0 fuel (skipSpaces rest)
      let entries ← d.entries.assign d.current key v
      return ({ d with entries := entries }, ← endLine rest)
    | _ => throw .malformed

def statements : (fuel : Nat) → Draft → List Char → Except Fault Draft
  | 0, d, _ => .ok d
  | fuel + 1, d, cs =>
    match skipLines false cs with
    | [] => .ok d
    | cs => do
      let (d, rest) ← d.statement cs
      statements fuel d rest

end Draft

/-- The entries of the document that a text spells. A byte order mark may come first. -/
def parse (source : String) : Except Fault (List (String × Value)) :=
  let cs := match source.toList with
    | '\uFEFF' :: cs => cs
    | cs => cs
  (Draft.statements (cs.length + 1) {} cs).map fun d => entriesToValues d.entries

end Highlight.Toml
