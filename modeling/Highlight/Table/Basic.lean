import Highlight.Grammar.Error
import Highlight.Toml.Document

/-!
# Grammar tables

A table describes a grammar in a TOML document: its name, further names for it, the grammars that
only its own patterns use, and its rules. `GrammarTable.parse` accepts a document if it has
exactly the fields that a table has, each with a value of the right kind.

A record is written as a TOML table, where fields that have a default may be left out. It may
also be written as an array of its fields in order; then only fields at the end may be left out,
and items beyond the last field do not count.
-/

namespace Highlight

open Toml (Value)

structure PatternTable where
  regex : String
  /-- Group 1 comes before the token. -/
  lookbehind : Bool := false
  /-- The last group comes behind the token. -/
  lookahead : Bool := false
  greedy : Bool := false
  altKind : Option String := none
  /-- The name of the grammar for the text of a token. -/
  inside : Option String := none
  caseInsensitive : Bool := false
  multiLine : Bool := false
  deriving Repr, DecidableEq

structure RuleTable where
  name : String
  patterns : List PatternTable := []
  deriving Repr, DecidableEq

/-- A grammar that only the patterns of the same table use. -/
structure NestedTable where
  name : String
  rules : List RuleTable := []
  deriving Repr, DecidableEq

structure GrammarTable where
  name : String
  aliases : List String := []
  /-- The grammars for the inside of tokens, each before those that use it. -/
  nested : List NestedTable := []
  rules : List RuleTable := []
  deriving Repr, DecidableEq

namespace Table

/-- The fields of a record, in order: for each its value, if it is given. `named` says whether
the fields go by name. -/
structure Record where
  named : Bool
  fields : List (Option Value)

/-- The fields of the record that a value is, if it has no other ones. -/
def record? (names : List String) : Value → Option Record
  | .table entries =>
    if entries.all fun (key, _) => names.contains key then
      some ⟨true, names.map fun name => entries.lookup name⟩
    else none
  | .array items => some ⟨false, (List.range names.length).map fun i => items[i]?⟩
  | _ => none

def Record.get (r : Record) (i : Nat) : Option Value := (r.fields[i]?).join

def Record.required? {α : Type} (r : Record) (i : Nat) (read : Value → Option α) : Option α :=
  (r.get i).bind read

def Record.withDefault? {α : Type} (r : Record) (i : Nat) (default : α)
    (read : Value → Option α) : Option α :=
  match r.get i with
  | some v => read v
  | none => some default

/-- A field that may be left out where fields go by name. -/
def Record.optional? {α : Type} (r : Record) (i : Nat) (read : Value → Option α) :
    Option (Option α) :=
  match r.get i with
  | some v => (read v).map some
  | none => if r.named then some none else none

def list? {α : Type} (read : Value → Option α) (v : Value) : Option (List α) :=
  v.array?.bind (·.mapM read)

end Table

open Table

def PatternTable.ofValue? (v : Value) : Option PatternTable := do
  let r ← record? ["regex", "lookbehind", "lookahead", "greedy", "alias", "inside",
    "case_insensitive", "multiline"] v
  return {
    regex := ← r.required? 0 Value.string?
    lookbehind := ← r.withDefault? 1 false Value.boolean?
    lookahead := ← r.withDefault? 2 false Value.boolean?
    greedy := ← r.withDefault? 3 false Value.boolean?
    altKind := ← r.optional? 4 Value.string?
    inside := ← r.optional? 5 Value.string?
    caseInsensitive := ← r.withDefault? 6 false Value.boolean?
    multiLine := ← r.withDefault? 7 false Value.boolean? }

def RuleTable.ofValue? (v : Value) : Option RuleTable := do
  let r ← record? ["name", "pattern"] v
  return {
    name := ← r.required? 0 Value.string?
    patterns := ← r.withDefault? 1 [] (list? PatternTable.ofValue?) }

def NestedTable.ofValue? (v : Value) : Option NestedTable := do
  let r ← record? ["name", "token"] v
  return {
    name := ← r.required? 0 Value.string?
    rules := ← r.withDefault? 1 [] (list? RuleTable.ofValue?) }

namespace GrammarTable

def ofValue? (v : Value) : Option GrammarTable := do
  let r ← record? ["name", "aliases", "nested", "token"] v
  return {
    name := ← r.required? 0 Value.string?
    aliases := ← r.withDefault? 1 [] (list? Value.string?)
    nested := ← r.withDefault? 2 [] (list? NestedTable.ofValue?)
    rules := ← r.withDefault? 3 [] (list? RuleTable.ofValue?) }

/-- The table that a TOML document describes. -/
def parse (source : String) : Except GrammarError GrammarTable :=
  match Toml.parse source with
  | .ok entries =>
    match ofValue? (.table entries) with
    | some table => .ok table
    | none => .error .malformedTable
  | .error _ => .error .malformedTable

end GrammarTable

end Highlight
