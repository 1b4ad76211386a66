import Highlight.Builtin.Json
import Highlight.Builtin.Toml
import Highlight.Builtin.Yaml
import Highlight.Error
import Highlight.Files.Path
import Highlight.Table.Compile
import Highlight.Text.Lowercase
import Highlight.Tokenize

/-!
# Registries

A registry knows grammars by name and by further names, in any letter case. A grammar that is
registered again takes the place of the one before, and the further names that lead to it stay. A
grammar's own name goes before a further name that is spelled alike.
-/

namespace Highlight

/-- Set a key in a list of pairs, in place of what was set before. -/
def setKey {α : Type} (pairs : List (String × α)) (key : String) (value : α) :
    List (String × α) :=
  (key, value) :: pairs.filter fun (k, _) => k != key

/-- Texts in the order of their characters' code points. -/
def sortTexts (texts : List String) : List String := texts.mergeSort fun a b => !decide (b < a)

/-- Grammars by name, and names by further names, all in lowercase. -/
structure Registry where
  grammars : List (String × Grammar)
  aliases : List (String × String)

namespace Registry

def empty : Registry := ⟨[], []⟩

def register (r : Registry) (g : Grammar) (aliases : List String) : Registry :=
  let name := Text.lowercase g.name
  { grammars := setKey r.grammars name g
    aliases := aliases.foldl (fun pairs a => setKey pairs (Text.lowercase a) name) r.aliases }

/-- The grammar with a name or further name. -/
def get? (r : Registry) (name : String) : Option Grammar :=
  let name := Text.lowercase name
  match r.grammars.lookup name with
  | some g => some g
  | none => (r.aliases.lookup name).bind fun target => r.grammars.lookup target

/-- The grammar whose name or further name is the extension of a path. -/
def detect? (r : Registry) (path : String) : Option Grammar :=
  (Path.extension? path).bind r.get?

/-- The names of all grammars, in order. -/
def names (r : Registry) : List String := sortTexts (r.grammars.map (·.1))

/-- The further names that lead to a name, in order. -/
def aliasesOf (r : Registry) (name : String) : List String :=
  sortTexts ((r.aliases.filter fun (_, target) => target == name).map (·.1))

/-- Compile a grammar table and register its grammar. Grammars that the table does not define
itself are looked up in the registry. -/
def loadTable (r : Registry) (source : String) : Except GrammarError (Registry × Grammar) :=
  match GrammarTable.parse source with
  | .error e => .error e
  | .ok table =>
    match table.compile r.get? with
    | .error e => .error e
    | .ok g => .ok (r.register g table.aliases, g)

/-- Load tables one after another. A table that could not be read, or that is faulty, is passed
over; the result counts the others. -/
def loadTables (r : Registry) : (sources : List (Option String)) → Registry × Nat
  | [] => (r, 0)
  | none :: rest => r.loadTables rest
  | some source :: rest =>
    match r.loadTable source with
    | .ok (r, _) =>
      let (r, count) := r.loadTables rest
      (r, count + 1)
    | .error _ => r.loadTables rest

def tokenize (r : Registry) (name text : String) : Except Error (List Node) :=
  match r.get? name with
  | some g => .ok (g.tokenize text)
  | none => .error (.unknownLanguage name)

/-- The registry of the grammars that are built in. -/
def standard : Except GrammarError Registry := do
  let yaml ← Builtin.yaml
  let json ← Builtin.json
  let toml ← Builtin.toml
  return ((empty.register yaml ["yml"]).register json ["webmanifest", "jsonc"]).register toml []

end Registry

end Highlight
