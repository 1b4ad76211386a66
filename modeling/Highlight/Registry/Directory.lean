import Highlight.Registry.Basic

/-!
# Loading a directory of tables

All files of a directory whose extension is `toml` are loaded in the order of their names, each
on top of what the files before it left.
-/

namespace Highlight.Registry

variable {m : Type → Type} [Monad m]

/-- The names of grammar tables among the entries of a directory, in the order of loading. -/
def tableNames (entries : List String) : List String :=
  sortTexts (entries.filter fun name => Path.extension? name == some "toml")

/-- Load the grammar tables in a directory; the result counts those that were in order. -/
def loadDirectory (host : Host m) (r : Registry) (dir : String) :
    m (Except FileError (Registry × Nat)) := do
  match ← host.listDirectory dir with
  | .error e => return .error e
  | .ok entries =>
    let sources ← (tableNames entries).mapM fun name => host.readText (Path.join dir name)
    return .ok (r.loadTables (sources.map (·.toOption)))

end Highlight.Registry
