import Highlight.Files.Host
import Highlight.Files.Path

/-!
# Files in memory

A tree of files and directories, in which paths are followed part by part as a file system does.
With a current directory, which is its home directory too, it is a host.
-/

namespace Highlight

inductive FileTree where
  | file (bytes : ByteArray)
  | directory (entries : List (String × FileTree))
  deriving Inhabited

namespace FileTree

def entries : FileTree → List (String × FileTree)
  | file _ => []
  | directory entries => entries

/-- Put something at a path, given by its parts; directories on the way are made. -/
def insert (new : FileTree) : (parts : List String) → FileTree → FileTree
  | [], _ => new
  | name :: parts, tree =>
    match tree.entries.lookup name with
    | some old =>
      directory (tree.entries.map fun (n, t) =>
        if n == name then (n, insert new parts old) else (n, t))
    | none => directory (tree.entries ++ [(name, insert new parts (directory []))])

/-- The longest name of an entry, in bytes. -/
def nameLimit : Nat := 255

/-- Follow the parts of a path; `above` holds the directories on the way here, the nearest
first. -/
def follow : (above : List FileTree) → FileTree → List String → Except FileError FileTree
  | _, tree, [] => .ok tree
  | above, tree, name :: parts =>
    match tree with
    | file _ => .error .notDirectory
    | directory entries =>
      if name == ".." then
        match above with
        | [] => follow [] tree parts
        | parent :: above => follow above parent parts
      else if nameLimit < name.utf8ByteSize then .error .nameTooLong
      else
        match entries.lookup name with
        | some child => follow (tree :: above) child parts
        | none => .error .notFound

end FileTree

/-- A tree of files together with the path of the current directory and what stands on the
standard input. -/
structure Surroundings where
  root : FileTree
  current : String
  input : ByteArray

namespace Surroundings

/-- The length of a path that is too long to be followed, in bytes. -/
def pathLimit : Nat := 4096

/-- What a path leads to. -/
def find (s : Surroundings) (path : String) : Except FileError FileTree :=
  if path.toList.contains '\x00' then .error .nulInName
  else if path == "" then .error .notFound
  else if pathLimit ≤ path.utf8ByteSize then .error .nameTooLong
  else
    match FileTree.follow [] s.root (Path.parts (Path.join s.current path)) with
    | .ok (.file bytes) =>
      if Path.namesDirectory path then .error .notDirectory else .ok (.file bytes)
    | found => found

def readText (s : Surroundings) (path : String) : Except FileError String :=
  match s.find path with
  | .ok (.file bytes) => decodeText bytes
  | .ok (.directory _) => .error .isDirectory
  | .error e => .error e

def listDirectory (s : Surroundings) (path : String) : Except FileError (List String) :=
  match s.find path with
  | .ok (.file _) => .error .notDirectory
  | .ok (.directory entries) => .ok (entries.map (·.1))
  | .error e => .error e

/-- The surroundings as a host. The current directory is the home directory too, and there is no
terminal. -/
def host (s : Surroundings) : Host Id where
  home := some s.current
  readText := s.readText
  listDirectory := s.listDirectory
  readInput := decodeText s.input
  terminal := false

end Surroundings

end Highlight
