import Highlight.Text.Blank

/-!
# Paths

A path is text whose parts are separated by slashes. Empty parts and parts that are a single dot
do not count.
-/

namespace Highlight.Path

/-- The parts of a path that count. -/
def parts (path : String) : List String :=
  ((Text.splitAll '/' path.toList).map String.ofList).filter fun p => p != "" && p != "."

def isAbsolute (path : String) : Bool := path.toList.head? == some '/'

/-- Whether a path says that it means a directory, by a slash or a dot at its end. -/
def namesDirectory (path : String) : Bool :=
  match (Text.splitAll '/' path.toList).getLast? with
  | some last => last == [] || last == ['.']
  | none => false

/-- The last part of a path, unless it leads upwards. -/
def fileName? (path : String) : Option String :=
  match (parts path).getLast? with
  | some name => if name == ".." then none else some name
  | none => none

/-- What follows the last dot of a file name; a dot that comes first begins no extension. -/
def extensionOf? (name : String) : Option String :=
  let cs := name.toList.reverse
  match cs.dropWhile (· != '.') with
  | _ :: _ :: _ => some (String.ofList (cs.takeWhile (· != '.')).reverse)
  | _ => none

def extension? (path : String) : Option String := (fileName? path).bind extensionOf?

/-- The path that leads to `path` when seen from `dir`. -/
def join (dir path : String) : String :=
  if isAbsolute path then path
  else if dir == "" || dir.toList.getLast? == some '/' then dir ++ path
  else dir ++ "/" ++ path

/-- Read a leading `~/` as the home directory, where there is one. -/
def expandHome (home : Option String) (path : String) : String :=
  match path.toList, home with
  | '~' :: '/' :: rest, some home => join home (String.ofList rest)
  | _, _ => path

end Highlight.Path
