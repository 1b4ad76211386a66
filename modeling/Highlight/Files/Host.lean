/-!
# What the program needs from its surroundings

A `Host` reads files, directories and the standard input, and knows the home directory and where
the output goes. The rest of the program is written for any host, so that it can be run on real
files and reasoned about on a tree of files in memory.
-/

namespace Highlight

inductive FileError where
  | notFound
  | notDirectory
  | isDirectory
  | nameTooLong
  | nulInName
  | notText
  | other (text : String)
  deriving Repr, DecidableEq, Inhabited

def FileError.message : FileError → String
  | notFound => "No such file or directory (os error 2)"
  | notDirectory => "Not a directory (os error 20)"
  | isDirectory => "Is a directory (os error 21)"
  | nameTooLong => "File name too long (os error 36)"
  | nulInName => "file name contained an unexpected NUL byte"
  | notText => "stream did not contain valid UTF-8"
  | other text => text

def decodeText (bytes : ByteArray) : Except FileError String :=
  match String.fromUTF8? bytes with
  | some text => .ok text
  | none => .error .notText

/-- Access to files, directories and the standard input. -/
structure Host (m : Type → Type) where
  /-- The home directory, if it is known. -/
  home : Option String
  /-- The text of a file. -/
  readText : String → m (Except FileError String)
  /-- The names of the entries of a directory, in any order. -/
  listDirectory : String → m (Except FileError (List String))
  /-- The text of the standard input. -/
  readInput : m (Except FileError String)
  /-- Whether the standard output is a terminal. -/
  terminal : Bool

end Highlight
