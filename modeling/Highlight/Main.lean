import Highlight.Command.Run

/-!
# The command

The host that reads real files, and the program that runs on it.
-/

namespace Highlight

/-- Why the system refused, from its number for the reason and its words. -/
def FileError.ofCode (code : UInt32) (words : String) : FileError :=
  if code == 2 then .notFound
  else if code == 20 then .notDirectory
  else if code == 21 then .isDirectory
  else if code == 36 then .nameTooLong
  else .other s!"{words} (os error {code})"

def FileError.ofSystem : IO.Error → FileError
  | .noFileOrDirectory _ code words | .inappropriateType (some _) code words
  | .permissionDenied (some _) code words | .invalidArgument (some _) code words
  | .resourceExhausted (some _) code words | .alreadyExists (some _) code words
  | .interrupted _ code words => .ofCode code words
  | .inappropriateType none code words | .permissionDenied none code words
  | .invalidArgument none code words | .resourceExhausted none code words
  | .alreadyExists none code words | .noSuchThing _ code words | .resourceBusy code words
  | .resourceVanished code words | .unsupportedOperation code words
  | .hardwareFault code words | .unsatisfiedConstraints code words
  | .illegalOperation code words | .protocolError code words | .timeExpired code words
  | .otherError code words => .ofCode code words
  | .unexpectedEof => .other "unexpected end of file"
  | .userError words => .other words

/-- What an access gives, with a refusal of the system as an error. -/
def attempt {α : Type} (access : IO (Except FileError α)) : IO (Except FileError α) :=
  try access catch e => return .error (.ofSystem e)

/-- Do something with the file at a path, if the path can lead to one. -/
def withPath {α : Type} (path : String) (access : IO (Except FileError α)) :
    IO (Except FileError α) :=
  if path.toList.contains '\x00' then return .error .nulInName
  else if path == "" then return .error .notFound
  else attempt access

def entryNames (path : String) : IO (List String) := do
  let entries ← (← IO.FS.realPath path).readDir
  return entries.toList.map (·.fileName)

def systemHost : IO (Host IO) := do
  return {
    home := ← IO.getEnv "HOME"
    readText := fun path => withPath path do return decodeText (← IO.FS.readBinFile path)
    listDirectory := fun path => withPath path do return .ok (← entryNames path)
    readInput := attempt do return decodeText (← (← IO.getStdin).readBinToEnd)
    terminal := ← (← IO.getStdout).isTty }

end Highlight

def main (args : List String) : IO UInt32 := do
  let outcome ← Highlight.Command.run (← Highlight.systemHost) args
  IO.print outcome.output
  IO.eprint outcome.errors
  return outcome.code.toUInt32
