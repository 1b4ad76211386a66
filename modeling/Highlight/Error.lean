import Highlight.Files.Host
import Highlight.Grammar.Error

/-!
# Errors of the program

Everything that can make the program give up, with its wording.
-/

namespace Highlight

inductive Error where
  | file (e : FileError)
  | grammar (e : GrammarError)
  /-- Nobody knows a grammar for a name, a file or the standard input. -/
  | unknownLanguage (name : String)
  | unknownSetting (key : String)
  | invalidStyle (value styleClass : String)
  deriving Repr, DecidableEq, Inhabited

def Error.message : Error → String
  | file e => "I/O error: " ++ e.message
  | grammar e => e.message
  | unknownLanguage name => s!"No grammar registered for `{name}`"
  | unknownSetting key => s!"Invalid configuration: unknown setting `{key}`"
  | invalidStyle value styleClass =>
    s!"Invalid configuration: invalid style `{value}` for `{styleClass}`"

end Highlight
