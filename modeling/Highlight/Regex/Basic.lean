import Highlight.Regex.Footprint.Basic
import Highlight.Regex.Source
import Highlight.Regex.Matching

/-!
# Compiled regular expressions

A `Regex` holds the source it was read from, the number of groups and the program. Its one
operation is `matchAt`, the preferred match that begins at a given place of a text.
-/

namespace Highlight

open Highlight.Regex (Expr Flags Program ReadError Captures)

/-- A regular expression, ready to match. -/
structure Regex where
  source : String
  groupCount : Nat
  program : Program
  deriving Repr, DecidableEq, Inhabited

namespace Regex

def ofExpr (source : String) (e : Expr) : Regex := ⟨source, e.groupCount, e.program⟩

/-- Read a regular expression under the flags it begins with. One whose automaton would be too
large is refused. -/
def compile (source : String) (flags : Flags := {}) : Except ReadError Regex := do
  let e ← Expr.ofSource flags source.toList
  if e.fits then return ofExpr source e else throw .tooLarge

/-- The preferred match that begins where `text` begins. `before` is the character in front of
`text`, or `none` at the beginning of the text that is searched. -/
def matchAt (r : Regex) (before : Option Char) (text : List Char) : Option Captures :=
  r.program.matchAt r.groupCount before text

end Regex

end Highlight
