import Highlight.Regex.Reader

/-!
# What can be wrong with a grammar

These errors arise when a grammar is put together, never while text is tokenized. `message` holds
their wording.
-/

namespace Highlight

open Highlight.Regex (ReadError)

inductive GrammarError where
  /-- Two rules of a grammar name the same token type. -/
  | duplicateType (grammar name : String)
  /-- A rule of a grammar has no patterns. -/
  | emptyAlternatives (grammar name : String)
  /-- The source of a pattern is no regular expression. -/
  | invalidPattern (source : String) (cause : ReadError)
  /-- The group of the leading context is none of the pattern's groups. -/
  | lookbehindOutOfRange (source : String) (group : Nat)
  /-- The group of the trailing context is none of the pattern's groups. -/
  | lookaheadOutOfRange (source : String) (group : Nat)
  /-- A pattern names a grammar for its inside that nobody knows. -/
  | unknownGrammar (name : String)
  /-- A table does not describe a grammar. -/
  | malformedTable
  deriving Repr, DecidableEq, Inhabited

namespace GrammarError

def message : GrammarError → String
  | duplicateType grammar name => s!"Duplicate token type `{name}` in grammar `{grammar}`"
  | emptyAlternatives grammar name => s!"Token type `{name}` in grammar `{grammar}` has no patterns"
  | invalidPattern source _ => s!"Invalid pattern for `{source}`"
  | lookbehindOutOfRange source group =>
    s!"Pattern for `{source}` has no capture group {group} to use as lookbehind"
  | lookaheadOutOfRange source group =>
    s!"Pattern for `{source}` has no capture group {group} to use as lookahead"
  | unknownGrammar name => s!"Unknown nested grammar `{name}`"
  | malformedTable => "Invalid grammar table"

end GrammarError

end Highlight
