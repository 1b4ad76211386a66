import Highlight.Grammar.Pattern

/-!
# Building grammars

A grammar is accepted if each of its rules names a token type of its own and has a pattern. The
rules are checked in order, and the first faulty one decides the error.
-/

namespace Highlight.Grammar

/-- Check rules in order; `seen` holds the token types of the rules before. -/
def checkRules (grammar : String) : (seen : List String) → List Rule → Except GrammarError Unit
  | _, [] => .ok ()
  | seen, rule :: rest =>
    if seen.contains rule.name then .error (.duplicateType grammar rule.name)
    else if rule.patterns.isEmpty then .error (.emptyAlternatives grammar rule.name)
    else checkRules grammar (rule.name :: seen) rest

/-- The grammar with a name and rules, if the rules are in order. -/
def build (name : String) (rules : List Rule) : Except GrammarError Grammar :=
  (checkRules name [] rules).map fun _ => .mk name rules

end Highlight.Grammar
