import Highlight.Grammar.Build
import Highlight.Table.Basic

/-!
# Compiling grammar tables

The grammars of a table are built in order, the nested ones first. A pattern that names a grammar
for its inside gets the last one of that name built before it in the same table, or else what the
caller knows under the name. The first fault in order is the error: a name that nobody knows
comes before a fault of the pattern that uses it, and faults of patterns come before those of the
rules around them.
-/

namespace Highlight

/-- The settings of a pattern, apart from the grammar for its inside. -/
def PatternTable.settings (t : PatternTable) : List Pattern.Setting :=
  (if t.lookbehind then [.lookbehind] else []) ++ (if t.lookahead then [.lookahead] else [])
    ++ (if t.greedy then [.greedy] else [])
    ++ (if t.caseInsensitive then [.caseInsensitive] else [])
    ++ (if t.multiLine then [.multiLine] else [])
    ++ (match t.altKind with | some name => [.altKind name] | none => [])

/-- Build a pattern; `resolve` finds grammars by name. -/
def PatternTable.compile (resolve : String → Option Grammar) (t : PatternTable) :
    Except GrammarError Pattern :=
  match t.inside with
  | none => Pattern.build t.regex t.settings
  | some name =>
    match resolve name with
    | some g => Pattern.build t.regex (t.settings ++ [.inside g])
    | none => .error (.unknownGrammar name)

def RuleTable.compile (resolve : String → Option Grammar) (t : RuleTable) :
    Except GrammarError Rule :=
  (t.patterns.mapM (PatternTable.compile resolve)).map fun patterns => ⟨t.name, patterns⟩

def compileRules (resolve : String → Option Grammar) (name : String) (rules : List RuleTable) :
    Except GrammarError Grammar := do
  Grammar.build name (← rules.mapM (RuleTable.compile resolve))

/-- Find a grammar in a scope, or else by `resolve`. -/
def inScope (scope : List (String × Grammar)) (resolve : String → Option Grammar)
    (name : String) : Option Grammar :=
  (scope.lookup name).or (resolve name)

/-- Build nested grammars in order, each in the scope of those before it, the latest first. -/
def compileNested (resolve : String → Option Grammar) :
    (scope : List (String × Grammar)) → List NestedTable →
    Except GrammarError (List (String × Grammar))
  | scope, [] => .ok scope
  | scope, t :: rest =>
    match compileRules (inScope scope resolve) t.name t.rules with
    | .ok g => compileNested resolve ((t.name, g) :: scope) rest
    | .error e => .error e

/-- Build the grammar that a table describes; `resolve` finds grammars that the table does not
define itself. -/
def GrammarTable.compile (t : GrammarTable) (resolve : String → Option Grammar) :
    Except GrammarError Grammar :=
  match compileNested resolve [] t.nested with
  | .ok scope => compileRules (inScope scope resolve) t.name t.rules
  | .error e => .error e

end Highlight
