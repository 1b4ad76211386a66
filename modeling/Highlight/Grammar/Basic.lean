import Highlight.Regex.Basic

/-!
# Grammars

A grammar is an ordered list of rules, and a rule is a token type with an ordered list of
patterns. Order is priority: an earlier rule claims text before a later one, and within a rule an
earlier pattern before a later one. A pattern may name a further grammar for the inside of what
it matches, so grammars nest; `Grammar.nesting` says how deep.
-/

namespace Highlight

/-- A regular expression with what the tokenizer needs to know about it. `Inner` is what the text
of a match is divided by. -/
structure PatternWith (Inner : Type) where
  regex : Regex
  /-- The group whose text comes before the token. -/
  lookbehind : Option Nat := none
  /-- The group whose text comes behind the token. -/
  lookahead : Option Nat := none
  /-- Whether a match may run across tokens of earlier patterns. -/
  greedy : Bool := false
  /-- The style class to use in place of the token type. -/
  altKind : Option String := none
  /-- What the text of a token is divided by in turn. -/
  inside : Option Inner := none

/-- A token type and the patterns that match it, the preferred one first. -/
structure RuleWith (Inner : Type) where
  name : String
  patterns : List (PatternWith Inner)

/-- A named list of rules, the one with the highest priority first. -/
inductive Grammar where
  | mk (name : String) (rules : List (RuleWith Grammar))

abbrev Pattern := PatternWith Grammar

abbrev Rule := RuleWith Grammar

namespace Grammar

def name : Grammar → String
  | mk name _ => name

def rules : Grammar → List Rule
  | mk _ rules => rules

def rule? (g : Grammar) (name : String) : Option Rule := g.rules.find? (·.name == name)

end Grammar

mutual

/-- The number of grammars on the longest way from this one to an innermost one. -/
def Grammar.nesting : Grammar → Nat
  | .mk _ rules => nestingOfRules rules + 1

def nestingOfRules : List (RuleWith Grammar) → Nat
  | [] => 0
  | rule :: rules => max (nestingOfRule rule) (nestingOfRules rules)

def nestingOfRule : RuleWith Grammar → Nat
  | ⟨_, patterns⟩ => nestingOfPatterns patterns

def nestingOfPatterns : List (PatternWith Grammar) → Nat
  | [] => 0
  | pattern :: patterns => max (nestingOfPattern pattern) (nestingOfPatterns patterns)

/-- The nesting of the grammar that a pattern uses, zero if it uses none. -/
def nestingOfPattern : PatternWith Grammar → Nat
  | ⟨_, _, _, _, _, inside⟩ => nestingOfInside inside

def nestingOfInside : Option Grammar → Nat
  | none => 0
  | some g => g.nesting

end

end Highlight
