import Highlight.Grammar.Basic
import Highlight.Grammar.Error

/-!
# Building patterns

A pattern is built from the source of a regular expression and a list of settings. Settings are
taken in order; a later one of the same kind replaces an earlier one. The two ways to name the
trailing context are one kind. The regular expression is checked first, then the group of the
leading context, then that of the trailing context.
-/

namespace Highlight

open Highlight.Regex (Flags)

namespace Pattern

/-- How the group of the trailing context is named. -/
inductive Trailing where
  /-- By its number. -/
  | group (n : Nat)
  /-- As the last group there is. -/
  | last
  deriving Repr, DecidableEq

inductive Setting where
  /-- The group whose text comes before the token. -/
  | lookbehind (group : Nat := 1)
  /-- The group whose text comes behind the token. -/
  | lookahead (group : Trailing := .last)
  /-- A match may run across tokens of earlier patterns. -/
  | greedy
  /-- The style class to use in place of the token type. -/
  | altKind (name : String)
  /-- The grammar for the text of a token. -/
  | inside (g : Grammar)
  /-- Letter case does not matter. -/
  | caseInsensitive
  /-- `^` and `$` look at lines. -/
  | multiLine

/-- A pattern whose regular expression has not been read. -/
structure Draft where
  source : String
  flags : Flags := {}
  lookbehind : Option Nat := none
  lookahead : Option Trailing := none
  greedy : Bool := false
  altKind : Option String := none
  inside : Option Grammar := none

namespace Draft

def set (d : Draft) : Setting → Draft
  | .lookbehind group => { d with lookbehind := some group }
  | .lookahead group => { d with lookahead := some group }
  | .greedy => { d with greedy := true }
  | .altKind name => { d with altKind := some name }
  | .inside g => { d with inside := some g }
  | .caseInsensitive => { d with flags := { d.flags with ignoreCase := true } }
  | .multiLine => { d with flags := { d.flags with multiLine := true } }

/-- The number of the group of the trailing context, where there are `count` groups. -/
def lookaheadGroup (d : Draft) (count : Nat) : Option Nat :=
  match d.lookahead with
  | some (.group n) => some n
  | some .last => some count
  | none => none

/-- Whether a group that is asked for is one of `count` groups. -/
def inRange (count : Nat) : Option Nat → Bool
  | some n => 1 ≤ n && n ≤ count
  | none => true

/-- Read the regular expression and check the groups of the contexts. -/
def build (d : Draft) : Except GrammarError Pattern :=
  match Regex.compile d.source d.flags with
  | .error cause => .error (.invalidPattern d.source cause)
  | .ok regex =>
    let lookahead := d.lookaheadGroup regex.groupCount
    if !inRange regex.groupCount d.lookbehind then
      .error (.lookbehindOutOfRange d.source (d.lookbehind.getD 0))
    else if !inRange regex.groupCount lookahead then
      .error (.lookaheadOutOfRange d.source (lookahead.getD 0))
    else
      .ok {
        regex := regex
        lookbehind := d.lookbehind
        lookahead := lookahead
        greedy := d.greedy
        altKind := d.altKind
        inside := d.inside }

end Draft

def build (source : String) (settings : List Setting := []) : Except GrammarError Pattern :=
  (settings.foldl Draft.set { source := source }).build

def ofRegex (r : Regex) : Pattern := { regex := r }

end Pattern

end Highlight
