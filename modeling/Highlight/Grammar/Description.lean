import Highlight.Grammar.Basic
import Highlight.Text.Quoted

/-!
# Descriptions of patterns

One line that shows what a pattern is made of. A grammar for the inside is shown by its name.
-/

namespace Highlight

namespace Description

/-- A value that may be missing. -/
def orNone {α : Type} (describe : α → String) : Option α → String
  | some a => "Some(" ++ describe a ++ ")"
  | none => "None"

def record (name : String) (fields : List (String × String)) : String :=
  name ++ " \x7b " ++ ", ".intercalate (fields.map fun (key, value) => key ++ ": " ++ value)
    ++ " \x7d"

end Description

open Description

def Pattern.description (p : Pattern) : String :=
  record "Pattern" [
    ("regex", Text.quote p.regex.source),
    ("lookbehind_group", orNone (fun n : Nat => toString n) p.lookbehind),
    ("lookahead_group", orNone (fun n : Nat => toString n) p.lookahead),
    ("greedy", if p.greedy then "true" else "false"),
    ("alias", orNone Text.quote p.altKind),
    ("inside", orNone (fun g : Grammar => Text.quote g.name) p.inside)]

end Highlight
