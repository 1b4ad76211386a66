import Highlight.Grammar.Build

/-!
# The grammar of TOML

Table headers, keys, strings of all four kinds, dates and times, numbers and booleans. Headers
and keys are recognised by what surrounds them, which stays outside the token.
-/

namespace Highlight.Builtin

/-- A key without quotes, or in quotes of either kind. -/
def tomlKey : String := "(?:[\\w-]+|'[^'\\n\\r]*'|\"(?:\\\\.|[^\\\\\"\\r\\n])*\")"

def tomlDottedKey : String := tomlKey ++ "(?:\\s*\\.\\s*" ++ tomlKey ++ ")*"

def toml : Except GrammarError Grammar := do
  let comment ← Pattern.build "#.*" [.greedy]
  let table ← Pattern.build
    ("(^[\\t ]*\\[\\s*(?:\\[\\s*)?)" ++ tomlDottedKey ++ "(\\s*\\])")
    [.lookbehind, .lookahead, .multiLine, .greedy, .altKind "class-name"]
  let key ← Pattern.build ("(^[\\t ]*|[\x7b,]\\s*)" ++ tomlDottedKey ++ "(\\s*=)")
    [.lookbehind, .lookahead, .multiLine, .greedy, .altKind "property"]
  let string ← Pattern.build
    ("\"\"\"(?:\\\\[\\s\\S]|[^\\\\])*?\"\"\"|'''[\\s\\S]*?'''"
      ++ "|'[^'\\n\\r]*'|\"(?:\\\\.|[^\\\\\"\\r\\n])*\"")
    [.greedy]
  let date ← Pattern.build
    ("\\b\\d\x7b4\x7d-\\d\x7b2\x7d-\\d\x7b2\x7d"
      ++ "(?:[T\\s]\\d\x7b2\x7d:\\d\x7b2\x7d:\\d\x7b2\x7d(?:\\.\\d+)?"
      ++ "(?:Z|[+-]\\d\x7b2\x7d:\\d\x7b2\x7d)?)?\\b")
    [.caseInsensitive, .altKind "number"]
  let time ← Pattern.build "\\b\\d\x7b2\x7d:\\d\x7b2\x7d:\\d\x7b2\x7d(?:\\.\\d+)?\\b"
    [.altKind "number"]
  let number ← Pattern.build
    ("(?:\\b0(?:x[\\da-zA-Z]+(?:_[\\da-zA-Z]+)*|o[0-7]+(?:_[0-7]+)*|b[10]+(?:_[10]+)*))\\b"
      ++ "|[-+]?\\b\\d+(?:_\\d+)*(?:\\.\\d+(?:_\\d+)*)?(?:[eE][+-]?\\d+(?:_\\d+)*)?\\b"
      ++ "|[-+]?\\b(?:inf|nan)\\b")
  let boolean ← Pattern.build "\\b(?:false|true)\\b"
  let punctuation ← Pattern.build "[.,=\\[\\]\x7b\x7d]"
  Grammar.build "toml" [
    ⟨"comment", [comment]⟩,
    ⟨"table", [table]⟩,
    ⟨"key", [key]⟩,
    ⟨"string", [string]⟩,
    ⟨"date", [date, time]⟩,
    ⟨"number", [number]⟩,
    ⟨"boolean", [boolean]⟩,
    ⟨"punctuation", [punctuation]⟩]

end Highlight.Builtin
