import Highlight.Grammar.Build

/-!
# The grammar of YAML

Most values count as such only behind a `:`, `-`, `,` or an opening bracket and before the end of
a line, a comma or a closing bracket. Both contexts are groups that stay outside the token.
-/

namespace Highlight.Builtin

/-- What introduces a value: a sign, and perhaps a tag. -/
def yamlValueStart : String := "([:\\-,\\[\x7b]\\s*(?:![^\\s]+)?[ \\t]*)"

/-- What has to follow a plain value. -/
def yamlValueEnd : String := "([ \\t]*(?:$|,|\\]|\\\x7d))"

/-- The same, where blanks before it belong to the value. -/
def yamlFlushEnd : String := "[ \\t]*((?:$|,|\\]|\\\x7d))"

def yaml : Except GrammarError Grammar := do
  let scalar ← Pattern.build
    ("([\\-:]\\s*(?:![^\\s]+)?[ \\t]*[|>])"
      ++ "[ \\t]*(?:(?:\\r?\\n|\\r)[ \\t]+[^\\r\\n]+(?:(?:\\r?\\n|\\r)[ \\t]+[^\\r\\n]+)*)")
    [.lookbehind, .altKind "string"]
  let comment ← Pattern.build "#.*"
  let key ← Pattern.build
    ("(\\s*(?:^|[:\\-,\\[\x7b\\r\\n?])[ \\t]*(?:![^\\s]+)?[ \\t]*)"
      ++ "[^\\r\\n\x7b\\[\\]\x7d,#\\s]+?(\\s*:\\s)")
    [.lookbehind, .lookahead, .altKind "atrule"]
  let directive ← Pattern.build "(^[ \\t]*)%.+"
    [.lookbehind, .multiLine, .altKind "important"]
  let datetime ← Pattern.build
    (yamlValueStart
      ++ "(?:\\d\x7b4\x7d-\\d\\d?-\\d\\d?(?:[tT]|[ \\t]+)"
      ++ "\\d\\d?:\\d\x7b2\x7d:\\d\x7b2\x7d(?:\\.\\d*)?"
      ++ "[ \\t]*(?:Z|[-+]\\d\\d?(?::\\d\x7b2\x7d)?)?"
      ++ "|\\d\x7b4\x7d-\\d\x7b2\x7d-\\d\x7b2\x7d"
      ++ "|\\d\\d?:\\d\x7b2\x7d(?::\\d\x7b2\x7d(?:\\.\\d*)?)?)"
      ++ yamlValueEnd)
    [.lookbehind, .lookahead, .multiLine, .altKind "number"]
  let boolean ← Pattern.build (yamlValueStart ++ "(?:true|false)" ++ yamlFlushEnd)
    [.lookbehind, .lookahead, .multiLine, .caseInsensitive, .altKind "important"]
  let null ← Pattern.build (yamlValueStart ++ "(?:null|~)" ++ yamlFlushEnd)
    [.lookbehind, .lookahead, .multiLine, .caseInsensitive, .altKind "important"]
  let doubleQuoted ← Pattern.build
    (yamlValueStart ++ "\"(?:[^\"\\\\\\r\\n]|\\\\.)*\"" ++ yamlValueEnd)
    [.lookbehind, .lookahead, .multiLine, .greedy]
  let singleQuoted ← Pattern.build
    (yamlValueStart ++ "'(?:[^'\\\\\\r\\n]|\\\\.)*'" ++ yamlValueEnd)
    [.lookbehind, .lookahead, .multiLine, .greedy]
  let number ← Pattern.build
    (yamlValueStart
      ++ "[+-]?(?:0x[\\da-f]+|0o[0-7]+|(?:\\d+\\.?\\d*|\\.?\\d+)(?:e[+-]?\\d+)?|\\.inf|\\.nan)"
      ++ yamlFlushEnd)
    [.lookbehind, .lookahead, .multiLine, .caseInsensitive]
  let tag ← Pattern.build "![^\\s]+"
  let important ← Pattern.build "[&*]\\w+"
  let punctuation ← Pattern.build "---|[:\\[\\]\x7b\x7d\\-,|>?]|\\.\\.\\."
  Grammar.build "yaml" [
    ⟨"scalar", [scalar]⟩,
    ⟨"comment", [comment]⟩,
    ⟨"key", [key]⟩,
    ⟨"directive", [directive]⟩,
    ⟨"datetime", [datetime]⟩,
    ⟨"boolean", [boolean]⟩,
    ⟨"null", [null]⟩,
    ⟨"string", [doubleQuoted, singleQuoted]⟩,
    ⟨"number", [number]⟩,
    ⟨"tag", [tag]⟩,
    ⟨"important", [important]⟩,
    ⟨"punctuation", [punctuation]⟩]

end Highlight.Builtin
