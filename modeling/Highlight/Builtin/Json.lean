import Highlight.Grammar.Build

/-!
# The grammar of JSON

Object keys, strings, numbers and the three literals, and the comments that some dialects allow.
A key is a string that a colon follows. Strings, keys and comments are greedy, so that a comment
sign inside a string starts no comment.
-/

namespace Highlight.Builtin

def json : Except GrammarError Grammar := do
  let property ← Pattern.build "(^|[^\\\\])\"(?:\\\\.|[^\\\\\"\\r\\n])*\"(\\s*:)"
    [.lookbehind, .lookahead, .greedy, .altKind "property"]
  let string ← Pattern.build "(^|[^\\\\])\"(?:\\\\.|[^\\\\\"\\r\\n])*\"" [.lookbehind, .greedy]
  let comment ← Pattern.build "//.*|/\\*[\\s\\S]*?(?:\\*/|$)" [.greedy]
  let number ← Pattern.build "-?\\b\\d+(?:\\.\\d+)?(?:e[+-]?\\d+)?\\b" [.caseInsensitive]
  let punctuation ← Pattern.build "[\x7b\x7d\\[\\],]"
  let operator ← Pattern.build ":"
  let boolean ← Pattern.build "\\b(?:false|true)\\b"
  let null ← Pattern.build "\\bnull\\b" [.altKind "keyword"]
  Grammar.build "json" [
    ⟨"property", [property]⟩,
    ⟨"string", [string]⟩,
    ⟨"comment", [comment]⟩,
    ⟨"number", [number]⟩,
    ⟨"punctuation", [punctuation]⟩,
    ⟨"operator", [operator]⟩,
    ⟨"boolean", [boolean]⟩,
    ⟨"null", [null]⟩]

end Highlight.Builtin
