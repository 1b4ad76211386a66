import Highlight.Builtin.Json
import Highlight.Proofs.Grammar.Light

/-!
# The patterns of the JSON grammar

The regular expressions of the grammar `json`, read and compiled: `builtin_json` says that the
grammar is built, and from which patterns.
-/

namespace Highlight.Json

open Highlight.Regex (Expr)

def noBackslash : CharSet := ⟨[(0, 91), (93, 1114111)]⟩

def noLineFeed : CharSet := ⟨[(0, 9), (11, 1114111)]⟩

/-- Characters that stand for themselves in a string: no quote, no backslash, no line break. -/
def plain : CharSet := ⟨[(0, 9), (11, 12), (14, 33), (35, 91), (93, 1114111)]⟩

/-- What opens a bracketed part or closes it, and the comma. -/
def sign : CharSet := ⟨[(44, 44), (91, 91), (93, 93), (123, 123), (125, 125)]⟩

namespace Source

/-- The beginning of the text, or a character that does not escape the quote behind it. -/
def opening : Expr := .group 1 (.alt (.anchor .textStart) (.set noBackslash))

/-- The characters between two quotes. -/
def content : Expr := .rep 0 none true (.alt (.cat (.literal ['\\']) (.set noLineFeed)) (.set plain))

/-- A colon, and white space before it. -/
def colon : Expr := .group 2 (.cat (.rep 0 none true (.set .blank)) (.literal [':']))

/-- A string that a colon follows. -/
def property : Expr :=
  .cat opening (.cat (.literal ['"']) (.cat content (.cat (.literal ['"']) colon)))

def string : Expr := .cat opening (.cat (.literal ['"']) (.cat content (.literal ['"'])))

/-- A comment of either kind. -/
def comment : Expr :=
  .alt (.cat (.literal ['/', '/']) (.rep 0 none true (.set noLineFeed)))
    (.cat (.literal ['/', '*']) (.cat (.rep 0 none false (.set ⟨[(0, 1114111)]⟩))
      (.alt (.literal ['*', '/']) (.anchor .textEnd))))

def digits : Expr := .rep 1 none true (.set .digit)

def optional (e : Expr) : Expr := .rep 0 (some 1) true e

def edge : Expr := .anchor (.wordBoundary .word)

def number : Expr :=
  .cat (optional (.literal ['-'])) (.cat edge (.cat digits
    (.cat (optional (.cat (.literal ['.']) digits))
      (.cat (optional (.cat (.set ⟨[(69, 69), (101, 101)]⟩)
        (.cat (optional (.set ⟨[(43, 43), (45, 45)]⟩)) digits))) edge))))

def boolean : Expr :=
  .cat edge (.cat (.alt (.literal ['f', 'a', 'l', 's', 'e']) (.literal ['t', 'r', 'u', 'e'])) edge)

def null : Expr := .cat edge (.cat (.literal ['n', 'u', 'l', 'l']) edge)

end Source

/-- Object keys. -/
def property : Pattern where
  regex := .ofExpr "(^|[^\\\\])\"(?:\\\\.|[^\\\\\"\\r\\n])*\"(\\s*:)" Source.property
  lookbehind := some 1
  lookahead := some 2
  greedy := true
  altKind := some "property"

def string : Pattern where
  regex := .ofExpr "(^|[^\\\\])\"(?:\\\\.|[^\\\\\"\\r\\n])*\"" Source.string
  lookbehind := some 1
  greedy := true

def comment : Pattern where
  regex := .ofExpr "//.*|/\\*[\\s\\S]*?(?:\\*/|$)" Source.comment
  greedy := true

def number : Pattern where
  regex := .ofExpr "-?\\b\\d+(?:\\.\\d+)?(?:e[+-]?\\d+)?\\b" Source.number

def punctuation : Pattern where
  regex := .ofExpr "[\x7b\x7d\\[\\],]" (.set sign)

def operator : Pattern where
  regex := .ofExpr ":" (.literal [':'])

def boolean : Pattern where
  regex := .ofExpr "\\b(?:false|true)\\b" Source.boolean

def null : Pattern where
  regex := .ofExpr "\\bnull\\b" Source.null
  altKind := some "keyword"

def grammar : Grammar :=
  .mk "json" [
    ⟨"property", [property]⟩,
    ⟨"string", [string]⟩,
    ⟨"comment", [comment]⟩,
    ⟨"number", [number]⟩,
    ⟨"punctuation", [punctuation]⟩,
    ⟨"operator", [operator]⟩,
    ⟨"boolean", [boolean]⟩,
    ⟨"null", [null]⟩]

theorem build_property : Pattern.build "(^|[^\\\\])\"(?:\\\\.|[^\\\\\"\\r\\n])*\"(\\s*:)"
    [.lookbehind, .lookahead, .greedy, .altKind "property"] = .ok property :=
  Pattern.Draft.build_of_light (by decide +kernel) (by decide +kernel) rfl rfl rfl

theorem build_string : Pattern.build "(^|[^\\\\])\"(?:\\\\.|[^\\\\\"\\r\\n])*\"" [.lookbehind, .greedy] =
    .ok string :=
  Pattern.Draft.build_of_light (by decide +kernel) (by decide +kernel) rfl rfl rfl

theorem build_comment : Pattern.build "//.*|/\\*[\\s\\S]*?(?:\\*/|$)" [.greedy] = .ok comment :=
  Pattern.Draft.build_of_light (by decide +kernel) (by decide +kernel) rfl rfl rfl

theorem build_number :
    Pattern.build "-?\\b\\d+(?:\\.\\d+)?(?:e[+-]?\\d+)?\\b" [.caseInsensitive] = .ok number :=
  Pattern.Draft.build_of_light (by decide +kernel) (by decide +kernel) rfl rfl rfl

theorem build_punctuation : Pattern.build "[\x7b\x7d\\[\\],]" = .ok punctuation :=
  Pattern.Draft.build_of_light (by decide +kernel) (by decide +kernel) rfl rfl rfl

theorem build_operator : Pattern.build ":" = .ok operator :=
  Pattern.Draft.build_of_light (by decide +kernel) (by decide +kernel) rfl rfl rfl

theorem build_boolean : Pattern.build "\\b(?:false|true)\\b" = .ok boolean :=
  Pattern.Draft.build_of_light (by decide +kernel) (by decide +kernel) rfl rfl rfl

theorem build_null : Pattern.build "\\bnull\\b" [.altKind "keyword"] = .ok null :=
  Pattern.Draft.build_of_light (by decide +kernel) (by decide +kernel) rfl rfl rfl

/-- The grammar `json` is built. -/
theorem builtin_json : Builtin.json = .ok grammar := by
  rw [Builtin.json, build_property, build_string, build_comment, build_number, build_punctuation,
    build_operator, build_boolean, build_null]
  rfl

end Highlight.Json
