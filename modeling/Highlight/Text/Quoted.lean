import Highlight.CharSet.Basic
import Highlight.Text.QuotedTable

/-!
# Quoted text

A quoted text stands on one line between double quotes. Quotes, backslashes and the common
controls are escaped by a letter; everything else that does not print by itself is escaped by its
number in lower-case hexadecimal digits.
-/

namespace Highlight.Text

def hexDigit (n : Nat) : Char := if n < 10 then Char.ofNat (48 + n) else Char.ofNat (87 + n)

/-- The hexadecimal digits of a number below `16 ^ (places + 1)`, without leading zeros. -/
def hexDigits : (places : Nat) → Nat → List Char
  | 0, n => [hexDigit (n % 16)]
  | places + 1, n => if n < 16 then [hexDigit n] else hexDigits places (n / 16) ++ [hexDigit (n % 16)]

def isEscapedByNumber (c : Char) : Bool := CharSet.covers escapedRanges c.toNat

/-- A character as it stands in a quoted text. -/
def quoteChar (c : Char) : List Char :=
  match c with
  | '\x00' => ['\\', '0']
  | '\t' => ['\\', 't']
  | '\r' => ['\\', 'r']
  | '\n' => ['\\', 'n']
  | '\\' => ['\\', '\\']
  | '"' => ['\\', '"']
  | c =>
    if isEscapedByNumber c then ['\\', 'u', '\x7b'] ++ hexDigits 5 c.toNat ++ ['\x7d'] else [c]

def quote (s : String) : String :=
  String.ofList ('"' :: s.toList.flatMap quoteChar ++ ['"'])

end Highlight.Text
