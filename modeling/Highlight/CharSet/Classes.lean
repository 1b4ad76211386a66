import Highlight.CharSet.Basic
import Highlight.CharSet.WordTable
import Highlight.CharSet.DigitTable
import Highlight.CharSet.LetterTable

/-!
# Named classes of characters

The classes that patterns and text functions call by name: words, digits and white space over
all of Unicode, and the bracketed classes such as `alpha`, which know ASCII only.
-/

namespace Highlight.CharSet

/-- Word characters, which decide where a word begins and ends. -/
def word : CharSet := ⟨wordRanges⟩

/-- Decimal digits of every script. -/
def digit : CharSet := ⟨digitRanges⟩

def blank : CharSet := ⟨blankRanges⟩

def letter : CharSet := ⟨letterRanges⟩

def number : CharSet := ⟨numberRanges⟩

def asciiWord : CharSet := ⟨[(0x30, 0x39), (0x41, 0x5A), (0x5F, 0x5F), (0x61, 0x7A)]⟩

def asciiDigit : CharSet := ⟨[(0x30, 0x39)]⟩

def asciiBlank : CharSet := ⟨[(0x09, 0x0D), (0x20, 0x20)]⟩

/-- The ASCII class that a bracketed name such as `alpha` stands for. -/
def asciiClass? : String → Option CharSet
  | "alnum" => some ⟨[(0x30, 0x39), (0x41, 0x5A), (0x61, 0x7A)]⟩
  | "alpha" => some ⟨[(0x41, 0x5A), (0x61, 0x7A)]⟩
  | "ascii" => some ⟨[(0x00, 0x7F)]⟩
  | "blank" => some ⟨[(0x09, 0x09), (0x20, 0x20)]⟩
  | "cntrl" => some ⟨[(0x00, 0x1F), (0x7F, 0x7F)]⟩
  | "digit" => some asciiDigit
  | "graph" => some ⟨[(0x21, 0x7E)]⟩
  | "lower" => some ⟨[(0x61, 0x7A)]⟩
  | "print" => some ⟨[(0x20, 0x7E)]⟩
  | "punct" => some ⟨[(0x21, 0x2F), (0x3A, 0x40), (0x5B, 0x60), (0x7B, 0x7E)]⟩
  | "space" => some asciiBlank
  | "upper" => some ⟨[(0x41, 0x5A)]⟩
  | "word" => some asciiWord
  | "xdigit" => some ⟨[(0x30, 0x39), (0x41, 0x46), (0x61, 0x66)]⟩
  | _ => none

end Highlight.CharSet

namespace Highlight

def isWordChar (c : Char) : Bool := CharSet.word.contains c

/-- White space of every kind, the line ends among it. -/
def isBlank (c : Char) : Bool := CharSet.blank.contains c

end Highlight
