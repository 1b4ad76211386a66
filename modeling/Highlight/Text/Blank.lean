import Highlight.CharSet.Classes

/-!
# Blanks, words and lines

Cutting text at white space: trimming, splitting into words, and splitting at a separator.
-/

namespace Highlight.Text

def trimEnd (cs : List Char) : List Char := (cs.reverse.dropWhile isBlank).reverse

def trim (cs : List Char) : List Char := trimEnd (cs.dropWhile isBlank)

/-- The words of a text, where `word` holds the last characters read, the latest first. -/
def wordsFrom : (word : List Char) → List Char → List (List Char)
  | [], [] => []
  | word, [] => [word.reverse]
  | word, c :: cs =>
    if isBlank c then
      if word.isEmpty then wordsFrom [] cs else word.reverse :: wordsFrom [] cs
    else wordsFrom (c :: word) cs

/-- The words of a text: the longest runs of characters that are no blanks. -/
def words (cs : List Char) : List (List Char) := wordsFrom [] cs

/-- The parts of a text between separators; there is one more of them than separators. -/
def splitAll (separator : Char) : List Char → List (List Char)
  | [] => [[]]
  | c :: cs =>
    if c == separator then [] :: splitAll separator cs
    else
      match splitAll separator cs with
      | [] => [[c]]
      | part :: parts => (c :: part) :: parts

/-- The text before the first separator and the text behind it, if there is a separator. -/
def splitFirst? (separator : Char) : List Char → Option (List Char × List Char)
  | [] => none
  | c :: cs =>
    if c == separator then some ([], cs)
    else (splitFirst? separator cs).map fun (before, behind) => (c :: before, behind)

/-- The text before the first place where `a` and `b` stand in a row, and the text behind it. -/
def splitFirstPair? (a b : Char) : List Char → Option (List Char × List Char)
  | c :: d :: cs =>
    if c == a && d == b then some ([], cs)
    else (splitFirstPair? a b (d :: cs)).map fun (before, behind) => (c :: before, behind)
  | _ => none

end Highlight.Text
