import Highlight.CharSet.Basic
import Highlight.Text.CasedTable
import Highlight.Text.LowercaseTable

/-!
# Lowercase

Names of grammars, settings, colors and style words are compared in lowercase. The mapping is the
one of Unicode, with its two special cases: the capital I with a dot becomes two characters, and
a capital sigma takes its final form at the end of a word.
-/

namespace Highlight.Text

def isCased (c : Char) : Bool := CharSet.covers casedRanges c.toNat

/-- Whether a character is passed over when the neighbours of a sigma are looked at. -/
def isCaseIgnorable (c : Char) : Bool := CharSet.covers caseIgnorableRanges c.toNat

/-- Whether the first character that is not passed over has a case. -/
def beginsCased : List Char → Bool
  | [] => false
  | c :: cs => if isCaseIgnorable c then beginsCased cs else isCased c

/-- The lowercase form of a character other than a capital sigma. -/
def lowercaseChar (c : Char) : List Char :=
  if c == 'İ' then ['i', '\u0307'] else [Char.ofNat (mapCase lowerRuns c.toNat)]

/-- The lowercase form of text that follows other text; `afterCased` says whether the last
character there that is not passed over has a case. -/
def lowercaseFrom : (afterCased : Bool) → List Char → List Char
  | _, [] => []
  | afterCased, c :: cs =>
    let lower :=
      if c == 'Σ' then [if afterCased && !beginsCased cs then 'ς' else 'σ'] else lowercaseChar c
    let afterCased := if isCaseIgnorable c then afterCased else isCased c
    lower ++ lowercaseFrom afterCased cs

def lowercase (s : String) : String := String.ofList (lowercaseFrom false s.toList)

end Highlight.Text
