import Highlight.CharSet.AgeTable
import Highlight.CharSet.BreakTable
import Highlight.CharSet.ScriptTable
import Highlight.CharSet.TraitTable

/-!
# Properties of characters by name

A pattern may ask for the characters with a property: a general category or a group of them, a
script, or a trait. Names are compared without regard to case, blanks, hyphens and underscores,
and may begin with `is`. A property that takes a value is asked for together with the value.
-/

namespace Highlight

/-- The categories that a name in small letters stands for: a single one, or a group. -/
def categories? : String → Option (List Category)
  | "lu" | "uppercaseletter" => some [.upperLetter]
  | "ll" | "lowercaseletter" => some [.lowerLetter]
  | "lt" | "titlecaseletter" => some [.titleLetter]
  | "lc" | "casedletter" => some [.upperLetter, .lowerLetter, .titleLetter]
  | "lm" | "modifierletter" => some [.modifierLetter]
  | "lo" | "otherletter" => some [.otherLetter]
  | "l" | "letter" =>
    some [.upperLetter, .lowerLetter, .titleLetter, .modifierLetter, .otherLetter]
  | "mn" | "nonspacingmark" => some [.nonspacingMark]
  | "mc" | "spacingmark" => some [.spacingMark]
  | "me" | "enclosingmark" => some [.enclosingMark]
  | "m" | "mark" | "combiningmark" => some [.nonspacingMark, .spacingMark, .enclosingMark]
  | "nd" | "decimalnumber" | "digit" => some [.decimalDigit]
  | "nl" | "letternumber" => some [.letterNumber]
  | "no" | "othernumber" => some [.otherNumber]
  | "n" | "number" => some [.decimalDigit, .letterNumber, .otherNumber]
  | "pc" | "connectorpunctuation" => some [.connector]
  | "pd" | "dashpunctuation" => some [.dash]
  | "ps" | "openpunctuation" => some [.opening]
  | "pe" | "closepunctuation" => some [.closing]
  | "pi" | "initialpunctuation" => some [.initialQuote]
  | "pf" | "finalpunctuation" => some [.finalQuote]
  | "po" | "otherpunctuation" => some [.otherPunctuation]
  | "p" | "punctuation" | "punct" =>
    some [.connector, .dash, .opening, .closing, .initialQuote, .finalQuote, .otherPunctuation]
  | "sm" | "mathsymbol" => some [.mathSymbol]
  | "sc" | "currencysymbol" => some [.currencySymbol]
  | "sk" | "modifiersymbol" => some [.modifierSymbol]
  | "so" | "othersymbol" => some [.otherSymbol]
  | "s" | "symbol" => some [.mathSymbol, .currencySymbol, .modifierSymbol, .otherSymbol]
  | "zs" | "spaceseparator" => some [.space]
  | "zl" | "lineseparator" => some [.lineSeparator]
  | "zp" | "paragraphseparator" => some [.paragraphSeparator]
  | "z" | "separator" => some [.space, .lineSeparator, .paragraphSeparator]
  | "cc" | "control" | "cntrl" => some [.control]
  | "cf" | "format" => some [.format]
  | "co" | "privateuse" => some [.privateUse]
  | "cn" | "unassigned" => some [.unassigned]
  | "c" | "other" => some [.control, .format, .privateUse, .unassigned]
  | _ => none

namespace CharSet

def category? (name : String) : Option CharSet :=
  match name with
  | "any" => some all
  | "assigned" => some (ofRuns Category.unassigned.runs).complement
  | "ascii" => some ⟨[(0, 0x7F)]⟩
  | name => (categories? name).map fun cs => ofMakeup { categories := cs }

def lookupMakeup? (table : List (List String × Makeup)) (name : String) : Option CharSet :=
  (table.find? fun entry => entry.1.contains name).map fun entry => ofMakeup entry.2

def script? (name : String) : Option Script := scripts.find? fun s => s.names.contains name

/-- The characters of a script, and those of others that are used in it, less what is used in
others only. -/
def ofScriptExtended (s : Script) : CharSet :=
  ofMakeup { members := s.own ++ s.borrowed, outsiders := s.lent }

/-- The characters that a version of Unicode and all versions before it brought. -/
def ofAge? (name : String) : Option CharSet :=
  if ages.any fun a => a.names.contains name then
    let older := ages.takeWhile fun a => !a.names.contains name
    let newest := ages.filter fun a => a.names.contains name
    some ((older ++ newest).foldl (fun s a => s.union (ofRuns a.runs)) empty)
  else none

/-- A name as it is compared: its ASCII characters in small letters, without blanks, hyphens and
underscores, and without a leading `is`. The name `isc` is kept whole. -/
def propertyName (name : String) : String :=
  let bare (cs : List Char) :=
    (cs.filter fun c => c.toNat < 0x80 && c != ' ' && c != '_' && c != '-').map Char.toLower
  match name.toList with
  | 'i' :: 's' :: cs | 'I' :: 's' :: cs | 'i' :: 'S' :: cs | 'I' :: 'S' :: cs =>
    let rest := bare cs
    if rest == ['c'] then "isc" else String.ofList rest
  | cs => String.ofList (bare cs)

/-- The characters with a property that takes no value: a trait, a category or a script. -/
def property? (name : String) : Option CharSet :=
  let name := propertyName name
  (lookupMakeup? traits name).orElse fun _ =>
    (category? name).orElse fun _ => (script? name).map fun s => ofRuns s.own

/-- The characters for which a property has the given value. -/
def propertyValue? (name value : String) : Option CharSet :=
  let value := propertyName value
  match propertyName name with
  | "gc" | "generalcategory" => category? value
  | "sc" | "script" => (script? value).map fun s => ofRuns s.own
  | "scx" | "scriptextensions" => (script? value).map ofScriptExtended
  | "age" => ofAge? value
  | "gcb" | "graphemeclusterbreak" => lookupMakeup? clusterBreaks value
  | "wb" | "wordbreak" => lookupMakeup? wordBreaks value
  | "sb" | "sentencebreak" => lookupMakeup? sentenceBreaks value
  | _ => none

end CharSet

end Highlight
