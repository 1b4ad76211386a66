import Highlight.CharSet.Property
import Highlight.Regex.Flags
import Highlight.Text.Blank

/-!
# Reading the small parts of a regular expression

Escapes, counts, flags and group names: the parts of the source that do not nest. Each reader
takes the characters that are left and returns what it read together with the characters behind
it.
-/

namespace Highlight.Regex

inductive ReadError where
  | unclosedGroup
  | unopenedGroup
  | unclosedClass
  | unclosedCount
  | unsupportedLookaround
  | unsupportedBackreference
  | unknownProperty
  | unknownEscape
  | unfinishedEscape
  | invalidCodePoint
  | invalidGroupName
  | duplicateGroupName
  | unknownFlag
  | duplicateFlag
  | danglingNegation
  | nothingToRepeat
  | missingCount
  | invalidCount
  | invalidRange
  | invalidClassItem
  | invalidWordBoundary
  | splitsCharacter
  | nestedTooDeep
  | tooLarge
  deriving Repr, DecidableEq, Inhabited

/-- Pass over blanks and comments; a comment runs to the end of its line. -/
def skipBlanks : (inComment : Bool) → List Char → List Char
  | _, [] => []
  | true, c :: cs => skipBlanks (c != '\n') cs
  | false, c :: cs =>
    if isBlank c then skipBlanks false cs
    else if c == '#' then skipBlanks true cs
    else c :: cs

/-- Pass over what does not count under the flags. -/
def Flags.skip (f : Flags) (cs : List Char) : List Char :=
  if f.verbose then skipBlanks false cs else cs

def hexDigit? (c : Char) : Option Nat :=
  if '0' ≤ c ∧ c ≤ '9' then some (c.toNat - '0'.toNat)
  else if 'a' ≤ c ∧ c ≤ 'f' then some (c.toNat - 'a'.toNat + 10)
  else if 'A' ≤ c ∧ c ≤ 'F' then some (c.toNat - 'A'.toNat + 10)
  else none

/-- The character with a code point, unless the code point is none of a character. -/
def charOfCode? (n : Nat) : Option Char :=
  if h : n.isValidChar then some (Char.ofNatAux n h) else none

def readHexDigits (f : Flags) : (count value : Nat) → List Char → Except ReadError (Nat × List Char)
  | 0, value, cs => .ok (value, cs)
  | count + 1, value, cs =>
    match f.skip cs with
    | [] => .error .unfinishedEscape
    | c :: cs =>
      match hexDigit? c with
      | some d => readHexDigits f count (value * 16 + d) cs
      | none => .error .unknownEscape

/-- Read characters as long as they fulfil a condition, passing over what does not count. -/
def readWhile (f : Flags) (p : Char → Bool) : (fuel : Nat) → List Char → List Char × List Char
  | 0, cs => ([], cs)
  | fuel + 1, cs =>
    match f.skip cs with
    | [] => ([], [])
    | c :: rest =>
      if p c then
        let (text, rest) := readWhile f p fuel rest
        (c :: text, rest)
      else ([], c :: rest)

/-- Read what stands before a closing brace, and the brace. -/
def readBraced (f : Flags) (cs : List Char) : Except ReadError (List Char × List Char) :=
  match readWhile f (· != '\x7d') (cs.length + 1) cs with
  | (text, _ :: rest) => .ok (text, rest)
  | (_, []) => .error .unfinishedEscape

/-- Read a character written by number, behind `x`, `u` or `U`: `count` digits, or any number of
them in braces. -/
def readCode (f : Flags) (count : Nat) (cs : List Char) : Except ReadError (Char × List Char) := do
  let (n, rest) ← match f.skip cs with
    | '\x7b' :: cs =>
      let (digits, rest) ← readBraced f cs
      match digits.mapM hexDigit? with
      | some (d :: ds) => pure (ds.foldl (fun n d => n * 16 + d) d, rest)
      | _ => throw .unknownEscape
    | cs => readHexDigits f count 0 cs
  match charOfCode? n with
  | some c => .ok (c, rest)
  | none => .error .invalidCodePoint

/-- Read a single byte written by two digits, where a pattern is not about Unicode; it has to be
an ASCII character. In braces the number is that of a character all the same. -/
def readByte (f : Flags) (cs : List Char) : Except ReadError (Char × List Char) := do
  let (c, rest) ← readCode f 2 cs
  if !f.unicode && (f.skip cs).head? != some '\x7b' && 0x7F < c.toNat then throw .splitsCharacter
  else return (c, rest)

/-- What an escape stands for. -/
inductive Escape where
  | literal (c : Char)
  | oneOf (s : CharSet)
  | anchor (a : Anchor)

/-- A character that may follow a backslash to stand for itself. -/
def standsForItself (c : Char) : Bool :=
  c.toNat < 0x80 && !c.isAlphanum && c != '<' && c != '>'

def isBoundaryLetter (c : Char) : Bool := c.isAlpha || c == '-'

/-- Read what follows `\b`: nothing more, or the kind of boundary in braces. A brace that no
letter follows belongs to a count and is left alone. -/
def readBoundary (f : Flags) (cs : List Char) : Except ReadError (Anchor × List Char) :=
  match cs with
  | '\x7b' :: inner =>
    match f.skip inner with
    | [] => .error .invalidWordBoundary
    | c :: _ =>
      if !isBoundaryLetter c then .ok (.wordBoundary f.word, cs)
      else
        match readWhile f isBoundaryLetter inner.length inner with
        | (name, '\x7d' :: rest) =>
          match String.ofList name with
          | "start" => .ok (.wordStart f.word, rest)
          | "end" => .ok (.wordEnd f.word, rest)
          | "start-half" => .ok (.wordStartHalf f.word, rest)
          | "end-half" => .ok (.wordEndHalf f.word, rest)
          | _ => .error .invalidWordBoundary
        | _ => .error .invalidWordBoundary
  | _ => .ok (.wordBoundary f.word, cs)

/-- A name and a value that stand on the two sides of `!=`, `:` or `=`, whichever of them there
is, looked for in this order. The kind of sign does not matter. -/
def splitProperty? (cs : List Char) : Option (List Char × List Char) :=
  (Text.splitFirstPair? '!' '=' cs).orElse fun _ =>
    (Text.splitFirst? ':' cs).orElse fun _ => Text.splitFirst? '=' cs

/-- Read the name of a property behind `p` or `P`: one letter, or a name in braces, with its
value if it is no property of the kind that holds or does not. -/
def readProperty (f : Flags) (cs : List Char) : Except ReadError (CharSet × List Char) := do
  let (found, rest) ← match f.skip cs with
    | [] => throw .unfinishedEscape
    | '\\' :: _ => throw .unknownProperty
    | '\x7b' :: rest =>
      let (text, rest) ← readBraced f rest
      match splitProperty? text with
      | some (name, value) =>
        pure (CharSet.propertyValue? (String.ofList name) (String.ofList value), rest)
      | none => pure (CharSet.property? (String.ofList text), rest)
    | c :: rest => pure (CharSet.property? (String.singleton c), rest)
  match found with
  | some s => if f.unicode then return (f.fold s, rest) else throw .unknownProperty
  | none => throw .unknownProperty

/-- Read what follows a backslash. -/
def readEscape (f : Flags) : List Char → Except ReadError (Escape × List Char)
  | [] => .error .unfinishedEscape
  | c :: cs =>
    match f.shorthand? c with
    | some s => if f.admits s then .ok (.oneOf s, cs) else .error .splitsCharacter
    | none =>
      match c with
      | 'x' => (readByte f cs).map fun (c, rest) => (.literal c, rest)
      | 'u' => (readCode f 4 cs).map fun (c, rest) => (.literal c, rest)
      | 'U' => (readCode f 8 cs).map fun (c, rest) => (.literal c, rest)
      | 'p' => (readProperty f cs).map fun (s, rest) => (.oneOf s, rest)
      | 'P' => (readProperty f cs).map fun (s, rest) => (.oneOf s.complement, rest)
      | 'a' => .ok (.literal '\x07', cs)
      | 'f' => .ok (.literal '\x0c', cs)
      | 'n' => .ok (.literal '\n', cs)
      | 'r' => .ok (.literal '\r', cs)
      | 't' => .ok (.literal '\t', cs)
      | 'v' => .ok (.literal '\x0b', cs)
      | 'A' => .ok (.anchor .textStart, cs)
      | 'z' => .ok (.anchor .textEnd, cs)
      | 'B' => .ok (.anchor (.notWordBoundary f.word), cs)
      | '<' => .ok (.anchor (.wordStart f.word), cs)
      | '>' => .ok (.anchor (.wordEnd f.word), cs)
      | 'b' => (readBoundary f cs).map fun (a, rest) => (.anchor a, rest)
      | _ =>
        if standsForItself c then .ok (.literal c, cs)
        else if c.isDigit then .error .unsupportedBackreference
        else .error .unknownEscape

def decimalDigit (c : Char) : Nat := c.toNat - '0'.toNat

/-- Read a decimal number between blanks. -/
def readNumber (f : Flags) (cs : List Char) : Except ReadError (Nat × List Char) :=
  match readWhile f Char.isDigit cs.length (cs.dropWhile isBlank) with
  | ([], _) => .error .missingCount
  | (digits, rest) =>
    let value := digits.foldl (fun n c => n * 10 + decimalDigit c) 0
    if value < UInt32.size then .ok (value, rest.dropWhile isBlank) else .error .invalidCount

structure Count where
  min : Nat
  max : Option Nat

/-- Read what follows the opening brace of a count, the closing brace included. -/
def readCount (f : Flags) (cs : List Char) : Except ReadError (Count × List Char) := do
  let (min, rest) ← readNumber f (f.skip cs)
  let (max, rest) ← match rest with
    | ',' :: rest =>
      match f.skip rest with
      | '\x7d' :: _ => pure (none, f.skip rest)
      | rest => do
        let (max, rest) ← readNumber f rest
        pure (some max, rest)
    | rest => pure (some min, rest)
  match rest with
  | '\x7d' :: rest =>
    if max.all (min ≤ ·) then return (⟨min, max⟩, rest) else throw .invalidCount
  | _ => throw .unclosedCount

/-- Read the letters of a flag group up to its `:` or `)`, which is returned too. `seen` holds
the letters so far, with `-` for the negation. -/
def readFlags (start : Flags) : (seen : List Char) → List Char →
    Except ReadError ((Flags × Bool) × List Char)
  | _, [] => .error .unclosedGroup
  | seen, c :: cs =>
    if c == ':' || c == ')' then
      if seen.head? == some '-' then .error .danglingNegation
      else if c == ')' && seen.isEmpty then .error .nothingToRepeat
      else .ok ((start, c == ':'), cs)
    else if seen.contains c then .error .duplicateFlag
    else if c == '-' then readFlags start (c :: seen) cs
    else
      match start.switch? c (!seen.contains '-') with
      | some flags => readFlags flags (c :: seen) cs
      | none => .error .unknownFlag

/-- Read the name of a group up to its `>`. -/
def readGroupName (cs : List Char) : Except ReadError (String × List Char) :=
  let isFirst (c : Char) := c == '_' || CharSet.letter.contains c
  let isNext (c : Char) :=
    c == '_' || c == '.' || c == '[' || c == ']' || CharSet.letter.contains c
      || CharSet.number.contains c
  let name := cs.takeWhile (· != '>')
  match name, cs.dropWhile (· != '>') with
  | first :: others, _ :: rest =>
    if isFirst first && others.all isNext then .ok (String.ofList name, rest)
    else .error .invalidGroupName
  | _, _ => .error .invalidGroupName

end Highlight.Regex
