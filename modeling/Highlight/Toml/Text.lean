import Highlight.Toml.Value

/-!
# Keys and strings of a TOML document

Bare and quoted keys, the four kinds of string, blanks and comments. Each reader takes the
characters that are left and returns what it read together with the characters behind it.
-/

namespace Highlight.Toml

/-- A character that may stand in a comment or a string: a tab, or none of the controls. -/
def isPrintable (c : Char) : Bool := c == '\t' || (0x20 ≤ c.toNat && c.toNat != 0x7F)

def isBareKeyChar (c : Char) : Bool := c.isAlphanum || c == '_' || c == '-'

/-- Pass over spaces and tabs. -/
def skipSpaces (cs : List Char) : List Char := cs.dropWhile fun c => c == ' ' || c == '\t'

def lineEnd? : List Char → Option (List Char)
  | '\n' :: cs => some cs
  | '\r' :: '\n' :: cs => some cs
  | _ => none

/-- Pass over a comment, if there is one, up to the end of its line. -/
def skipComment : List Char → List Char
  | '#' :: cs => cs.dropWhile isPrintable
  | cs => cs

/-- Pass over spaces, comments and line ends; `inComment` says whether a comment is open. -/
def skipLines : (inComment : Bool) → List Char → List Char
  | _, [] => []
  | _, '\n' :: cs => skipLines false cs
  | _, '\r' :: '\n' :: cs => skipLines false cs
  | true, c :: cs => if isPrintable c then skipLines true cs else c :: cs
  | false, c :: cs =>
    if c == ' ' || c == '\t' then skipLines false cs
    else if c == '#' then skipLines true cs
    else c :: cs

def hexValue? (c : Char) : Option Nat :=
  if '0' ≤ c ∧ c ≤ '9' then some (c.toNat - 48)
  else if 'a' ≤ c ∧ c ≤ 'f' then some (c.toNat - 87)
  else if 'A' ≤ c ∧ c ≤ 'F' then some (c.toNat - 55)
  else none

def charOfHex? (digits : List Char) : Option Char := do
  let n ← digits.foldlM (fun n c => (hexValue? c).map (n * 16 + ·)) 0
  if h : n.isValidChar then some (Char.ofNatAux n h) else none

/-- The character that an escape stands for, and the number of characters of the escape behind
the backslash. -/
def escape? : List Char → Option (Char × Nat)
  | 'b' :: _ => some ('\x08', 1)
  | 't' :: _ => some ('\t', 1)
  | 'n' :: _ => some ('\n', 1)
  | 'f' :: _ => some ('\x0c', 1)
  | 'r' :: _ => some ('\r', 1)
  | '"' :: _ => some ('"', 1)
  | '\\' :: _ => some ('\\', 1)
  | 'u' :: cs =>
    if (cs.take 4).length == 4 then (charOfHex? (cs.take 4)).map (·, 5) else none
  | 'U' :: cs =>
    if (cs.take 8).length == 8 then (charOfHex? (cs.take 8)).map (·, 9) else none
  | _ => none

/-- What has been read, with one more character in front. -/
def prepend (c : Char) (read : Except Fault (List Char × List Char)) :
    Except Fault (List Char × List Char) :=
  read.map fun (text, rest) => (c :: text, rest)

/-- Read the rest of a basic string on one line. -/
def readBasic : (fuel : Nat) → List Char → Except Fault (List Char × List Char)
  | 0, _ => .error .malformed
  | _ + 1, [] => .error .malformed
  | fuel + 1, c :: cs =>
    if c == '"' then .ok ([], cs)
    else if c == '\\' then
      match escape? cs with
      | some (c, n) => prepend c (readBasic fuel (cs.drop n))
      | none => .error .malformed
    else if isPrintable c then prepend c (readBasic fuel cs)
    else .error .malformed

/-- Read the rest of a literal string on one line. -/
def readLiteral : List Char → Except Fault (List Char × List Char)
  | [] => .error .malformed
  | c :: cs =>
    if c == '\'' then .ok ([], cs)
    else if isPrintable c then prepend c (readLiteral cs)
    else .error .malformed

/-- Pass over spaces, tabs and line ends. -/
def skipBreaks : List Char → List Char
  | ' ' :: cs => skipBreaks cs
  | '\t' :: cs => skipBreaks cs
  | '\n' :: cs => skipBreaks cs
  | '\r' :: '\n' :: cs => skipBreaks cs
  | cs => cs

/-- Read the rest of a string of several lines, which ends with three of the mark `quote`; of
five in a row the first two belong to the text. If `escapes`, a backslash begins an escape, and
one at the end of a line joins what follows the next blanks. -/
def readLong (quote : Char) (escapes : Bool) :
    (fuel : Nat) → List Char → Except Fault (List Char × List Char)
  | 0, _ => .error .malformed
  | _ + 1, [] => .error .malformed
  | fuel + 1, c :: cs =>
    if c == quote then
      let marks := ((c :: cs).takeWhile (· == quote)).length
      if marks < 3 then prepend c (readLong quote escapes fuel cs)
      else
        let extra := min (marks - 3) 2
        .ok (List.replicate extra quote, (c :: cs).drop (extra + 3))
    else if escapes && c == '\\' then
      match escape? cs with
      | some (c, n) => prepend c (readLong quote escapes fuel (cs.drop n))
      | none =>
        match lineEnd? (skipSpaces cs) with
        | some rest => readLong quote escapes fuel (skipBreaks rest)
        | none => .error .malformed
    else
      match lineEnd? (c :: cs) with
      | some rest => prepend '\n' (readLong quote escapes fuel rest)
      | none =>
        if isPrintable c then prepend c (readLong quote escapes fuel cs) else .error .malformed

/-- Read a string of any kind, or nothing if no string begins here. -/
def readString? (cs : List Char) : Option (Except Fault (List Char × List Char)) :=
  let fuel := cs.length
  match cs with
  | '"' :: '"' :: '"' :: rest => some (readLong '"' true fuel ((lineEnd? rest).getD rest))
  | '\'' :: '\'' :: '\'' :: rest => some (readLong '\'' false fuel ((lineEnd? rest).getD rest))
  | '"' :: rest => some (readBasic fuel rest)
  | '\'' :: rest => some (readLiteral rest)
  | _ => none

/-- Read one part of a key: bare, or quoted on one line. -/
def readKeyPart (cs : List Char) : Except Fault (String × List Char) :=
  match cs with
  | '"' :: rest => (readBasic cs.length rest).map fun (text, rest) => (String.ofList text, rest)
  | '\'' :: rest => (readLiteral rest).map fun (text, rest) => (String.ofList text, rest)
  | cs =>
    let name := cs.takeWhile isBareKeyChar
    if name.isEmpty then .error .malformed
    else .ok (String.ofList name, cs.dropWhile isBareKeyChar)

def readKeyParts : (fuel : Nat) → List Char → Except Fault (List String × List Char)
  | 0, _ => .error .malformed
  | fuel + 1, cs => do
    let (part, rest) ← readKeyPart (skipSpaces cs)
    match skipSpaces rest with
    | '.' :: rest =>
      let (parts, rest) ← readKeyParts fuel rest
      return (part :: parts, rest)
    | rest => return ([part], rest)

/-- The least number of parts that a key may not have, and the least depth at which no value may
stand. -/
def depthLimit : Nat := 80

/-- Read a key: parts joined by dots, with blanks around the dots. -/
def readKey (cs : List Char) : Except Fault (List String × List Char) := do
  let (parts, rest) ← readKeyParts (cs.length + 1) cs
  if parts.length < depthLimit then return (parts, rest) else throw .tooDeep

end Highlight.Toml
