import Highlight.Toml.Value

/-!
# Numbers, dates and times

The values that are neither strings nor booleans nor collections: whole numbers in four bases,
decimal fractions, dates, times of day and the two together. Nothing here asks for such a value;
a document has to spell it right all the same. The functions whose names begin with `past` pass
over what they are named for, and answer the characters behind it.
-/

namespace Highlight.Toml

/-- Value of a digit, letters standing for the digits above nine. -/
def digitValue (c : Char) : Nat :=
  if c.isDigit then c.toNat - '0'.toNat else c.toLower.toNat - 'a'.toNat + 10

def isDigitIn (base : Nat) (c : Char) : Bool :=
  (c.isDigit || ('a' ≤ c.toLower && c.toLower ≤ 'f')) && digitValue c < base

def numberOf (base : Nat) (digits : List Char) : Nat :=
  digits.foldl (fun n c => n * base + digitValue c) 0

/-- The digits at the beginning and what is behind them. A single underscore may stand between two
digits; `behindDigit` says whether there is one in front. -/
def spanDigits (base : Nat) : (behindDigit : Bool) → List Char → List Char × List Char
  | behindDigit, c :: d :: cs =>
    if c == '_' && behindDigit && isDigitIn base d then
      let (digits, rest) := spanDigits base true cs
      (d :: digits, rest)
    else if isDigitIn base c then
      let (digits, rest) := spanDigits base true (d :: cs)
      (c :: digits, rest)
    else ([], c :: d :: cs)
  | _, [c] => if isDigitIn base c then ([c], []) else ([], [c])
  | _, [] => ([], [])

/-- One digit or more, and what is behind them. -/
def digits? (base : Nat) (cs : List Char) : Option (List Char × List Char) :=
  match spanDigits base false cs with
  | ([], _) => none
  | found => some found

/-- The digits of a whole number, which begins with zero only if it is zero. -/
def wholeDigits? : List Char → Option (List Char × List Char)
  | '0' :: cs => some (['0'], cs)
  | cs => digits? 10 cs

/-- Whether a minus sign comes first, and what is behind a sign. -/
def sign : List Char → Bool × List Char
  | '-' :: cs => (true, cs)
  | '+' :: cs => (false, cs)
  | cs => (false, cs)

/-- The first number that is too large for a whole number, and the only one of which the
opposite is not too small. -/
def wholeBound : Nat := Nat.pow 2 63

/-- Pass over a whole number, in one of the bases that a letter behind a zero names, or decimal
with a sign. -/
def pastWhole? (cs : List Char) : Option (List Char) :=
  let inBase (base : Nat) (cs : List Char) : Option (List Char) := do
    let (digits, rest) ← digits? base cs
    if numberOf base digits < wholeBound then some rest else none
  match cs with
  | '0' :: 'x' :: cs => inBase 16 cs
  | '0' :: 'o' :: cs => inBase 8 cs
  | '0' :: 'b' :: cs => inBase 2 cs
  | cs => do
    let (negative, cs) := sign cs
    let (digits, rest) ← wholeDigits? cs
    let n := numberOf 10 digits
    if n < wholeBound || (negative && n == wholeBound) then some rest else none

/-- The exponent at the beginning, and what is behind it. -/
def exponent? : List Char → Option (Int × List Char)
  | c :: cs => do
    if c != 'e' && c != 'E' then none
    else
      let (negative, cs) := sign cs
      let (digits, rest) ← digits? 10 cs
      let n : Int := numberOf 10 digits
      some (if negative then -n else n, rest)
  | [] => none

/-- Whether `n` times a power of ten is too large for a fraction: it is nearer to two to the
power 1024 than to the number of 53 binary digits below, or as near to both. -/
def overflows (n : Nat) (exponent : Int) : Bool :=
  let bound : Nat := Nat.pow 2 1024 - Nat.pow 2 970
  let places : Int := (Nat.toDigits 10 n).length + exponent
  if n == 0 || places < 309 then false
  else if 309 < places then true
  else if 0 ≤ exponent then bound ≤ n * Nat.pow 10 exponent.toNat
  else bound * Nat.pow 10 (-exponent).toNat ≤ n

/-- Pass over a decimal fraction: a whole number with decimal places, an exponent, or both. One
that is not finite is spelled `inf` or `nan`. -/
def pastFraction? (cs : List Char) : Option (List Char) := do
  let (negative, cs) := sign cs
  match cs with
  | 'i' :: 'n' :: 'f' :: rest => some rest
  | 'n' :: 'a' :: 'n' :: rest => some rest
  | cs =>
    let (whole, cs) ← wholeDigits? cs
    let (places, exponent, rest) ← match cs with
      | '.' :: cs => do
        let (places, cs) ← digits? 10 cs
        match exponent? cs with
        | some (exponent, rest) => pure (places, exponent, rest)
        | none => pure (places, 0, cs)
      | cs => do
        let (exponent, rest) ← exponent? cs
        pure ([], exponent, rest)
    if !negative && overflows (numberOf 10 (whole ++ places)) (exponent - places.length) then none
    else some rest

/-- A number of exactly `width` digits between two bounds. -/
def fixed? (width lo hi : Nat) (cs : List Char) : Option (Nat × List Char) :=
  let digits := cs.take width
  let n := numberOf 10 digits
  if digits.length == width && digits.all Char.isDigit && lo ≤ n && n ≤ hi then
    some (n, cs.drop width)
  else none

def pastOne? (among : List Char) : List Char → Option (List Char)
  | c :: cs => if among.contains c then some cs else none
  | [] => none

def daysIn (year month : Nat) : Nat :=
  if month == 2 then
    if year % 4 == 0 && (year % 100 != 0 || year % 400 == 0) then 29 else 28
  else if [4, 6, 9, 11].contains month then 30
  else 31

/-- Pass over a date, such as `2020-02-29`. -/
def pastDate? (cs : List Char) : Option (List Char) := do
  let (year, cs) ← fixed? 4 0 9999 cs
  let (month, cs) ← fixed? 2 1 12 (← pastOne? ['-'] cs)
  let (_, cs) ← fixed? 2 1 (daysIn year month) (← pastOne? ['-'] cs)
  return cs

/-- Pass over a time of day, such as `23:59:60.5`. -/
def pastTime? (cs : List Char) : Option (List Char) := do
  let (_, cs) ← fixed? 2 0 23 cs
  let (_, cs) ← fixed? 2 0 59 (← pastOne? [':'] cs)
  let (_, cs) ← fixed? 2 0 60 (← pastOne? [':'] cs)
  match cs with
  | '.' :: rest =>
    let places := rest.takeWhile Char.isDigit
    return if places.isEmpty then cs else rest.dropWhile Char.isDigit
  | cs => return cs

/-- Pass over the distance of a time from the universal one, such as `Z` or `+01:30`. -/
def pastOffset? (cs : List Char) : Option (List Char) :=
  (pastOne? ['Z', 'z'] cs).orElse fun _ => do
    let (_, cs) ← fixed? 2 0 23 (← pastOne? ['+', '-'] cs)
    let (_, cs) ← fixed? 2 0 59 (← pastOne? [':'] cs)
    return cs

/-- Pass over a date, a time, or a date with a time behind it. -/
def pastMoment? (cs : List Char) : Option (List Char) :=
  match pastDate? cs with
  | some rest =>
    match (pastOne? ['T', 't', ' '] rest).bind pastTime? with
    | some rest => some ((pastOffset? rest).getD rest)
    | none => some rest
  | none => pastTime? cs

/-- Read a number, a date or a time: its spelling, and what is behind it. Of two readings the
first one in this order counts; it is the longer one. -/
def readScalar? (cs : List Char) : Option (String × List Char) :=
  let rest? := (pastMoment? cs).orElse fun _ =>
    (pastFraction? cs).orElse fun _ => pastWhole? cs
  rest?.map fun rest => (String.ofList (cs.take (cs.length - rest.length)), rest)

end Highlight.Toml
