import Highlight.CharSet.Classes
import Highlight.CharSet.Folding
import Highlight.Regex.Normal

/-!
# Flags and what they decide

Flags change how the rest of a group is read: which characters a literal stands for, what `.`,
`^` and `$` mean, which way a repetition leans, and whether blanks in the source count. This
module turns each such piece of source into an expression under given flags.
-/

namespace Highlight.Regex

/-- The flags in force at some place of a regular expression's source. -/
structure Flags where
  /-- Letter case does not matter (`i`). -/
  ignoreCase : Bool := false
  /-- `^` and `$` look at lines (`m`). -/
  multiLine : Bool := false
  /-- `.` matches line ends too (`s`). -/
  dotAll : Bool := false
  /-- Repetitions are lazy where they are written greedy, and the other way round (`U`). -/
  swapGreed : Bool := false
  /-- Classes range over all of Unicode (`u`); over ASCII otherwise. -/
  unicode : Bool := true
  /-- A carriage return ends a line too (`R`). -/
  crlf : Bool := false
  /-- Blanks and comments in the source do not count (`x`). -/
  verbose : Bool := false
  deriving Repr, DecidableEq, Inhabited

namespace Flags

/-- Switch the flag with the given letter, if there is one. -/
def switch? (f : Flags) (letter : Char) (on : Bool) : Option Flags :=
  match letter with
  | 'i' => some { f with ignoreCase := on }
  | 'm' => some { f with multiLine := on }
  | 's' => some { f with dotAll := on }
  | 'U' => some { f with swapGreed := on }
  | 'u' => some { f with unicode := on }
  | 'R' => some { f with crlf := on }
  | 'x' => some { f with verbose := on }
  | _ => none

/-- A set closed under case where case does not matter. -/
def fold (f : Flags) (s : CharSet) : CharSet :=
  if !f.ignoreCase then s
  else if f.unicode then s.foldClosure
  else s.asciiFoldClosure

/-- The expression for a character that stands for itself. -/
def literal (f : Flags) (c : Char) : Expr := .ofSet (f.fold (CharSet.singleton c))

/-- Without Unicode a class may hold ASCII characters only, since any other byte could split a
character. -/
def admits (f : Flags) (s : CharSet) : Bool := f.unicode || !s.beyondAscii

def word (f : Flags) : CharSet := if f.unicode then CharSet.word else CharSet.asciiWord

/-- The class behind one of the letters `d`, `s`, `w`, or their negation in upper case. -/
def shorthand? (f : Flags) (letter : Char) : Option CharSet :=
  let digit := if f.unicode then CharSet.digit else CharSet.asciiDigit
  let blank := if f.unicode then CharSet.blank else CharSet.asciiBlank
  match letter with
  | 'd' => some digit
  | 's' => some blank
  | 'w' => some f.word
  | 'D' => some digit.complement
  | 'S' => some blank.complement
  | 'W' => some f.word.complement
  | _ => none

/-- The characters that `.` stands for. -/
def dot (f : Flags) : CharSet :=
  if f.dotAll then CharSet.all
  else if f.crlf then (CharSet.ofList ['\n', '\r']).complement
  else (CharSet.singleton '\n').complement

/-- The condition that `^` stands for. -/
def caret (f : Flags) : Anchor :=
  if !f.multiLine then .textStart else if f.crlf then .lineStartCrlf else .lineStart

/-- The condition that `$` stands for. -/
def dollar (f : Flags) : Anchor :=
  if !f.multiLine then .textEnd else if f.crlf then .lineEndCrlf else .lineEnd

end Flags

end Highlight.Regex
