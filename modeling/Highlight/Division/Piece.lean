import Highlight.Grammar.Match

/-!
# Pieces of a divided text

While a grammar is applied, the text is a list of pieces: runs of text that are still free and
runs that a rule has claimed. The pieces in order always spell the text, so a piece needs no
position of its own. A `Claim` says what becomes of the pieces ahead when a pattern claims text:
which of them stay, what surrounds the claimed text, and what comes behind.
-/

namespace Highlight

/-- A run of text that a rule has claimed, and the pattern by which it did. -/
structure Claimed where
  kind : String
  pattern : Pattern
  text : List Char

/-- A run of text, free or claimed. -/
inductive Piece where
  | free (text : List Char)
  | claimed (c : Claimed)

namespace Piece

def text : Piece → List Char
  | free t => t
  | claimed c => c.text

def isFree : Piece → Bool
  | free _ => true
  | claimed _ => false

/-- Whether a greedy pattern has claimed the piece. -/
def isGreedy : Piece → Bool
  | free _ => false
  | claimed c => c.pattern.greedy

/-- A run of free text, as pieces: none if it is empty. -/
def ofFree (t : List Char) : List Piece := if t.isEmpty then [] else [free t]

def spell (ps : List Piece) : List Char := ps.flatMap text

/-- Put free text in front of pieces, as one run with the free text they begin with. -/
def joinFree (t : List Char) (ps : List Piece) : List Piece :=
  if t.isEmpty then ps
  else
    match ps with
    | free u :: rest => free (t ++ u) :: rest
    | ps => free t :: ps

/-- Pass over the pieces that end at or before a position. The result holds these pieces, the
position seen from behind them, and the other pieces. -/
def locate : (position : Nat) → List Piece → List Piece × Nat × List Piece
  | position, [] => ([], position, [])
  | position, p :: ps =>
    if p.text.length ≤ position then
      let (passed, position, rest) := locate (position - p.text.length) ps
      (p :: passed, position, rest)
    else ([], position, p :: ps)

/-- Take pieces until `need` characters are covered, and then a free run that follows, unless the
last piece taken was claimed greedily. The result holds the text taken, the number of pieces
taken, and the other pieces. -/
def absorb : (need : Nat) → (afterGreedy : Bool) → List Piece → List Char × Nat × List Piece
  | _, _, [] => ([], 0, [])
  | need, afterGreedy, p :: ps =>
    if 0 < need || (p.isFree && !afterGreedy) then
      let (taken, count, rest) := absorb (need - p.text.length) p.isGreedy ps
      (p.text ++ taken, count + 1, rest)
    else ([], 0, p :: ps)

end Piece

/-- What a match makes of the pieces ahead. -/
structure Claim where
  /-- Pieces that stay as they are. -/
  passed : List Piece
  /-- Free text that stays in front of the token. -/
  before : List Char
  /-- The text of the token. -/
  token : List Char
  /-- Text that the claim leaves over behind the token. -/
  after : List Char
  /-- Whether the claim takes more than one piece, so that tokens are dissolved. -/
  dissolves : Bool
  /-- The pieces behind the claim. -/
  rest : List Piece

namespace Claim

/-- The number of characters ahead of the token. -/
def offset (c : Claim) : Nat := (Piece.spell c.passed).length + c.before.length

/-- The pieces that come to stand before the token. -/
def lead (c : Claim) : List Piece := c.passed ++ Piece.ofFree c.before

/-- The pieces that come to stand behind the token. -/
def ahead (c : Claim) : List Piece := Piece.joinFree c.after c.rest

/-- The claim on a part of one free run. -/
def within (token : Span) (run : List Char) (rest : List Piece) : Claim where
  passed := []
  before := run.take token.start
  token := (run.drop token.start).take token.length
  after := run.drop token.stop
  dissolves := false
  rest := rest

end Claim

/-- Where the match of a pattern leads. -/
inductive Target where
  /-- There is no match ahead at all. -/
  | nowhere
  /-- There is nothing to claim in the pieces that come first. -/
  | behind (passed rest : List Piece)
  | claim (c : Claim)

namespace Target

/-- Where a match across pieces leads: one that begins in free text is a claim on all pieces that
it touches, one that begins inside a token is passed over together with that token. -/
def across (token : Span) (pieces : List Piece) : Target :=
  match Piece.locate token.start pieces with
  | (passed, start, .free run :: rest) =>
    let stop := start + token.length
    let (region, count, rest) := Piece.absorb stop false (.free run :: rest)
    .claim {
      passed := passed
      before := region.take start
      token := (region.drop start).take token.length
      after := region.drop stop
      dissolves := count != 1
      rest := rest }
  | (passed, _, piece :: rest) => .behind (passed ++ [piece]) rest
  | (passed, _, []) => .behind passed []

/-- Where a pattern leads from a free run. A greedy pattern searches all of the text ahead, and
sees the character before the run, unless the run is the last piece; any other search looks at
the run on its own. -/
def ofRun (p : Pattern) (before : Option Char) (run : List Char) (rest : List Piece) : Target :=
  if p.greedy && !rest.isEmpty then
    match p.search before (run ++ Piece.spell rest) with
    | some hit => across hit.token (.free run :: rest)
    | none => .nowhere
  else
    match p.search none run with
    | some hit => .claim (.within hit.token run rest)
    | none => .behind [.free run] rest

end Target

end Highlight
