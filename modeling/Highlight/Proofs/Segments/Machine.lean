import Highlight.Tokenize
import Highlight.Proofs.Text.Boundary

/-!
# Dividing in place

The same division, carried out on one list of segments that is edited in place. Positions are
indices into that list and bytes of the whole text, and all that can fail is checked: access to a
segment, taking a part of the text, subtraction, bounds, and that the segments still tile their
range after each edit. A computation may therefore have no result (`none`), end in a `Fault`, or
return a value. No recursion here is bounded by anything but what it computes.

That these computations always return, and what, is proved in the modules that follow.
-/

namespace Highlight

/-- What can go wrong when segments are edited in place. -/
inductive Fault where
  /-- There is no segment with this index. -/
  | noSegment (index : Nat)
  /-- A span is reversed, too long, or cuts a character. -/
  | noPart (span : Span)
  /-- `b` was to be taken off from the smaller `a`. -/
  | belowZero (a b : Nat)
  /-- A value was to be kept between bounds that are out of order. -/
  | crossedBounds (lo hi : Nat)
  /-- A replacement covers other bytes than what it replaces. -/
  | unevenReplacement
  /-- The segments do not tile their range. -/
  | notTiling
  deriving Repr, DecidableEq

/-- A computation that may fail, or not end at all. -/
abbrev Checked := ExceptT Fault Option

/-- A piece of a text by its bytes. -/
inductive Segment where
  | text (span : Span)
  | token (node : Node) (greedy : Bool)

namespace Segment

def span : Segment → Span
  | text span => span
  | token node _ => node.span

def isText : Segment → Bool
  | text _ => true
  | token _ _ => false

def isGreedyToken : Segment → Bool
  | text _ => false
  | token _ greedy => greedy

/-- Whether segments follow one another from `start` to `stop`, none of them empty. -/
def tiling (stop : Nat) : (start : Nat) → List Segment → Bool
  | start, [] => start == stop
  | start, s :: rest => s.span.start == start && s.span.start < s.span.stop &&
      tiling stop s.span.stop rest

end Segment

namespace Checked

def segment (items : List Segment) (i : Nat) : Checked Segment :=
  match items[i]? with
  | some s => pure s
  | none => throw (.noSegment i)

def part (cs : List Char) (s : Span) : Checked (List Char) :=
  if s.start ≤ s.stop ∧ Text.isBoundary cs s.start ∧ Text.isBoundary cs s.stop then
    pure (Text.slice cs s)
  else throw (.noPart s)

/-- A difference that must not fall below zero. -/
def minus (a b : Nat) : Checked Nat := if b ≤ a then pure (a - b) else throw (.belowZero a b)

def clamp (x lo hi : Nat) : Checked Nat :=
  if lo ≤ hi then pure (max lo (min x hi)) else throw (.crossedBounds lo hi)

/-- The first boundary at `next` or behind it, or the first offset behind the text. -/
def nextBoundary (cs : List Char) (next : Nat) : Checked Nat :=
  if next < Text.byteLength cs ∧ Text.isBoundary cs next = false then nextBoundary cs (next + 1)
  else pure next
termination_by Text.byteLength cs - next

end Checked

open Checked

structure Regex.Located where
  whole : Span
  groups : List (Option Span)
  deriving Repr, DecidableEq

def Regex.Located.group? (m : Regex.Located) (n : Nat) : Option Span := (m.groups[n - 1]?).join

/-- A match that begins where `text` does, by bytes, where `text` lies at `offset`. -/
def Regex.Captures.locate (c : Regex.Captures) (offset : Nat) (text : List Char) : Regex.Located :=
  ⟨(Text.byteSpan text ⟨0, c.stop⟩).shift offset,
    c.groups.map (·.map fun s => (Text.byteSpan text s).shift offset)⟩

/-- The leftmost match that begins at byte `start` or behind it. `text` is what is left of the
text that is searched, from byte `offset` on. -/
def Regex.leftmost (r : Regex) (start : Nat) :
    (offset : Nat) → (before : Option Char) → (text : List Char) → Option Regex.Located
  | offset, before, [] =>
    if start ≤ offset then (r.matchAt before []).map (·.locate offset []) else none
  | offset, before, c :: rest =>
    match if start ≤ offset then r.matchAt before (c :: rest) else none with
    | some m => some (m.locate offset (c :: rest))
    | none => leftmost r start (offset + c.utf8Size) (some c) rest

/-- The part of a match that is left when the groups of the contexts are cut off. -/
def PatternWith.cutContexts {Inner : Type} (p : PatternWith Inner) (m : Regex.Located) :
    Checked Span := do
  let start ← match p.lookbehind.bind m.group? with
    | some s => clamp s.stop m.whole.start m.whole.stop
    | none => pure m.whole.start
  let stop ← match p.lookahead.bind m.group? with
    | some s => clamp s.start start m.whole.stop
    | none => pure m.whole.stop
  return ⟨start, stop⟩

/-- The first match with a token that is not empty, from byte `start` on. -/
def PatternWith.tryFrom {Inner : Type} (p : PatternWith Inner) (cs : List Char) (start : Nat) :
    Checked (Option Match) := do
  if start ≤ Text.byteLength cs then
    match p.regex.leftmost start 0 none cs with
    | none => return none
    | some m =>
      let token ← p.cutContexts m
      if token.start < token.stop then return some ⟨m.whole, token, m.groups⟩
      else
        let next ← nextBoundary cs (m.whole.start + 1)
        p |>.tryFrom cs next
  else return none
partial_fixpoint

/-- The segments that a match replaces. -/
structure SegmentClaim where
  matched : Match
  /-- The first segment that is replaced. -/
  first : Nat
  /-- The number of segments that are replaced. -/
  count : Nat
  /-- Where the replaced segments end. -/
  stop : Nat

/-- What a pattern makes of a free run. -/
inductive Landing where
  /-- There is no match ahead. -/
  | nothing
  /-- There is nothing to claim before the segment with this index. -/
  | goOn (index : Nat)
  | found (claim : SegmentClaim)

/-- Where a grammar is applied. -/
structure Scope where
  text : List Char
  range : Span
  grammar : Grammar

namespace Scope

/-- The first segment from `i` on that ends behind byte `start`. -/
def firstTouched (items : List Segment) (start i : Nat) : Checked Nat := do
  if i < items.length then
    let s ← segment items i
    if s.span.stop ≤ start then firstTouched items start (i + 1) else return i
  else return i
termination_by items.length - i

/-- Take segments from `k` on until byte `need` is covered, and then a free run, unless the last
segment taken is a greedy token. The result is where this ends, as an index and a byte. -/
def absorb (items : List Segment) (need k stop : Nat) : Checked (Nat × Nat) := do
  if k < items.length then
    let s ← segment items k
    let more ← if stop < need then pure true
      else if s.isText then
        let before ← segment items (← minus k 1)
        pure !before.isGreedyToken
      else pure false
    if more then absorb items need (k + 1) s.span.stop else return (k, stop)
  else return (k, stop)
termination_by items.length - k

/-- Where a match across segments leads, from the segment with index `i` on. -/
def landAcross (items : List Segment) (m : Match) (i : Nat) : Checked Landing := do
  let first ← firstTouched items m.token.start i
  if first < items.length then
    match ← segment items first with
    | .token _ _ => return .goOn (first + 1)
    | .text span =>
      let (k, stop) ← absorb items m.token.stop first span.start
      return .found ⟨m, first, ← minus k first, stop⟩
  else return .goOn (first + 1)

/-- Where a pattern leads from the free run with index `i`. -/
def land (sc : Scope) (items : List Segment) (p : Pattern) (i : Nat) (run : Span) :
    Checked Landing := do
  if p.greedy && i + 1 != items.length then
    let haystack ← part sc.text sc.range
    match ← p.tryFrom haystack (← minus run.start sc.range.start) with
    | none => return .nothing
    | some m => landAcross items (m.shift sc.range.start) i
  else
    let haystack ← part sc.text run
    match ← p.tryFrom haystack 0 with
    | none => return .goOn (i + 1)
    | some m => return .found ⟨m.shift run.start, i, 1, run.stop⟩

/-- Put segments in the place of `count` others, which must cover the same bytes. -/
def replace (range : Span) (items : List Segment) (first count : Nat)
    (replacement : List Segment) : Checked (List Segment) := do
  let head ← segment items first
  let last ← segment items (← minus (first + count) 1)
  if replacement.head?.map (·.span.start) ≠ some head.span.start then throw .unevenReplacement
  if replacement.getLast?.map (·.span.stop) ≠ some last.span.stop then throw .unevenReplacement
  if items.length < first + count then throw (.noSegment (first + count))
  let edited := items.take first ++ replacement ++ items.drop (first + count)
  if Segment.tiling range.stop range.start edited then return edited else throw .notTiling

/-- The free run that a claim leaves over behind its token, joined with a free run that follows,
and the number of further segments that it replaces. -/
def leftover (items : List Segment) (claim : SegmentClaim) : Checked (List Segment × Nat) := do
  let start := claim.matched.token.stop
  if start < claim.stop then
    let next := claim.first + claim.count
    if next < items.length then
      match ← segment items next with
      | .text s => return ([.text ⟨start, s.stop⟩], 1)
      | .token _ _ => return ([.text ⟨start, claim.stop⟩], 0)
    else return ([.text ⟨start, claim.stop⟩], 0)
  else return ([], 0)

def nodes (text : List Char) (items : List Segment) : Checked (List Node) :=
  items.mapM fun
    | .text span => do return .run span (String.ofList (← part text span))
    | .token node _ => return node

mutual

/-- Apply rules in order, beginning with the segment at `start`. Stop before the rule with the
number `until?`, and claim only what begins before the byte `limit`. -/
def runRules (sc : Scope) (start : Nat) (until? limit : Option Nat) (index : Nat)
    (rules : List Rule) (items : List Segment) : Checked (List Segment) := do
  match rules with
  | [] => return items
  | rule :: rest =>
    if until? = some index then return items
    else
      let items ← rule.patterns.foldlM
        (fun items p => sc |>.runPattern index rule p limit start items) items
      sc |>.runRules start until? limit (index + 1) rest items
partial_fixpoint

/-- Apply one pattern, from the segment at `i` on. -/
def runPattern (sc : Scope) (index : Nat) (rule : Rule) (p : Pattern) (limit : Option Nat)
    (i : Nat) (items : List Segment) : Checked (List Segment) := do
  if i < items.length then
    match ← segment items i with
    | .token _ _ => sc |>.runPattern index rule p limit (i + 1) items
    | .text run =>
      if limit.any (· ≤ run.start) then return items
      else
        match ← sc.land items p i run with
        | .nothing => return items
        | .goOn j => sc |>.runPattern index rule p limit j items
        | .found claim =>
          if limit.any (· ≤ claim.matched.token.start) then return items
          else
            let (i, items) ← sc |>.commit items rule p claim
            -- text that dissolved tokens set free goes back to the rules before this one
            let items ← if claim.count != 1 then
                sc |>.runRules i (some index) (some claim.stop) 0 sc.grammar.rules items
              else pure items
            sc |>.runPattern index rule p limit (i + 1) items
  else return items
partial_fixpoint

/-- Put a token in the place of the segments that were claimed, with what the claim leaves over
on its two sides. The result begins with the index of the token. -/
def commit (sc : Scope) (items : List Segment) (rule : Rule) (p : Pattern) (claim : SegmentClaim) :
    Checked (Nat × List Segment) := do
  let head ← segment items claim.first
  let span := claim.matched.token
  let token ← sc |>.makeToken rule p span
  let before := if head.span.start < span.start then [.text ⟨head.span.start, span.start⟩] else []
  let (after, more) ← leftover items claim
  let items ← replace sc.range items claim.first (claim.count + more)
    (before ++ [.token token p.greedy] ++ after)
  return (claim.first + before.length, items)
partial_fixpoint

def makeToken (sc : Scope) (rule : Rule) (p : Pattern) (span : Span) : Checked Node := do
  let children ← match p.inside with
    | some inner => (⟨sc.text, span, inner⟩ : Scope) |>.divide
    | none => pure []
  return .token rule.name p.altKind span (String.ofList (← part sc.text span)) children
partial_fixpoint

def divide (sc : Scope) : Checked (List Node) := do
  let items := if sc.range.start < sc.range.stop then [Segment.text sc.range] else []
  nodes sc.text (← sc |>.runRules 0 none none 0 sc.grammar.rules items)
partial_fixpoint

end

end Scope

def Grammar.divideInPlace (g : Grammar) (text : String) : Checked (List Node) :=
  Scope.divide ⟨text.toList, ⟨0, text.utf8ByteSize⟩, g⟩

end Highlight
