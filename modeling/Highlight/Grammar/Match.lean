import Highlight.Grammar.Basic
import Highlight.Text.Span

/-!
# Matching a pattern

`hitAt` is the match of a pattern that begins at a given place. The groups of the two contexts
are cut off, and what is left is the token; a match whose token is empty is no hit. `search` finds
the first place where there is one.

These functions count characters. `tryMatch?` and `findIn?` answer the same questions about
texts and byte offsets: the first searches a whole text from an offset on, and what stands before
the offset is visible as context; the second searches a slice as if nothing surrounded it.
-/

namespace Highlight

open Highlight.Regex (Captures)

/-- A usable match, in characters from the place where the search began. -/
structure Hit where
  /-- The whole match, contexts included. -/
  raw : Span
  /-- What is left without the contexts; never empty. -/
  token : Span
  /-- What the groups matched, from group 1 on. -/
  groups : List (Option Span)
  deriving Repr, DecidableEq

/-- The same hit, seen from `n` characters further ahead. -/
def Hit.shift (h : Hit) (n : Nat) : Hit :=
  ⟨h.raw.shift n, h.token.shift n, h.groups.map (·.map (·.shift n))⟩

/-- What a group matched; groups count from one. -/
def Regex.Captures.group? (c : Captures) (n : Nat) : Option Span := (c.groups[n - 1]?).join

namespace PatternWith

variable {Inner : Type}

/-- The part of a match that is left when the groups of the contexts are cut off. -/
def tokenSpan (p : PatternWith Inner) (c : Captures) : Span :=
  let start := match p.lookbehind.bind c.group? with
    | some s => min s.stop c.stop
    | none => 0
  let stop := match p.lookahead.bind c.group? with
    | some s => max start (min s.start c.stop)
    | none => c.stop
  ⟨start, stop⟩

/-- The hit that begins where `text` begins; `before` is the character in front of it. -/
def hitAt (p : PatternWith Inner) (before : Option Char) (text : List Char) : Option Hit :=
  match p.regex.matchAt before text with
  | some c =>
    let token := p.tokenSpan c
    if token.start < token.stop then some ⟨⟨0, c.stop⟩, token, c.groups⟩ else none
  | none => none

/-- The first hit in `text`, from which `skipped` characters have been taken off. -/
def searchFrom (p : PatternWith Inner) : (skipped : Nat) → (before : Option Char) →
    List Char → Option Hit
  | skipped, before, text =>
    match p.hitAt before text with
    | some h => some (h.shift skipped)
    | none =>
      match text with
      | [] => none
      | c :: rest => p.searchFrom (skipped + 1) (some c) rest

/-- The first hit in `text`; `before` is the character in front of it. -/
def search (p : PatternWith Inner) (before : Option Char) (text : List Char) : Option Hit :=
  p.searchFrom 0 before text

end PatternWith

/-- A usable match, in bytes from the beginning of the text. -/
structure Match where
  /-- The whole match, contexts included. -/
  raw : Span
  /-- What is left without the contexts. -/
  token : Span
  /-- What the groups matched, from group 1 on. -/
  groups : List (Option Span)
  deriving Repr, DecidableEq

namespace Match

/-- Length of the leading context that was cut off. -/
def lookbehindLength (m : Match) : Nat := m.token.start - m.raw.start

def shift (m : Match) (n : Nat) : Match :=
  ⟨m.raw.shift n, m.token.shift n, m.groups.map (·.map (·.shift n))⟩

/-- A hit in bytes of the text that was searched. -/
def ofHit (text : List Char) (h : Hit) : Match :=
  ⟨Text.byteSpan text h.raw, Text.byteSpan text h.token, h.groups.map (·.map (Text.byteSpan text))⟩

end Match

namespace PatternWith

variable {Inner : Type}

/-- The first usable match that begins at byte offset `start` or later. -/
def tryMatch? (p : PatternWith Inner) (text : String) (start : Nat) : Option Match :=
  let cs := text.toList
  let skipped := Text.charIndex cs start
  if skipped ≤ cs.length then
    (p.searchFrom skipped (Text.lastOr none (cs.take skipped)) (cs.drop skipped)).map
      (Match.ofHit cs)
  else none

/-- The first usable match within a span of bytes, which is searched on its own. -/
def findIn? (p : PatternWith Inner) (text : String) (span : Span) : Option Match :=
  let cs := Text.slice text.toList span
  (p.search none cs).map fun h => (Match.ofHit cs h).shift span.start

end PatternWith

end Highlight
