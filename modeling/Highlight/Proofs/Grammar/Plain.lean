import Highlight.Proofs.Grammar.Search
import Highlight.Proofs.Regex.Unconditional

/-!
# Plain patterns

A plain pattern has no contexts and asks for no conditions. Whether it matches at a place depends
on the text from there on alone, and it still matches when that text grows at its end. A search
for it finds the first of the places where it matches.
-/

namespace Highlight

namespace PatternWith

variable {Inner : Type}

/-- No part of a match is cut off, and nothing but the characters of a match decides on it. -/
structure Plain (p : PatternWith Inner) : Prop where
  lookbehind : p.lookbehind = none
  lookahead : p.lookahead = none
  unconditional : p.regex.program.Unconditional

/-- The pattern has a hit where `text` begins, with nothing in front of it. -/
def Hits (p : PatternWith Inner) (text : List Char) : Prop := ∃ h, p.hitAt none text = some h

variable {p : PatternWith Inner}

/-- There is no hit in an empty text. -/
theorem Hits.ne_nil {text : List Char} (h : p.Hits text) : text ≠ [] := by
  obtain ⟨hit, hhit⟩ := h
  have hw := p.hitAt_within hhit
  have hne := hw.nonempty
  have hle := hw.stop_le
  rintro rfl
  rw [List.length_nil] at hle
  omega

namespace Plain

theorem tokenSpan_eq (hp : p.Plain) (c : Regex.Captures) : p.tokenSpan c = ⟨0, c.stop⟩ := by
  rw [tokenSpan, hp.lookbehind, hp.lookahead]
  rfl

theorem hitAt_eq (hp : p.Plain) (before : Option Char) (text : List Char) :
    p.hitAt before text =
      match p.regex.matchAt before text with
      | some c => if 0 < c.stop then some ⟨⟨0, c.stop⟩, ⟨0, c.stop⟩, c.groups⟩ else none
      | none => none := by
  cases h : p.regex.matchAt before text <;> rw [hitAt] <;> simp only [h, hp.tokenSpan_eq]

theorem hitAt_before (hp : p.Plain) (before before' : Option Char) (text : List Char) :
    p.hitAt before text = p.hitAt before' text := by
  rw [hp.hitAt_eq, hp.hitAt_eq, Regex.matchAt_before hp.unconditional before before']

theorem hits_of_hitAt (hp : p.Plain) {before : Option Char} {text : List Char} {h : Hit}
    (hh : p.hitAt before text = some h) : p.Hits text :=
  ⟨h, by rw [hp.hitAt_before none before, hh]⟩

/-- The token of a plain pattern begins where the match does. -/
theorem token_start (hp : p.Plain) {before : Option Char} {text : List Char} {h : Hit}
    (hh : p.hitAt before text = some h) : h.token.start = 0 :=
  token_start_of_hitAt hp.lookbehind hh

/-- A plain pattern still matches when more text comes behind. -/
theorem hits_append (hp : p.Plain) {text : List Char} (h : p.Hits text) (more : List Char) :
    p.Hits (text ++ more) := by
  obtain ⟨hit, hhit⟩ := h
  rw [hp.hitAt_eq] at hhit
  split at hhit
  · next c hc =>
    split at hhit
    · next hpos =>
      obtain ⟨c', hc', hle⟩ := Regex.matchAt_append hp.unconditional hc more
      have hpos' : 0 < c'.stop := Nat.lt_of_lt_of_le hpos hle
      refine ⟨⟨⟨0, c'.stop⟩, ⟨0, c'.stop⟩, c'.groups⟩, ?_⟩
      rw [hp.hitAt_eq, hc']
      exact if_pos hpos'
    · cases hhit
  · cases hhit

/-- Where a search finds nothing, the pattern matches nowhere. -/
theorem not_hits_of_search (hp : p.Plain) {before : Option Char} {text : List Char}
    (h : p.search before text = none) {front back : List Char} (htext : text = front ++ back) :
    ¬ p.Hits back := by
  rintro ⟨hit, hhit⟩
  have hnone := search_eq_none_iff.mp h front back htext
  rw [hp.hitAt_before _ none, hhit] at hnone
  cases hnone

/-- A search finds a place where the pattern matches. -/
theorem hits_of_search (hp : p.Plain) {before : Option Char} {text : List Char} {h : Hit}
    (hs : p.search before text = some h) :
    ∃ front back, text = front ++ back ∧ h.token.start = front.length ∧ p.Hits back ∧
      ∀ lead mid, front = lead ++ mid → mid ≠ [] → ¬ p.Hits (mid ++ back) := by
  obtain ⟨front, back, h₀, rfl, hfirst, rfl⟩ := search_eq_some hs
  have hstart : (h₀.shift front.length).token.start = front.length := by
    simp only [Hit.shift, Span.shift, hp.token_start hfirst.here, Nat.zero_add]
  refine ⟨front, back, rfl, hstart, hp.hits_of_hitAt hfirst.here, ?_⟩
  rintro lead mid hsplit hmid ⟨hit, hhit⟩
  have hnone := hfirst.earlier lead mid hsplit hmid
  rw [hp.hitAt_before _ none, hhit] at hnone
  cases hnone

/-- It is the first of the places where the pattern matches. -/
theorem search_first (hp : p.Plain) {before : Option Char} {text : List Char} {h : Hit}
    (hs : p.search before text = some h) {front back : List Char} (htext : text = front ++ back)
    (hback : p.Hits back) : h.token.start ≤ front.length := by
  obtain ⟨lead, rest, rfl, hstart, -, hearlier⟩ := hp.hits_of_search hs
  rw [hstart]
  refine Nat.le_of_not_lt fun hlt => ?_
  -- `front` ends within `lead`, where there is no hit
  obtain ⟨mid, hlead, hmid⟩ : ∃ mid, lead = front ++ mid ∧ back = mid ++ rest := by
    rcases List.append_eq_append_iff.mp htext with ⟨mid, hfront, -⟩ | ⟨mid, hlead, hmid⟩
    · rw [hfront, List.length_append] at hlt
      omega
    · exact ⟨mid, hlead, hmid⟩
  refine hearlier front mid hlead ?_ (hmid ▸ hback)
  rintro rfl
  rw [hlead, List.append_nil] at hlt
  omega

end Plain

end PatternWith

end Highlight
