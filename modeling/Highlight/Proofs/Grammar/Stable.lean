import Highlight.Proofs.Grammar.Offsets
import Highlight.Proofs.Grammar.Plain
import Highlight.Proofs.Text.Boundary

/-!
# Patterns that are stable under growing a slice

A pattern that looks at a slice of a text need not find in a larger slice what it finds in a smaller
one: an anchor matches at an end that is none any more, and a word boundary where a word was cut. A
pattern is stable in a text if that does not happen there: in the larger slice it finds a match that
begins at the same place or before. `stable_iff` says the same of the characters of the slices, and
`Plain.stable` that plain patterns are stable in every text.
-/

namespace Highlight

namespace PatternWith

variable {Inner : Type} {p : PatternWith Inner}

/-- What the pattern finds in a slice of the text, it finds at the same place or before in every larger
slice. -/
def Stable (p : PatternWith Inner) (text : String) : Prop :=
  ∀ s s' m, Text.OnBoundaries text.toList s → Text.OnBoundaries text.toList s' →
    s'.start ≤ s.start → s.stop ≤ s'.stop → p.findIn? text s = some m →
    ∃ m', p.findIn? text s' = some m' ∧ m'.raw.start ≤ m.raw.start

/-- The same of searches in runs of the text, and in characters. -/
def StableSearch (p : PatternWith Inner) (cs : List Char) : Prop :=
  ∀ x t y hit, x ++ t ++ y <:+: cs → p.search none t = some hit →
    ∃ hit', p.search none (x ++ t ++ y) = some hit' ∧ hit'.raw.start ≤ x.length + hit.raw.start

/-- A search finds a match that begins within the text. -/
theorem raw_start_lt_of_search {before : Option Char} {text : List Char} {hit : Hit}
    (hs : p.search before text = some hit) : hit.raw.start < text.length := by
  obtain ⟨front, back, h₀, rfl, hfirst, rfl⟩ := search_eq_some hs
  have hw := p.hitAt_within hfirst.here
  have hne := hw.nonempty
  have hle := hw.stop_le
  simp only [Hit.shift, Span.shift, hitAt_raw_start hfirst.here, List.length_append]
  omega

/-- Without a leading context, the match that a search finds begins where its token does. -/
theorem raw_start_of_search (hp : p.lookbehind = none) {before : Option Char} {text : List Char}
    {hit : Hit} (hs : p.search before text = some hit) : hit.raw.start = hit.token.start := by
  obtain ⟨front, back, h₀, -, hfirst, rfl⟩ := search_eq_some hs
  simp only [Hit.shift, Span.shift, hitAt_raw_start hfirst.here, token_start_of_hitAt hp hfirst.here]

/-- Places in a part and in a larger part compare in bytes as they do in characters. -/
theorem raw_start_le_iff {x t y : List Char} {hit hit' : Hit} {base : Nat}
    (hhit : hit.raw.start ≤ t.length) (hhit' : hit'.raw.start ≤ (x ++ t ++ y).length) :
    ((Match.ofHit (x ++ t ++ y) hit').shift base).raw.start ≤
        ((Match.ofHit t hit).shift (base + Text.byteLength x)).raw.start ↔
      hit'.raw.start ≤ x.length + hit.raw.start := by
  have hwithin : x.length + hit.raw.start ≤ (x ++ t ++ y).length := by
    simp only [List.length_append]
    omega
  have hplace : Text.byteOffset (x ++ t ++ y) (x.length + hit.raw.start) =
      Text.byteOffset t hit.raw.start + Text.byteLength x := by
    rw [List.append_assoc, Nat.add_comm, Text.byteOffset_append, Text.byteOffset,
      List.take_append_of_le_length hhit]
    rfl
  rw [← Text.byteOffset_le_iff hhit' hwithin, hplace]
  simp only [Match.shift, Match.ofHit, Text.byteSpan, Span.shift]
  omega

/-- A pattern is stable exactly if its searches are. -/
theorem stable_iff {text : String} : p.Stable text ↔ p.StableSearch text.toList := by
  constructor
  · rintro h x t y hit ⟨front, back, htext⟩ hs
    have hwhole : Text.IsPart text.toList ⟨Text.byteLength front,
        Text.byteLength front + Text.byteLength (x ++ t ++ y)⟩ (x ++ t ++ y) :=
      ⟨front, back, htext.symm, rfl⟩
    have hpart := hwhole.middle
    have hfound := p.findIn?_part hpart
    rw [hs, Option.map_some] at hfound
    obtain ⟨m', hm', hle⟩ := h _ _ _ hpart.onBoundaries hwhole.onBoundaries (Nat.le_add_right _ _)
      (by simp only [Text.byteLength_append]; omega) hfound
    rw [p.findIn?_part hwhole] at hm'
    obtain ⟨hit', hs', rfl⟩ := Option.map_eq_some_iff.mp hm'
    exact ⟨hit', hs', (raw_start_le_iff (Nat.le_of_lt (raw_start_lt_of_search hs))
      (Nat.le_of_lt (raw_start_lt_of_search hs'))).mp hle⟩
  · intro h s s' m hs hs' hstart hstop hm
    obtain ⟨x, y, hwhole, hplace⟩ := hs.isPart.exists_within hs'.isPart hstart hstop
    obtain ⟨front, back, htext, -⟩ := hs'.isPart
    rw [p.findIn?_part hs.isPart] at hm
    obtain ⟨hit, hsearch, rfl⟩ := Option.map_eq_some_iff.mp hm
    rw [hwhole] at htext
    obtain ⟨hit', hsearch', hle⟩ := h x _ y hit ⟨front, back, htext.symm⟩ hsearch
    refine ⟨_, by rw [p.findIn?_part hs'.isPart, hwhole, hsearch', Option.map_some], ?_⟩
    rw [hplace]
    exact (raw_start_le_iff (Nat.le_of_lt (raw_start_lt_of_search hsearch))
      (Nat.le_of_lt (raw_start_lt_of_search hsearch'))).mpr hle

/-- A plain pattern is stable in every text: a place where it matches is one in every larger slice. -/
theorem Plain.stable (hp : p.Plain) (text : String) : p.Stable text := by
  rw [stable_iff]
  intro x t y hit _ hs
  obtain ⟨front, back, rfl, hstart, hhits, -⟩ := hp.hits_of_search hs
  have hsplit : x ++ (front ++ back) ++ y = (x ++ front) ++ (back ++ y) := by simp
  have hmore := hp.hits_append hhits y
  cases hs' : p.search none (x ++ (front ++ back) ++ y) with
  | none => exact absurd hmore (hp.not_hits_of_search hs' hsplit)
  | some hit' =>
    have hfirst := hp.search_first hs' hsplit hmore
    refine ⟨hit', rfl, ?_⟩
    rw [raw_start_of_search hp.lookbehind hs', raw_start_of_search hp.lookbehind hs, hstart]
    rwa [List.length_append] at hfirst

/-- A pattern that keeps to free runs, whose tokens begin where its matches do, and that is stable. -/
structure Steady (p : PatternWith Inner) (text : String) : Prop where
  greedy : p.greedy = false
  lookbehind : p.lookbehind = none
  stable : p.Stable text

theorem Steady.search {text : String} (h : p.Steady text) : p.StableSearch text.toList :=
  stable_iff.mp h.stable

end PatternWith

end Highlight
