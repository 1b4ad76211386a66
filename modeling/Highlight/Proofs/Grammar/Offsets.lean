import Highlight.Proofs.Segments.Search

/-!
# Searching a text by byte offsets

`tryMatch?` and `findIn?` are questions about bytes. From a character boundary on they are what
`search` finds among the characters behind it: with the character in front of the boundary, or with
nothing in front of a part of the text.
-/

namespace Highlight

theorem Span.shift_injective (n : Nat) {s t : Span} (h : s.shift n = t.shift n) : s = t := by
  cases s
  cases t
  simpa [Span.shift] using h

theorem Match.shift_injective (n : Nat) {m m' : Match} (h : m.shift n = m'.shift n) : m = m' := by
  obtain ⟨raw, token, groups⟩ := m
  obtain ⟨raw', token', groups'⟩ := m'
  simp only [Match.shift, Match.mk.injEq] at h
  obtain ⟨hraw, htoken, hgroups⟩ := h
  rw [List.map_inj_right] at hgroups
  · rw [Span.shift_injective n hraw, Span.shift_injective n htoken, hgroups]
  · intro g g'
    exact (Option.map_inj_right fun _ _ => Span.shift_injective n).mp

namespace PatternWith

variable {Inner : Type} (p : PatternWith Inner)

/-- Behind a front part, a text is searched with the last character of that part in sight. -/
theorem tryMatch?_append (front back : List Char) :
    p.tryMatch? (String.ofList (front ++ back)) (Text.byteLength front) =
      (p.search (Text.lastOr none front) back).map fun h =>
        (Match.ofHit back h).shift (Text.byteLength front) := by
  rw [tryMatch?, String.toList_ofList]
  rw [Text.charIndex_append, if_pos (by simp), List.take_left' rfl, List.drop_left' rfl, search,
    ← Nat.zero_add front.length, searchFrom_add, Option.map_map]
  simp only [Function.comp_def, Match.ofHit_append]

/-- A part of a text is searched as if nothing stood in front of it. -/
theorem findIn?_part {text : String} {s : Span} {part : List Char}
    (h : Text.IsPart text.toList s part) :
    p.findIn? text s = (p.search none part).map fun hit => (Match.ofHit part hit).shift s.start := by
  rw [findIn?, h.slice_eq]

end PatternWith

end Highlight
