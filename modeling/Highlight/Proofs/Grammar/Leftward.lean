import Highlight.Proofs.Grammar.Leftmost
import Highlight.Proofs.Regex.Unconditional

/-!
# Matches that do not depend on what stands to their left

A regular expression ignores what is to the left if searching a text from some boundary on is searching
what stands behind that boundary as a text of its own. Then what a pattern has at a place is the same
whatever stands in front of that place. Programs without conditions are such.
-/

namespace Highlight

namespace Regex

def Located.shift (m : Located) (n : Nat) : Located :=
  ⟨m.whole.shift n, m.groups.map (·.map (·.shift n))⟩

/-- Searching a text from a boundary on is searching what stands behind it on its own. -/
def IgnoresLeft (r : Regex) : Prop :=
  ∀ front back, r.leftmost (Text.byteLength front) 0 none (front ++ back) =
    (r.leftmost 0 0 none back).map (·.shift (Text.byteLength front))

variable {r : Regex}

/-- A match is anchored at a place if it is the first one from there on and begins there. -/
theorem anchored?_eq_some_iff {cs : List Char} {place : Nat} {m : Located} :
    r.anchored? cs place = some m ↔ r.leftmost place 0 none cs = some m ∧ m.whole.start = place := by
  have hresult := r.leftmost_first cs place
  constructor
  · intro h
    refine ⟨hresult.eq_some_iff.mpr ⟨place, Nat.le_refl _, h, ?_⟩, (anchored?_bounds h).1⟩
    exact fun q hq hlt => absurd hq (Nat.not_le_of_lt hlt)
  · rintro ⟨h, hstart⟩
    obtain ⟨q, hfirst⟩ := hresult.eq_some_iff.mp h
    rw [← hstart, (anchored?_bounds hfirst.here).1]
    exact hfirst.here

theorem IgnoresLeft.anchored?_append (h : r.IgnoresLeft) (front back : List Char) :
    r.anchored? (front ++ back) (Text.byteLength front) =
      (r.anchored? back 0).map (·.shift (Text.byteLength front)) := by
  refine Option.ext fun m => ?_
  rw [anchored?_eq_some_iff, h front back, Option.map_eq_some_iff, Option.map_eq_some_iff]
  constructor
  · rintro ⟨⟨m, hm, rfl⟩, hstart⟩
    have hzero : m.whole.start = 0 := Nat.add_eq_right.mp hstart
    exact ⟨m, anchored?_eq_some_iff.mpr ⟨hm, hzero⟩, rfl⟩
  · rintro ⟨m, hm, rfl⟩
    obtain ⟨hm, hzero⟩ := anchored?_eq_some_iff.mp hm
    refine ⟨⟨m, hm, rfl⟩, ?_⟩
    rw [Located.shift, Span.shift, hzero, Nat.zero_add]

theorem Captures.locate_add (c : Captures) (offset n : Nat) (text : List Char) :
    c.locate (offset + n) text = (c.locate offset text).shift n := by
  simp only [locate, Located.shift, Span.shift, Nat.add_assoc, List.map_map, Function.comp_def,
    Option.map_map]

theorem leftmost_shift (hr : r.program.Unconditional) (start n : Nat) (before before' : Option Char)
    (text : List Char) (offset : Nat) :
    r.leftmost (start + n) (offset + n) before text =
      (r.leftmost start offset before' text).map (·.shift n) := by
  induction text generalizing offset before before' with
  | nil =>
    rw [leftmost, leftmost, matchAt_before hr before before']
    by_cases hstart : start ≤ offset
    · rw [if_pos hstart, if_pos (Nat.add_le_add_right hstart n), Option.map_map]
      simp only [Function.comp_def, Captures.locate_add]
    · rw [if_neg hstart, if_neg (by omega)]
      rfl
  | cons c rest ih =>
    have hrest := ih (some c) (some c) (offset + c.utf8Size)
    rw [Nat.add_right_comm] at hrest
    rw [leftmost, leftmost, matchAt_before hr before before']
    by_cases hstart : start ≤ offset
    · rw [if_pos hstart, if_pos (Nat.add_le_add_right hstart n)]
      cases r.matchAt before' (c :: rest) with
      | none => exact hrest
      | some m => exact congrArg some (m.locate_add offset n (c :: rest))
    · rw [if_neg hstart, if_neg (by omega)]
      exact hrest

/-- A program without conditions looks at nothing but the characters that it takes. -/
theorem ignoresLeft_of_unconditional (hr : r.program.Unconditional) : r.IgnoresLeft := by
  intro front back
  have h := leftmost_shift hr 0 (Text.byteLength front) (Text.lastOr none front) none back 0
  rw [Nat.zero_add] at h
  rw [leftmost_append, h]

end Regex

namespace PatternWith

variable {Inner : Type} {p : PatternWith Inner}

theorem usable?_append_of_ignoresLeft (h : p.regex.IgnoresLeft) (front back : List Char) :
    p.usable? (front ++ back) (Text.byteLength front) =
      (p.usable? back 0).map (·.shift (Text.byteLength front)) := by
  rw [usable?, usable?, h.anchored?_append]
  cases p.regex.anchored? back 0 with
  | none => rfl
  | some m =>
    have hgroup : (m.shift (Text.byteLength front)).group? = fun n =>
        (m.group? n).map fun s => s.shift (Text.byteLength front) := by
      funext n
      rw [Regex.Located.group?, Regex.Located.group?, Regex.Located.shift, List.getElem?_map]
      cases m.groups[n - 1]? with
      | none => rfl
      | some g => rfl
    have hbetween : p.between (m.shift (Text.byteLength front)).whole
        (m.shift (Text.byteLength front)).group? =
        (p.between m.whole m.group?).shift (Text.byteLength front) := by
      rw [hgroup]
      exact p.between_map (· + Text.byteLength front) m.whole m.group?
    rw [Option.map_some, Option.bind_some, Option.bind_some, hbetween]
    simp only [Span.shift, Nat.add_lt_add_iff_right]
    split <;> rfl

/-- What stands in front of a place does not decide on whether there is a hit. -/
theorem hitAt_eq_none_iff (h : p.regex.IgnoresLeft) (before : Option Char) (text : List Char) :
    p.hitAt before text = none ↔ p.hitAt none text = none := by
  have hlast : Text.lastOr none before.toList = before := by cases before <;> rfl
  have hbehind := p.usable?_append before.toList text
  have halone := p.usable?_append [] text
  rw [usable?_append_of_ignoresLeft h, hlast] at hbehind
  rw [List.nil_append, Text.byteLength_nil] at halone
  rw [← Option.map_eq_none_iff, ← hbehind, Option.map_eq_none_iff, halone, Option.map_eq_none_iff]
  rfl

end PatternWith

end Highlight
