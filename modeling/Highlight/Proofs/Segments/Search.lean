import Highlight.Proofs.Segments.Machine
import Highlight.Proofs.Grammar.Search

/-!
# Searching by bytes

`PatternWith.tryFrom` looks for a match, cuts off the contexts by clamping byte offsets, and looks
again from the next character boundary when nothing is left of it. It never fails, and finds what
`PatternWith.search` finds character by character: byte offsets grow with the number of
characters, so cutting off the contexts and comparing positions is the same in both units.
-/

namespace Highlight

theorem Text.byteOffset_append (front text : List Char) (n : Nat) :
    byteOffset (front ++ text) (n + front.length) = byteOffset text n + byteLength front := by
  rw [byteOffset, Nat.add_comm, List.take_length_add_append, byteLength_append, byteOffset,
    Nat.add_comm]

namespace Match

/-- A hit behind a front part is the same hit in the bytes behind that part. -/
theorem ofHit_append (front text : List Char) (h : Hit) :
    ofHit (front ++ text) (h.shift front.length) =
      (ofHit text h).shift (Text.byteLength front) := by
  have hspan : ∀ s : Span, Text.byteSpan (front ++ text) (s.shift front.length) =
      (Text.byteSpan text s).shift (Text.byteLength front) := by
    intro s
    simp only [Text.byteSpan, Span.shift, Text.byteOffset_append]
  simp [ofHit, Hit.shift, Match.shift, hspan, Function.comp_def]

theorem shift_shift (m : Match) (a b : Nat) : (m.shift a).shift b = m.shift (a + b) := by
  simp [Match.shift, Span.shift, Nat.add_assoc, Function.comp_def]

end Match

namespace Checked

theorem clamp_eq {x lo hi : Nat} (h : lo ≤ hi) : clamp x lo hi = pure (max lo (min x hi)) := by
  rw [clamp, if_pos h]

/-- Clamping offsets of a text is clamping numbers of characters. -/
theorem clamp_byteOffset (text : List Char) (offset x : Nat) {lo hi : Nat} (h : lo ≤ hi) :
    clamp (Text.byteOffset text x + offset) (Text.byteOffset text lo + offset)
      (Text.byteOffset text hi + offset) =
      pure (Text.byteOffset text (max lo (min x hi)) + offset) := by
  have hle : Text.byteOffset text lo + offset ≤ Text.byteOffset text hi + offset :=
    Nat.add_le_add_right (Text.byteOffset_mono text h) offset
  rw [clamp_eq hle, Nat.add_min_add_right, Nat.add_max_add_right, ← Text.byteOffset_min,
    ← Text.byteOffset_max]

theorem nextBoundary_eq {cs : List Char} {next : Nat}
    (h : Text.byteLength cs ≤ next ∨ Text.isBoundary cs next = true) :
    nextBoundary cs next = pure next := by
  rw [nextBoundary, if_neg]
  rintro ⟨hlt, hfalse⟩
  rcases h with h | h
  · omega
  · rw [h] at hfalse
    cases hfalse

/-- From a place within a character the next boundary is behind that character. -/
theorem nextBoundary_inside (front : List Char) (c : Char) (rest : List Char) {b : Nat}
    (hpos : 0 < b) (hle : b ≤ c.utf8Size) :
    nextBoundary (front ++ c :: rest) (Text.byteLength front + b) =
      pure (Text.byteLength (front ++ [c])) := by
  obtain ⟨k, hk⟩ : ∃ k, b + k = c.utf8Size := ⟨c.utf8Size - b, by omega⟩
  -- `k` bytes are left of the character
  induction k generalizing b with
  | zero =>
    have hstop : Text.byteLength front + b = Text.byteLength (front ++ [c]) := by
      rw [Text.byteLength_append, Text.byteLength_cons, Text.byteLength_nil]
      omega
    rw [hstop, List.append_cons]
    exact nextBoundary_eq (.inr (Text.isBoundary_append (front ++ [c]) rest))
  | succ k ih =>
    have hinside := Text.isBoundary_inside front c rest hpos (by omega)
    have hlt : Text.byteLength front + b < Text.byteLength (front ++ c :: rest) := by
      rw [Text.byteLength_append, Text.byteLength_cons]
      omega
    rw [nextBoundary, if_pos ⟨hlt, hinside⟩, Nat.add_assoc]
    exact ih (b := b + 1) (by omega) (by omega) (by omega)

end Checked

open Checked

namespace Regex

/-- Groups are found at the same numbers in both units. -/
theorem Captures.group?_locate (c : Captures) (offset : Nat) (text : List Char) (n : Nat) :
    (c.locate offset text).group? n =
      (c.group? n).map fun s => (Text.byteSpan text s).shift offset := by
  rw [Located.group?, Captures.group?, Captures.locate, List.getElem?_map]
  cases c.groups[n - 1]? with
  | none => rfl
  | some g => rfl

variable {r : Regex} {before : Option Char} {text : List Char}

theorem leftmost_start {start start' offset : Nat} (h : start ≤ offset) (h' : start' ≤ offset) :
    r.leftmost start offset before text = r.leftmost start' offset before text := by
  induction text generalizing offset before with
  | nil => rw [leftmost, leftmost, if_pos h, if_pos h']
  | cons c rest ih => rw [leftmost, leftmost, if_pos h, if_pos h', ih (by omega) (by omega)]

/-- Characters in front of the place where a match may begin are passed over. -/
theorem leftmost_skip {start offset : Nat} (front : List Char)
    (h : offset + Text.byteLength front ≤ start) :
    r.leftmost start offset before (front ++ text) =
      r.leftmost start (offset + Text.byteLength front) (Text.lastOr before front) text := by
  induction front generalizing offset before with
  | nil => rfl
  | cons c front ih =>
    have hc := c.utf8Size_pos
    rw [Text.byteLength_cons, ← Nat.add_assoc] at h ⊢
    rw [List.cons_append, leftmost, if_neg (by omega)]
    exact ih h

theorem leftmost_append (r : Regex) (front text : List Char) :
    r.leftmost (Text.byteLength front) 0 none (front ++ text) =
      r.leftmost (Text.byteLength front) (Text.byteLength front) (Text.lastOr none front) text := by
  rw [leftmost_skip front (Nat.le_of_eq (Nat.zero_add _)), Nat.zero_add]

theorem leftmost_here {start offset : Nat} {c : Captures} (h : start ≤ offset)
    (hc : r.matchAt before text = some c) :
    r.leftmost start offset before text = some (c.locate offset text) := by
  cases text with
  | nil =>
    rw [leftmost, if_pos h, hc]
    rfl
  | cons d rest => rw [leftmost, if_pos h, hc]

/-- Where nothing matches, looking there is looking behind the next character. -/
theorem leftmost_next {front : List Char} {d : Char}
    (hc : r.matchAt (Text.lastOr none front) (d :: text) = none) :
    r.leftmost (Text.byteLength front) 0 none (front ++ d :: text) =
      r.leftmost (Text.byteLength (front ++ [d])) 0 none (front ++ d :: text) := by
  have hlen : Text.byteLength (front ++ [d]) = Text.byteLength front + d.utf8Size := by simp
  have hle : Text.byteLength front ≤ Text.byteLength (front ++ [d]) := by omega
  have hbehind := r.leftmost_append (front ++ [d]) text
  rw [← List.append_cons] at hbehind
  rw [leftmost_append, leftmost, if_pos (Nat.le_refl _), hc, hbehind, Text.lastOr_append, ← hlen]
  exact leftmost_start hle (Nat.le_refl _)

end Regex

namespace PatternWith

variable {Inner : Type} {p : PatternWith Inner}

/-- Cutting off the contexts in bytes never fails, and agrees with cutting them off in
characters. -/
theorem cutContexts_locate (p : PatternWith Inner) (c : Regex.Captures) (offset : Nat)
    (text : List Char) :
    p.cutContexts (c.locate offset text) =
      pure ((Text.byteSpan text (p.tokenSpan c)).shift offset) := by
  have hgroup : ∀ g : Option Nat, g.bind (c.locate offset text).group? =
      (g.bind c.group?).map fun s => (Text.byteSpan text s).shift offset := by
    intro g
    cases g with
    | none => rfl
    | some n => exact c.group?_locate offset text n
  rw [cutContexts, hgroup, hgroup, Regex.Captures.locate]
  cases hb : p.lookbehind.bind c.group? with
  | none =>
    cases ha : p.lookahead.bind c.group? with
    | none => simp only [tokenSpan, hb, ha, Option.map_none, pure_bind]
    | some t =>
      simp only [tokenSpan, hb, ha, Option.map_none, Option.map_some, pure_bind, Text.byteSpan,
        Span.shift]
      rw [clamp_byteOffset text offset t.start (Nat.zero_le _)]
      rfl
  | some s =>
    cases ha : p.lookahead.bind c.group? with
    | none =>
      simp only [tokenSpan, hb, ha, Option.map_none, Option.map_some, pure_bind, Text.byteSpan,
        Span.shift]
      rw [clamp_byteOffset text offset s.stop (Nat.zero_le _), Nat.zero_max]
      rfl
    | some t =>
      simp only [tokenSpan, hb, ha, Option.map_some, Text.byteSpan, Span.shift]
      rw [clamp_byteOffset text offset s.stop (Nat.zero_le _), Nat.zero_max, pure_bind,
        clamp_byteOffset text offset t.start (Nat.min_le_right _ _)]
      rfl

theorem tryFrom_of_match {front text : List Char} {c : Regex.Captures}
    (hc : p.regex.matchAt (Text.lastOr none front) text = some c) :
    p.tryFrom (front ++ text) (Text.byteLength front) =
      if (p.tokenSpan c).start < (p.tokenSpan c).stop then
        pure (some ((Match.ofHit text ⟨⟨0, c.stop⟩, p.tokenSpan c, c.groups⟩).shift
          (Text.byteLength front)))
      else nextBoundary (front ++ text) (Text.byteLength front + 1) >>= p.tryFrom (front ++ text) := by
  have hcut := p.cutContexts_locate c (Text.byteLength front) text
  -- the token is empty in bytes exactly if it is empty in characters
  have hlt : ((Text.byteSpan text (p.tokenSpan c)).shift (Text.byteLength front)).start <
      ((Text.byteSpan text (p.tokenSpan c)).shift (Text.byteLength front)).stop ↔
      (p.tokenSpan c).start < (p.tokenSpan c).stop := by
    have hb := p.tokenSpan_bounds c
    have hstop := Regex.matchAt_stop_le hc
    have hiff : Text.byteOffset text (p.tokenSpan c).start <
        Text.byteOffset text (p.tokenSpan c).stop ↔ (p.tokenSpan c).start < (p.tokenSpan c).stop :=
      Text.byteOffset_lt_iff (by omega) (by omega)
    simp only [Span.shift, Text.byteSpan]
    omega
  rw [tryFrom, if_pos (by simp), Regex.leftmost_append, Regex.leftmost_here (Nat.le_refl _) hc]
  dsimp only
  rw [hcut, pure_bind]
  by_cases hne : (p.tokenSpan c).start < (p.tokenSpan c).stop
  · rw [if_pos (hlt.mpr hne), if_pos hne]
    simp [Regex.Captures.locate, Match.ofHit, Match.shift, Function.comp_def]
  · rw [if_neg (mt hlt.mp hne), if_neg hne]
    simp only [Regex.Captures.locate, Text.byteSpan, Span.shift, Text.byteOffset_zero, Nat.zero_add]

/-- Where there is a hit, the search is over. -/
theorem tryFrom_of_hit {front text : List Char} {h : Hit}
    (hh : p.hitAt (Text.lastOr none front) text = some h) :
    p.tryFrom (front ++ text) (Text.byteLength front) =
      pure (some ((Match.ofHit text h).shift (Text.byteLength front))) := by
  rw [hitAt] at hh
  split at hh
  · next c hc =>
    rw [tryFrom_of_match hc]
    dsimp only at hh
    split at hh
    · next hne =>
      cases hh
      rw [if_pos hne]
    · cases hh
  · cases hh

/-- Where there is no hit, the search goes on behind the next character. -/
theorem tryFrom_of_no_hit {front text : List Char} {d : Char}
    (hh : p.hitAt (Text.lastOr none front) (d :: text) = none) :
    p.tryFrom (front ++ d :: text) (Text.byteLength front) =
      p.tryFrom (front ++ d :: text) (Text.byteLength (front ++ [d])) := by
  rw [hitAt] at hh
  split at hh
  · next c hc =>
    rw [tryFrom_of_match hc]
    dsimp only at hh
    split at hh
    · cases hh
    · next hempty =>
      rw [if_neg hempty, nextBoundary_inside _ _ _ Nat.one_pos d.utf8Size_pos, pure_bind]
  · next hc =>
    rw [tryFrom, if_pos (by simp), Regex.leftmost_next hc]
    conv => enter [2]; rw [tryFrom]
    rw [if_pos (by simp)]

/-- At the end of the text nothing is left to find. -/
theorem tryFrom_of_no_hit_end {text : List Char}
    (hh : p.hitAt (Text.lastOr none text) [] = none) :
    p.tryFrom text (Text.byteLength text) = pure none := by
  rw [hitAt] at hh
  split at hh
  · next c hc =>
    have hstep := tryFrom_of_match hc
    rw [List.append_nil] at hstep
    dsimp only at hh
    split at hh
    · cases hh
    · next hempty =>
      rw [hstep, if_neg hempty, nextBoundary_eq (.inl (Nat.le_succ _)), pure_bind, tryFrom,
        if_neg (Nat.not_succ_le_self _)]
  · next hc =>
    have hleft := p.regex.leftmost_append text []
    rw [List.append_nil, Regex.leftmost, if_pos (Nat.le_refl _), hc] at hleft
    rw [tryFrom, if_pos (Nat.le_refl _), hleft]
    rfl

/-- Searching a text from a boundary on ends without a fault in the first hit behind it. -/
theorem tryFrom_eq (p : PatternWith Inner) (front text : List Char) :
    p.tryFrom (front ++ text) (Text.byteLength front) =
      pure ((p.search (Text.lastOr none front) text).map fun h =>
        (Match.ofHit text h).shift (Text.byteLength front)) := by
  induction text generalizing front with
  | nil =>
    rw [search_nil]
    cases hh : p.hitAt (Text.lastOr none front) [] with
    | none =>
      rw [List.append_nil, tryFrom_of_no_hit_end hh]
      rfl
    | some h => exact tryFrom_of_hit hh
  | cons d text ih =>
    rw [search_cons]
    cases hh : p.hitAt (Text.lastOr none front) (d :: text) with
    | none =>
      have hshift : ∀ h : Hit, (Match.ofHit (d :: text) (h.shift 1)).shift (Text.byteLength front) =
          (Match.ofHit text h).shift (Text.byteLength (front ++ [d])) := by
        intro h
        have hofHit := Match.ofHit_append [d] text h
        rw [List.singleton_append, List.length_singleton] at hofHit
        rw [hofHit, Match.shift_shift, Text.byteLength_append, Nat.add_comm]
      rw [tryFrom_of_no_hit hh, List.append_cons, ih, Text.lastOr_append, Option.map_map]
      simp only [Function.comp_def, hshift]
      rfl
    | some h => exact tryFrom_of_hit hh

end PatternWith

end Highlight
