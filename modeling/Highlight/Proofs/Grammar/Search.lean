import Highlight.Grammar.Match
import Highlight.Proofs.Regex.Extent

/-!
# What a search finds

A hit lies within the text that was searched and its token is never empty. A search returns the
hit at the first place where there is one: `search_eq_some` and `search_eq_none_iff` say this
with the text cut in front of that place.
-/

namespace Highlight

theorem Text.lastOr_append (before : Option Char) (a b : List Char) :
    Text.lastOr before (a ++ b) = Text.lastOr (Text.lastOr before a) b := by
  induction a generalizing before with
  | nil => rfl
  | cons c a ih => exact ih (some c)

theorem Text.lastOr_of_ne (a b : Option Char) {cs : List Char} (h : cs ≠ []) :
    lastOr a cs = lastOr b cs := by
  cases cs with
  | nil => exact absurd rfl h
  | cons c cs => rfl

namespace Hit

/-- A hit whose token is not empty and ends within `n` characters. -/
structure Within (h : Hit) (n : Nat) : Prop where
  nonempty : h.token.start < h.token.stop
  stop_le : h.token.stop ≤ n

theorem Within.shift {h : Hit} {n : Nat} (hw : h.Within n) (k : Nat) :
    (h.shift k).Within (k + n) := by
  have hne := hw.nonempty
  have hle := hw.stop_le
  constructor
  · simp only [Hit.shift, Span.shift]
    omega
  · simp only [Hit.shift, Span.shift]
    omega

@[simp] theorem shift_zero (h : Hit) : h.shift 0 = h := by
  have hspan : (fun s : Span => s.shift 0) = id := rfl
  simp [Hit.shift, Span.shift]

theorem shift_shift (h : Hit) (m n : Nat) : (h.shift m).shift n = h.shift (m + n) := by
  simp [Hit.shift, Span.shift, Nat.add_assoc, Function.comp_def]

end Hit

namespace PatternWith

variable {Inner : Type} (p : PatternWith Inner)

/-- The contexts are cut off within the match, and never past each other. -/
theorem tokenSpan_bounds (c : Regex.Captures) :
    (p.tokenSpan c).start ≤ (p.tokenSpan c).stop ∧ (p.tokenSpan c).stop ≤ c.stop := by
  have hstart : ∀ s : Span, min s.stop c.stop ≤ c.stop := fun s => Nat.min_le_right _ _
  have hstop : ∀ s : Span, min s.start c.stop ≤ c.stop := fun s => Nat.min_le_right _ _
  unfold tokenSpan
  cases p.lookbehind.bind c.group? <;> cases p.lookahead.bind c.group?
  · exact ⟨Nat.zero_le _, Nat.le_refl _⟩
  · exact ⟨Nat.le_max_left _ _, Nat.max_le.mpr ⟨Nat.zero_le _, hstop _⟩⟩
  · exact ⟨hstart _, Nat.le_refl _⟩
  · exact ⟨Nat.le_max_left _ _, Nat.max_le.mpr ⟨hstart _, hstop _⟩⟩

theorem hitAt_within {before : Option Char} {text : List Char} {h : Hit}
    (hh : p.hitAt before text = some h) : h.Within text.length := by
  rw [hitAt] at hh
  split at hh
  · next c hc =>
    have hstop := Regex.matchAt_stop_le hc
    have htoken := (p.tokenSpan_bounds c).2
    dsimp only at hh
    split at hh
    · next hlt =>
      cases hh
      exact ⟨hlt, Nat.le_trans htoken hstop⟩
    · cases hh
  · cases hh

theorem searchFrom_nil (k : Nat) (before : Option Char) :
    p.searchFrom k before [] = (p.hitAt before []).map (·.shift k) := by
  cases h : p.hitAt before [] <;> rw [searchFrom] <;> simp only [h] <;> rfl

theorem searchFrom_cons (k : Nat) (before : Option Char) (c : Char) (rest : List Char) :
    p.searchFrom k before (c :: rest) =
      match p.hitAt before (c :: rest) with
      | some h => some (h.shift k)
      | none => p.searchFrom (k + 1) (some c) rest := by
  cases h : p.hitAt before (c :: rest) <;> rw [searchFrom] <;> simp only [h]

theorem searchFrom_add (m n : Nat) (before : Option Char) (text : List Char) :
    p.searchFrom (m + n) before text = (p.searchFrom m before text).map (·.shift n) := by
  induction text generalizing m before with
  | nil =>
    rw [searchFrom_nil, searchFrom_nil, Option.map_map]
    simp only [Function.comp_def, Hit.shift_shift]
  | cons c rest ih =>
    rw [searchFrom_cons, searchFrom_cons, Nat.add_right_comm, ih]
    cases p.hitAt before (c :: rest) with
    | none => rfl
    | some h => simp only [Option.map_some, Hit.shift_shift]

theorem search_nil (before : Option Char) : p.search before [] = p.hitAt before [] := by
  rw [search, searchFrom_nil]
  simp

/-- A search goes on from character to character until there is a hit. -/
theorem search_cons (before : Option Char) (c : Char) (rest : List Char) :
    p.search before (c :: rest) =
      match p.hitAt before (c :: rest) with
      | some h => some h
      | none => (p.search (some c) rest).map (·.shift 1) := by
  rw [search, searchFrom_cons, search, ← searchFrom_add]
  cases p.hitAt before (c :: rest) with
  | none => rfl
  | some h => simp only [Hit.shift_zero]

/-- There is no hit at any place of a text. -/
def Misses (before : Option Char) (text : List Char) : Prop :=
  ∀ front back, text = front ++ back → p.hitAt (Text.lastOr before front) back = none

/-- The hit `h` begins behind `front`, and none begins before. -/
structure FirstHit (before : Option Char) (front back : List Char) (h : Hit) : Prop where
  here : p.hitAt (Text.lastOr before front) back = some h
  earlier : ∀ lead mid, front = lead ++ mid → mid ≠ [] →
    p.hitAt (Text.lastOr before lead) (mid ++ back) = none

variable {p}

theorem FirstHit.cons {before : Option Char} {c : Char} {front back : List Char} {h : Hit}
    (hh : p.FirstHit (some c) front back h) (hc : p.hitAt before (c :: (front ++ back)) = none) :
    p.FirstHit before (c :: front) back h := by
  constructor
  · exact hh.here
  · intro lead mid hsplit hmid
    cases lead with
    | nil =>
      rw [List.nil_append] at hsplit
      rw [← hsplit]
      exact hc
    | cons d lead =>
      rw [List.cons_append, List.cons.injEq] at hsplit
      obtain ⟨rfl, hsplit⟩ := hsplit
      exact hh.earlier lead mid hsplit hmid

theorem searchFrom_eq_none {k : Nat} {before : Option Char} {text : List Char} :
    p.searchFrom k before text = none → p.Misses before text := by
  induction text generalizing k before with
  | nil =>
    intro h front back hsplit
    rw [searchFrom_nil, Option.map_eq_none_iff] at h
    obtain ⟨rfl, rfl⟩ := List.nil_eq_append_iff.mp hsplit
    exact h
  | cons c rest ih =>
    intro h front back hsplit
    rw [searchFrom_cons] at h
    split at h
    · cases h
    · next hnone =>
      cases front with
      | nil =>
        rw [List.nil_append] at hsplit
        rw [← hsplit]
        exact hnone
      | cons d front =>
        rw [List.cons_append, List.cons.injEq] at hsplit
        obtain ⟨rfl, hsplit⟩ := hsplit
        exact ih h front back hsplit

theorem searchFrom_eq_some {k : Nat} {before : Option Char} {text : List Char} {h : Hit} :
    p.searchFrom k before text = some h →
      ∃ front back h₀, text = front ++ back ∧ p.FirstHit before front back h₀ ∧
        h = h₀.shift (k + front.length) := by
  induction text generalizing k before with
  | nil =>
    intro hs
    rw [searchFrom_nil, Option.map_eq_some_iff] at hs
    obtain ⟨h₀, hh, rfl⟩ := hs
    refine ⟨[], [], h₀, rfl, ⟨hh, ?_⟩, rfl⟩
    intro lead mid hsplit hmid
    exact absurd (List.nil_eq_append_iff.mp hsplit).2 hmid
  | cons c rest ih =>
    intro hs
    rw [searchFrom_cons] at hs
    split at hs
    · next h₀ hh =>
      cases hs
      refine ⟨[], c :: rest, h₀, rfl, ⟨hh, ?_⟩, rfl⟩
      intro lead mid hsplit hmid
      exact absurd (List.nil_eq_append_iff.mp hsplit).2 hmid
    · next hnone =>
      obtain ⟨front, back, h₀, rfl, hfirst, rfl⟩ := ih hs
      refine ⟨c :: front, back, h₀, rfl, hfirst.cons hnone, ?_⟩
      rw [List.length_cons, Nat.add_right_comm, Nat.add_assoc]

/-- A search finds nothing exactly if there is no hit at any place. -/
theorem search_eq_none_iff {before : Option Char} {text : List Char} :
    p.search before text = none ↔ p.Misses before text := by
  constructor
  · exact searchFrom_eq_none
  · intro hm
    cases hs : p.search before text with
    | none => rfl
    | some h =>
      obtain ⟨front, back, h₀, rfl, hfirst, -⟩ := searchFrom_eq_some hs
      have hnone := hm front back rfl
      rw [hfirst.here] at hnone
      cases hnone

/-- A search finds the hit at the first place where there is one. -/
theorem search_eq_some {before : Option Char} {text : List Char} {h : Hit}
    (hs : p.search before text = some h) :
    ∃ front back h₀, text = front ++ back ∧ p.FirstHit before front back h₀ ∧
      h = h₀.shift front.length := by
  obtain ⟨front, back, h₀, rfl, hfirst, rfl⟩ := searchFrom_eq_some hs
  exact ⟨front, back, h₀, rfl, hfirst, by rw [Nat.zero_add]⟩

theorem search_within {before : Option Char} {text : List Char} {h : Hit}
    (hs : p.search before text = some h) : h.Within text.length := by
  obtain ⟨front, back, h₀, rfl, hfirst, rfl⟩ := search_eq_some hs
  rw [List.length_append]
  exact (p.hitAt_within hfirst.here).shift front.length

/-- A match begins where it has been asked for. -/
theorem hitAt_raw_start {before : Option Char} {text : List Char} {h : Hit}
    (hh : p.hitAt before text = some h) : h.raw.start = 0 := by
  rw [hitAt] at hh
  split at hh
  · dsimp only at hh
    split at hh
    · cases hh
      rfl
    · cases hh
  · cases hh

/-- Without a leading context, the token begins where the match does. -/
theorem token_start_of_hitAt (hp : p.lookbehind = none) {before : Option Char} {text : List Char}
    {h : Hit} (hh : p.hitAt before text = some h) : h.token.start = 0 := by
  rw [hitAt] at hh
  split at hh
  · dsimp only at hh
    split at hh
    · cases hh
      rw [tokenSpan, hp]
      rfl
    · cases hh
  · cases hh

/-- A search leaves no hit in front of the one that it finds. -/
theorem hitAt_none_of_search (hp : p.lookbehind = none) {before : Option Char} {text u v : List Char}
    {h : Hit} (hs : p.search before text = some h) (htext : text = u ++ v)
    (hlt : u.length < h.token.start) : p.hitAt (Text.lastOr before u) v = none := by
  obtain ⟨front, back, h₀, rfl, hfirst, rfl⟩ := search_eq_some hs
  have hstart : (h₀.shift front.length).token.start = front.length := by
    simp only [Hit.shift, Span.shift, token_start_of_hitAt hp hfirst.here, Nat.zero_add]
  rw [hstart] at hlt
  rcases List.append_eq_append_iff.mp htext with ⟨mid, rfl, -⟩ | ⟨mid, rfl, rfl⟩
  · rw [List.length_append] at hlt
    omega
  · refine hfirst.earlier u mid rfl ?_
    rintro rfl
    rw [List.append_nil] at hlt
    exact Nat.lt_irrefl _ hlt

end PatternWith

end Highlight
