import Highlight.Proofs.Grammar.Offsets
import Highlight.Proofs.Regex.Groups
import Highlight.Proofs.Text.Boundary

/-!
# The leftmost usable match

A pattern is searched for by trying one byte offset after the other, in effect: the answer is the match at
the first character boundary where the regular expression matches and something is left of the match
between the groups of its contexts. `FirstAnswer` says what being first means, `Regex.anchored?` what the
regular expression matches at a given offset, and `PatternWith.usable?` what a pattern makes of that.
-/

namespace Highlight

/-- Of the answers of `f` from `start` on, the first one is `a`, and it is the answer at `place`. -/
structure FirstAnswer {α : Type} (f : Nat → Option α) (start place : Nat) (a : α) : Prop where
  le : start ≤ place
  here : f place = some a
  earlier : ∀ q, start ≤ q → q < place → f q = none

/-- What a search of the answers of `f` from `start` on should return. -/
inductive SearchResult {α : Type} (f : Nat → Option α) (start : Nat) : Option α → Prop where
  | nothing (h : ∀ q, start ≤ q → f q = none) : SearchResult f start none
  | found {place : Nat} {a : α} (h : FirstAnswer f start place a) : SearchResult f start (some a)

namespace SearchResult

variable {α : Type} {f : Nat → Option α} {start : Nat} {result : Option α}

theorem eq_none_iff (h : SearchResult f start result) :
    result = none ↔ ∀ q, start ≤ q → f q = none := by
  cases h with
  | nothing hnone => exact ⟨fun _ => hnone, fun _ => rfl⟩
  | found hfirst =>
    constructor
    · rintro ⟨⟩
    · intro hnone
      have hhere := hfirst.here
      rw [hnone _ hfirst.le] at hhere
      cases hhere

theorem eq_some_iff (h : SearchResult f start result) {a : α} :
    result = some a ↔ ∃ place, FirstAnswer f start place a := by
  cases h with
  | nothing hnone =>
    constructor
    · rintro ⟨⟩
    · rintro ⟨place, hfirst⟩
      have hhere := hfirst.here
      rw [hnone _ hfirst.le] at hhere
      cases hhere
  | @found place b hfirst =>
    constructor
    · rintro ⟨⟩
      exact ⟨place, hfirst⟩
    · rintro ⟨place', hfirst'⟩
      -- neither of two first places comes before the other
      have hle : place ≤ place' := Nat.le_of_not_lt fun hlt => by
        have hnone := hfirst.earlier place' hfirst'.le hlt
        rw [hfirst'.here] at hnone
        cases hnone
      have hge : place' ≤ place := Nat.le_of_not_lt fun hlt => by
        have hnone := hfirst'.earlier place hfirst.le hlt
        rw [hfirst.here] at hnone
        cases hnone
      obtain rfl := Nat.le_antisymm hle hge
      rw [← hfirst.here, hfirst'.here]

/-- There is one result. -/
theorem unique {result' : Option α} (h : SearchResult f start result)
    (h' : SearchResult f start result') : result = result' := by
  cases h with
  | nothing hnone => exact (h'.eq_none_iff.mpr hnone).symm
  | found hfirst => exact (h'.eq_some_iff.mpr ⟨_, hfirst⟩).symm

/-- A search may begin sooner where there are no answers. -/
theorem sooner (h : SearchResult f start result) {start' : Nat} (hle : start' ≤ start)
    (hnone : ∀ q, start' ≤ q → q < start → f q = none) : SearchResult f start' result := by
  cases h with
  | nothing hrest =>
    refine .nothing fun q hq => ?_
    by_cases hlt : q < start
    · exact hnone q hq hlt
    · exact hrest q (Nat.le_of_not_lt hlt)
  | found hfirst =>
    refine .found ⟨Nat.le_trans hle hfirst.le, hfirst.here, fun q hq hlt => ?_⟩
    by_cases hbefore : q < start
    · exact hnone q hq hbefore
    · exact hfirst.earlier q (Nat.le_of_not_lt hbefore) hlt

end SearchResult

namespace Regex

/-- The match that begins at a byte offset, if there is a boundary; what stands before is in sight. -/
def anchored? (r : Regex) (cs : List Char) (place : Nat) : Option Located :=
  if Text.isBoundary cs place then
    let skipped := Text.charIndex cs place
    (r.matchAt (Text.lastOr none (cs.take skipped)) (cs.drop skipped)).map
      (·.locate place (cs.drop skipped))
  else none

variable {r : Regex} {cs : List Char} {place : Nat}

theorem anchored?_append (r : Regex) (front back : List Char) :
    r.anchored? (front ++ back) (Text.byteLength front) =
      (r.matchAt (Text.lastOr none front) back).map (·.locate (Text.byteLength front) back) := by
  rw [anchored?, if_pos (Text.isBoundary_append front back), Text.charIndex_append]
  dsimp only
  rw [List.take_left' rfl, List.drop_left' rfl]

theorem anchored?_eq_none (h : Text.isBoundary cs place = false) : r.anchored? cs place = none := by
  rw [anchored?, if_neg (by simp [h])]

/-- A match begins where it is anchored, its ends are boundaries, and its groups lie within it. -/
theorem anchored?_bounds {m : Located} (h : r.anchored? cs place = some m) :
    m.whole.start = place ∧ Text.OnBoundaries cs m.whole ∧
      ∀ s, some s ∈ m.groups → m.whole.start ≤ s.start ∧ s.start ≤ s.stop ∧ s.stop ≤ m.whole.stop := by
  have hboundary : Text.isBoundary cs place = true := by
    cases hb : Text.isBoundary cs place with
    | true => rfl
    | false => rw [anchored?_eq_none hb] at h; cases h
  obtain ⟨front, back, rfl, rfl⟩ := Text.exists_of_isBoundary hboundary
  rw [anchored?_append] at h
  obtain ⟨c, hc, rfl⟩ := Option.map_eq_some_iff.mp h
  have hstop := matchAt_stop_le hc
  have hpart : Text.IsPart (front ++ back) (c.locate (Text.byteLength front) back).whole
      (back.take c.stop) := by
    refine ⟨front, back.drop c.stop, by rw [List.append_assoc, List.take_append_drop], ?_⟩
    simp only [Captures.locate, Text.byteSpan, Text.byteOffset, Span.shift, List.take_zero,
      Text.byteLength_nil, Nat.zero_add, Nat.add_comm]
  refine ⟨?_, hpart.onBoundaries, ?_⟩
  · rw [hpart.eq_mk]
    simp only [Captures.locate, Text.byteSpan, Span.shift, Text.byteOffset_zero, Nat.zero_add]
  · intro s hs
    obtain ⟨g, hg, hshift⟩ := List.mem_map.mp hs
    obtain ⟨t, rfl, rfl⟩ := Option.map_eq_some_iff.mp hshift
    obtain ⟨hle, hle'⟩ := matchAt_groups hc hg
    have hmono := Text.byteOffset_mono back hle
    have hmono' := Text.byteOffset_mono back hle'
    simp only [Captures.locate, Text.byteSpan, Span.shift, Text.byteOffset_zero]
    omega

/-- Looking for the leftmost match is looking for the first offset where there is one. -/
theorem leftmost_searchResult (r : Regex) (start : Nat) (front text : List Char) :
    SearchResult (r.anchored? (front ++ text)) (max start (Text.byteLength front))
      (r.leftmost start (Text.byteLength front) (Text.lastOr none front) text) := by
  induction text generalizing front with
  | nil =>
    have hbehind : ∀ q, Text.byteLength front < q → r.anchored? (front ++ []) q = none := by
      intro q hq
      apply anchored?_eq_none
      apply Text.isBoundary_behind
      rwa [List.append_nil]
    have hhere := r.anchored?_append front []
    rw [leftmost]
    by_cases hstart : start ≤ Text.byteLength front
    · rw [if_pos hstart, ← hhere, Nat.max_eq_right hstart]
      cases hm : r.anchored? (front ++ []) (Text.byteLength front) with
      | some m => exact .found ⟨Nat.le_refl _, hm, fun q hq hlt => absurd hq (by omega)⟩
      | none =>
        refine .nothing fun q hq => ?_
        rcases Nat.lt_or_eq_of_le hq with hlt | rfl
        · exact hbehind q hlt
        · exact hm
    · rw [if_neg hstart]
      exact .nothing fun q hq => hbehind q (by omega)
  | cons c rest ih =>
    have hrest := ih (front ++ [c])
    have hlen : Text.byteLength (front ++ [c]) = Text.byteLength front + c.utf8Size := by simp
    rw [← List.append_cons, Text.lastOr_append, hlen] at hrest
    -- there is no boundary within the character
    have hinside : ∀ q, Text.byteLength front < q → q < Text.byteLength front + c.utf8Size →
        r.anchored? (front ++ c :: rest) q = none := by
      intro q hq hlt
      obtain ⟨k, rfl⟩ := Nat.exists_eq_add_of_le (Nat.le_of_lt hq)
      exact anchored?_eq_none (Text.isBoundary_inside front c rest (by omega) (by omega))
    have hhere := r.anchored?_append front (c :: rest)
    rw [leftmost]
    by_cases hstart : start ≤ Text.byteLength front
    · rw [if_pos hstart, Nat.max_eq_right hstart]
      rw [Nat.max_eq_right (by omega)] at hrest
      cases hm : r.matchAt (Text.lastOr none front) (c :: rest) with
      | some m =>
        rw [hm, Option.map_some] at hhere
        exact .found ⟨Nat.le_refl _, hhere, fun q hq hlt => absurd hq (by omega)⟩
      | none =>
        rw [hm, Option.map_none] at hhere
        refine hrest.sooner (Nat.le_add_right _ _) fun q hq hlt => ?_
        rcases Nat.lt_or_eq_of_le hq with hq | rfl
        · exact hinside q hq hlt
        · exact hhere
    · rw [if_neg hstart]
      exact hrest.sooner (by omega) fun q hq hlt => hinside q (by omega) (by omega)

/-- The same for a whole text. -/
theorem leftmost_first (r : Regex) (cs : List Char) (start : Nat) :
    SearchResult (r.anchored? cs) start (r.leftmost start 0 none cs) := by
  have h := r.leftmost_searchResult start [] cs
  rwa [List.nil_append, Text.byteLength_nil, Nat.max_eq_left (Nat.zero_le _)] at h

end Regex

theorem Regex.Captures.mem_of_group? (c : Regex.Captures) {n : Nat} {s : Span}
    (h : c.group? n = some s) : some s ∈ c.groups := by
  rw [group?] at h
  exact List.mem_of_getElem? (Option.join_eq_some_iff.mp h)

def Match.group? (m : Match) (n : Nat) : Option Span := (m.groups[n - 1]?).join

namespace PatternWith

variable {Inner : Type} (p : PatternWith Inner)

/-- What lies between the groups of the contexts: it begins where the leading context ends, or else where
the match begins, and it ends where the trailing context begins, or else where the match ends. -/
def between (whole : Span) (group? : Nat → Option Span) : Span where
  start := match p.lookbehind.bind group? with
    | some s => s.stop
    | none => whole.start
  stop := match p.lookahead.bind group? with
    | some s => s.start
    | none => whole.stop

/-- The match that begins at a byte offset, if something of it lies between its contexts. -/
def usable? (cs : List Char) (place : Nat) : Option Match :=
  (p.regex.anchored? cs place).bind fun m =>
    if (p.between m.whole m.group?).start < (p.between m.whole m.group?).stop then
      some ⟨m.whole, p.between m.whole m.group?, m.groups⟩
    else none

theorem between_map (f : Nat → Nat) (whole : Span) (group? : Nat → Option Span) :
    p.between ⟨f whole.start, f whole.stop⟩
        (fun n => (group? n).map fun s => ⟨f s.start, f s.stop⟩) =
      ⟨f (p.between whole group?).start, f (p.between whole group?).stop⟩ := by
  have hgroup : ∀ g : Option Nat,
      (g.bind fun n => (group? n).map fun s => (⟨f s.start, f s.stop⟩ : Span)) =
        (g.bind group?).map fun s => ⟨f s.start, f s.stop⟩ := by
    intro g
    cases g <;> rfl
  rw [between, between, hgroup, hgroup]
  cases p.lookbehind.bind group? <;> cases p.lookahead.bind group? <;> rfl

/-- The two ends lie within the match if the groups do. -/
theorem between_bounds (whole : Span) {group? : Nat → Option Span} (hle : whole.start ≤ whole.stop)
    (hgroups : ∀ n s, group? n = some s →
      whole.start ≤ s.start ∧ s.start ≤ s.stop ∧ s.stop ≤ whole.stop) :
    whole.start ≤ (p.between whole group?).start ∧ (p.between whole group?).start ≤ whole.stop ∧
      (p.between whole group?).stop ≤ whole.stop := by
  have hgroup : ∀ (g : Option Nat) (s : Span), g.bind group? = some s →
      whole.start ≤ s.start ∧ s.start ≤ s.stop ∧ s.stop ≤ whole.stop := by
    intro g s hs
    obtain ⟨n, -, hn⟩ := Option.bind_eq_some_iff.mp hs
    exact hgroups n s hn
  rw [between]
  refine ⟨?_, ?_, ?_⟩
  · cases hs : p.lookbehind.bind group? with
    | none => exact Nat.le_refl _
    | some s => have := hgroup _ _ hs; dsimp only; omega
  · cases hs : p.lookbehind.bind group? with
    | none => exact hle
    | some s => have := hgroup _ _ hs; dsimp only; omega
  · cases hs : p.lookahead.bind group? with
    | none => exact Nat.le_refl _
    | some s => have := hgroup _ _ hs; dsimp only; omega

/-- Cutting off the contexts within the match leaves what lies between them, or nothing. -/
theorem tokenSpan_eq {c : Regex.Captures}
    (hgroups : ∀ n s, c.group? n = some s → s.start ≤ s.stop ∧ s.stop ≤ c.stop) :
    p.tokenSpan c = ⟨(p.between ⟨0, c.stop⟩ c.group?).start,
      max (p.between ⟨0, c.stop⟩ c.group?).start (p.between ⟨0, c.stop⟩ c.group?).stop⟩ := by
  have hgroup : ∀ (g : Option Nat) (s : Span), g.bind c.group? = some s →
      min s.start c.stop = s.start ∧ min s.stop c.stop = s.stop := by
    intro g s hs
    obtain ⟨n, -, hn⟩ := Option.bind_eq_some_iff.mp hs
    have := hgroups n s hn
    omega
  have hbounds := p.between_bounds ⟨0, c.stop⟩ (Nat.zero_le _) fun n s hs =>
    ⟨Nat.zero_le _, hgroups n s hs⟩
  rw [between] at hbounds ⊢
  rw [tokenSpan]
  cases hb : p.lookbehind.bind c.group? with
  | none =>
    cases ha : p.lookahead.bind c.group? with
    | none => simp
    | some t => simp [(hgroup _ _ ha).1]
  | some s =>
    cases ha : p.lookahead.bind c.group? with
    | none =>
      rw [hb, ha] at hbounds
      simp only [(hgroup _ _ hb).2, Nat.max_eq_right hbounds.2.1]
    | some t => simp only [(hgroup _ _ hb).2, (hgroup _ _ ha).1]

/-- What lies between the contexts of a match does not depend on the unit. -/
theorem between_locate (c : Regex.Captures) (offset : Nat) (text : List Char) :
    p.between (c.locate offset text).whole (c.locate offset text).group? =
      (Text.byteSpan text (p.between ⟨0, c.stop⟩ c.group?)).shift offset := by
  have hgroup : (c.locate offset text).group? = fun n =>
      (c.group? n).map fun s => (Text.byteSpan text s).shift offset :=
    funext fun n => c.group?_locate offset text n
  rw [hgroup]
  exact p.between_map (fun n => Text.byteOffset text n + offset) ⟨0, c.stop⟩ c.group?

/-- At a boundary, a usable match in bytes is a hit in characters. -/
theorem usable?_append (front back : List Char) :
    p.usable? (front ++ back) (Text.byteLength front) =
      (p.hitAt (Text.lastOr none front) back).map fun h =>
        (Match.ofHit back h).shift (Text.byteLength front) := by
  rw [usable?, Regex.anchored?_append, hitAt]
  cases hc : p.regex.matchAt (Text.lastOr none front) back with
  | none => rfl
  | some c =>
    have hgroups : ∀ n s, c.group? n = some s → s.start ≤ s.stop ∧ s.stop ≤ c.stop :=
      fun n s hs => Regex.matchAt_groups hc (c.mem_of_group? hs)
    obtain ⟨-, hstart, hstop⟩ := p.between_bounds ⟨0, c.stop⟩ (Nat.zero_le _) fun n s hs =>
      ⟨Nat.zero_le _, hgroups n s hs⟩
    have hlen := Regex.matchAt_stop_le hc
    have hlt : Text.byteOffset back (p.between ⟨0, c.stop⟩ c.group?).start <
        Text.byteOffset back (p.between ⟨0, c.stop⟩ c.group?).stop ↔
        (p.between ⟨0, c.stop⟩ c.group?).start < (p.between ⟨0, c.stop⟩ c.group?).stop :=
      Text.byteOffset_lt_iff (Nat.le_trans hstart hlen) (Nat.le_trans hstop hlen)
    rw [Option.map_some, Option.bind_some, p.between_locate]
    dsimp only
    rw [p.tokenSpan_eq hgroups]
    simp only [Text.byteSpan, Span.shift, Nat.add_lt_add_iff_right, hlt]
    by_cases hne : (p.between ⟨0, c.stop⟩ c.group?).start < (p.between ⟨0, c.stop⟩ c.group?).stop
    · rw [if_pos hne, Nat.max_eq_right (Nat.le_of_lt hne), if_pos hne]
      simp only [Option.map_some, Match.ofHit, Match.shift, Text.byteSpan, Span.shift, List.map_map,
        Function.comp_def, Option.map_map, Regex.Captures.locate]
    · rw [if_neg hne, Nat.max_eq_left (Nat.le_of_not_lt hne), if_neg (Nat.lt_irrefl _)]
      rfl

variable {p}

theorem usable?_eq_none {cs : List Char} {place : Nat} (h : Text.isBoundary cs place = false) :
    p.usable? cs place = none := by
  rw [usable?, Regex.anchored?_eq_none h, Option.bind_none]

/-- What is usable at a place where no character begins is nothing. -/
theorem usable?_none_of {front text : List Char} {q : Nat} (hle : Text.byteLength front ≤ q)
    (h : ∀ mid back, text = mid ++ back → q = Text.byteLength (front ++ mid) →
      p.hitAt (Text.lastOr (Text.lastOr none front) mid) back = none) :
    p.usable? (front ++ text) q = none := by
  cases hb : Text.isBoundary (front ++ text) q with
  | false => exact usable?_eq_none hb
  | true =>
    obtain ⟨mid, back, rfl, rfl⟩ := Text.exists_of_isBoundary_append hb hle
    rw [← List.append_assoc, usable?_append, Text.lastOr_append, h mid back rfl rfl, Option.map_none]

/-- Looking for the first hit is looking for the first offset where something is usable. -/
theorem search_searchResult (p : PatternWith Inner) (front text : List Char) :
    SearchResult (p.usable? (front ++ text)) (Text.byteLength front)
      ((p.search (Text.lastOr none front) text).map fun h =>
        (Match.ofHit text h).shift (Text.byteLength front)) := by
  cases hs : p.search (Text.lastOr none front) text with
  | none =>
    have hmisses := search_eq_none_iff.mp hs
    exact .nothing fun q hq => usable?_none_of hq fun mid back htext _ => hmisses mid back htext
  | some h =>
    obtain ⟨a, b, h₀, rfl, hfirst, rfl⟩ := search_eq_some hs
    refine .found (show FirstAnswer _ _ (Text.byteLength (front ++ a)) _ from ⟨?_, ?_, ?_⟩)
    · rw [Text.byteLength_append]
      exact Nat.le_add_right _ _
    · rw [← List.append_assoc, usable?_append, Text.lastOr_append, hfirst.here]
      dsimp only [Option.map_some]
      rw [Match.ofHit_append, Match.shift_shift, Text.byteLength_append, Nat.add_comm]
    · intro q hq hlt
      refine usable?_none_of hq fun lead back htext hplace => ?_
      rw [hplace, Text.byteLength_append, Text.byteLength_append, Nat.add_lt_add_iff_left] at hlt
      have hlength := (Text.byteLength_lt_iff htext.symm).mp hlt
      rcases List.append_eq_append_iff.mp htext with ⟨mid, rfl, -⟩ | ⟨mid, rfl, rfl⟩
      · rw [List.length_append] at hlength
        omega
      · have hmid : mid ≠ [] := by
          rintro rfl
          rw [List.append_nil] at hlength
          exact Nat.lt_irrefl _ hlength
        exact hfirst.earlier lead mid rfl hmid

/-- A search from anywhere up to a boundary is a search from that boundary. -/
theorem tryMatch?_of_boundary (p : PatternWith Inner) {text : String} {front back : List Char}
    {start : Nat} (htext : text.toList = front ++ back)
    (hindex : Text.charIndex text.toList start = front.length) :
    p.tryMatch? text start = (p.search (Text.lastOr none front) back).map fun h =>
      (Match.ofHit back h).shift (Text.byteLength front) := by
  have hsame : p.tryMatch? text start = p.tryMatch? text (Text.byteLength front) := by
    rw [tryMatch?, tryMatch?, hindex, htext, Text.charIndex_append]
  have hstring : text = String.ofList (front ++ back) := by rw [← htext, String.ofList_toList]
  rw [hsame, hstring, tryMatch?_append]

/-- A search of a whole text returns the first usable match, from any byte offset on. -/
theorem tryMatch?_searchResult (p : PatternWith Inner) (text : String) (start : Nat) :
    SearchResult (p.usable? text.toList) start (p.tryMatch? text start) := by
  rcases Text.charIndex_cases text.toList start with ⟨front, back, htext, hindex, hle, hnone⟩ |
    ⟨hindex, hlt⟩
  · have hsearch := p.search_searchResult front back
    rw [← p.tryMatch?_of_boundary htext hindex, ← htext] at hsearch
    exact hsearch.sooner hle fun q hq hlt => usable?_eq_none (hnone q hq hlt)
  · have hbeyond : p.tryMatch? text start = none := by
      rw [tryMatch?, hindex, if_neg (Nat.not_succ_le_self _)]
    rw [hbeyond]
    exact .nothing fun q hq => usable?_eq_none (Text.isBoundary_behind (Nat.lt_of_lt_of_le hlt hq))

/-- Searching by bytes never fails, from any byte offset on, and returns the same. -/
theorem tryFrom_eq_tryMatch? (p : PatternWith Inner) (text : String) (start : Nat) :
    p.tryFrom text.toList start = pure (p.tryMatch? text start) := by
  rcases Text.charIndex_cases text.toList start with ⟨front, back, htext, hindex, hle, hnone⟩ |
    ⟨hindex, hlt⟩
  · have hlen : Text.byteLength front ≤ Text.byteLength text.toList := by
      rw [htext, Text.byteLength_append]
      exact Nat.le_add_right _ _
    -- no match begins in front of the first boundary
    have hleft : p.regex.leftmost start 0 none text.toList =
        p.regex.leftmost (Text.byteLength front) 0 none text.toList :=
      (p.regex.leftmost_first _ _).unique ((p.regex.leftmost_first _ _).sooner hle fun q hq hlt =>
        Regex.anchored?_eq_none (hnone q hq hlt))
    have hskip : p.tryFrom text.toList start = p.tryFrom text.toList (Text.byteLength front) := by
      conv => enter [2]; rw [tryFrom]
      rw [tryFrom, if_pos (Nat.le_trans hle hlen), if_pos hlen, hleft]
    rw [hskip, p.tryMatch?_of_boundary htext hindex, htext, tryFrom_eq]
  · rw [tryFrom, if_neg (Nat.not_le_of_lt hlt), tryMatch?, hindex, if_neg (Nat.not_succ_le_self _)]

/-- Searching a part of a text is searching that part as a text of its own. -/
theorem findIn?_eq_tryMatch? (p : PatternWith Inner) (text : String) (s : Span) :
    p.findIn? text s = (p.tryMatch? (String.ofList (Text.slice text.toList s)) 0).map
      (·.shift s.start) := by
  have hwhole := p.tryMatch?_append [] (Text.slice text.toList s)
  rw [List.nil_append, Text.byteLength_nil] at hwhole
  rw [hwhole, findIn?, Option.map_map, Text.lastOr]
  simp only [Function.comp_def, Match.shift_shift, Nat.zero_add]

/-- What a match that begins at byte `place` has to satisfy: it lies on boundaries, its groups lie in
it, and its token is exactly what lies between the contexts, and not empty. -/
structure Usable (p : PatternWith Inner) (cs : List Char) (place : Nat) (m : Match) : Prop where
  raw_start : m.raw.start = place
  boundaries : Text.OnBoundaries cs m.raw
  groups : ∀ s, some s ∈ m.groups → m.raw.start ≤ s.start ∧ s.start ≤ s.stop ∧ s.stop ≤ m.raw.stop
  token_start : m.token.start = match p.lookbehind.bind m.group? with
    | some s => s.stop
    | none => m.raw.start
  token_stop : m.token.stop = match p.lookahead.bind m.group? with
    | some s => s.start
    | none => m.raw.stop
  nonempty : m.token.start < m.token.stop
  inside : m.raw.start ≤ m.token.start ∧ m.token.stop ≤ m.raw.stop
  /-- No byte is shared with a context. -/
  apart : ∀ n s, p.lookbehind = some n ∨ p.lookahead = some n → m.group? n = some s →
    s.stop ≤ m.token.start ∨ m.token.stop ≤ s.start

theorem usable_of_usable? {cs : List Char} {place : Nat} {m : Match} (h : p.usable? cs place = some m) :
    p.Usable cs place m := by
  obtain ⟨l, hl, htoken⟩ := Option.bind_eq_some_iff.mp h
  obtain ⟨hplace, hboundaries, hgroups⟩ := Regex.anchored?_bounds hl
  split at htoken
  · next hlt =>
    cases htoken
    have hgroup : ∀ n s, l.group? n = some s →
        l.whole.start ≤ s.start ∧ s.start ≤ s.stop ∧ s.stop ≤ l.whole.stop :=
      fun n s hs => hgroups s (List.mem_of_getElem? (Option.join_eq_some_iff.mp hs))
    obtain ⟨hstart, -, hstop⟩ := p.between_bounds _ hboundaries.le hgroup
    refine ⟨hplace, hboundaries, hgroups, rfl, rfl, hlt, ⟨hstart, hstop⟩, ?_⟩
    rintro n s (hcontext | hcontext) (hs : l.group? n = some s)
    · refine .inl (Nat.le_of_eq ?_)
      dsimp only [between]
      rw [hcontext, Option.bind_some, hs]
    · refine .inr (Nat.le_of_eq ?_)
      dsimp only [between]
      rw [hcontext, Option.bind_some, hs]
  · cases htoken

/-- The search for a pattern in a text finds the leftmost usable match: from any byte offset on it
returns what the regular expression matches at the first boundary where something of that match is left
between its contexts, and nothing exactly if there is no such boundary. Doing it with byte offsets that
are checked, one attempt behind the other, never fails and returns the same; and a part of a text is
searched in this way on its own. -/
theorem tryMatch?_leftmost (p : PatternWith Inner) (text : String) (start : Nat) :
    (∀ m, p.tryMatch? text start = some m ↔ ∃ q, FirstAnswer (p.usable? text.toList) start q m) ∧
    (p.tryMatch? text start = none ↔ ∀ q, start ≤ q → p.usable? text.toList q = none) ∧
    (∀ m, p.tryMatch? text start = some m → start ≤ m.raw.start ∧ p.Usable text.toList m.raw.start m) ∧
    SearchResult (p.regex.anchored? text.toList) start (p.regex.leftmost start 0 none text.toList) ∧
    (p.tryFrom text.toList start).run = some (.ok (p.tryMatch? text start)) ∧
    ∀ s, p.findIn? text s = (p.tryMatch? (String.ofList (Text.slice text.toList s)) 0).map
      (·.shift s.start) := by
  have hresult := p.tryMatch?_searchResult text start
  refine ⟨fun m => hresult.eq_some_iff, hresult.eq_none_iff, ?_, p.regex.leftmost_first _ _, ?_,
    p.findIn?_eq_tryMatch? text⟩
  · intro m hm
    obtain ⟨q, hfirst⟩ := hresult.eq_some_iff.mp hm
    have husable := usable_of_usable? hfirst.here
    rw [husable.raw_start]
    exact ⟨hfirst.le, husable⟩
  · rw [tryFrom_eq_tryMatch?]
    rfl

end PatternWith

end Highlight
