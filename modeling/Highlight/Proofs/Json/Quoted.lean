import Highlight.Proofs.Grammar.Search
import Highlight.Proofs.Json.Patterns
import Highlight.Proofs.Regex.Stepping

/-!
# Where the patterns for strings match

`property` and `string` both look for a character that is no backslash, a quote, and characters up
to the next quote that is not escaped. Whether that is a string of the document or the text between
two strings is nothing they can tell. `string_hitAt` and `property_hitAt` say where they match,
`Seeks.hitAt_unopened`, `Seeks.hitAt_open` and `property_hitAt_none` where not.
-/

namespace Highlight.Json

open Highlight.Regex (Anchor Program Thread Settled Waiting Found advance advance_cons advance_nil)

theorem lt_max (c : Char) : c.toNat < 1114112 := by
  have h := c.valid
  simp only [UInt32.isValidChar, Nat.isValidChar] at h
  have hval : c.toNat = c.val.toNat := rfl
  omega

theorem covers_nil (n : Nat) : CharSet.covers [] n = false := rfl

theorem covers_cons_iff (lo hi n : Nat) (rest : List (Nat × Nat)) :
    CharSet.covers ((lo, hi) :: rest) n = true ↔
      lo ≤ n ∧ (n ≤ hi ∨ CharSet.covers rest n = true) := by
  rw [CharSet.covers]
  split
  · simp only [Bool.false_eq_true, false_iff]
    omega
  · split
    · simp only [true_iff]
      omega
    · next hlo hhi =>
      constructor
      · exact fun h => ⟨by omega, .inr h⟩
      · exact fun h => h.2.resolve_left hhi

theorem contains_singleton (c d : Char) : (CharSet.singleton d).contains c = true ↔ c = d := by
  have hiff : c.toNat = d.toNat ↔ c = d := Char.toNat_inj
  rw [← hiff, CharSet.contains, CharSet.singleton, CharSet.range, covers_cons_iff]
  simp only [covers_nil, Bool.false_eq_true, or_false]
  omega

theorem contains_noBackslash (c : Char) : noBackslash.contains c = true ↔ c ≠ '\\' := by
  have hmax := lt_max c
  have hiff : c.toNat = 92 ↔ c = '\\' := Char.toNat_inj (d := '\\')
  rw [ne_eq, ← hiff, CharSet.contains, noBackslash, covers_cons_iff, covers_cons_iff]
  simp only [covers_nil, Bool.false_eq_true, or_false]
  omega

theorem contains_noLineFeed (c : Char) : noLineFeed.contains c = true ↔ c ≠ '\n' := by
  have hmax := lt_max c
  have hiff : c.toNat = 10 ↔ c = '\n' := Char.toNat_inj (d := '\n')
  rw [ne_eq, ← hiff, CharSet.contains, noLineFeed, covers_cons_iff, covers_cons_iff]
  simp only [covers_nil, Bool.false_eq_true, or_false]
  omega

theorem contains_plain (c : Char) :
    plain.contains c = true ↔ c ≠ '"' ∧ c ≠ '\\' ∧ c ≠ '\r' ∧ c ≠ '\n' := by
  have hmax := lt_max c
  have hquote : c.toNat = 34 ↔ c = '"' := Char.toNat_inj (d := '"')
  have hbackslash : c.toNat = 92 ↔ c = '\\' := Char.toNat_inj (d := '\\')
  have hreturn : c.toNat = 13 ↔ c = '\r' := Char.toNat_inj (d := '\r')
  have hfeed : c.toNat = 10 ↔ c = '\n' := Char.toNat_inj (d := '\n')
  rw [ne_eq, ne_eq, ne_eq, ne_eq, ← hquote, ← hbackslash, ← hreturn, ← hfeed, CharSet.contains, plain]
  simp only [covers_cons_iff, covers_nil, Bool.false_eq_true, or_false]
  omega

/-- Characters that the patterns take for the content of a string. -/
inductive Content : List Char → Prop
  | nil : Content []
  | plain {c : Char} {cs : List Char} (h : plain.contains c = true) (hcs : Content cs) :
      Content (c :: cs)
  | escape {c : Char} {cs : List Char} (h : c ≠ '\n') (hcs : Content cs) :
      Content ('\\' :: c :: cs)

theorem Content.head_ne {c : Char} {cs : List Char} (h : Content (c :: cs)) : c ≠ '"' := by
  cases h with
  | plain h _ => exact ((contains_plain c).mp h).1
  | escape => decide

theorem Content.head?_ne {cs : List Char} (h : Content cs) : cs.head? ≠ some '"' := by
  cases cs with
  | nil => simp
  | cons c cs => simpa using h.head_ne

/-- How a program takes what comes before a quote and the content of a string behind it: `opened`
is the instruction in front of the quote, `next` the one where it goes on with the next character of
the content, `escaped` the one behind a backslash, and `behind` the one behind the second quote. -/
structure Quotes (p : Program) (opened next escaped behind : Nat) : Prop where
  settle_some : ∀ b after,
    p.settled (some b) after 0 [⟨p.start, [], []⟩] =
      ⟨[⟨noBackslash, ⟨opened, [(1, 0)], []⟩⟩], none⟩
  settle_none : ∀ after,
    p.settled none after 0 [⟨p.start, [], []⟩] =
      ⟨[⟨.singleton '"', ⟨next, [(1, 0)], [(1, ⟨0, 0⟩)]⟩⟩, ⟨noBackslash, ⟨opened, [(1, 0)], []⟩⟩],
        none⟩
  settle_opened : ∀ before after here,
    p.settled before after here [⟨opened, [(1, 0)], []⟩] =
      ⟨[⟨.singleton '"', ⟨next, [(1, 0)], [(1, ⟨0, here⟩)]⟩⟩], none⟩
  settle_both : ∀ before after here,
    p.settled before after here [⟨next, [(1, 0)], [(1, ⟨0, 0⟩)]⟩, ⟨opened, [(1, 0)], []⟩] =
      ⟨[⟨.singleton '\\', ⟨escaped, [(1, 0)], [(1, ⟨0, 0⟩)]⟩⟩,
        ⟨plain, ⟨next, [(1, 0)], [(1, ⟨0, 0⟩)]⟩⟩,
        ⟨.singleton '"', ⟨behind, [(1, 0)], [(1, ⟨0, 0⟩)]⟩⟩,
        ⟨.singleton '"', ⟨next, [(1, 0)], [(1, ⟨0, here⟩)]⟩⟩], none⟩
  settle_next : ∀ before after here entered groups,
    p.settled before after here [⟨next, entered, groups⟩] =
      ⟨[⟨.singleton '\\', ⟨escaped, entered, groups⟩⟩, ⟨plain, ⟨next, entered, groups⟩⟩,
        ⟨.singleton '"', ⟨behind, entered, groups⟩⟩], none⟩
  settle_escaped : ∀ before after here entered groups,
    p.settled before after here [⟨escaped, entered, groups⟩] =
      ⟨[⟨noLineFeed, ⟨next, entered, groups⟩⟩], none⟩

theorem program_property : property.regex.program =
    ⟨#[.accept, .leave 2 0, .consume (.singleton ':') 1, .split 4 2, .consume .blank 3, .enter 2 3,
      .consume (.singleton '"') 5, .split 11 6, .consume plain 7, .consume noLineFeed 7,
      .consume (.singleton '\\') 9, .split 10 8, .consume (.singleton '"') 7, .leave 1 12,
      .consume noBackslash 13, .check .textStart 13, .split 15 14, .enter 1 16], 17⟩ := rfl

theorem program_string : string.regex.program =
    ⟨#[.accept, .consume (.singleton '"') 0, .split 6 1, .consume plain 2, .consume noLineFeed 2,
      .consume (.singleton '\\') 4, .split 5 3, .consume (.singleton '"') 2, .leave 1 7,
      .consume noBackslash 8, .check .textStart 8, .split 10 9, .enter 1 11], 12⟩ := rfl

theorem quotes_property : Quotes property.regex.program 13 7 9 5 := by
  rw [program_property]
  constructor <;> intros <;>
    simp [Program.settled, Program.settle, Program.settleFuel, Thread.goto, Thread.enter, Thread.leave,
      Anchor.holds]

theorem quotes_string : Quotes string.regex.program 8 2 4 0 := by
  rw [program_string]
  constructor <;> intros <;>
    simp [Program.settled, Program.settle, Program.settleFuel, Thread.goto, Thread.enter, Thread.leave,
      Anchor.holds]

namespace Quotes

variable {p : Program} {opened next escaped behind here : Nat} {before : Option Char}
  {entered : List (Nat × Nat)} {groups : List (Nat × Span)}

/-- One plain character. -/
theorem follow_plain (hp : Quotes p opened next escaped behind) {c : Char} (h : plain.contains c = true)
    (rest : List Char) :
    p.follow (c :: rest) before here [⟨next, entered, groups⟩] none =
      p.follow rest (some c) (here + 1) [⟨next, entered, groups⟩] none := by
  obtain ⟨hquote, hbackslash, -, -⟩ := (contains_plain c).mp h
  refine Program.follow_on (hp.settle_next ..) ?_
  simp only [advance_cons, advance_nil, contains_singleton, h, hquote, hbackslash, if_true, if_false]

/-- A backslash and the character that it escapes. -/
theorem follow_escape (hp : Quotes p opened next escaped behind) {c : Char} (h : c ≠ '\n')
    (rest : List Char) :
    p.follow ('\\' :: c :: rest) before here [⟨next, entered, groups⟩] none =
      p.follow rest (some c) (here + 1 + 1) [⟨next, entered, groups⟩] none := by
  have hbackslash : plain.contains '\\' = false := by decide
  rw [Program.follow_on (hp.settle_next ..) (t := ⟨escaped, entered, groups⟩)]
  · refine Program.follow_on (hp.settle_escaped ..) ?_
    simp only [advance_cons, advance_nil, contains_noLineFeed, ne_eq, h, not_false_eq_true, if_true]
  · simp only [advance_cons, advance_nil, contains_singleton, hbackslash, if_true, if_false,
      Char.reduceEq, Bool.false_eq_true]

/-- A line break, which ends all threads. -/
theorem follow_break (hp : Quotes p opened next escaped behind) {c : Char} (h : c = '\r' ∨ c = '\n')
    (rest : List Char) :
    p.follow (c :: rest) before here [⟨next, entered, groups⟩] none = none := by
  have hplain : plain.contains c = false ∧ c ≠ '\\' ∧ c ≠ '"' := by
    rcases h with rfl | rfl <;> decide
  refine Program.follow_stuck (hp.settle_next ..) ?_
  simp only [advance_cons, advance_nil, contains_singleton, hplain, if_false, Bool.false_eq_true]

/-- The end of the text, behind which there is no quote. -/
theorem follow_end (hp : Quotes p opened next escaped behind) :
    p.follow [] before here [⟨next, entered, groups⟩] none = none := by
  rw [Program.follow_nil, hp.settle_next]
  rfl

/-- The content of a string and the quote behind it. -/
theorem follow_content (hp : Quotes p opened next escaped behind) {c : List Char} (hc : Content c)
    (tail : List Char) :
    p.follow (c ++ '"' :: tail) before here [⟨next, entered, groups⟩] none =
      p.follow tail (some '"') (here + (c.length + 1)) [⟨behind, entered, groups⟩] none := by
  induction hc generalizing before here with
  | nil => exact Program.follow_on (hp.settle_next ..) rfl
  | plain h _ ih =>
    rw [List.cons_append, hp.follow_plain h, ih, List.length_cons, Nat.add_right_comm here 1,
      Nat.add_assoc here]
  | escape h _ ih =>
    rw [List.cons_append, List.cons_append, hp.follow_escape h, ih, List.length_cons,
      List.length_cons, Nat.add_right_comm (here + 1) 1, Nat.add_right_comm here 1,
      Nat.add_assoc here, Nat.add_assoc here]

/-- Text without quotes and backslashes, and no quote before the next line break. -/
theorem follow_open (hp : Quotes p opened next escaped behind) {g : List Char}
    (hg : ∀ c ∈ g, c ≠ '"' ∧ c ≠ '\\') {tail : List Char}
    (htail : tail = [] ∨ ∃ c ∈ g, c = '\r' ∨ c = '\n') :
    p.follow (g ++ tail) before here [⟨next, entered, groups⟩] none = none := by
  induction g generalizing before here with
  | nil =>
    rcases htail with rfl | ⟨c, hc, -⟩
    · exact hp.follow_end
    · cases hc
  | cons c g ih =>
    obtain ⟨hquote, hbackslash⟩ := hg c (List.mem_cons_self ..)
    by_cases hbreak : c = '\r' ∨ c = '\n'
    · exact hp.follow_break hbreak _
    · have hplain : plain.contains c = true := by
        rw [contains_plain]
        exact ⟨hquote, hbackslash, fun h => hbreak (.inl h), fun h => hbreak (.inr h)⟩
      rw [List.cons_append, hp.follow_plain hplain]
      refine ih (fun d hd => hg d (List.mem_cons_of_mem _ hd)) (htail.imp id ?_)
      rintro ⟨d, hd, hbreaks⟩
      rcases List.mem_cons.mp hd with rfl | hd
      · exact absurd hbreaks hbreak
      · exact ⟨d, hd, hbreaks⟩

/-- The character in front of a quote, which does not escape it. -/
theorem follow_front (hp : Quotes p opened next escaped behind) {z : Char} (hz : z ≠ '\\')
    (hbefore : before = none → z ≠ '"') (text : List Char) :
    p.follow (z :: text) before 0 [⟨p.start, [], []⟩] none =
      p.follow text (some z) 1 [⟨opened, [(1, 0)], []⟩] none := by
  cases before with
  | none =>
    refine Program.follow_on (hp.settle_none _) ?_
    simp only [advance_cons, advance_nil, contains_singleton, contains_noBackslash, hbefore rfl, hz,
      ne_eq, not_false_eq_true, if_true, if_false]
  | some b =>
    refine Program.follow_on (hp.settle_some b _) ?_
    simp only [advance_cons, advance_nil, contains_noBackslash, hz, ne_eq, not_false_eq_true, if_true]

/-- The quote that begins a string, and the character in front of it. -/
theorem follow_opening (hp : Quotes p opened next escaped behind) {z : Char} (hz : z ≠ '\\')
    (hbefore : before = none → z ≠ '"') (text : List Char) :
    p.follow (z :: '"' :: text) before 0 [⟨p.start, [], []⟩] none =
      p.follow text (some '"') 2 [⟨next, [(1, 0)], [(1, ⟨0, 1⟩)]⟩] none := by
  rw [hp.follow_front hz hbefore]
  exact Program.follow_on (hp.settle_opened ..) rfl

/-- No string begins behind a backslash. -/
theorem follow_backslash (hp : Quotes p opened next escaped behind) (text : List Char) :
    p.follow ('\\' :: text) before 0 [⟨p.start, [], []⟩] none = none := by
  cases before with
  | none => exact Program.follow_stuck (hp.settle_none _) rfl
  | some b => exact Program.follow_stuck (hp.settle_some b _) rfl

/-- No string begins where no quote follows, or one that is escaped. -/
theorem follow_unopened (hp : Quotes p opened next escaped behind) {z : Char}
    (hbefore : before = none → z ≠ '"') {text : List Char} (h : text.head? = some '"' → z = '\\') :
    p.follow (z :: text) before 0 [⟨p.start, [], []⟩] none = none := by
  by_cases hz : z = '\\'
  · rw [hz]
    exact hp.follow_backslash text
  · rw [hp.follow_front hz hbefore]
    cases text with
    | nil =>
      rw [Program.follow_nil, hp.settle_opened]
      rfl
    | cons c text =>
      have hc : c ≠ '"' := fun hc => hz (h (congrArg some hc))
      refine Program.follow_stuck (hp.settle_opened ..) ?_
      simp only [advance_cons, advance_nil, contains_singleton, hc, if_false]

/-- No string begins at the end of the text. -/
theorem follow_nothing (hp : Quotes p opened next escaped behind) :
    p.follow [] before 0 [⟨p.start, [], []⟩] none = none := by
  cases before with
  | none =>
    rw [Program.follow_nil, hp.settle_none]
    rfl
  | some b =>
    rw [Program.follow_nil, hp.settle_some]
    rfl

/-- A quote at the very beginning is both the first one of a string and one that may stand in front
of another quote; the character behind it tells. -/
theorem follow_start (hp : Quotes p opened next escaped behind) {text : List Char}
    (h : text.head? ≠ some '"') :
    p.follow ('"' :: text) none 0 [⟨p.start, [], []⟩] none =
      p.follow text (some '"') 1 [⟨next, [(1, 0)], [(1, ⟨0, 0⟩)]⟩] none := by
  rw [Program.follow_on (hp.settle_none _) (t := ⟨next, [(1, 0)], [(1, ⟨0, 0⟩)]⟩) rfl]
  change p.follow text (some '"') 1
    [⟨next, [(1, 0)], [(1, ⟨0, 0⟩)]⟩, ⟨opened, [(1, 0)], []⟩] none = _
  cases text with
  | nil =>
    rw [Program.follow_nil, Program.follow_nil, hp.settle_both, hp.settle_next]
    rfl
  | cons c text =>
    have hc : c ≠ '"' := fun hc => h (congrArg some hc)
    rw [Program.follow_cons, Program.follow_cons, hp.settle_both, hp.settle_next]
    simp only [advance_cons, advance_nil, contains_singleton, hc, if_false]
    rfl

/-- Two quotes at the very beginning. -/
theorem follow_start_twice (hp : Quotes p opened next escaped behind) (text : List Char) :
    p.follow ('"' :: '"' :: text) none 0 [⟨p.start, [], []⟩] none =
      p.follow text (some '"') 2
        [⟨behind, [(1, 0)], [(1, ⟨0, 0⟩)]⟩, ⟨next, [(1, 0)], [(1, ⟨0, 1⟩)]⟩] none := by
  rw [Program.follow_on (hp.settle_none _) (t := ⟨next, [(1, 0)], [(1, ⟨0, 0⟩)]⟩) rfl]
  exact Program.follow_on (hp.settle_both ..) rfl

end Quotes

/-- Whether a colon comes next, after white space of any kind. -/
def colonAhead : List Char → Bool
  | [] => false
  | c :: cs => c == ':' || isBlank c && colonAhead cs

section Colon

variable {here start : Nat} {before : Option Char} {entered : List (Nat × Nat)}
  {groups : List (Nat × Span)}

theorem settled_colon (before after : Option Char) (here : Nat) (entered : List (Nat × Nat))
    (groups : List (Nat × Span)) :
    property.regex.program.settled before after here [⟨3, entered, groups⟩] =
      ⟨[⟨.blank, ⟨3, entered, groups⟩⟩, ⟨.singleton ':', ⟨1, entered, groups⟩⟩], none⟩ := by
  rw [program_property]
  simp [Program.settled, Program.settle, Program.settleFuel, Thread.goto]

theorem follow_blank {c : Char} (h : CharSet.blank.contains c = true) (text : List Char) :
    property.regex.program.follow (c :: text) before here [⟨3, entered, groups⟩] none =
      property.regex.program.follow text (some c) (here + 1) [⟨3, entered, groups⟩] none := by
  have hcolon : c ≠ ':' := by
    rintro rfl
    exact absurd h (by decide)
  refine Program.follow_on (settled_colon ..) ?_
  simp only [advance_cons, advance_nil, contains_singleton, h, hcolon, if_true, if_false]

theorem follow_colon {text : List Char} (h : colonAhead text = true) :
    ∃ stop, here < stop ∧
      property.regex.program.follow text before here [⟨3, (2, start) :: entered, groups⟩] none =
        some ⟨stop, ⟨0, (2, start) :: entered, (2, ⟨start, stop⟩) :: groups⟩⟩ := by
  induction text generalizing before here with
  | nil => cases h
  | cons c text ih =>
    rw [colonAhead, Bool.or_eq_true, beq_iff_eq, Bool.and_eq_true] at h
    rcases h with rfl | ⟨hblank, hrest⟩
    · refine ⟨here + 1, Nat.lt_succ_self here, ?_⟩
      rw [Program.follow_on (settled_colon ..) (t := ⟨1, (2, start) :: entered, groups⟩) rfl]
      exact Program.follow_accept _ fun _ => rfl
    · obtain ⟨stop, hlt, hstop⟩ := @ih (here + 1) (some c) hrest
      rw [follow_blank hblank]
      exact ⟨stop, by omega, hstop⟩

theorem follow_no_colon {text : List Char} (h : colonAhead text = false) :
    property.regex.program.follow text before here [⟨3, entered, groups⟩] none = none := by
  induction text generalizing before here with
  | nil =>
    rw [Program.follow_nil, settled_colon]
    rfl
  | cons c text ih =>
    rw [colonAhead, Bool.or_eq_false_iff, Bool.and_eq_false_iff] at h
    obtain ⟨hc, hrest⟩ := h
    by_cases hblank : CharSet.blank.contains c = true
    · rw [follow_blank hblank]
      exact ih (hrest.resolve_left (by simpa [isBlank] using hblank))
    · have hcolon : c ≠ ':' := by simpa using hc
      refine Program.follow_stuck (settled_colon ..) ?_
      rw [advance_cons, if_neg hblank, advance_cons, if_neg (by rwa [contains_singleton]), advance_nil]

/-- Behind the content of a string only the colon is left. -/
theorem follow_behind (text : List Char) :
    property.regex.program.follow text before here [⟨5, entered, groups⟩] none =
      property.regex.program.follow text before here [⟨3, (2, here) :: entered, groups⟩] none := by
  refine Program.follow_congr text fun after => ?_
  rw [settled_colon, program_property]
  simp [Program.settled, Program.settle, Program.settleFuel, Thread.goto, Thread.enter]

theorem colonAhead_blank {text : List Char} (h : ∀ c ∈ text, isBlank c = true) :
    colonAhead text = false := by
  induction text with
  | nil => rfl
  | cons c text ih =>
    have hcolon : c ≠ ':' := by
      rintro rfl
      exact absurd (h _ (List.mem_cons_self ..)) (by decide)
    rw [colonAhead, ih fun d hd => h d (List.mem_cons_of_mem _ hd), Bool.and_false, Bool.or_false]
    simpa using hcolon

theorem settled_colon_body (before after : Option Char) (here : Nat)
    (entered entered' : List (Nat × Nat)) (groups groups' : List (Nat × Span)) :
    property.regex.program.settled before after here [⟨3, entered, groups⟩, ⟨7, entered', groups'⟩] =
      ⟨[⟨.blank, ⟨3, entered, groups⟩⟩, ⟨.singleton ':', ⟨1, entered, groups⟩⟩,
        ⟨.singleton '\\', ⟨9, entered', groups'⟩⟩, ⟨plain, ⟨7, entered', groups'⟩⟩,
        ⟨.singleton '"', ⟨5, entered', groups'⟩⟩], none⟩ := by
  rw [program_property]
  simp [Program.settled, Program.settle, Program.settleFuel, Thread.goto]

theorem follow_behind_body (text : List Char) (entered' : List (Nat × Nat))
    (groups' : List (Nat × Span)) :
    property.regex.program.follow text before here [⟨5, entered, groups⟩, ⟨7, entered', groups'⟩]
      none =
      property.regex.program.follow text before here
        [⟨3, (2, here) :: entered, groups⟩, ⟨7, entered', groups'⟩] none := by
  refine Program.follow_congr text fun after => ?_
  rw [settled_colon_body, program_property]
  simp [Program.settled, Program.settle, Program.settleFuel, Thread.goto, Thread.enter]

/-- Over white space neither a colon nor a quote is found. -/
theorem follow_colon_body {text : List Char} (h : ∀ c ∈ text, isBlank c = true)
    (entered' : List (Nat × Nat)) (groups' : List (Nat × Span)) :
    property.regex.program.follow text before here [⟨3, entered, groups⟩, ⟨7, entered', groups'⟩]
      none = none := by
  induction text generalizing before here with
  | nil =>
    rw [Program.follow_nil, settled_colon_body]
    rfl
  | cons c text ih =>
    have hblank := h c (List.mem_cons_self ..)
    have htext := fun d hd => h d (List.mem_cons_of_mem _ hd)
    have hother : c ≠ ':' ∧ c ≠ '\\' ∧ c ≠ '"' := by
      refine ⟨?_, ?_, ?_⟩ <;> rintro rfl <;> exact absurd hblank (by decide)
    rw [isBlank] at hblank
    have hcolon : (CharSet.singleton ':').contains c ≠ true := by
      rw [ne_eq, contains_singleton]
      exact hother.1
    have hbackslash : (CharSet.singleton '\\').contains c ≠ true := by
      rw [ne_eq, contains_singleton]
      exact hother.2.1
    have hquote : (CharSet.singleton '"').contains c ≠ true := by
      rw [ne_eq, contains_singleton]
      exact hother.2.2
    by_cases hplain : plain.contains c = true
    · refine (Program.follow_on (settled_colon_body ..) (t := ⟨3, entered, groups⟩) ?_).trans (ih htext)
      rw [advance_cons, if_pos hblank, advance_cons, if_neg hcolon, advance_cons, if_neg hbackslash,
        advance_cons, if_pos hplain, advance_cons, if_neg hquote, advance_nil]
    · refine (Program.follow_on (settled_colon_body ..) (t := ⟨3, entered, groups⟩) ?_).trans
        (follow_no_colon (colonAhead_blank htext))
      rw [advance_cons, if_pos hblank, advance_cons, if_neg hcolon, advance_cons, if_neg hbackslash,
        advance_cons, if_neg hplain, advance_cons, if_neg hquote, advance_nil]

end Colon

/-- A pattern that begins like the ones for strings. -/
def Seeks (p : Pattern) : Prop :=
  ∃ opened next escaped behind, Quotes p.regex.program opened next escaped behind

theorem seeks_property : Seeks property := ⟨_, _, _, _, quotes_property⟩

theorem seeks_string : Seeks string := ⟨_, _, _, _, quotes_string⟩

theorem hitAt_eq_none {p : Pattern} {before : Option Char} {text : List Char}
    (h : p.regex.program.follow text before 0 [⟨p.regex.program.start, [], []⟩] none = none) :
    p.hitAt before text = none := by
  rw [PatternWith.hitAt, Regex.matchAt, Program.matchAt, h]

/-- A thread that has come through is a hit, if its token is not empty. -/
theorem hitAt_eq_some {p : Pattern} {before : Option Char} {text : List Char} {found : Found}
    (h : p.regex.program.follow text before 0 [⟨p.regex.program.start, [], []⟩] none = some found)
    {token : Span} (htoken : p.tokenSpan ⟨found.stop, (List.range p.regex.groupCount).map fun i =>
      found.thread.groups.lookup (i + 1)⟩ = token) (hlt : token.start < token.stop) :
    ∃ hit, p.hitAt before text = some hit ∧ hit.token = token := by
  rw [PatternWith.hitAt, Regex.matchAt, Program.matchAt, h]
  dsimp only
  rw [htoken, if_pos hlt]
  exact ⟨_, rfl, rfl⟩

namespace Seeks

variable {p : Pattern} {before : Option Char}

theorem hitAt_nil (hp : Seeks p) : p.hitAt before [] = none := by
  obtain ⟨_, _, _, _, hq⟩ := hp
  exact hitAt_eq_none hq.follow_nothing

/-- There is no hit where no quote follows, or one that is escaped. -/
theorem hitAt_unopened (hp : Seeks p) {z : Char} {text : List Char} (hbefore : before = none → z ≠ '"')
    (h : text.head? = some '"' → z = '\\') : p.hitAt before (z :: text) = none := by
  obtain ⟨_, _, _, _, hq⟩ := hp
  exact hitAt_eq_none (hq.follow_unopened hbefore h)

/-- There is no hit where no second quote follows in the line. -/
theorem hitAt_open (hp : Seeks p) {z : Char} {g tail : List Char} (hbefore : before = none → z ≠ '"')
    (hg : ∀ c ∈ g, c ≠ '"' ∧ c ≠ '\\') (htail : tail = [] ∨ ∃ c ∈ g, c = '\r' ∨ c = '\n') :
    p.hitAt before (z :: '"' :: (g ++ tail)) = none := by
  obtain ⟨_, _, _, _, hq⟩ := hp
  refine hitAt_eq_none ?_
  by_cases hz : z = '\\'
  · rw [hz, hq.follow_backslash]
  · rw [hq.follow_opening hz hbefore, hq.follow_open hg htail]

end Seeks

section Hit

variable {before : Option Char} {z : Char} {c : List Char}

/-- A string is a hit. -/
theorem string_hitAt (hz : z ≠ '\\') (hbefore : before = none → z ≠ '"') (hc : Content c)
    (tail : List Char) :
    ∃ h, string.hitAt before (z :: '"' :: (c ++ '"' :: tail)) = some h ∧
      h.token = ⟨1, c.length + 3⟩ := by
  have hfollow : string.regex.program.follow (z :: '"' :: (c ++ '"' :: tail)) before 0
      [⟨string.regex.program.start, [], []⟩] none =
      some ⟨2 + (c.length + 1), ⟨0, [(1, 0)], [(1, ⟨0, 1⟩)]⟩⟩ := by
    rw [quotes_string.follow_opening hz hbefore, quotes_string.follow_content hc]
    exact Program.follow_accept _ fun _ => rfl
  have htoken : string.tokenSpan ⟨2 + (c.length + 1), [some ⟨0, 1⟩]⟩ = ⟨1, c.length + 3⟩ := by
    change (⟨min 1 (2 + (c.length + 1)), 2 + (c.length + 1)⟩ : Span) = _
    rw [Nat.min_eq_left (by omega), Nat.add_comm 2]
  exact hitAt_eq_some hfollow htoken (by simp)

/-- A string that a colon follows is a hit for keys. -/
theorem property_hitAt (hz : z ≠ '\\') (hbefore : before = none → z ≠ '"') (hc : Content c)
    {tail : List Char} (htail : colonAhead tail = true) :
    ∃ h, property.hitAt before (z :: '"' :: (c ++ '"' :: tail)) = some h ∧
      h.token = ⟨1, c.length + 3⟩ := by
  obtain ⟨stop, hlt, hcolon⟩ : ∃ stop, 2 + (c.length + 1) < stop ∧
      property.regex.program.follow tail (some '"') (2 + (c.length + 1))
        [⟨3, [(2, 2 + (c.length + 1)), (1, 0)], [(1, ⟨0, 1⟩)]⟩] none =
        some ⟨stop, ⟨0, [(2, 2 + (c.length + 1)), (1, 0)],
          [(2, ⟨2 + (c.length + 1), stop⟩), (1, ⟨0, 1⟩)]⟩⟩ := follow_colon htail
  have hfollow : property.regex.program.follow (z :: '"' :: (c ++ '"' :: tail)) before 0
      [⟨property.regex.program.start, [], []⟩] none =
      some ⟨stop, ⟨0, [(2, 2 + (c.length + 1)), (1, 0)],
        [(2, ⟨2 + (c.length + 1), stop⟩), (1, ⟨0, 1⟩)]⟩⟩ := by
    rw [quotes_property.follow_opening hz hbefore, quotes_property.follow_content hc, follow_behind]
    exact hcolon
  have htoken : property.tokenSpan ⟨stop, [some ⟨0, 1⟩, some ⟨2 + (c.length + 1), stop⟩]⟩ =
      ⟨1, c.length + 3⟩ := by
    change (⟨min 1 stop, max (min 1 stop) (min (2 + (c.length + 1)) stop)⟩ : Span) = _
    rw [Nat.min_eq_left (show 1 ≤ stop by omega), Nat.min_eq_left (by omega),
      Nat.max_eq_right (by omega), Nat.add_comm 2]
  exact hitAt_eq_some hfollow htoken (by simp)

/-- A string that no colon follows is no hit for keys. -/
theorem property_hitAt_none (hbefore : before = none → z ≠ '"') (hc : Content c)
    {tail : List Char} (htail : colonAhead tail = false) :
    property.hitAt before (z :: '"' :: (c ++ '"' :: tail)) = none := by
  refine hitAt_eq_none ?_
  by_cases hz : z = '\\'
  · rw [hz, quotes_property.follow_backslash]
  · rw [quotes_property.follow_opening hz hbefore, quotes_property.follow_content hc, follow_behind,
      follow_no_colon htail]

/-- A string at the very beginning is a hit. -/
theorem string_hitAt_start (hc : Content c) (tail : List Char) :
    ∃ h, string.hitAt none ('"' :: (c ++ '"' :: tail)) = some h ∧ h.token = ⟨0, c.length + 2⟩ := by
  have hfollow : string.regex.program.follow ('"' :: (c ++ '"' :: tail)) none 0
      [⟨string.regex.program.start, [], []⟩] none =
      some ⟨1 + (c.length + 1), ⟨0, [(1, 0)], [(1, ⟨0, 0⟩)]⟩⟩ := by
    cases c with
    | nil =>
      rw [List.nil_append, quotes_string.follow_start_twice]
      exact Program.follow_accept _ fun _ => rfl
    | cons d c =>
      have hd := hc.head_ne
      rw [quotes_string.follow_start (by simpa using hd), quotes_string.follow_content hc]
      exact Program.follow_accept _ fun _ => rfl
  have htoken : string.tokenSpan ⟨1 + (c.length + 1), [some ⟨0, 0⟩]⟩ = ⟨0, c.length + 2⟩ := by
    change (⟨min 0 (1 + (c.length + 1)), 1 + (c.length + 1)⟩ : Span) = _
    rw [Nat.zero_min, Nat.add_comm 1]
  exact hitAt_eq_some hfollow htoken (by simp)

/-- A string at the very beginning is no hit for keys where only white space follows. -/
theorem property_hitAt_start (hc : Content c) {tail : List Char}
    (htail : ∀ c ∈ tail, isBlank c = true) :
    property.hitAt none ('"' :: (c ++ '"' :: tail)) = none := by
  refine hitAt_eq_none ?_
  cases c with
  | nil =>
    rw [List.nil_append, quotes_property.follow_start_twice]
    exact (follow_behind_body tail _ _).trans (follow_colon_body htail _ _)
  | cons d c =>
    have hd := hc.head_ne
    rw [quotes_property.follow_start (by simpa using hd), quotes_property.follow_content hc,
      follow_behind, follow_no_colon (colonAhead_blank htail)]

end Hit

end Highlight.Json
