import Mathlib.Data.List.Induction
import Highlight.Grammar.Pattern
import Highlight.Table.Compile
import Highlight.Proofs.Regex.Footprint

/-!
# What the settings of a pattern come to

Settings of different kinds do not meet, and of those of one kind the last one counts. So what is built
depends on the last setting of each kind only, and `Builds` tells it from these: the pattern, or the first of
the checks that fails. Groups of contexts are checked, so those of a pattern are groups of its regular
expression. The settings can also be kept in fields where the group of the trailing context takes two, and
these never contradict each other.
-/

namespace Highlight

namespace Regex

def HasGroup (r : Regex) (n : Nat) : Prop := 1 ≤ n ∧ n ≤ r.groupCount

/-- A match tells of each group what it has matched, if it has. -/
theorem length_groups_of_matchAt {r : Regex} {before : Option Char} {text : List Char} {c : Captures}
    (h : r.matchAt before text = some c) : c.groups.length = r.groupCount := by
  rw [matchAt, Program.matchAt] at h
  split at h
  · cases h
    rw [List.length_map, List.length_range]
  · cases h

end Regex

namespace Pattern

namespace Setting

inductive Kind where
  | lookbehind
  | lookahead
  | greedy
  | altKind
  | inside
  | caseInsensitive
  | multiLine
  deriving DecidableEq

def kind : Setting → Kind
  | lookbehind _ => .lookbehind
  | lookahead _ => .lookahead
  | greedy => .greedy
  | altKind _ => .altKind
  | inside _ => .inside
  | caseInsensitive => .caseInsensitive
  | multiLine => .multiLine

def lookbehind? : Setting → Option Nat
  | lookbehind group => some group
  | _ => none

def lookahead? : Setting → Option Trailing
  | lookahead group => some group
  | _ => none

def altKind? : Setting → Option String
  | altKind name => some name
  | _ => none

def inside? : Setting → Option Grammar
  | inside g => some g
  | _ => none

def last? {α : Type} (value? : Setting → Option α) (settings : List Setting) : Option α :=
  (settings.filterMap value?).getLast?

def asks (kind : Kind) (settings : List Setting) : Bool := settings.any (·.kind == kind)

def flags (settings : List Setting) : Regex.Flags where
  ignoreCase := asks .caseInsensitive settings
  multiLine := asks .multiLine settings

variable {settings : List Setting} {s : Setting}

theorem last?_snoc {α : Type} (value? : Setting → Option α) :
    last? value? (settings ++ [s]) = (value? s).or (last? value? settings) := by
  rw [last?, List.filterMap_append, List.getLast?_append, last?]
  cases h : value? s with
  | none => rw [List.filterMap_cons_none h]; rfl
  | some a => rw [List.filterMap_cons_some h]; rfl

theorem asks_snoc (k : Kind) : asks k (settings ++ [s]) = (s.kind == k || asks k settings) := by
  rw [asks, List.any_append, asks, Bool.or_comm]
  simp

end Setting

open Setting (last? asks lookbehind? lookahead? altKind? inside?)

namespace Draft

/-- Settings taken together: the last one of each kind. -/
theorem foldl_set (source : String) (settings : List Setting) :
    settings.foldl set { source := source } = {
      source := source
      flags := Setting.flags settings
      lookbehind := last? lookbehind? settings
      lookahead := last? lookahead? settings
      greedy := asks .greedy settings
      altKind := last? altKind? settings
      inside := last? inside? settings } := by
  induction settings using List.reverseRecOn with
  | nil => rfl
  | append_singleton settings s ih =>
    rw [List.foldl_append, ih]
    simp only [Setting.flags, Setting.last?_snoc, Setting.asks_snoc]
    cases s <;> rfl

/-- Settings of different kinds do not meet. -/
theorem set_comm (d : Draft) {a b : Setting} (h : a.kind ≠ b.kind) :
    (d.set a).set b = (d.set b).set a := by
  cases a <;> cases b <;> first | rfl | exact absurd rfl h

/-- Of two settings of a kind the second one counts. -/
theorem set_set (d : Draft) {a b : Setting} (h : a.kind = b.kind) : (d.set a).set b = d.set b := by
  cases a <;> cases b <;> first | rfl | cases h

/-- A setting does not count where one of its kind comes later, whatever stands between them. -/
theorem foldl_override (d : Draft) {a b : Setting} (h : a.kind = b.kind) (middle : List Setting) :
    (middle.foldl set (d.set a)).set b = (middle.foldl set d).set b := by
  induction middle generalizing d with
  | nil => exact d.set_set h
  | cons m middle ih =>
    rw [List.foldl_cons, List.foldl_cons]
    by_cases hm : a.kind = m.kind
    · rw [d.set_set hm]
    · rw [d.set_comm hm]
      exact ih _

theorem inRange_iff {r : Regex} {group : Option Nat} :
    inRange r.groupCount group = true ↔ ∀ n, group = some n → r.HasGroup n := by
  cases group with
  | none => simp [inRange]
  | some n => simp [inRange, Regex.HasGroup]

end Draft

def Trailing.number (count : Nat) : Trailing → Nat
  | .group n => n
  | .last => count

/-- The regular expression has the groups that settings ask for. -/
structure Meets (settings : List Setting) (r : Regex) : Prop where
  lookbehind : ∀ n, last? lookbehind? settings = some n → r.HasGroup n
  lookahead : ∀ t, last? lookahead? settings = some t → r.HasGroup (t.number r.groupCount)

/-- What is built from a source and settings: a pattern with the last settings of each kind, or the error of
the first check that fails. -/
inductive Builds (source : String) (settings : List Setting) : Except GrammarError Pattern → Prop where
  | invalid {cause : Regex.ReadError}
      (hregex : Regex.compile source (Setting.flags settings) = .error cause) :
      Builds source settings (.error (.invalidPattern source cause))
  | lookbehind {r : Regex} {n : Nat} (hregex : Regex.compile source (Setting.flags settings) = .ok r)
      (hasked : last? lookbehind? settings = some n) (hnone : ¬ r.HasGroup n) :
      Builds source settings (.error (.lookbehindOutOfRange source n))
  | lookahead {r : Regex} {t : Trailing}
      (hregex : Regex.compile source (Setting.flags settings) = .ok r)
      (hbehind : ∀ n, last? lookbehind? settings = some n → r.HasGroup n)
      (hasked : last? lookahead? settings = some t) (hnone : ¬ r.HasGroup (t.number r.groupCount)) :
      Builds source settings (.error (.lookaheadOutOfRange source (t.number r.groupCount)))
  | pattern {r : Regex} (hregex : Regex.compile source (Setting.flags settings) = .ok r)
      (hmeets : Meets settings r) :
      Builds source settings (.ok {
        regex := r
        lookbehind := last? lookbehind? settings
        lookahead := (last? lookahead? settings).map (·.number r.groupCount)
        greedy := asks .greedy settings
        altKind := last? altKind? settings
        inside := last? inside? settings })

theorem Draft.lookaheadGroup_eq (d : Draft) (count : Nat) :
    d.lookaheadGroup count = d.lookahead.map (·.number count) := by
  rw [lookaheadGroup]
  match d.lookahead with
  | none => rfl
  | some .last => rfl
  | some (.group n) => rfl

theorem Builds.build_eq {source : String} {settings : List Setting} {x : Except GrammarError Pattern}
    (h : Builds source settings x) : build source settings = x := by
  rw [build, Draft.foldl_set, Draft.build]
  simp only [Draft.lookaheadGroup_eq]
  cases h with
  | invalid hregex => rw [hregex]
  | lookbehind hregex hasked hnone =>
    have hout : ¬ Draft.inRange _ (last? lookbehind? settings) = true :=
      mt Draft.inRange_iff.mp fun hall => hnone (hall _ hasked)
    rw [hregex]
    dsimp only
    rw [if_pos (by simpa using hout), hasked]
    rfl
  | @lookahead r t hregex hbehind hasked hnone =>
    have hin := Draft.inRange_iff.mpr hbehind
    have hnumber : (last? lookahead? settings).map (·.number r.groupCount) = some (t.number r.groupCount) := by
      rw [hasked, Option.map_some]
    have hout : ¬ Draft.inRange r.groupCount (some (t.number r.groupCount)) = true :=
      mt Draft.inRange_iff.mp fun hall => hnone (hall _ rfl)
    rw [hregex]
    dsimp only
    rw [hnumber, if_neg (by simpa using hin), if_pos (by simpa using hout)]
    rfl
  | @pattern r hregex hmeets =>
    have hbehind := Draft.inRange_iff.mpr hmeets.lookbehind
    have hahead : Draft.inRange r.groupCount ((last? lookahead? settings).map (·.number r.groupCount)) =
        true := by
      rw [Draft.inRange_iff]
      intro n hn
      obtain ⟨t, ht, rfl⟩ := Option.map_eq_some_iff.mp hn
      exact hmeets.lookahead t ht
    rw [hregex]
    dsimp only
    rw [if_neg (by simpa using hbehind), if_neg (by simpa using hahead)]

/-- Something is built, or some check fails first. -/
theorem exists_builds (source : String) (settings : List Setting) : ∃ x, Builds source settings x := by
  cases hregex : Regex.compile source (Setting.flags settings) with
  | error cause => exact ⟨_, .invalid hregex⟩
  | ok r =>
    by_cases hbehind : ∀ n, last? lookbehind? settings = some n → r.HasGroup n
    · by_cases hahead : ∀ t, last? lookahead? settings = some t → r.HasGroup (t.number r.groupCount)
      · exact ⟨_, .pattern hregex ⟨hbehind, hahead⟩⟩
      · simp only [not_forall] at hahead
        obtain ⟨t, hasked, hnone⟩ := hahead
        exact ⟨_, .lookahead hregex hbehind hasked hnone⟩
    · simp only [not_forall] at hbehind
      obtain ⟨n, hasked, hnone⟩ := hbehind
      exact ⟨_, .lookbehind hregex hasked hnone⟩

theorem build_eq_iff {source : String} {settings : List Setting} {x : Except GrammarError Pattern} :
    build source settings = x ↔ Builds source settings x := by
  refine ⟨?_, Builds.build_eq⟩
  rintro rfl
  obtain ⟨x, hx⟩ := exists_builds source settings
  rwa [hx.build_eq]

/-- A pattern is built exactly if the regular expression can be read and has the groups that are asked for. -/
theorem exists_build_eq_ok_iff {source : String} {settings : List Setting} :
    (∃ p, build source settings = .ok p) ↔
      ∃ r, Regex.compile source (Setting.flags settings) = .ok r ∧ Meets settings r := by
  simp only [build_eq_iff]
  constructor
  · rintro ⟨p, h⟩
    cases h with
    | pattern hregex hmeets => exact ⟨_, hregex, hmeets⟩
  · rintro ⟨r, hregex, hmeets⟩
    exact ⟨_, .pattern hregex hmeets⟩

section Fields

/-- Settings in fields of their own. The group of the trailing context takes two fields: its number, and
whether it is the last one. -/
structure Fields where
  source : String
  flags : Regex.Flags := {}
  lookbehind : Option Nat := none
  lookahead : Option Nat := none
  lookaheadLast : Bool := false
  greedy : Bool := false
  altKind : Option String := none
  inside : Option Grammar := none

namespace Fields

def write (f : Fields) : Setting → Fields
  | .lookbehind group => { f with lookbehind := some group }
  | .lookahead .last => { f with lookaheadLast := true, lookahead := none }
  | .lookahead (.group n) => { f with lookaheadLast := false, lookahead := some n }
  | .greedy => { f with greedy := true }
  | .altKind name => { f with altKind := some name }
  | .inside g => { f with inside := some g }
  | .caseInsensitive => { f with flags := { f.flags with ignoreCase := true } }
  | .multiLine => { f with flags := { f.flags with multiLine := true } }

/-- A group that is asked for has to be one of `count` groups. -/
def check (count : Nat) (group : Option Nat) (fault : Nat → GrammarError) : Except GrammarError Unit :=
  match group with
  | some n => if n = 0 ∨ count < n then .error (fault n) else .ok ()
  | none => .ok ()

/-- Read the regular expression, then check one group after the other. -/
def build (f : Fields) : Except GrammarError Pattern := do
  let regex ← (Regex.compile f.source f.flags).mapError (.invalidPattern f.source)
  check regex.groupCount f.lookbehind (.lookbehindOutOfRange f.source)
  let lookahead := if f.lookaheadLast then some regex.groupCount else f.lookahead
  check regex.groupCount lookahead (.lookaheadOutOfRange f.source)
  return {
    regex := regex
    lookbehind := f.lookbehind
    lookahead := lookahead
    greedy := f.greedy
    altKind := f.altKind
    inside := f.inside }

def ofDraft (d : Draft) : Fields where
  source := d.source
  flags := d.flags
  lookbehind := d.lookbehind
  lookahead := d.lookahead.bind fun | .group n => some n | .last => none
  lookaheadLast := d.lookahead == some .last
  greedy := d.greedy
  altKind := d.altKind
  inside := d.inside

/-- The two fields of the trailing context never contradict each other. -/
theorem write_ofDraft (d : Draft) (s : Setting) : (ofDraft d).write s = ofDraft (d.set s) := by
  cases s with
  | lookahead group => cases group <;> rfl
  | _ => rfl

theorem foldl_write (d : Draft) (settings : List Setting) :
    settings.foldl write (ofDraft d) = ofDraft (settings.foldl Draft.set d) := by
  induction settings generalizing d with
  | nil => rfl
  | cons s settings ih => rw [List.foldl_cons, write_ofDraft, ih, List.foldl_cons]

/-- Where one field or the other names the group of the trailing context, the draft names it too. -/
theorem lookahead_ofDraft (d : Draft) (count : Nat) :
    (if (ofDraft d).lookaheadLast then some count else (ofDraft d).lookahead) = d.lookaheadGroup count := by
  rw [ofDraft, Draft.lookaheadGroup]
  match d.lookahead with
  | none => rfl
  | some .last => rfl
  | some (.group n) => rfl

theorem check_eq (count : Nat) (group : Option Nat) (fault : Nat → GrammarError) :
    check count group fault =
      if Draft.inRange count group then .ok () else .error (fault (group.getD 0)) := by
  cases group with
  | none => rfl
  | some n =>
    have hiff : Draft.inRange count (some n) = true ↔ ¬ (n = 0 ∨ count < n) := by
      rw [Draft.inRange, Bool.and_eq_true, decide_eq_true_eq, decide_eq_true_eq]
      omega
    rw [check]
    by_cases hout : n = 0 ∨ count < n
    · rw [if_pos hout, if_neg (mt hiff.mp (not_not_intro hout))]
      rfl
    · rw [if_neg hout, if_pos (hiff.mpr hout)]

theorem build_ofDraft (d : Draft) : (ofDraft d).build = d.build := by
  rw [build, Draft.build]
  simp only [lookahead_ofDraft, check_eq]
  simp only [ofDraft]
  cases Regex.compile d.source d.flags with
  | error cause => rfl
  | ok r =>
    by_cases hbehind : Draft.inRange r.groupCount d.lookbehind = true
    · by_cases hahead : Draft.inRange r.groupCount (d.lookaheadGroup r.groupCount) = true
      · simp [hbehind, hahead, Except.mapError, bind, Except.bind, pure, Except.pure]
      · simp [hbehind, hahead, Except.mapError, bind, Except.bind]
    · simp [hbehind, Except.mapError, bind, Except.bind]

end Fields

end Fields

/-- Settings that agree in all that counts. -/
structure Agree (settings settings' : List Setting) : Prop where
  lookbehind : last? lookbehind? settings = last? lookbehind? settings'
  lookahead : last? lookahead? settings = last? lookahead? settings'
  greedy : asks .greedy settings = asks .greedy settings'
  caseInsensitive : asks .caseInsensitive settings = asks .caseInsensitive settings'
  multiLine : asks .multiLine settings = asks .multiLine settings'
  altKind : last? altKind? settings = last? altKind? settings'
  inside : last? inside? settings = last? inside? settings'

/-- A pattern that can come about: a regular expression alone, or something built. -/
inductive Made : Pattern → Prop where
  | ofRegex (r : Regex) : Made (ofRegex r)
  | build {source : String} {settings : List Setting} {p : Pattern} (h : build source settings = .ok p) :
      Made p

theorem Made.hasGroup {p : Pattern} (h : Made p) {n : Nat}
    (hn : p.lookbehind = some n ∨ p.lookahead = some n) : p.regex.HasGroup n := by
  cases h with
  | ofRegex r => rcases hn with hn | hn <;> cases hn
  | build h =>
    cases build_eq_iff.mp h with
    | pattern hregex hmeets =>
      rcases hn with hn | hn
      · exact hmeets.lookbehind n hn
      · obtain ⟨t, ht, rfl⟩ := Option.map_eq_some_iff.mp hn
        exact hmeets.lookahead t ht

/-- The patterns of tables come about by building them. -/
theorem Made.of_compile {resolve : String → Option Grammar} {t : PatternTable} {p : Pattern}
    (h : t.compile resolve = .ok p) : Made p := by
  rw [PatternTable.compile] at h
  split at h
  · exact .build h
  · split at h
    · exact .build h
    · cases h

/-- What is built depends on the last setting of each kind and nothing else: settings of different kinds may
change places, and one that comes before another of its kind does not count, the two for the trailing
context being of one kind, even where they are written into fields of their own. A pattern is built exactly
if its regular expression can be read and has the groups of the last settings, and otherwise the first check
that fails decides the error. So the groups of a pattern's contexts are groups of its matches, also where the
pattern is that of a table. -/
theorem build_last_settings :
    (∀ source settings settings', Agree settings settings' → build source settings = build source settings') ∧
    (∀ source front a b back, a.kind ≠ b.kind →
      build source (front ++ a :: b :: back) = build source (front ++ b :: a :: back)) ∧
    (∀ source front a middle b back, a.kind = b.kind →
      build source (front ++ a :: (middle ++ b :: back)) = build source (front ++ (middle ++ b :: back))) ∧
    (∀ source settings, build source settings = (settings.foldl Fields.write { source := source }).build) ∧
    (∀ source settings x, build source settings = x ↔ Builds source settings x) ∧
    (∀ source settings, (∃ p, build source settings = .ok p) ↔
      ∃ r, Regex.compile source (Setting.flags settings) = .ok r ∧ Meets settings r) ∧
    (∀ (resolve : String → Option Grammar) (t : PatternTable) p, t.compile resolve = .ok p → Made p) ∧
    ∀ p, Made p → ∀ n, p.lookbehind = some n ∨ p.lookahead = some n → p.regex.HasGroup n ∧
      ∀ before text c, p.regex.matchAt before text = some c → n - 1 < c.groups.length := by
  refine ⟨?_, ?_, ?_, ?_, fun _ _ _ => build_eq_iff, fun _ _ => exists_build_eq_ok_iff,
    fun _ _ _ => Made.of_compile, ?_⟩
  · intro source settings settings' h
    rw [build, build, Draft.foldl_set, Draft.foldl_set, Setting.flags, Setting.flags, h.lookbehind,
      h.lookahead, h.greedy, h.caseInsensitive, h.multiLine, h.altKind, h.inside]
  · intro source front a b back h
    simp only [build, List.foldl_append, List.foldl_cons, Draft.set_comm _ h]
  · intro source front a middle b back h
    simp only [build, List.foldl_append, List.foldl_cons, Draft.foldl_override _ h]
  · intro source settings
    rw [build, ← Fields.build_ofDraft, ← Fields.foldl_write]
    rfl
  · intro p hp n hn
    have hgroup := hp.hasGroup hn
    refine ⟨hgroup, fun before text c hc => ?_⟩
    rw [Regex.length_groups_of_matchAt hc]
    have := hgroup.2
    have := hgroup.1
    omega

/-- The last of the settings for the trailing context names the second of two groups, and not the third one
that had been asked for. -/
theorem build_last_settings_trailing :
    Agree [.lookahead (.group 3), .lookbehind, .lookahead] [.lookahead, .lookbehind] ∧
    build "(a)b(c)" [.lookahead (.group 3), .lookbehind, .lookahead] =
      build "(a)b(c)" [.lookahead, .lookbehind] ∧
    ∃ p, build "(a)b(c)" [.lookahead, .lookbehind] = .ok p ∧ p.lookahead = some 2 ∧ p.regex.HasGroup 2 := by
  obtain ⟨hagrees, -, -, -, hbuilds, -, -, hmade⟩ := build_last_settings
  have hagree : Agree [.lookahead (.group 3), .lookbehind, .lookahead] [.lookahead, .lookbehind] :=
    ⟨rfl, rfl, rfl, rfl, rfl, rfl, rfl⟩
  obtain ⟨r, hregex, hcount⟩ : ∃ r, Regex.compile "(a)b(c)" = .ok r ∧ r.groupCount = 2 := by
    refine ⟨.ofExpr _ (.cat (.group 1 (.literal ['a'])) (.cat (.literal ['b']) (.group 2 (.literal ['c'])))),
      Regex.compile_of_light (by decide +kernel) (by decide +kernel), rfl⟩
  have hmeets : Meets [.lookahead, .lookbehind] r := by
    refine ⟨?_, ?_⟩
    · rintro n ⟨⟩
      exact ⟨Nat.le_refl 1, show 1 ≤ r.groupCount by omega⟩
    · rintro t ⟨⟩
      exact ⟨show 1 ≤ r.groupCount by omega, Nat.le_refl _⟩
  have hbuild := (hbuilds _ _ _).mpr (.pattern hregex hmeets)
  refine ⟨hagree, hagrees _ _ _ hagree, _, hbuild, congrArg some hcount, ?_⟩
  exact (hmade _ (.build hbuild) 2 (.inr (congrArg some hcount))).1

end Pattern

end Highlight
