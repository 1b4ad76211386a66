import Mathlib.Data.List.Nodup
import Highlight.Proofs.Table.Compile

/-!
# What a grammar of a table stands for

A pattern, a rule or a grammar in a table either stands for something, or it has a fault. `Describes` says
for what it stands once it is settled what names mean, `Sound` that it stands for something, and `Fault` what
is reported otherwise: within a grammar the first faulty pattern in the order in which they are written
down, and only where there is none the first rule that repeats a name or has no patterns. Compiling agrees
with all three, which is shown from the patterns upwards.
-/

namespace Highlight

namespace PatternTable

def flags (t : PatternTable) : Regex.Flags :=
  { ignoreCase := t.caseInsensitive, multiLine := t.multiLine }

/-- The pattern can be built: the grammar for its inside is known, and its regular expression can be read and
has the groups that are asked for. -/
structure Sound (known : String → Prop) (t : PatternTable) : Prop where
  inside : ∀ name, t.inside = some name → known name
  regex : ∃ r, Regex.compile t.regex t.flags = .ok r ∧ (t.lookbehind ∨ t.lookahead → r.groupCount ≠ 0)

/-- What is wrong with a pattern; of several faults the first one in this order. -/
inductive Fault (known : String → Prop) (t : PatternTable) : GrammarError → Prop where
  | unknown {name : String} (hinside : t.inside = some name) (hunknown : ¬ known name) :
      Fault known t (.unknownGrammar name)
  | regex {cause : Regex.ReadError} (hinside : ∀ name, t.inside = some name → known name)
      (hregex : Regex.compile t.regex t.flags = .error cause) :
      Fault known t (.invalidPattern t.regex cause)
  | lookbehind {r : Regex} (hinside : ∀ name, t.inside = some name → known name)
      (hregex : Regex.compile t.regex t.flags = .ok r) (hasked : t.lookbehind = true)
      (hgroups : r.groupCount = 0) : Fault known t (.lookbehindOutOfRange t.regex 1)
  | lookahead {r : Regex} (hinside : ∀ name, t.inside = some name → known name)
      (hregex : Regex.compile t.regex t.flags = .ok r) (hnot : t.lookbehind = false)
      (hasked : t.lookahead = true) (hgroups : r.groupCount = 0) :
      Fault known t (.lookaheadOutOfRange t.regex 0)

/-- The pattern has the regular expression and the flags that are written down. -/
structure Carries (t : PatternTable) (p : Pattern) : Prop where
  regex : Regex.compile t.regex t.flags = .ok p.regex
  groups : t.lookbehind ∨ t.lookahead → p.regex.groupCount ≠ 0
  lookbehind : p.lookbehind = if t.lookbehind then some 1 else none
  lookahead : p.lookahead = if t.lookahead then some p.regex.groupCount else none
  greedy : p.greedy = t.greedy
  altKind : p.altKind = t.altKind

/-- The pattern is the one that is written down. -/
structure Describes (means : String → Grammar → Prop) (t : PatternTable) (p : Pattern) : Prop
    extends Carries t p where
  inside : Option.Rel means t.inside p.inside

/-- The settings of a pattern taken together. -/
theorem draft_settings (t : PatternTable) :
    t.settings.foldl Pattern.Draft.set { source := t.regex } =
      { source := t.regex
        flags := t.flags
        lookbehind := if t.lookbehind then some 1 else none
        lookahead := if t.lookahead then some .last else none
        greedy := t.greedy
        altKind := t.altKind } := by
  obtain ⟨regex, lookbehind, lookahead, greedy, altKind, inside, caseInsensitive, multiLine⟩ := t
  cases lookbehind <;> cases lookahead <;> cases greedy <;> cases caseInsensitive <;>
    cases multiLine <;> cases altKind <;> rfl

/-- Building a pattern that has nothing to be looked up, one check after the other. -/
theorem build_settings (t : PatternTable) : Pattern.build t.regex t.settings =
    match Regex.compile t.regex t.flags with
    | .error cause => .error (.invalidPattern t.regex cause)
    | .ok r =>
      if t.lookbehind ∧ r.groupCount = 0 then .error (.lookbehindOutOfRange t.regex 1)
      else if t.lookahead ∧ r.groupCount = 0 then .error (.lookaheadOutOfRange t.regex 0)
      else .ok {
        regex := r
        lookbehind := if t.lookbehind then some 1 else none
        lookahead := if t.lookahead then some r.groupCount else none
        greedy := t.greedy
        altKind := t.altKind } := by
  rw [Pattern.build, draft_settings, Pattern.Draft.build]
  dsimp only
  cases Regex.compile t.regex t.flags with
  | error cause => rfl
  | ok r =>
    obtain ⟨source, groups, program⟩ := r
    cases t.lookbehind <;> cases t.lookahead <;> cases groups <;>
      simp [Pattern.Draft.lookaheadGroup, Pattern.Draft.inRange]

variable {resolve : String → Option Grammar} {t : PatternTable}

theorem build_eq_ok_iff {p : Pattern} :
    Pattern.build t.regex t.settings = .ok p ↔ t.Carries p ∧ p.inside = none := by
  rw [build_settings]
  cases hregex : Regex.compile t.regex t.flags with
  | error cause =>
    constructor
    · intro h
      cases h
    · rintro ⟨h, -⟩
      rw [h.regex] at hregex
      cases hregex
  | ok r =>
    dsimp only
    constructor
    · intro h
      split at h
      · cases h
      · next hlookbehind =>
        split at h
        · cases h
        · next hlookahead =>
          cases h
          refine ⟨⟨hregex, ?_, rfl, rfl, rfl, rfl⟩, rfl⟩
          rintro (hasked | hasked) hgroups
          · exact hlookbehind ⟨hasked, hgroups⟩
          · exact hlookahead ⟨hasked, hgroups⟩
    · rintro ⟨h, hinside⟩
      obtain ⟨regex, lookbehind, lookahead, greedy, altKind, inside⟩ := p
      obtain ⟨hr, hgroups, hlookbehind, hlookahead, hgreedy, haltKind⟩ := h
      rw [hregex] at hr
      cases hr
      rw [if_neg fun hasked => hgroups (.inl hasked.1) hasked.2,
        if_neg fun hasked => hgroups (.inr hasked.1) hasked.2]
      dsimp only at hlookbehind hlookahead hgreedy haltKind hinside
      rw [hlookbehind, hlookahead, hgreedy, haltKind, hinside]

theorem build_eq_error_iff {e : GrammarError} :
    Pattern.build t.regex t.settings = .error e ↔
      (∃ cause, Regex.compile t.regex t.flags = .error cause ∧ e = .invalidPattern t.regex cause) ∨
      ∃ r, Regex.compile t.regex t.flags = .ok r ∧ r.groupCount = 0 ∧
        (t.lookbehind = true ∧ e = .lookbehindOutOfRange t.regex 1 ∨
          t.lookbehind = false ∧ t.lookahead = true ∧ e = .lookaheadOutOfRange t.regex 0) := by
  rw [build_settings]
  cases Regex.compile t.regex t.flags with
  | error cause =>
    constructor
    · intro h
      cases h
      exact .inl ⟨cause, rfl, rfl⟩
    · rintro (⟨cause', hcause, rfl⟩ | ⟨r, hr, -⟩)
      · cases hcause
        rfl
      · cases hr
  | ok r =>
    dsimp only
    constructor
    · intro h
      refine .inr ⟨r, rfl, ?_⟩
      split at h
      · next hfault =>
        cases h
        exact ⟨hfault.2, .inl ⟨hfault.1, rfl⟩⟩
      · next hlookbehind =>
        split at h
        · next hfault =>
          cases h
          have hnot : t.lookbehind = false := by simpa [hfault.2] using hlookbehind
          exact ⟨hfault.2, .inr ⟨hnot, hfault.1, rfl⟩⟩
        · cases h
    · rintro (⟨cause, hcause, -⟩ | ⟨r', hr, hgroups, h⟩)
      · cases hcause
      · cases hr
        rcases h with ⟨hasked, rfl⟩ | ⟨hnot, hasked, rfl⟩
        · rw [if_pos ⟨hasked, hgroups⟩]
        · rw [if_neg (by simp [hnot]), if_pos ⟨hasked, hgroups⟩]

/-- Compiling a pattern gives the one that is written down. -/
theorem compile_eq_ok_iff_describes {means : String → Grammar → Prop}
    (hmeans : ∀ name g, resolve name = some g ↔ means name g) {p : Pattern} :
    t.compile resolve = .ok p ↔ t.Describes means p := by
  cases hname : t.inside with
  | none =>
    rw [compile, hname]
    dsimp only
    rw [build_eq_ok_iff]
    constructor
    · rintro ⟨hcarries, hinside⟩
      exact ⟨hcarries, by rw [hname, hinside]; exact .none⟩
    · rintro ⟨hcarries, hinside⟩
      rw [hname] at hinside
      cases hp : p.inside with
      | none => exact ⟨hcarries, rfl⟩
      | some g =>
        rw [hp] at hinside
        cases hinside
  | some name =>
    rw [compile_eq_ok_iff hname]
    constructor
    · rintro ⟨g, q, hg, hq, rfl⟩
      obtain ⟨⟨hregex, hgroups, hlookbehind, hlookahead, hgreedy, haltKind⟩, -⟩ := build_eq_ok_iff.mp hq
      exact ⟨⟨hregex, hgroups, hlookbehind, hlookahead, hgreedy, haltKind⟩,
        by rw [hname]; exact .some ((hmeans name g).mp hg)⟩
    · rintro ⟨⟨hregex, hgroups, hlookbehind, hlookahead, hgreedy, haltKind⟩, hinside⟩
      rw [hname] at hinside
      cases hp : p.inside with
      | none =>
        rw [hp] at hinside
        cases hinside
      | some g =>
        rw [hp] at hinside
        cases hinside with
        | some hg =>
          refine ⟨g, { p with inside := none }, (hmeans name g).mpr hg, build_eq_ok_iff.mpr ⟨?_, rfl⟩, ?_⟩
          · exact ⟨hregex, hgroups, hlookbehind, hlookahead, hgreedy, haltKind⟩
          · rw [← hp]

theorem compile_of_unknown {name : String} (hname : t.inside = some name) (hunknown : resolve name = none) :
    t.compile resolve = .error (.unknownGrammar name) := by
  rw [compile, hname]
  dsimp only
  rw [hunknown]

theorem compile_eq_error_iff_build (h : ∀ name, t.inside = some name → ∃ g, resolve name = some g)
    {e : GrammarError} :
    t.compile resolve = .error e ↔ Pattern.build t.regex t.settings = .error e := by
  cases hname : t.inside with
  | none => rw [compile, hname]
  | some name =>
    obtain ⟨g, hg⟩ := h name hname
    rw [compile, hname]
    dsimp only
    rw [hg]
    dsimp only
    rw [Pattern.build_inside]
    cases Pattern.build t.regex t.settings with
    | error cause => rfl
    | ok q =>
      constructor
      · intro h
        cases h
      · intro h
        cases h

/-- A pattern that cannot be compiled has the fault that is reported. -/
theorem compile_eq_error_iff_fault {known : String → Prop}
    (hknown : ∀ name, (∃ g, resolve name = some g) ↔ known name) {e : GrammarError} :
    t.compile resolve = .error e ↔ t.Fault known e := by
  by_cases hinside : ∀ name, t.inside = some name → ∃ g, resolve name = some g
  · have hall : ∀ name, t.inside = some name → known name :=
      fun name hname => (hknown name).mp (hinside name hname)
    rw [compile_eq_error_iff_build hinside, build_eq_error_iff]
    constructor
    · rintro (⟨cause, hcause, rfl⟩ | ⟨r, hr, hgroups, ⟨hasked, rfl⟩ | ⟨hnot, hasked, rfl⟩⟩)
      · exact .regex hall hcause
      · exact .lookbehind hall hr hasked hgroups
      · exact .lookahead hall hr hnot hasked hgroups
    · intro h
      cases h with
      | unknown hname hunknown => exact absurd (hall _ hname) hunknown
      | regex _ hcause => exact .inl ⟨_, hcause, rfl⟩
      | lookbehind _ hr hasked hgroups => exact .inr ⟨_, hr, hgroups, .inl ⟨hasked, rfl⟩⟩
      | lookahead _ hr hnot hasked hgroups => exact .inr ⟨_, hr, hgroups, .inr ⟨hnot, hasked, rfl⟩⟩
  · simp only [not_forall] at hinside
    obtain ⟨name, hname, hnobody⟩ := hinside
    have hunknown : ¬ known name := fun h => hnobody ((hknown name).mpr h)
    have hnone : resolve name = none :=
      Option.eq_none_iff_forall_ne_some.mpr fun g hg => hnobody ⟨g, hg⟩
    rw [compile_of_unknown hname hnone]
    constructor
    · intro h
      cases h
      exact .unknown hname hunknown
    · intro h
      cases h with
      | unknown hname' =>
        rw [hname] at hname'
        cases hname'
        rfl
      | regex hinside | lookbehind hinside | lookahead hinside => exact absurd (hinside name hname) hunknown

theorem Fault.not_sound {known : String → Prop} {e : GrammarError} (h : t.Fault known e) :
    ¬ t.Sound known := by
  rintro ⟨hinside, r', hr', hgroups'⟩
  cases h with
  | unknown hname hunknown => exact hunknown (hinside _ hname)
  | regex _ hcause =>
    rw [hcause] at hr'
    cases hr'
  | lookbehind _ hr hasked hgroups =>
    rw [hr] at hr'
    cases hr'
    exact hgroups' (.inl hasked) hgroups
  | lookahead _ hr _ hasked hgroups =>
    rw [hr] at hr'
    cases hr'
    exact hgroups' (.inr hasked) hgroups

theorem Describes.sound {means : String → Grammar → Prop} {known : String → Prop}
    (hknown : ∀ name g, means name g → known name) {p : Pattern} (h : t.Describes means p) :
    t.Sound known := by
  refine ⟨?_, p.regex, h.regex, h.groups⟩
  intro name hname
  have hinside := h.inside
  rw [hname] at hinside
  generalize p.inside = inner at hinside
  cases hinside with
  | some hg => exact hknown _ _ hg

/-- A pattern can be compiled if it is sound. -/
theorem exists_compile_iff_sound {known : String → Prop}
    (hknown : ∀ name, (∃ g, resolve name = some g) ↔ known name) :
    (∃ p, t.compile resolve = .ok p) ↔ t.Sound known := by
  constructor
  · rintro ⟨p, hp⟩
    exact ((compile_eq_ok_iff_describes fun _ _ => Iff.rfl).mp hp).sound
      fun name g hg => (hknown name).mp ⟨g, hg⟩
  · intro hsound
    cases hcompile : t.compile resolve with
    | ok p => exact ⟨p, rfl⟩
    | error e => exact absurd hsound ((compile_eq_error_iff_fault hknown).mp hcompile).not_sound

end PatternTable

section MapM

variable {α β ε : Type} {f : α → Except ε β} {as : List α}

theorem bind_pure_eq_error_iff {γ : Type} {x : Except ε β} {g : β → γ} {e : ε} :
    (x >>= fun b => (pure (g b) : Except ε γ)) = .error e ↔ x = .error e := by
  cases x with
  | error e' =>
    constructor
    · intro h
      cases h
      rfl
    · intro h
      cases h
      rfl
  | ok b =>
    constructor
    · intro h
      cases h
    · intro h
      cases h

/-- Results fail with the first error there is. -/
theorem mapM_eq_error_iff {e : ε} : as.mapM f = .error e ↔
    ∃ front a back, as = front ++ a :: back ∧ (∀ b ∈ front, ∃ c, f b = .ok c) ∧ f a = .error e := by
  induction as with
  | nil =>
    constructor
    · intro h
      cases h
    · rintro ⟨front, a, back, h, -⟩
      simp at h
  | cons a as ih =>
    rw [List.mapM_cons]
    cases ha : f a with
    | error e' =>
      constructor
      · intro h
        cases h
        exact ⟨[], a, as, rfl, by simp, ha⟩
      · rintro ⟨front, a', back, hsplit, hfront, ha'⟩
        cases front with
        | nil =>
          obtain ⟨rfl, -⟩ := List.cons.inj hsplit
          rw [ha] at ha'
          cases ha'
          rfl
        | cons b front =>
          obtain ⟨rfl, -⟩ := List.cons.inj hsplit
          obtain ⟨c, hc⟩ := hfront a (List.mem_cons_self ..)
          rw [ha] at hc
          cases hc
    | ok c =>
      change (as.mapM f >>= fun bs => pure (c :: bs)) = .error e ↔ _
      rw [bind_pure_eq_error_iff, ih]
      constructor
      · rintro ⟨front, a', back, rfl, hfront, ha'⟩
        refine ⟨a :: front, a', back, rfl, ?_, ha'⟩
        intro b hb
        rcases List.mem_cons.mp hb with rfl | hb
        · exact ⟨c, ha⟩
        · exact hfront b hb
      · rintro ⟨front, a', back, hsplit, hfront, ha'⟩
        cases front with
        | nil =>
          obtain ⟨rfl, -⟩ := List.cons.inj hsplit
          rw [ha] at ha'
          cases ha'
        | cons b front =>
          obtain ⟨rfl, rfl⟩ := List.cons.inj hsplit
          exact ⟨front, a', back, rfl, fun b hb => hfront b (List.mem_cons_of_mem _ hb), ha'⟩

theorem exists_mapM_iff : (∃ bs, as.mapM f = .ok bs) ↔ ∀ a ∈ as, ∃ b, f a = .ok b := by
  constructor
  · rintro ⟨bs, hbs⟩
    have heach := mapM_eq_ok_iff.mp hbs
    clear hbs
    induction heach with
    | nil => simp
    | cons hb _ ih => exact List.forall_mem_cons.mpr ⟨⟨_, hb⟩, ih⟩
  · intro hall
    cases hmap : as.mapM f with
    | ok bs => exact ⟨bs, rfl⟩
    | error e =>
      obtain ⟨front, a, back, rfl, -, ha⟩ := mapM_eq_error_iff.mp hmap
      obtain ⟨b, hb⟩ := hall a (by simp)
      rw [ha] at hb
      cases hb

theorem mapM_congr {g : α → Except ε β} (h : ∀ a ∈ as, f a = g a) : as.mapM f = as.mapM g := by
  induction as with
  | nil => rfl
  | cons a as ih =>
    rw [List.mapM_cons, List.mapM_cons, h a (List.mem_cons_self ..),
      ih fun b hb => h b (List.mem_cons_of_mem _ hb)]

end MapM

namespace RuleTable

/-- Rules that may stand together in a grammar: each has a name of its own, and patterns. -/
structure InOrder (rules : List RuleTable) : Prop where
  distinct : (rules.map (·.name)).Nodup
  filled : ∀ r ∈ rules, r.patterns ≠ []

/-- Why a rule of a grammar may not stand behind others. -/
inductive Clash (grammar : String) (front : List RuleTable) (t : RuleTable) : GrammarError → Prop where
  | again (hagain : ∃ r ∈ front, r.name = t.name) : Clash grammar front t (.duplicateType grammar t.name)
  | empty (hnew : ∀ r ∈ front, r.name ≠ t.name) (hempty : t.patterns = []) :
      Clash grammar front t (.emptyAlternatives grammar t.name)

structure Describes (means : String → Grammar → Prop) (t : RuleTable) (rule : Rule) : Prop where
  name : rule.name = t.name
  patterns : List.Forall₂ (PatternTable.Describes means) t.patterns rule.patterns

theorem inOrder_snoc {front : List RuleTable} {t : RuleTable} :
    InOrder (front ++ [t]) ↔ InOrder front ∧ (∀ r ∈ front, r.name ≠ t.name) ∧ t.patterns ≠ [] := by
  constructor
  · rintro ⟨hdistinct, hfilled⟩
    rw [List.map_append, List.nodup_append] at hdistinct
    obtain ⟨hfront, -, hapart⟩ := hdistinct
    refine ⟨⟨hfront, fun r hr => hfilled r (List.mem_append_left _ hr)⟩, ?_, hfilled t (by simp)⟩
    intro r hr
    exact hapart r.name (List.mem_map_of_mem hr) t.name (by simp)
  · rintro ⟨⟨hdistinct, hfilled⟩, hnew, hpatterns⟩
    constructor
    · rw [List.map_append, List.nodup_append]
      refine ⟨hdistinct, by simp, ?_⟩
      simp only [List.mem_map, List.map_cons, List.map_nil, List.mem_singleton]
      rintro _ ⟨r, hr, rfl⟩ _ rfl
      exact hnew r hr
    · intro r hr
      rcases List.mem_append.mp hr with hr | hr
      · exact hfilled r hr
      · rwa [List.mem_singleton.mp hr]

theorem InOrder.front {front back : List RuleTable} (h : InOrder (front ++ back)) : InOrder front := by
  obtain ⟨hdistinct, hfilled⟩ := h
  rw [List.map_append] at hdistinct
  exact ⟨hdistinct.of_append_left, fun r hr => hfilled r (List.mem_append_left _ hr)⟩

theorem Clash.not_inOrder {grammar : String} {front : List RuleTable} {t : RuleTable} {e : GrammarError}
    (h : Clash grammar front t e) : ¬ InOrder (front ++ [t]) := by
  rw [inOrder_snoc]
  rintro ⟨-, hnew, hpatterns⟩
  cases h with
  | again hagain =>
    obtain ⟨r, hr, hname⟩ := hagain
    exact hnew r hr hname
  | empty _ hempty => exact hpatterns hempty

theorem Clash.unique {grammar : String} {front : List RuleTable} {t : RuleTable} {e e' : GrammarError}
    (h : Clash grammar front t e) (h' : Clash grammar front t e') : e = e' := by
  cases h with
  | again hagain =>
    cases h' with
    | again => rfl
    | empty hnew =>
      obtain ⟨r, hr, hname⟩ := hagain
      exact absurd hname (hnew r hr)
  | empty hnew =>
    cases h' with
    | again hagain =>
      obtain ⟨r, hr, hname⟩ := hagain
      exact absurd hname (hnew r hr)
    | empty => rfl

/-- Checking the next rule, when those in front of it are in order. -/
theorem checkRules_cons (grammar : String) {done : List RuleTable} {t : RuleTable} {rule : Rule}
    {rules : List Rule} (houtline : (rule.name, rule.patterns.isEmpty) = (t.name, t.patterns.isEmpty)) :
    (∃ e, t.Clash grammar done e ∧
      Grammar.checkRules grammar (done.map (·.name)).reverse (rule :: rules) = .error e) ∨
    ((∀ r ∈ done, r.name ≠ t.name) ∧ t.patterns ≠ [] ∧
      Grammar.checkRules grammar (done.map (·.name)).reverse (rule :: rules) =
        Grammar.checkRules grammar ((done ++ [t]).map (·.name)).reverse rules) := by
  obtain ⟨hname, hempty⟩ := Prod.mk.inj houtline
  rw [Grammar.checkRules, hname, hempty]
  by_cases hagain : ∃ r ∈ done, r.name = t.name
  · refine .inl ⟨_, .again hagain, if_pos ?_⟩
    simpa using hagain
  · rw [if_neg (by simpa using hagain)]
    have hnew : ∀ r ∈ done, r.name ≠ t.name := fun r hr hname => hagain ⟨r, hr, hname⟩
    by_cases hpatterns : t.patterns = []
    · exact .inl ⟨_, .empty hnew hpatterns, if_pos (by rw [hpatterns]; rfl)⟩
    · rw [if_neg (by simpa using hpatterns)]
      exact .inr ⟨hnew, hpatterns, by simp⟩

variable {grammar : String} {done tables : List RuleTable} {rules : List Rule}

/-- Checking rules succeeds if they are in order, together with those in front of them. -/
theorem checkRules_eq_ok_iff (hdone : InOrder done)
    (houtline : rules.map (fun r => (r.name, r.patterns.isEmpty)) =
      tables.map fun t => (t.name, t.patterns.isEmpty)) :
    Grammar.checkRules grammar (done.map (·.name)).reverse rules = .ok () ↔ InOrder (done ++ tables) := by
  induction tables generalizing done rules with
  | nil =>
    rw [List.map_nil, List.map_eq_nil_iff] at houtline
    rw [houtline, List.append_nil]
    exact ⟨fun _ => hdone, fun _ => rfl⟩
  | cons t tables ih =>
    cases rules with
    | nil => cases houtline
    | cons rule rules =>
      rw [List.map_cons, List.map_cons, List.cons.injEq] at houtline
      rw [show done ++ t :: tables = done ++ [t] ++ tables by simp]
      rcases checkRules_cons grammar houtline.1 with
        ⟨e, hclash, hcheck⟩ | ⟨hnew, hpatterns, hcheck⟩
      · rw [hcheck]
        constructor
        · intro h
          cases h
        · intro h
          exact absurd h.front hclash.not_inOrder
      · rw [hcheck, ih (inOrder_snoc.mpr ⟨hdone, hnew, hpatterns⟩) houtline.2]

/-- Checking rules fails at the first one that may not stand behind those in front of it. -/
theorem checkRules_eq_error_iff (hdone : InOrder done)
    (houtline : rules.map (fun r => (r.name, r.patterns.isEmpty)) =
      tables.map fun t => (t.name, t.patterns.isEmpty)) {e : GrammarError} :
    Grammar.checkRules grammar (done.map (·.name)).reverse rules = .error e ↔
      ∃ front t back, tables = front ++ t :: back ∧ InOrder (done ++ front) ∧
        t.Clash grammar (done ++ front) e := by
  induction tables generalizing done rules with
  | nil =>
    rw [List.map_nil, List.map_eq_nil_iff] at houtline
    rw [houtline]
    constructor
    · intro h
      cases h
    · rintro ⟨front, t, back, h, -⟩
      simp at h
  | cons t tables ih =>
    cases rules with
    | nil => cases houtline
    | cons rule rules =>
      rw [List.map_cons, List.map_cons, List.cons.injEq] at houtline
      have hsnoc : ∀ front, done ++ t :: front = done ++ [t] ++ front := by simp
      rcases checkRules_cons grammar houtline.1 with
        ⟨e', hclash, hcheck⟩ | ⟨hnew, hpatterns, hcheck⟩
      · rw [hcheck]
        constructor
        · intro h
          cases h
          exact ⟨[], t, tables, rfl, by rwa [List.append_nil], by rwa [List.append_nil]⟩
        · rintro ⟨front, t', back, hsplit, horder, hclash'⟩
          cases front with
          | nil =>
            obtain ⟨rfl, -⟩ := List.cons.inj hsplit
            rw [List.append_nil] at hclash'
            rw [hclash.unique hclash']
          | cons u front =>
            obtain ⟨rfl, -⟩ := List.cons.inj hsplit
            rw [hsnoc] at horder
            exact absurd horder.front hclash.not_inOrder
      · have hstep := inOrder_snoc.mpr ⟨hdone, hnew, hpatterns⟩
        rw [hcheck, ih hstep houtline.2]
        constructor
        · rintro ⟨front, t', back, rfl, horder, hclash⟩
          exact ⟨t :: front, t', back, rfl, by rwa [hsnoc], by rwa [hsnoc]⟩
        · rintro ⟨front, t', back, hsplit, horder, hclash⟩
          cases front with
          | nil =>
            obtain ⟨rfl, -⟩ := List.cons.inj hsplit
            rw [List.append_nil] at hclash
            exact absurd hstep hclash.not_inOrder
          | cons u front =>
            obtain ⟨rfl, rfl⟩ := List.cons.inj hsplit
            rw [hsnoc] at horder hclash
            exact ⟨front, t', back, rfl, horder, hclash⟩

end RuleTable

namespace NestedTable

/-- The patterns of a grammar in the order in which they are written down. -/
def patterns (t : NestedTable) : List PatternTable := t.rules.flatMap (·.patterns)

/-- The grammar can be built: all its patterns can, and its rules may stand together. -/
structure Sound (known : String → Prop) (t : NestedTable) : Prop where
  patterns : ∀ p ∈ t.patterns, p.Sound known
  rules : RuleTable.InOrder t.rules

/-- What is wrong with a grammar: the fault of the first faulty pattern, or if there is none, of the first
rule that may not stand behind those in front of it. -/
inductive Fault (known : String → Prop) (t : NestedTable) : GrammarError → Prop where
  | pattern {front back : List PatternTable} {p : PatternTable} {e : GrammarError}
      (hsplit : t.patterns = front ++ p :: back) (hfront : ∀ q ∈ front, q.Sound known)
      (hfault : p.Fault known e) : Fault known t e
  | rule {front back : List RuleTable} {r : RuleTable} {e : GrammarError}
      (hpatterns : ∀ p ∈ t.patterns, p.Sound known) (hsplit : t.rules = front ++ r :: back)
      (hfront : RuleTable.InOrder front) (hclash : r.Clash t.name front e) : Fault known t e

structure Describes (means : String → Grammar → Prop) (t : NestedTable) (g : Grammar) : Prop where
  name : g.name = t.name
  rules : List.Forall₂ (RuleTable.Describes means) t.rules g.rules
  inOrder : RuleTable.InOrder t.rules

variable {resolve : String → Option Grammar} {t : NestedTable}

/-- Compiling rules fails as compiling their patterns in a row does. -/
theorem mapM_rules_eq_error_iff {rules : List RuleTable} {e : GrammarError} :
    rules.mapM (RuleTable.compile resolve) = .error e ↔
      (rules.flatMap (·.patterns)).mapM (PatternTable.compile resolve) = .error e := by
  induction rules with
  | nil =>
    constructor
    · intro h
      cases h
    · intro h
      cases h
  | cons r rules ih =>
    rw [List.mapM_cons, List.flatMap_cons, List.mapM_append, RuleTable.compile]
    cases r.patterns.mapM (PatternTable.compile resolve) with
    | error e' =>
      constructor
      · intro h
        cases h
        rfl
      · intro h
        cases h
        rfl
    | ok ps =>
      change (rules.mapM (RuleTable.compile resolve) >>= fun bs => pure (⟨r.name, ps⟩ :: bs)) = .error e ↔
        ((rules.flatMap (·.patterns)).mapM (PatternTable.compile resolve) >>= fun qs =>
          pure (ps ++ qs)) = .error e
      rw [bind_pure_eq_error_iff, bind_pure_eq_error_iff, ih]

theorem sound_patterns_iff {known : String → Prop}
    (hknown : ∀ name, (∃ g, resolve name = some g) ↔ known name) :
    (∃ rules, t.rules.mapM (RuleTable.compile resolve) = .ok rules) ↔ ∀ p ∈ t.patterns, p.Sound known := by
  have hpatterns : (∀ p ∈ t.patterns, p.Sound known) ↔
      ∃ ps, t.patterns.mapM (PatternTable.compile resolve) = .ok ps := by
    rw [exists_mapM_iff]
    exact forall₂_congr fun p _ => (PatternTable.exists_compile_iff_sound hknown).symm
  rw [hpatterns]
  cases hrules : t.rules.mapM (RuleTable.compile resolve) with
  | error e =>
    rw [patterns, mapM_rules_eq_error_iff.mp hrules]
    simp
  | ok rules =>
    cases hps : t.patterns.mapM (PatternTable.compile resolve) with
    | ok ps => simp
    | error e =>
      rw [mapM_rules_eq_error_iff.mpr hps] at hrules
      cases hrules

theorem forall₂_describes {means : String → Grammar → Prop}
    (hmeans : ∀ name g, resolve name = some g ↔ means name g) {rules : List RuleTable} {compiled : List Rule} :
    List.Forall₂ (fun r rule => RuleTable.compile resolve r = .ok rule) rules compiled ↔
      List.Forall₂ (RuleTable.Describes means) rules compiled := by
  have hpattern : (fun t p => PatternTable.compile resolve t = .ok p) = PatternTable.Describes means := by
    funext t p
    exact propext (PatternTable.compile_eq_ok_iff_describes hmeans)
  have hrule : (fun r rule => RuleTable.compile resolve r = .ok rule) = RuleTable.Describes means := by
    funext r rule
    rw [eq_iff_iff, RuleTable.compile_eq_ok_iff, hpattern]
    exact ⟨fun h => ⟨h.1, h.2⟩, fun h => ⟨h.1, h.2⟩⟩
  rw [hrule]

/-- Compiling the rules of a grammar gives the one that is written down. -/
theorem compileRules_eq_ok_iff_describes {means : String → Grammar → Prop}
    (hmeans : ∀ name g, resolve name = some g ↔ means name g) {g : Grammar} :
    compileRules resolve t.name t.rules = .ok g ↔ t.Describes means g := by
  have hnone : RuleTable.InOrder [] := ⟨by simp, by simp⟩
  rw [compileRules_eq_ok_iff]
  constructor
  · rintro ⟨hname, hrules, hcheck⟩
    refine ⟨hname, (forall₂_describes hmeans).mp hrules, ?_⟩
    exact (RuleTable.checkRules_eq_ok_iff hnone (outline_of_compileRules hrules)).mp hcheck
  · rintro ⟨hname, hrules, horder⟩
    have hcompiled := (forall₂_describes hmeans).mpr hrules
    refine ⟨hname, hcompiled, ?_⟩
    exact (RuleTable.checkRules_eq_ok_iff hnone (outline_of_compileRules hcompiled)).mpr horder

/-- A grammar that cannot be compiled has the fault that is reported. -/
theorem compileRules_eq_error_iff_fault {known : String → Prop}
    (hknown : ∀ name, (∃ g, resolve name = some g) ↔ known name) {e : GrammarError} :
    compileRules resolve t.name t.rules = .error e ↔ t.Fault known e := by
  rw [compileRules]
  cases hrules : t.rules.mapM (RuleTable.compile resolve) with
  | error e' =>
    have hpatterns := mapM_rules_eq_error_iff.mp hrules
    obtain ⟨front, p, back, hsplit, hfront, hp⟩ := mapM_eq_error_iff.mp hpatterns
    constructor
    · intro h
      cases h
      refine .pattern hsplit ?_ ((PatternTable.compile_eq_error_iff_fault hknown).mp hp)
      exact fun q hq => (PatternTable.exists_compile_iff_sound hknown).mp (hfront q hq)
    · intro h
      cases h with
      | @pattern front' back' p' _ hsplit' hfront' hfault =>
        have hpatterns' : t.patterns.mapM (PatternTable.compile resolve) = .error e :=
          mapM_eq_error_iff.mpr ⟨front', p', back', hsplit',
            fun q hq => (PatternTable.exists_compile_iff_sound hknown).mpr (hfront' q hq),
            (PatternTable.compile_eq_error_iff_fault hknown).mpr hfault⟩
        rw [patterns, hpatterns] at hpatterns'
        cases hpatterns'
        rfl
      | rule hall =>
        obtain ⟨rules, hok⟩ := (sound_patterns_iff hknown).mpr hall
        rw [hrules] at hok
        cases hok
  | ok rules =>
    have hall := (sound_patterns_iff hknown).mp ⟨rules, hrules⟩
    have houtline := outline_of_compileRules (mapM_eq_ok_iff.mp hrules)
    have hbuild : (Except.ok rules >>= Grammar.build t.name) = .error e ↔
        Grammar.checkRules t.name ([].map RuleTable.name).reverse rules = .error e := by
      change Grammar.build t.name rules = .error e ↔ Grammar.checkRules t.name [] rules = .error e
      rw [Grammar.build]
      exact bind_pure_eq_error_iff
    rw [hbuild, RuleTable.checkRules_eq_error_iff ⟨by simp, by simp⟩ houtline]
    constructor
    · rintro ⟨front, r, back, hsplit, hfront, hclash⟩
      exact .rule hall hsplit hfront hclash
    · intro h
      cases h with
      | pattern hsplit _ hfault => exact absurd (hall _ (by rw [hsplit]; simp)) hfault.not_sound
      | rule _ hsplit hfront hclash => exact ⟨_, _, _, hsplit, hfront, hclash⟩

theorem Fault.not_sound {known : String → Prop} {e : GrammarError} (h : t.Fault known e) :
    ¬ t.Sound known := by
  rintro ⟨hpatterns, hrules⟩
  cases h with
  | pattern hsplit _ hfault => exact hfault.not_sound (hpatterns _ (by rw [hsplit]; simp))
  | @rule front back r _ _ hsplit _ hclash =>
    rw [hsplit, show front ++ r :: back = front ++ [r] ++ back by simp] at hrules
    exact hclash.not_inOrder hrules.front

/-- A grammar can be compiled if it is sound. -/
theorem exists_compileRules_iff_sound {known : String → Prop}
    (hknown : ∀ name, (∃ g, resolve name = some g) ↔ known name) :
    (∃ g, compileRules resolve t.name t.rules = .ok g) ↔ t.Sound known := by
  constructor
  · rintro ⟨g, hg⟩
    have hrules := (compileRules_eq_ok_iff.mp hg).2.1
    exact ⟨(sound_patterns_iff hknown).mp ⟨g.rules, mapM_eq_ok_iff.mpr hrules⟩,
      ((compileRules_eq_ok_iff_describes fun _ _ => Iff.rfl).mp hg).inOrder⟩
  · intro hsound
    cases hcompile : compileRules resolve t.name t.rules with
    | ok g => exact ⟨g, rfl⟩
    | error e => exact absurd hsound ((compileRules_eq_error_iff_fault hknown).mp hcompile).not_sound

end NestedTable

end Highlight
