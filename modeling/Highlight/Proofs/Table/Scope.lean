import Mathlib.Data.List.Induction
import Highlight.Proofs.Table.Faults

/-!
# Names in a table

A table is read like a program with lexical scope. Its grammars come in order, the nested ones first, and a
name inside one of them means the last nested grammar of exactly that name in front of it, or else what the
resolver knows. `GrammarTable.Describes` says by this rule for which grammar a table stands,
`GrammarTable.Sound` that it stands for one, and `GrammarTable.FirstFault` which error is due otherwise: that
of the first faulty grammar. `GrammarTable.compile_scoped` says that compiling agrees with all three, and
that the resolver is asked for those names only that no nested grammar in front has.
-/

namespace Highlight

/-- A name is known behind nested grammars: it is the name of one of them, or the resolver knows it. -/
def Known (resolve : String → Option Grammar) (front : List NestedTable) (name : String) : Prop :=
  (∃ t ∈ front, t.name = name) ∨ ∃ g, resolve name = some g

/-- The grammar that a name means behind nested grammars: the last one of exactly that name, or else what
the resolver knows. -/
inductive Means (resolve : String → Option Grammar) (front : List (NestedTable × Grammar)) (name : String) :
    Grammar → Prop where
  | nested {earlier later : List (NestedTable × Grammar)} {t : NestedTable} {g : Grammar}
      (hfront : front = earlier ++ (t, g) :: later) (hname : t.name = name)
      (hlast : ∀ p ∈ later, p.1.name ≠ name) : Means resolve front name g
  | outer {g : Grammar} (hother : ∀ p ∈ front, p.1.name ≠ name) (hknown : resolve name = some g) :
      Means resolve front name g

/-- Each of the grammars is as it is written down, with the meaning that names have in its place. -/
def Described (resolve : String → Option Grammar) (built : List (NestedTable × Grammar)) : Prop :=
  ∀ front t g back, built = front ++ (t, g) :: back → t.Describes (Means resolve front) g

/-- Each of the grammars can be built, with the names that are known in its place. -/
def SoundAll (resolve : String → Option Grammar) (grammars : List NestedTable) : Prop :=
  ∀ front t back, grammars = front ++ t :: back → t.Sound (Known resolve front)

/-- A pattern of the grammar names a grammar for its inside. -/
def NestedTable.Uses (t : NestedTable) (name : String) : Prop := ∃ p ∈ t.patterns, p.inside = some name

namespace GrammarTable

/-- The table's own grammar, apart from the nested ones. -/
def own (t : GrammarTable) : NestedTable := ⟨t.name, t.rules⟩

def grammars (t : GrammarTable) : List NestedTable := t.nested ++ [t.own]

/-- The table stands for a grammar. -/
def Sound (resolve : String → Option Grammar) (t : GrammarTable) : Prop := SoundAll resolve t.grammars

def Describes (resolve : String → Option Grammar) (t : GrammarTable) (g : Grammar) : Prop :=
  ∃ built, built.map (·.1) = t.nested ∧ Described resolve (built ++ [(t.own, g)])

/-- What is wrong with a table: the fault of its first faulty grammar. -/
def FirstFault (resolve : String → Option Grammar) (t : GrammarTable) (e : GrammarError) : Prop :=
  ∃ front u back, t.grammars = front ++ u :: back ∧ SoundAll resolve front ∧ u.Fault (Known resolve front) e

/-- The resolver is asked for a name: a grammar of the table uses it that has no nested grammar of that name
in front of it. -/
def Asks (t : GrammarTable) (name : String) : Prop :=
  ∃ front u back, t.grammars = front ++ u :: back ∧ u.Uses name ∧ ∀ v ∈ front, v.name ≠ name

end GrammarTable

section Snoc

variable {resolve : String → Option Grammar} {built : List (NestedTable × Grammar)} {t : NestedTable}
  {g : Grammar}

theorem described_snoc : Described resolve (built ++ [(t, g)]) ↔
    Described resolve built ∧ t.Describes (Means resolve built) g := by
  constructor
  · intro h
    refine ⟨?_, h built t g [] rfl⟩
    rintro front u g' back rfl
    exact h front u g' (back ++ [(t, g)]) (by simp)
  · rintro ⟨hbuilt, ht⟩ front u g' back hsplit
    rcases eq_snoc_cases hsplit with ⟨-, rfl, heq⟩ | ⟨back', -, hback⟩
    · cases heq
      exact ht
    · exact hbuilt front u g' back' hback

theorem soundAll_snoc {grammars : List NestedTable} : SoundAll resolve (grammars ++ [t]) ↔
    SoundAll resolve grammars ∧ t.Sound (Known resolve grammars) := by
  constructor
  · intro h
    refine ⟨?_, h grammars t [] rfl⟩
    rintro front u back rfl
    exact h front u (back ++ [t]) (by simp)
  · rintro ⟨hall, ht⟩ front u back hsplit
    rcases eq_snoc_cases hsplit with ⟨-, rfl, rfl⟩ | ⟨back', -, hback⟩
    · exact ht
    · exact hall front u back' hback

/-- Behind one more nested grammar, its name means this grammar, and all others mean what they did. -/
theorem means_snoc {name : String} {g' : Grammar} : Means resolve (built ++ [(t, g)]) name g' ↔
    if t.name = name then g = g' else Means resolve built name g' := by
  split
  · next hname =>
    constructor
    · intro h
      cases h with
      | nested hfront _ hlast =>
        rcases eq_snoc_cases hfront with ⟨-, -, heq⟩ | ⟨back', rfl, -⟩
        · cases heq
          rfl
        · exact absurd hname (hlast (t, g) (by simp))
      | outer hother => exact absurd hname (hother (t, g) (by simp))
    · rintro rfl
      have hlast : built ++ [(t, g)] = built ++ (t, g) :: [] := rfl
      exact .nested hlast hname (by simp)
  · next hname =>
    constructor
    · intro h
      cases h with
      | nested hfront hname' hlast =>
        rcases eq_snoc_cases hfront with ⟨-, -, heq⟩ | ⟨back', rfl, hback⟩
        · cases heq
          exact absurd hname' hname
        · exact .nested hback hname' fun p hp => hlast p (List.mem_append_left _ hp)
      | outer hother hknown => exact .outer (fun p hp => hother p (List.mem_append_left _ hp)) hknown
    · intro h
      cases h with
      | nested hfront hname' hlast =>
        refine .nested (by rw [hfront, List.append_assoc, List.cons_append]) hname' ?_
        rw [List.forall_mem_append]
        exact ⟨hlast, by simpa using hname⟩
      | outer hother hknown =>
        refine .outer ?_ hknown
        rw [List.forall_mem_append]
        exact ⟨hother, by simpa using hname⟩

end Snoc

/-- The scope behind nested grammars, the latest first. -/
def scopeOf (built : List (NestedTable × Grammar)) : List (String × Grammar) :=
  (built.map fun p => (p.1.name, p.2)).reverse

section Scope

variable {resolve : String → Option Grammar} {built : List (NestedTable × Grammar)} {t : NestedTable}
  {g : Grammar}

theorem scopeOf_snoc : scopeOf (built ++ [(t, g)]) = (t.name, g) :: scopeOf built := by
  rw [scopeOf, scopeOf, List.map_append, List.reverse_append]
  rfl

/-- Looking a name up in a scope finds what it means there. -/
theorem inScope_eq_some_iff {name : String} {g : Grammar} :
    inScope (scopeOf built) resolve name = some g ↔ Means resolve built name g := by
  induction built using List.reverseRecOn with
  | nil =>
    constructor
    · exact fun h => .outer (by simp) h
    · intro h
      cases h with
      | nested hfront => simp at hfront
      | outer _ hknown => exact hknown
  | append_singleton built p ih =>
    obtain ⟨t, g'⟩ := p
    rw [means_snoc, scopeOf_snoc, inScope]
    by_cases hname : t.name = name
    · rw [if_pos hname, ← hname, List.lookup_cons_self, Option.some_or, Option.some.injEq]
    · have hne : (name == t.name) = false := by simpa using Ne.symm hname
      rw [if_neg hname, List.lookup_cons, hne]
      exact ih

theorem known_iff {name : String} :
    (∃ g, inScope (scopeOf built) resolve name = some g) ↔ Known resolve (built.map (·.1)) name := by
  have hkeys : (scopeOf built).map (·.1) = (built.map (·.1.name)).reverse := by
    rw [scopeOf, List.map_reverse, List.map_map]
    rfl
  rw [← Option.isSome_iff_exists, inScope, Option.isSome_or, Bool.or_eq_true, isSome_lookup_iff, hkeys,
    Option.isSome_iff_exists, Known]
  simp

end Scope

section Nested

variable {resolve : String → Option Grammar} {built : List (NestedTable × Grammar)}
  {nested : List NestedTable}

/-- The next grammar in order, in the scope of those in front of it. -/
theorem compileRules_iff_describes {t : NestedTable} {g : Grammar} :
    compileRules (inScope (scopeOf built) resolve) t.name t.rules = .ok g ↔
      t.Describes (Means resolve built) g :=
  NestedTable.compileRules_eq_ok_iff_describes fun _ _ => inScope_eq_some_iff

theorem compileRules_iff_fault {t : NestedTable} {e : GrammarError} :
    compileRules (inScope (scopeOf built) resolve) t.name t.rules = .error e ↔
      t.Fault (Known resolve (built.map (·.1))) e :=
  NestedTable.compileRules_eq_error_iff_fault fun _ => known_iff

theorem compileRules_iff_sound {t : NestedTable} :
    (∃ g, compileRules (inScope (scopeOf built) resolve) t.name t.rules = .ok g) ↔
      t.Sound (Known resolve (built.map (·.1))) :=
  NestedTable.exists_compileRules_iff_sound fun _ => known_iff

/-- Compiling further grammars gives those that are written down. -/
theorem compileNested_eq_ok_iff (hbuilt : Described resolve built) {out : List (String × Grammar)} :
    compileNested resolve (scopeOf built) nested = .ok out ↔
      ∃ more, more.map (·.1) = nested ∧ Described resolve (built ++ more) ∧ out = scopeOf (built ++ more) := by
  induction nested generalizing built with
  | nil =>
    constructor
    · intro h
      cases h
      exact ⟨[], rfl, by rwa [List.append_nil], by rw [List.append_nil]⟩
    · rintro ⟨more, hmore, -, rfl⟩
      rw [List.map_eq_nil_iff.mp hmore, List.append_nil]
      rfl
  | cons t nested ih =>
    have hsnoc : ∀ g more, built ++ (t, g) :: more = built ++ [(t, g)] ++ more := by simp
    rw [compileNested]
    cases hcompile : compileRules (inScope (scopeOf built) resolve) t.name t.rules with
    | error e =>
      constructor
      · intro h
        cases h
      · rintro ⟨more, hmore, hdescribed, -⟩
        obtain ⟨⟨u, g⟩, more, rfl, rfl, rfl⟩ := List.map_eq_cons_iff.mp hmore
        rw [compileRules_iff_describes.mpr (hdescribed built _ g more rfl)] at hcompile
        cases hcompile
    | ok g =>
      have ht := compileRules_iff_describes.mp hcompile
      dsimp only
      rw [← scopeOf_snoc, ih (described_snoc.mpr ⟨hbuilt, ht⟩)]
      constructor
      · rintro ⟨more, rfl, hdescribed, rfl⟩
        exact ⟨(t, g) :: more, rfl, by rwa [hsnoc], (congrArg scopeOf (hsnoc g more)).symm⟩
      · rintro ⟨more, hmore, hdescribed, rfl⟩
        obtain ⟨⟨u, g'⟩, more, rfl, rfl, rfl⟩ := List.map_eq_cons_iff.mp hmore
        rw [compileRules_iff_describes.mpr (hdescribed built _ g' more rfl)] at hcompile
        cases hcompile
        rw [hsnoc] at hdescribed
        exact ⟨more, rfl, hdescribed, congrArg scopeOf (hsnoc g more)⟩

theorem soundAll_of_described (h : Described resolve built) : SoundAll resolve (built.map (·.1)) := by
  induction built using List.reverseRecOn with
  | nil => simp [SoundAll]
  | append_singleton built p ih =>
    obtain ⟨hbuilt, ht⟩ := described_snoc.mp h
    rw [List.map_append]
    exact soundAll_snoc.mpr ⟨ih hbuilt, compileRules_iff_sound.mp ⟨_, compileRules_iff_describes.mpr ht⟩⟩

/-- Compiling further grammars fails with the fault of the first faulty one. -/
theorem compileNested_eq_error_iff (hbuilt : Described resolve built) {e : GrammarError} :
    compileNested resolve (scopeOf built) nested = .error e ↔
      ∃ front t back, nested = front ++ t :: back ∧ SoundAll resolve (built.map (·.1) ++ front) ∧
        t.Fault (Known resolve (built.map (·.1) ++ front)) e := by
  induction nested generalizing built with
  | nil =>
    constructor
    · intro h
      cases h
    · rintro ⟨front, t, back, h, -⟩
      simp at h
  | cons t nested ih =>
    rw [compileNested]
    cases hcompile : compileRules (inScope (scopeOf built) resolve) t.name t.rules with
    | error e' =>
      have hfault := compileRules_iff_fault.mp hcompile
      constructor
      · intro h
        cases h
        refine ⟨[], t, nested, rfl, ?_, ?_⟩
        · rw [List.append_nil]
          exact soundAll_of_described hbuilt
        · rwa [List.append_nil]
      · rintro ⟨front, u, back, hsplit, hsound, hfault'⟩
        cases front with
        | nil =>
          obtain ⟨rfl, -⟩ := List.cons.inj hsplit
          rw [List.append_nil] at hfault'
          rw [compileRules_iff_fault.mpr hfault'] at hcompile
          cases hcompile
          rfl
        | cons v front =>
          obtain ⟨rfl, -⟩ := List.cons.inj hsplit
          exact absurd (hsound (built.map (·.1)) t front rfl) hfault.not_sound
    | ok g =>
      have ht := compileRules_iff_describes.mp hcompile
      have hsnoc : ∀ front, (built ++ [(t, g)]).map (·.1) ++ front = built.map (·.1) ++ t :: front := by simp
      dsimp only
      rw [← scopeOf_snoc, ih (described_snoc.mpr ⟨hbuilt, ht⟩)]
      constructor
      · rintro ⟨front, u, back, rfl, hsound, hfault⟩
        rw [hsnoc] at hsound hfault
        exact ⟨t :: front, u, back, rfl, hsound, hfault⟩
      · rintro ⟨front, u, back, hsplit, hsound, hfault⟩
        cases front with
        | nil =>
          obtain ⟨rfl, -⟩ := List.cons.inj hsplit
          rw [List.append_nil] at hfault
          exact absurd (compileRules_iff_sound.mp ⟨g, hcompile⟩) hfault.not_sound
        | cons v front =>
          obtain ⟨rfl, rfl⟩ := List.cons.inj hsplit
          rw [← hsnoc] at hsound hfault
          exact ⟨front, u, back, rfl, hsound, hfault⟩

theorem compileNested_snoc {scope : List (String × Grammar)} {t : NestedTable} :
    compileNested resolve scope (nested ++ [t]) =
      match compileNested resolve scope nested with
      | .ok scope =>
        match compileRules (inScope scope resolve) t.name t.rules with
        | .ok g => .ok ((t.name, g) :: scope)
        | .error e => .error e
      | .error e => .error e := by
  induction nested generalizing scope with
  | nil =>
    rw [List.nil_append, compileNested, compileNested]
    rfl
  | cons u nested ih =>
    rw [List.cons_append, compileNested, compileNested]
    cases compileRules (inScope scope resolve) u.name u.rules with
    | error e => rfl
    | ok g => exact ih

end Nested

section Agree

variable {resolve resolve' : String → Option Grammar}

theorem PatternTable.compile_congr {t : PatternTable}
    (h : ∀ name, t.inside = some name → resolve name = resolve' name) :
    t.compile resolve = t.compile resolve' := by
  rw [compile, compile]
  cases hname : t.inside with
  | none => rfl
  | some name =>
    dsimp only
    rw [h name hname]

theorem compileRules_congr {t : NestedTable} (h : ∀ name, t.Uses name → resolve name = resolve' name) :
    compileRules resolve t.name t.rules = compileRules resolve' t.name t.rules := by
  have hrule : ∀ r ∈ t.rules, r.compile resolve = r.compile resolve' := by
    intro r hr
    rw [RuleTable.compile, RuleTable.compile, mapM_congr]
    intro p hp
    exact PatternTable.compile_congr fun name hname =>
      h name ⟨p, List.mem_flatMap.mpr ⟨r, hr, hp⟩, hname⟩
  rw [compileRules, compileRules, mapM_congr hrule]

theorem inScope_congr {scope : List (String × Grammar)} {name : String}
    (h : name ∉ scope.map (·.1) → resolve name = resolve' name) :
    inScope scope resolve name = inScope scope resolve' name := by
  rw [inScope, inScope]
  cases hlookup : scope.lookup name with
  | some g => rfl
  | none =>
    rw [h fun hname => by simp [← isSome_lookup_iff, hlookup] at hname]

/-- The resolver is asked for those names only that neither the scope nor a grammar in front has. -/
theorem compileNested_congr {scope : List (String × Grammar)} {nested : List NestedTable}
    (h : ∀ front t back, nested = front ++ t :: back → ∀ name, t.Uses name →
      (∀ u ∈ front, u.name ≠ name) → name ∉ scope.map (·.1) → resolve name = resolve' name) :
    compileNested resolve scope nested = compileNested resolve' scope nested := by
  induction nested generalizing scope with
  | nil => rfl
  | cons t nested ih =>
    have ht : compileRules (inScope scope resolve) t.name t.rules =
        compileRules (inScope scope resolve') t.name t.rules :=
      compileRules_congr fun name huses => inScope_congr (h [] t nested rfl name huses (by simp))
    rw [compileNested, compileNested, ht]
    cases compileRules (inScope scope resolve') t.name t.rules with
    | error e => rfl
    | ok g =>
      refine ih fun front u back hsplit name huses hfront hscope => ?_
      rw [List.map_cons, List.mem_cons, not_or] at hscope
      refine h (t :: front) u back (by rw [hsplit]; rfl) name huses ?_ hscope.2
      exact List.forall_mem_cons.mpr ⟨Ne.symm hscope.1, hfront⟩

end Agree

namespace GrammarTable

variable {resolve : String → Option Grammar} {t : GrammarTable}

theorem compile_eq_error_iff_nested {e : GrammarError} :
    t.compile resolve = .error e ↔ compileNested resolve [] t.grammars = .error e := by
  rw [grammars, compileNested_snoc, compile]
  cases compileNested resolve [] t.nested with
  | error e' => simp
  | ok scope =>
    dsimp only [own]
    cases compileRules (inScope scope resolve) t.name t.rules with
    | error e' => simp
    | ok g => simp

theorem compile_eq_ok_iff_nested {g : Grammar} :
    t.compile resolve = .ok g ↔
      ∃ scope, compileNested resolve [] t.grammars = .ok ((t.name, g) :: scope) := by
  rw [grammars, compileNested_snoc, compile]
  cases compileNested resolve [] t.nested with
  | error e' => simp
  | ok scope =>
    dsimp only [own]
    cases compileRules (inScope scope resolve) t.name t.rules with
    | error e' => simp
    | ok g' => simp

theorem described_nil : Described resolve [] := by
  intro front t g back h
  simp at h

theorem compile_eq_ok_iff_describes {g : Grammar} : t.compile resolve = .ok g ↔ t.Describes resolve g := by
  rw [compile_eq_ok_iff_nested]
  constructor
  · rintro ⟨scope, h⟩
    obtain ⟨more, hmore, hdescribed, hscope⟩ := (compileNested_eq_ok_iff described_nil).mp h
    rw [List.nil_append] at hdescribed hscope
    obtain ⟨built, last, rfl, hbuilt, hlast⟩ := List.map_eq_append_iff.mp hmore
    obtain ⟨⟨u, g'⟩, rest, rfl, hown, hnil⟩ := List.map_eq_cons_iff.mp hlast
    rw [List.map_eq_nil_iff.mp hnil] at hdescribed hscope
    obtain rfl : u = t.own := hown
    rw [scopeOf_snoc, List.cons.injEq] at hscope
    obtain rfl : g = g' := (Prod.mk.inj hscope.1).2
    exact ⟨built, hbuilt, hdescribed⟩
  · rintro ⟨built, hbuilt, hdescribed⟩
    refine ⟨scopeOf built, (compileNested_eq_ok_iff described_nil).mpr ⟨built ++ [(t.own, g)], ?_, hdescribed, ?_⟩⟩
    · rw [List.map_append, hbuilt]
      rfl
    · rw [List.nil_append, scopeOf_snoc]
      rfl

theorem compile_eq_error_iff_firstFault {e : GrammarError} :
    t.compile resolve = .error e ↔ t.FirstFault resolve e := by
  rw [compile_eq_error_iff_nested]
  exact compileNested_eq_error_iff described_nil

theorem exists_compile_iff_sound : (∃ g, t.compile resolve = .ok g) ↔ t.Sound resolve := by
  constructor
  · rintro ⟨g, hg⟩
    obtain ⟨built, hbuilt, hdescribed⟩ := compile_eq_ok_iff_describes.mp hg
    have hsound := soundAll_of_described hdescribed
    rwa [List.map_append, hbuilt] at hsound
  · intro hsound
    cases hcompile : t.compile resolve with
    | ok g => exact ⟨g, rfl⟩
    | error e =>
      obtain ⟨front, u, back, hsplit, -, hfault⟩ := compile_eq_error_iff_firstFault.mp hcompile
      exact absurd (hsound front u back hsplit) hfault.not_sound

theorem compile_congr {resolve' : String → Option Grammar}
    (h : ∀ name, t.Asks name → resolve name = resolve' name) : t.compile resolve = t.compile resolve' := by
  have hnested : compileNested resolve [] t.grammars = compileNested resolve' [] t.grammars :=
    compileNested_congr fun front u back hsplit name huses hfront _ =>
      h name ⟨front, u, back, hsplit, huses, hfront⟩
  cases hcompile : t.compile resolve with
  | ok g =>
    rw [compile_eq_ok_iff_nested, hnested] at hcompile
    exact (compile_eq_ok_iff_nested.mpr hcompile).symm
  | error e =>
    rw [compile_eq_error_iff_nested, hnested] at hcompile
    exact (compile_eq_error_iff_nested.mpr hcompile).symm

/-- A table compiles if it is sound, to the grammar for which it stands, and else reports its first fault;
the resolver is asked for no name that a nested grammar in front of its use has. -/
theorem compile_scoped (t : GrammarTable) (resolve : String → Option Grammar) :
    ((∃ g, t.compile resolve = .ok g) ↔ t.Sound resolve) ∧
      (∀ g, t.compile resolve = .ok g ↔ t.Describes resolve g) ∧
      (∀ e, t.compile resolve = .error e ↔ t.FirstFault resolve e) ∧
      ∀ resolve', (∀ name, t.Asks name → resolve name = resolve' name) →
        t.compile resolve = t.compile resolve' :=
  ⟨exists_compile_iff_sound, fun _ => compile_eq_ok_iff_describes, fun _ => compile_eq_error_iff_firstFault,
    fun _ => compile_congr⟩

/-- A table with two nested grammars of one name, of which the second names the first; `b` is a name of
neither. -/
def layered : GrammarTable where
  name := "layered"
  nested := [⟨"a", [⟨"letter", [{ regex := "x" }]⟩]⟩, ⟨"a", [⟨"word", [{ regex := "x+", inside := some "a" }]⟩]⟩]
  rules := [⟨"line", [{ regex := "x+y", inside := some "a" }, { regex := "y", inside := some "b" }]⟩]

theorem eq_of_asks_layered {name : String} (h : layered.Asks name) : name = "b" := by
  obtain ⟨front, u, back, hsplit, ⟨p, hp, hname⟩, hfront⟩ := h
  simp only [grammars, layered, own, List.cons_append, List.nil_append] at hsplit
  rcases front with _ | ⟨v, _ | ⟨v', _ | ⟨w, front⟩⟩⟩
  · obtain ⟨rfl, -⟩ := List.cons.inj hsplit
    simp_all [NestedTable.patterns]
  · simp only [List.cons_append, List.nil_append, List.cons.injEq] at hsplit
    obtain ⟨rfl, rfl, -⟩ := hsplit
    simp_all [NestedTable.patterns]
  · simp only [List.cons_append, List.nil_append, List.cons.injEq] at hsplit
    obtain ⟨rfl, rfl, rfl, -⟩ := hsplit
    simp_all [NestedTable.patterns]
    grind
  · simp at hsplit

/-- A resolver that knows `a` as well does not come between the table and its own grammars. -/
theorem compile_scoped_layered :
    (∀ name, layered.Asks name → (if name = "b" then some (Grammar.mk "b" []) else none) = some (.mk "b" [])) ∧
      layered.compile (fun name => if name = "b" then some (.mk "b" []) else none) =
        layered.compile (fun _ => some (.mk "b" [])) ∧
      ∃ g, layered.compile (fun _ => some (.mk "b" [])) = .ok g := by
  have hagree : ∀ name, layered.Asks name →
      (if name = "b" then some (Grammar.mk "b" []) else none) = some (.mk "b" []) :=
    fun name hasks => if_pos (eq_of_asks_layered hasks)
  exact ⟨hagree, (compile_scoped layered _).2.2.2 _ hagree, _, rfl⟩

end GrammarTable

end Highlight
