import Mathlib.Data.List.Forall2
import Highlight.Table.Compile

/-!
# How compiling a table depends on the grammars that it names

A table names grammars for the inside of its patterns, and a resolver finds them. Which grammar is found
decides on what stands inside a pattern and on nothing else. So a table that compiles with one resolver
compiles with every other one that knows the same names or more (`GrammarTable.compile_of_widens`), and
each pattern gets what the resolver has found under its name (`GrammarTable.binds_of_compile`).
-/

namespace Highlight

/-- Results for all items of a list are a result for each of them. -/
theorem mapM_eq_ok_iff {α β ε : Type} {f : α → Except ε β} {as : List α} {bs : List β} :
    as.mapM f = .ok bs ↔ List.Forall₂ (fun a b => f a = .ok b) as bs := by
  induction as generalizing bs with
  | nil =>
    rw [List.mapM_nil, List.forall₂_nil_left_iff]
    exact ⟨fun h => (Except.ok.inj h).symm, fun h => congrArg Except.ok h.symm⟩
  | cons a as ih =>
    rw [List.mapM_cons, List.forall₂_cons_left_iff]
    constructor
    · intro h
      cases ha : f a with
      | error e =>
        rw [ha] at h
        cases h
      | ok b =>
        cases has : as.mapM f with
        | error e =>
          rw [ha, has] at h
          cases h
        | ok rest =>
          rw [ha, has] at h
          cases h
          exact ⟨b, rest, rfl, ih.mp has, rfl⟩
    · rintro ⟨b, rest, hb, hrest, rfl⟩
      rw [hb, ih.mpr hrest]
      rfl

/-- Where there is a result for each item of a list, there is one of another kind if it follows. -/
theorem exists_forall₂ {α β γ : Type} {R : α → β → Prop} {S : α → γ → Prop} {as : List α} {bs : List β}
    (h : List.Forall₂ R as bs) (hstep : ∀ a b, R a b → ∃ c, S a c) : ∃ cs, List.Forall₂ S as cs := by
  induction h with
  | nil => exact ⟨[], .nil⟩
  | cons hab _ ih =>
    obtain ⟨c, hc⟩ := hstep _ _ hab
    obtain ⟨cs, hcs⟩ := ih
    exact ⟨c :: cs, .cons hc hcs⟩

/-- A place in a list that has one more item at its end is the end, or lies in front of it. -/
theorem eq_snoc_cases {α : Type} {l front back : List α} {a b : α} (h : l ++ [a] = front ++ b :: back) :
    (back = [] ∧ l = front ∧ a = b) ∨ ∃ back', back = back' ++ [a] ∧ l = front ++ b :: back' := by
  rcases List.eq_nil_or_concat back with rfl | ⟨back', c, rfl⟩
  · obtain ⟨hl, hab⟩ := List.append_inj' h rfl
    exact .inl ⟨rfl, hl, by simpa using hab⟩
  · rw [List.concat_eq_append, ← List.cons_append, ← List.append_assoc] at h
    obtain ⟨hl, hac⟩ := List.append_inj' h rfl
    obtain rfl : a = c := by simpa using hac
    exact .inr ⟨back', List.concat_eq_append, hl⟩

theorem isSome_lookup_iff {α : Type} {pairs : List (String × α)} {key : String} :
    (pairs.lookup key).isSome ↔ key ∈ pairs.map (·.1) := by
  rw [List.lookup_isSome_iff, List.mem_map]
  constructor
  · rintro ⟨p, hp, hkey⟩
    exact ⟨p, hp, (eq_of_beq hkey).symm⟩
  · rintro ⟨p, hp, rfl⟩
    exact ⟨p, hp, BEq.rfl⟩

theorem lookup_eq_none_of_not_mem {α : Type} {pairs : List (String × α)} {key : String}
    (h : key ∉ pairs.map (·.1)) : pairs.lookup key = none :=
  Option.not_isSome_iff_eq_none.mp (mt isSome_lookup_iff.mp h)

/-- By a name that the first resolver knows, the second one knows a grammar as well. -/
def Widens (resolve resolve' : String → Option Grammar) : Prop :=
  ∀ name, (resolve name).isSome → (resolve' name).isSome

theorem Widens.inScope {resolve resolve' : String → Option Grammar} (h : Widens resolve resolve')
    {scope scope' : List (String × Grammar)} (hscope : scope.map (·.1) = scope'.map (·.1)) :
    Widens (inScope scope resolve) (inScope scope' resolve') := by
  intro name hknown
  rw [Highlight.inScope, Option.isSome_or, Bool.or_eq_true, isSome_lookup_iff] at hknown ⊢
  rw [← hscope]
  exact hknown.imp id (h name)

namespace Pattern

/-- What stands inside a pattern has no part in building it. -/
theorem Draft.build_inside (d : Draft) (inner : Option Grammar) :
    { d with inside := inner }.build = d.build.map fun p => { p with inside := inner } := by
  rw [Draft.build, Draft.build]
  cases Regex.compile d.source d.flags with
  | error cause => rfl
  | ok regex =>
    have hgroup : lookaheadGroup { d with inside := inner } = d.lookaheadGroup := rfl
    dsimp only
    rw [hgroup]
    split
    · rfl
    · split
      · rfl
      · rfl

theorem build_inside (source : String) (settings : List Setting) (g : Grammar) :
    build source (settings ++ [.inside g]) =
      (build source settings).map fun p => { p with inside := some g } := by
  rw [build, build, List.foldl_append]
  exact Draft.build_inside _ (some g)

end Pattern

namespace PatternTable

variable {resolve resolve' : String → Option Grammar} {t : PatternTable} {p : Pattern}

/-- Where the pattern is to have a grammar inside that is none of its table's own ones, it has the one that
the resolver knows by the name. -/
def Binds (own : List String) (resolve : String → Option Grammar) (t : PatternTable) (p : Pattern) :
    Prop :=
  ∀ name, t.inside = some name → name ∉ own → ∃ g, resolve name = some g ∧ p.inside = some g

/-- A pattern that names a grammar compiles if that is known and all the rest of it can be built. -/
theorem compile_eq_ok_iff {name : String} (hname : t.inside = some name) :
    t.compile resolve = .ok p ↔ ∃ g q, resolve name = some g ∧
      Pattern.build t.regex t.settings = .ok q ∧ p = { q with inside := some g } := by
  rw [compile, hname]
  dsimp only
  cases resolve name with
  | none => simp
  | some g =>
    dsimp only
    rw [Pattern.build_inside]
    cases Pattern.build t.regex t.settings with
    | error e => simp [Except.map]
    | ok q => simp [Except.map, eq_comm]

theorem binds_of_compile {scope : List (String × Grammar)} {own : List String}
    (hown : scope.map (·.1) ⊆ own) (h : t.compile (inScope scope resolve) = .ok p) :
    t.Binds own resolve p := by
  intro name hname hother
  obtain ⟨g, q, hg, -, rfl⟩ := (compile_eq_ok_iff hname).mp h
  rw [inScope, lookup_eq_none_of_not_mem (mt (@hown name) hother), Option.none_or] at hg
  exact ⟨g, hg, rfl⟩

theorem compile_of_widens (hwidens : Widens resolve resolve') (h : t.compile resolve = .ok p) :
    ∃ p', t.compile resolve' = .ok p' := by
  cases hname : t.inside with
  | none =>
    rw [compile, hname] at h
    exact ⟨p, by rw [compile, hname]; exact h⟩
  | some name =>
    obtain ⟨g, q, hg, hq, -⟩ := (compile_eq_ok_iff hname).mp h
    obtain ⟨g', hg'⟩ := Option.isSome_iff_exists.mp (hwidens name (by rw [hg]; rfl))
    exact ⟨_, (compile_eq_ok_iff hname).mpr ⟨g', q, hg', hq, rfl⟩⟩

end PatternTable

namespace RuleTable

variable {resolve resolve' : String → Option Grammar} {t : RuleTable} {rule : Rule}

/-- A rule whose patterns have inside what the resolver knows. -/
structure Binds (own : List String) (resolve : String → Option Grammar) (t : RuleTable) (rule : Rule) :
    Prop where
  name : rule.name = t.name
  patterns : List.Forall₂ (PatternTable.Binds own resolve) t.patterns rule.patterns

theorem compile_eq_ok_iff : t.compile resolve = .ok rule ↔ rule.name = t.name ∧
    List.Forall₂ (fun t p => PatternTable.compile resolve t = .ok p) t.patterns rule.patterns := by
  rw [← mapM_eq_ok_iff, compile]
  cases t.patterns.mapM (PatternTable.compile resolve) with
  | error e => simp [Except.map]
  | ok patterns =>
    obtain ⟨name, patterns'⟩ := rule
    simp [Except.map, eq_comm]

theorem binds_of_compile {scope : List (String × Grammar)} {own : List String}
    (hown : scope.map (·.1) ⊆ own) (h : t.compile (inScope scope resolve) = .ok rule) :
    t.Binds own resolve rule := by
  obtain ⟨hname, hpatterns⟩ := compile_eq_ok_iff.mp h
  exact ⟨hname, hpatterns.imp fun _ _ hp => PatternTable.binds_of_compile hown hp⟩

/-- What is checked of a rule: its name, and whether it has patterns. -/
theorem outline_of_compile (h : t.compile resolve = .ok rule) :
    (rule.name, rule.patterns.isEmpty) = (t.name, t.patterns.isEmpty) := by
  obtain ⟨hname, hpatterns⟩ := compile_eq_ok_iff.mp h
  have hempty : rule.patterns.isEmpty = t.patterns.isEmpty := by
    rw [Bool.eq_iff_iff, List.isEmpty_iff_length_eq_zero, List.isEmpty_iff_length_eq_zero,
      hpatterns.length_eq]
  rw [hname, hempty]

theorem compile_of_widens (hwidens : Widens resolve resolve') (h : t.compile resolve = .ok rule) :
    ∃ rule', t.compile resolve' = .ok rule' := by
  obtain ⟨patterns, hpatterns⟩ := exists_forall₂ (compile_eq_ok_iff.mp h).2
    fun _ _ hp => PatternTable.compile_of_widens hwidens hp
  exact ⟨⟨t.name, patterns⟩, compile_eq_ok_iff.mpr ⟨rfl, hpatterns⟩⟩

end RuleTable

/-- Checking rules asks for their names, and whether they have patterns. -/
theorem Grammar.checkRules_congr {name : String} {rules rules' : List Rule}
    (h : rules.map (fun r => (r.name, r.patterns.isEmpty)) =
      rules'.map fun r => (r.name, r.patterns.isEmpty)) (seen : List String) :
    checkRules name seen rules = checkRules name seen rules' := by
  induction rules generalizing rules' seen with
  | nil =>
    rw [List.map_nil, eq_comm, List.map_eq_nil_iff] at h
    rw [h]
  | cons rule rules ih =>
    cases rules' with
    | nil => cases h
    | cons rule' rules' =>
      rw [List.map_cons, List.map_cons, List.cons.injEq, Prod.mk.injEq] at h
      obtain ⟨⟨hname, hempty⟩, hrest⟩ := h
      rw [checkRules, checkRules, hname, hempty, ih hrest]

section CompileRules

variable {resolve resolve' : String → Option Grammar} {name : String} {rules : List RuleTable}
  {g : Grammar}

theorem compileRules_eq_ok_iff : compileRules resolve name rules = .ok g ↔
    g.name = name ∧ List.Forall₂ (fun t rule => RuleTable.compile resolve t = .ok rule) rules g.rules ∧
      Grammar.checkRules name [] g.rules = .ok () := by
  rw [← mapM_eq_ok_iff, compileRules]
  cases rules.mapM (RuleTable.compile resolve) with
  | error e =>
    constructor
    · intro h
      cases h
    · rintro ⟨-, h, -⟩
      cases h
  | ok compiled =>
    change Grammar.build name compiled = .ok g ↔ _
    rw [Grammar.build]
    constructor
    · intro h
      cases hcheck : Grammar.checkRules name [] compiled with
      | error e =>
        rw [hcheck] at h
        cases h
      | ok =>
        rw [hcheck] at h
        cases h
        exact ⟨rfl, rfl, hcheck⟩
    · rintro ⟨rfl, hrules, hcheck⟩
      obtain ⟨name, rules'⟩ := g
      cases hrules
      rw [hcheck]
      rfl

theorem outline_of_compileRules {compiled : List Rule}
    (h : List.Forall₂ (fun t rule => RuleTable.compile resolve t = .ok rule) rules compiled) :
    compiled.map (fun r => (r.name, r.patterns.isEmpty)) =
      rules.map fun t => (t.name, t.patterns.isEmpty) := by
  induction h with
  | nil => rfl
  | cons hrule _ ih => rw [List.map_cons, List.map_cons, ih, RuleTable.outline_of_compile hrule]

theorem compileRules_of_widens (hwidens : Widens resolve resolve')
    (h : compileRules resolve name rules = .ok g) : ∃ g', compileRules resolve' name rules = .ok g' := by
  obtain ⟨-, hrules, hcheck⟩ := compileRules_eq_ok_iff.mp h
  obtain ⟨rules', hrules'⟩ := exists_forall₂ hrules
    fun _ _ hrule => RuleTable.compile_of_widens hwidens hrule
  refine ⟨.mk name rules', compileRules_eq_ok_iff.mpr ⟨rfl, hrules', ?_⟩⟩
  have houtline := (outline_of_compileRules hrules').trans (outline_of_compileRules hrules).symm
  rwa [Grammar.rules, Grammar.checkRules_congr houtline]

end CompileRules

section CompileNested

variable {resolve resolve' : String → Option Grammar}

/-- Behind the nested grammars, the scope has their names. -/
theorem keys_compileNested {scope out : List (String × Grammar)} {nested : List NestedTable}
    (h : compileNested resolve scope nested = .ok out) :
    out.map (·.1) = (nested.map (·.name)).reverse ++ scope.map (·.1) := by
  induction nested generalizing scope with
  | nil =>
    cases h
    rfl
  | cons t nested ih =>
    rw [compileNested] at h
    split at h
    · rw [ih h, List.map_cons, List.map_cons, List.reverse_cons, List.append_assoc]
      rfl
    · cases h

theorem compileNested_of_widens (hwidens : Widens resolve resolve')
    {scope scope' out : List (String × Grammar)} (hscope : scope.map (·.1) = scope'.map (·.1))
    {nested : List NestedTable} (h : compileNested resolve scope nested = .ok out) :
    ∃ out', compileNested resolve' scope' nested = .ok out' := by
  induction nested generalizing scope scope' with
  | nil => exact ⟨scope', rfl⟩
  | cons t nested ih =>
    rw [compileNested] at h
    split at h
    · next g hg =>
      obtain ⟨g', hg'⟩ := compileRules_of_widens (hwidens.inScope hscope) hg
      have hnames : ((t.name, g) :: scope).map (·.1) = ((t.name, g') :: scope').map (·.1) := by
        rw [List.map_cons, List.map_cons, hscope]
      obtain ⟨out', hout'⟩ := ih hnames h
      exact ⟨out', by rw [compileNested, hg']; exact hout'⟩
    · cases h

end CompileNested

namespace GrammarTable

variable {resolve resolve' : String → Option Grammar} {t : GrammarTable} {g : Grammar}

/-- A table that compiles still does where more grammars are known. -/
theorem compile_of_widens (hwidens : Widens resolve resolve') (h : t.compile resolve = .ok g) :
    ∃ g', t.compile resolve' = .ok g' := by
  rw [compile] at h
  split at h
  · next scope hscope =>
    obtain ⟨scope', hscope'⟩ := compileNested_of_widens hwidens rfl hscope
    have hkeys := (keys_compileNested hscope).trans (keys_compileNested hscope').symm
    obtain ⟨g', hg'⟩ := compileRules_of_widens (hwidens.inScope hkeys) h
    exact ⟨g', by rw [compile, hscope']; exact hg'⟩
  · cases h

/-- The grammars that the rules of the table name and the table does not define itself are those that the
resolver knows. -/
def Binds (resolve : String → Option Grammar) (t : GrammarTable) (g : Grammar) : Prop :=
  List.Forall₂ (RuleTable.Binds (t.nested.map (·.name)) resolve) t.rules g.rules

theorem binds_of_compile (h : t.compile resolve = .ok g) : t.Binds resolve g := by
  rw [compile] at h
  split at h
  · next scope hscope =>
    have hown : scope.map (·.1) ⊆ t.nested.map (·.name) := by
      rw [keys_compileNested hscope, List.map_nil, List.append_nil]
      exact List.reverse_subset.mpr fun _ hname => hname
    exact (compileRules_eq_ok_iff.mp h).2.1.imp fun _ _ hrule => RuleTable.binds_of_compile hown hrule
  · cases h

end GrammarTable

end Highlight
