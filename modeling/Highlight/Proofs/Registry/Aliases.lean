import Highlight.Proofs.Registry.History
import Highlight.Proofs.Text.Lowercase

/-!
# Listing further names and looking them up

`aliasesOf` goes through the further names and compares what they lead to with the name as it is spelled,
while `get?` takes a name in lowercase and lets the names of grammars go first. So the two agree on a
spelling of a grammar's name only if that is in lowercase, or nothing is to be listed; and if no further name
that is listed has become the name of another grammar.
-/

namespace Highlight

namespace Registry

open Registration (named? target?)

variable {r : Registry} {log : List Registration}

theorem nodup_aliases_replay : ((empty.replay log).aliases.map (·.1)).Nodup := by
  induction log with
  | nil => exact .nil
  | cons x log ih => exact nodup_setKeys ih

/-- A further name leads to a name exactly if it is listed for it. -/
theorem mem_aliasesOf_replay {a name : String} :
    a ∈ (empty.replay log).aliasesOf name ↔ target? log a = some name := by
  rw [mem_aliasesOf, mem_iff_lookup nodup_aliases_replay, aliases_replay]

/-- Grammars stand under their names in lowercase. -/
theorem lowercase_name_of_named? {name : String} {g : Grammar} (h : named? log name = some g) :
    Text.lowercase g.name = name := by
  obtain ⟨x, hx, rfl⟩ := Option.map_eq_some_iff.mp h
  have hname := List.find?_some hx
  exact eq_of_beq hname

theorem lowercase_of_target? {a name : String} (h : target? log a = some name) :
    Text.lowercase a = a ∧ Text.lowercase name = name := by
  obtain ⟨x, hx, rfl⟩ := Option.map_eq_some_iff.mp h
  have hmem : a ∈ x.furtherNames := by simpa using List.find?_some hx
  obtain ⟨b, -, rfl⟩ := List.mem_map.mp hmem
  exact ⟨Text.lowercase_lowercase b, Text.lowercase_lowercase x.grammar.name⟩

theorem mem_names_replay {name : String} : name ∈ (empty.replay log).names ↔ (named? log name).isSome := by
  rw [mem_names, grammars_replay]

/-- By a name, the grammar is found that has it. -/
theorem get?_of_named? {query : String} {g : Grammar} (h : named? log (Text.lowercase query) = some g) :
    (empty.replay log).get? query = some g := by
  rw [get?_replay, Registration.find?, h, Option.some_or]

/-- By what is no name, the grammar is found that it leads to as a further name. -/
theorem get?_of_not_mem_names {query : String} (h : Text.lowercase query ∉ (empty.replay log).names) :
    (empty.replay log).get? query = (target? log (Text.lowercase query)).bind (named? log) := by
  have hnone : named? log (Text.lowercase query) = none := by
    rwa [mem_names_replay, Option.not_isSome_iff_eq_none] at h
  rw [get?_replay, Registration.find?, hnone, Option.none_or]

/-- A grammar that is found by its own name stands under it. -/
theorem named?_of_get? {g : Grammar} (h : (empty.replay log).get? g.name = some g) :
    named? log (Text.lowercase g.name) = some g := by
  by_cases hname : Text.lowercase g.name ∈ (empty.replay log).names
  · obtain ⟨g', hg'⟩ := Option.isSome_iff_exists.mp (mem_names_replay.mp hname)
    rw [get?_of_named? hg', Option.some.injEq] at h
    rw [hg', h]
  · rw [get?_of_not_mem_names hname] at h
    obtain ⟨name, -, hnamed⟩ := Option.bind_eq_some_iff.mp h
    rwa [lowercase_name_of_named? hnamed]

/-- What is listed for a spelling of a grammar's name is what leads to the grammar. -/
structure Agrees (r : Registry) (g : Grammar) (spelling : String) : Prop where
  sound : ∀ a ∈ r.aliasesOf spelling, r.get? a = r.get? spelling
  /-- What is no name of a grammar, but leads to this one as a further name, is listed. -/
  complete : ∀ a, Text.lowercase a ∉ r.names → r.get? a = some g →
    Text.lowercase a ∈ r.aliasesOf spelling

/-- In whatever registry, and for whatever spelling of a grammar's name, the list agrees with the lookup
exactly if no listed name is that of another grammar, and the name is spelled in lowercase or there is nothing
to list. -/
theorem aliasesOf_agrees_iff {start : Registry} {first : List Registration} (h : Origin start first)
    (steps : List Step) {g : Grammar} {spelling : String}
    (hg : (start.run steps).get? g.name = some g)
    (hspelling : Text.lowercase spelling = Text.lowercase g.name) :
    Agrees (start.run steps) g spelling ↔
      (∀ a ∈ (start.run steps).aliasesOf spelling, a ∈ (start.run steps).names → a = spelling) ∧
      (Text.lowercase spelling = spelling ∨
        ∀ a, Text.lowercase a ∉ (start.run steps).names → (start.run steps).get? a ≠ some g) := by
  obtain rfl := h.eq_replay
  rw [run_eq_replay] at hg ⊢
  generalize (empty.replay first).runLog first steps = log at hg ⊢
  have hnamed := named?_of_get? hg
  -- what is listed has a further name and the spelling in lowercase, and the spelling is the name
  have hlisted : ∀ a, a ∈ (empty.replay log).aliasesOf spelling → Text.lowercase a = a ∧
      Text.lowercase spelling = spelling ∧ target? log a = some spelling ∧
      (empty.replay log).get? spelling = some g := by
    intro a ha
    have htarget := mem_aliasesOf_replay.mp ha
    obtain ⟨hfurther, hlower⟩ := lowercase_of_target? htarget
    exact ⟨hfurther, hlower, htarget, get?_of_named? (hspelling ▸ hnamed)⟩
  constructor
  · rintro ⟨hsound, hcomplete⟩
    refine ⟨?_, ?_⟩
    · intro a ha hname
      obtain ⟨hfurther, hlower, -, hget⟩ := hlisted a ha
      obtain ⟨g', hg'⟩ := Option.isSome_iff_exists.mp (mem_names_replay.mp hname)
      have hother : (empty.replay log).get? a = some g' := get?_of_named? (hfurther.symm ▸ hg')
      rw [hsound a ha, hget, Option.some.injEq] at hother
      rw [← lowercase_name_of_named? hg', ← hother, ← hspelling, hlower]
    · refine Decidable.or_iff_not_imp_left.mpr fun hupper a hname hget => ?_
      exact hupper (hlisted _ (hcomplete a hname hget)).2.1
  · rintro ⟨hshadowed, hcase⟩
    refine ⟨?_, ?_⟩
    · intro a ha
      obtain ⟨hfurther, hlower, htarget, hget⟩ := hlisted a ha
      by_cases hname : a ∈ (empty.replay log).names
      · rw [hshadowed a ha hname]
      · rw [hget, get?_of_not_mem_names (by rwa [hfurther]), hfurther, htarget, Option.bind_some,
          ← hlower, hspelling, hnamed]
    · intro a hname hget
      rcases hcase with hlower | hnone
      · rw [get?_of_not_mem_names hname] at hget
        obtain ⟨name, htarget, hnamed'⟩ := Option.bind_eq_some_iff.mp hget
        have hname' : name = spelling := by
          rw [← lowercase_name_of_named? hnamed', ← hspelling, hlower]
        exact mem_aliasesOf_replay.mpr (hname' ▸ htarget)
      · exact absurd hget (hnone a hname)

/-- The only name there is, is the spelling. -/
theorem agrees_demo :
    Origin empty [] ∧
    (empty.run [.register (.mk "demo" []) ["D"]]).get? (Grammar.mk "demo" []).name = some (.mk "demo" []) ∧
    Text.lowercase "demo" = Text.lowercase (Grammar.mk "demo" []).name ∧
    Agrees (empty.run [.register (.mk "demo" []) ["D"]]) (.mk "demo" []) "demo" := by
  refine ⟨.empty, rfl, rfl, (aliasesOf_agrees_iff .empty _ rfl rfl).mpr ⟨?_, .inl (by decide)⟩⟩
  intro a _ hname
  rw [mem_names, List.lookup_isSome_iff] at hname
  obtain ⟨pair, hpair, ha⟩ := hname
  rw [List.mem_singleton.mp hpair] at ha
  exact eq_of_beq ha

/-- A grammar is called `Demo` and has a further name. That leads to it, but is not listed for it. -/
theorem not_forall_agrees :
    ¬ ∀ start first, Origin start first → ∀ (steps : List Step) (g : Grammar) (spelling : String),
      (start.run steps).get? g.name = some g → Text.lowercase spelling = Text.lowercase g.name →
        Agrees (start.run steps) g spelling := by
  intro hall
  have hagrees := hall empty [] .empty [.register (.mk "Demo" []) ["d"]] (.mk "Demo" []) "Demo" rfl rfl
  have hlisted := hagrees.complete "d" (by rw [mem_names]; decide) rfl
  exact absurd (mem_aliasesOf.mp hlisted) (by decide)

end Registry

end Highlight
