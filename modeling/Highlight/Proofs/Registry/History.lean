import Highlight.Registry.Directory
import Highlight.Proofs.Registry.Keys
import Highlight.Proofs.Token.Locality

/-!
# What a registry has been told

A registry changes when a grammar is registered, when a table is loaded, and when a directory of
tables is. What fails changes nothing, and all the rest comes to registrations: `stepLog` tells
which, and `replay` makes them. So what a registry knows can be told from the registrations alone.
Lists of registrations have the last one first, so that the first one found is the one that counts.
-/

namespace Highlight

structure Registration where
  grammar : Grammar
  aliases : List String

namespace Registration

/-- The name under which the grammar is found. -/
def name (x : Registration) : String := Text.lowercase x.grammar.name

def furtherNames (x : Registration) : List String := x.aliases.map Text.lowercase

/-- The grammar that was last registered under a name. -/
def named? (log : List Registration) (name : String) : Option Grammar :=
  (log.find? fun x => x.name == name).map (·.grammar)

/-- The name of the last registration that lists a further name. -/
def target? (log : List Registration) (further : String) : Option String :=
  (log.find? fun x => x.furtherNames.contains further).map (·.name)

/-- What a query finds: the last grammar of that name, or else the last grammar that has the name of
the last registration with that further name. -/
def find? (log : List Registration) (query : String) : Option Grammar :=
  (named? log (Text.lowercase query)).or ((target? log (Text.lowercase query)).bind (named? log))

variable {log : List Registration}

theorem named?_cons (x : Registration) (name : String) :
    named? (x :: log) name = if name = x.name then some x.grammar else named? log name := by
  rw [named?, List.find?_cons]
  by_cases h : name = x.name
  · simp [h]
  · have hne : (x.name == name) = false := by simpa using Ne.symm h
    rw [hne, if_neg h]
    rfl

theorem target?_cons (x : Registration) (further : String) :
    target? (x :: log) further =
      if further ∈ x.furtherNames then some x.name else target? log further := by
  rw [target?, List.find?_cons]
  by_cases h : further ∈ x.furtherNames
  · simp [h]
  · have hnot : x.furtherNames.contains further = false := by simpa using h
    rw [hnot, if_neg h]
    rfl

theorem named?_isSome {name : String} : (named? log name).isSome ↔ ∃ x ∈ log, x.name = name := by
  simp [named?]

/-- A further name that was listed leads to a grammar. -/
theorem find?_isSome {x : Registration} (hx : x ∈ log) {a : String} (ha : a ∈ x.aliases) :
    (find? log a).isSome := by
  have hlisted : (log.find? fun x => x.furtherNames.contains (Text.lowercase a)).isSome := by
    rw [List.find?_isSome]
    exact ⟨x, hx, by simpa [furtherNames] using ⟨a, ha, rfl⟩⟩
  obtain ⟨y, hy⟩ := Option.isSome_iff_exists.mp hlisted
  have htarget : target? log (Text.lowercase a) = some y.name := by rw [target?, hy, Option.map_some]
  have hnamed : (named? log y.name).isSome := named?_isSome.mpr ⟨y, List.mem_of_find?_eq_some hy, rfl⟩
  rw [find?, Option.isSome_or, htarget, Option.bind_some, hnamed, Bool.or_true]

end Registration

namespace Registry

open Registration (named? target?)

variable {r : Registry} {log : List Registration}

theorem mem_aliasesOf {a name : String} : a ∈ r.aliasesOf name ↔ (a, name) ∈ r.aliases := by
  simp [aliasesOf, sortTexts]

theorem mem_names {name : String} : name ∈ r.names ↔ (r.grammars.lookup name).isSome := by
  rw [names, sortTexts, List.mem_mergeSort, List.lookup_isSome_iff, List.mem_map]
  constructor
  · rintro ⟨p, hp, rfl⟩
    exact ⟨p, hp, BEq.rfl⟩
  · rintro ⟨p, hp, hname⟩
    exact ⟨p, hp, (eq_of_beq hname).symm⟩

/-- A registry after registrations, the last one first. -/
def replay (r : Registry) (log : List Registration) : Registry :=
  log.foldr (fun x r => r.register x.grammar x.aliases) r

theorem replay_append (a b : List Registration) : r.replay (a ++ b) = (r.replay b).replay a :=
  List.foldr_append

theorem grammars_replay (name : String) : (empty.replay log).grammars.lookup name = named? log name := by
  induction log with
  | nil => rfl
  | cons x log ih =>
    rw [Registration.named?_cons, ← ih]
    exact lookup_setKey name

theorem aliases_replay (further : String) :
    (empty.replay log).aliases.lookup further = target? log further := by
  induction log with
  | nil => rfl
  | cons x log ih =>
    rw [Registration.target?_cons, ← ih]
    exact lookup_setKeys further

theorem get?_replay (query : String) : (empty.replay log).get? query = Registration.find? log query := by
  have hbind : (target? log (Text.lowercase query)).bind (named? log) =
      ((empty.replay log).aliases.lookup (Text.lowercase query)).bind fun target =>
        (empty.replay log).grammars.lookup target := by
    simp only [aliases_replay, grammars_replay]
  rw [get?, Registration.find?, hbind, ← grammars_replay]
  cases (empty.replay log).grammars.lookup (Text.lowercase query) <;> rfl

theorem nodup_replay : ((empty.replay log).grammars.map (·.1)).Nodup := by
  induction log with
  | nil => exact .nil
  | cons x log ih => exact nodup_setKey ih

/-- Whatever a further name leads to has been registered. -/
theorem exists_of_mem_aliases {p : String × String} (h : p ∈ (empty.replay log).aliases) :
    ∃ x ∈ log, x.name = p.2 := by
  induction log with
  | nil => cases h
  | cons x log ih =>
    rcases mem_or_eq_of_mem_setKeys h with hbefore | hname
    · obtain ⟨y, hy, hname⟩ := ih hbefore
      exact ⟨y, List.mem_cons_of_mem x hy, hname⟩
    · exact ⟨x, List.mem_cons_self .., hname.symm⟩

/-- The names are in order, each of them once. -/
theorem names_replay : (empty.replay log).names.Pairwise (· < ·) := by
  have hnodup : (empty.replay log).names.Nodup :=
    (List.mergeSort_perm _ _).nodup_iff.mpr nodup_replay
  refine ((pairwise_sortTexts _).and hnodup).imp ?_
  rintro a b ⟨hle, hne⟩
  exact String.not_le.mp fun hge => hne (String.le_antisymm hle hge)

inductive Step where
  | register (g : Grammar) (aliases : List String)
  | loadTable (source : String)
  | loadDirectory (host : Host Id) (dir : String)

/-- The registry behind a change; if that fails it is the one before. -/
def apply (r : Registry) : Step → Registry
  | .register g aliases => r.register g aliases
  | .loadTable source =>
    match r.loadTable source with
    | .ok (r, _) => r
    | .error _ => r
  | .loadDirectory host dir =>
    match Id.run (r.loadDirectory host dir) with
    | .ok (r, _) => r
    | .error _ => r

/-- The registration that loading a table comes to; a faulty table comes to none. -/
def tableLog (r : Registry) (source : String) : List Registration :=
  match GrammarTable.parse source with
  | .error _ => []
  | .ok table =>
    match table.compile r.get? with
    | .error _ => []
    | .ok g => [⟨g, table.aliases⟩]

def tablesLog (r : Registry) : (sources : List (Option String)) → List Registration
  | [] => []
  | none :: rest => r.tablesLog rest
  | some source :: rest => (r.replay (r.tableLog source)).tablesLog rest ++ r.tableLog source

def stepLog (r : Registry) : Step → List Registration
  | .register g aliases => [⟨g, aliases⟩]
  | .loadTable source => r.tableLog source
  | .loadDirectory host dir =>
    match Id.run (host.listDirectory dir) with
    | .error _ => []
    | .ok entries =>
      r.tablesLog <| (tableNames entries).map fun name =>
        (Id.run (host.readText (Path.join dir name))).toOption

def run (r : Registry) (steps : List Step) : Registry := steps.foldl apply r

/-- All registrations, `log` being those so far. -/
def runLog (r : Registry) (log : List Registration) : List Step → List Registration
  | [] => log
  | step :: steps => (r.apply step).runLog (r.stepLog step ++ log) steps

theorem loadTable_eq_replay (source : String) :
    (match r.loadTable source with
      | .ok (r', _) => r'
      | .error _ => r) = r.replay (r.tableLog source) := by
  rw [loadTable, tableLog]
  cases GrammarTable.parse source with
  | error e => rfl
  | ok table =>
    dsimp only
    cases table.compile r.get? <;> rfl

theorem loadTables_eq_replay (sources : List (Option String)) :
    (r.loadTables sources).1 = r.replay (r.tablesLog sources) := by
  induction sources generalizing r with
  | nil => rfl
  | cons source rest ih =>
    cases source with
    | none => exact ih
    | some source =>
      -- the tables behind this one are loaded into what it leaves, so `r` is general
      have htable := loadTable_eq_replay (r := r) source
      rw [tablesLog, replay_append, ← htable, ← ih, loadTables]
      cases r.loadTable source <;> rfl

/-- A directory that can be listed is loaded table by table. -/
theorem run_loadDirectory (host : Host Id) (dir : String) :
    Id.run (r.loadDirectory host dir) =
      match Id.run (host.listDirectory dir) with
      | .error e => .error e
      | .ok entries => .ok <| r.loadTables <| (tableNames entries).map fun name =>
          (Id.run (host.readText (Path.join dir name))).toOption := by
  rw [loadDirectory, Id.run_bind]
  cases Id.run (host.listDirectory dir) with
  | error e => rfl
  | ok entries =>
    simp only [Id.run_bind, List.idRun_mapM, Id.run_pure, List.map_map]
    rfl

/-- What a step does is to make its registrations. -/
theorem apply_eq_replay (step : Step) : r.apply step = r.replay (r.stepLog step) := by
  cases step with
  | register g aliases => rfl
  | loadTable source => exact loadTable_eq_replay source
  | loadDirectory host dir =>
    rw [apply, stepLog, run_loadDirectory]
    cases Id.run (host.listDirectory dir) with
    | error e => rfl
    | ok entries => exact loadTables_eq_replay _

theorem run_eq_replay (steps : List Step) :
    (empty.replay log).run steps = empty.replay ((empty.replay log).runLog log steps) := by
  induction steps generalizing log with
  | nil => rfl
  | cons step steps ih =>
    -- `log` is general, since each step puts its registrations in front of those so far
    have hstep : (empty.replay log).apply step =
        empty.replay ((empty.replay log).stepLog step ++ log) := by
      rw [apply_eq_replay, replay_append]
    rw [run, List.foldl_cons, ← run, runLog, hstep, ih]

/-- The registries to begin with, and the registrations that made them. -/
inductive Origin : Registry → List Registration → Prop where
  | empty : Origin Registry.empty []
  | standard {r : Registry} {yaml json toml : Grammar} (hr : standard = .ok r)
      (hyaml : Builtin.yaml = .ok yaml) (hjson : Builtin.json = .ok json)
      (htoml : Builtin.toml = .ok toml) :
      Origin r [⟨toml, []⟩, ⟨json, ["webmanifest", "jsonc"]⟩, ⟨yaml, ["yml"]⟩]

theorem Origin.eq_replay (h : Origin r log) : r = Registry.empty.replay log := by
  cases h with
  | empty => rfl
  | standard hr hyaml hjson htoml =>
    rw [Registry.standard, hyaml, hjson, htoml] at hr
    exact (Except.ok.inj hr).symm

/-- A registry knows what the registrations say, and nothing else. -/
structure Knows (r : Registry) (log : List Registration) : Prop where
  get?_eq : ∀ query, r.get? query = Registration.find? log query
  /-- Every further name that was ever listed leads to a grammar. -/
  leads : ∀ x ∈ log, ∀ a ∈ x.aliases, (r.get? a).isSome
  targets : ∀ name, ∀ a ∈ r.aliasesOf name, name ∈ r.names
  /-- A grammar that takes the place of another one keeps the further names. -/
  keeps : ∀ step x, r.stepLog step = [x] →
    ∀ a ∈ r.aliasesOf x.name, a ∈ (r.apply step).aliasesOf x.name
  sorted : r.names.Pairwise (· < ·)
  mem_names_iff : ∀ name, name ∈ r.names ↔ ∃ x ∈ log, x.name = name

/-- Whatever steps a registry has taken, and whichever of them failed, it knows what was registered. -/
theorem knows_run {start : Registry} {first : List Registration} (h : Origin start first)
    (steps : List Step) : Knows (start.run steps) (start.runLog first steps) := by
  obtain rfl := h.eq_replay
  rw [run_eq_replay]
  -- from here on it does not matter how the registrations came about
  generalize (empty.replay first).runLog first steps = log
  have hnames : ∀ name, name ∈ (empty.replay log).names ↔ ∃ x ∈ log, x.name = name := by
    intro name
    rw [mem_names, grammars_replay, Registration.named?_isSome]
  refine ⟨get?_replay, ?_, ?_, ?_, names_replay, hnames⟩
  · intro x hx a ha
    rw [get?_replay]
    exact Registration.find?_isSome hx ha
  · intro name a ha
    exact (hnames name).mpr (exists_of_mem_aliases (mem_aliasesOf.mp ha))
  · intro step x hstep a ha
    rw [apply_eq_replay, hstep, mem_aliasesOf]
    exact mem_setKeys (mem_aliasesOf.mp ha)

/-- Two grammars of which the second takes the further name of the first, and a table in between that
is none. The name of the first goes before the second's further name. -/
theorem knows_run_blocks :
    Origin empty [] ∧
    (empty.run [.register Grammar.Blocks.grammar ["B"], .loadTable "[",
        .register Grammar.Blocks.inner ["blocks", "b"]]).get? "B" = some Grammar.Blocks.inner ∧
    (empty.run [.register Grammar.Blocks.grammar ["B"], .loadTable "[",
        .register Grammar.Blocks.inner ["blocks", "b"]]).get? "BLOCKS" =
      some Grammar.Blocks.grammar := by
  have h := (knows_run .empty [.register Grammar.Blocks.grammar ["B"], .loadTable "[",
    .register Grammar.Blocks.inner ["blocks", "b"]]).get?_eq
  refine ⟨.empty, (h "B").trans ?_, (h "BLOCKS").trans ?_⟩
  · rfl
  · rfl

end Registry

end Highlight
