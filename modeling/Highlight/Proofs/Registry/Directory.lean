import Highlight.Proofs.Registry.History
import Highlight.Proofs.Table.Compile

/-!
# Loading a directory is a fold that passes over what fails

A directory of tables is loaded file by file, in the order of the paths, each file on top of what the files
before it have left. A file fails if it cannot be read, or its table cannot be parsed or compiled there, and
then leaves everything as it was; so files that fail may as well be missing. A table may name, for the inside
of its patterns, whatever is known when its turn comes: all that was known before, and all that the files
before it have registered.
-/

namespace Highlight

namespace Registry

def readable (host : Host Id) (dir : String) (names : List String) : List String :=
  names.filterMap fun name => (Id.run (host.readText (Path.join dir name))).toOption

/-- Load a table on top of those before it, and count it. A faulty table changes nothing. -/
def loadNext (state : Registry × Nat) (source : String) : Registry × Nat :=
  match state.1.loadTable source with
  | .ok (r, _) => (r, state.2 + 1)
  | .error _ => state

def loadFiles (host : Host Id) (dir : String) (r : Registry) (names : List String) : Registry × Nat :=
  (readable host dir names).foldl loadNext (r, 0)

/-- Why a file of a directory is not loaded. -/
inductive Fails (host : Host Id) (dir : String) (r : Registry) (name : String) : Prop where
  | unreadable {e : FileError} (h : Id.run (host.readText (Path.join dir name)) = .error e)
  | malformed {source : String} {e : GrammarError}
      (h : Id.run (host.readText (Path.join dir name)) = .ok source)
      (hparse : GrammarTable.parse source = .error e)
  | faulty {source : String} {table : GrammarTable} {e : GrammarError}
      (h : Id.run (host.readText (Path.join dir name)) = .ok source)
      (hparse : GrammarTable.parse source = .ok table) (hcompile : table.compile r.get? = .error e)

variable {host : Host Id} {dir : String} {r : Registry}

theorem readable_append (a b : List String) :
    readable host dir (a ++ b) = readable host dir a ++ readable host dir b := List.filterMap_append

theorem loadFiles_append (a b : List String) :
    loadFiles host dir r (a ++ b) = (readable host dir b).foldl loadNext (loadFiles host dir r a) := by
  rw [loadFiles, readable_append, List.foldl_append, loadFiles]

/-- A file that fails leaves the registry and the count. -/
theorem Fails.foldl_eq {state : Registry × Nat} {name : String} (h : Fails host dir state.1 name) :
    (readable host dir [name]).foldl loadNext state = state := by
  cases h with
  | unreadable h =>
    rw [readable, List.filterMap_cons, h]
    rfl
  | malformed h hparse =>
    rw [readable, List.filterMap_cons, h]
    simp [Except.toOption, loadNext, loadTable, hparse]
  | faulty h hparse hcompile =>
    rw [readable, List.filterMap_cons, h]
    simp [Except.toOption, loadNext, loadTable, hparse, hcompile]

/-- Loading tables one after another is this fold. -/
theorem foldl_loadNext_eq (read : String → Option String) (names : List String) (n : Nat) :
    (names.filterMap read).foldl loadNext (r, n) =
      ((r.loadTables (names.map read)).1, n + (r.loadTables (names.map read)).2) := by
  induction names generalizing r n with
  | nil => rfl
  | cons name rest ih =>
    cases hread : read name with
    | none =>
      rw [List.filterMap_cons_none hread, List.map_cons, hread]
      exact ih n
    | some source =>
      rw [List.filterMap_cons_some hread, List.map_cons, hread, List.foldl_cons, loadNext, loadTables]
      dsimp only
      cases r.loadTable source with
      | error e => exact ih n
      | ok loaded =>
        obtain ⟨r', g⟩ := loaded
        dsimp only
        rw [ih, Nat.add_assoc, Nat.add_comm 1]

/-- A directory that can be listed is loaded file by file. -/
theorem run_loadDirectory_eq_loadFiles {entries : List String}
    (h : Id.run (host.listDirectory dir) = .ok entries) :
    Id.run (r.loadDirectory host dir) = .ok (loadFiles host dir r (tableNames entries)) := by
  rw [run_loadDirectory, h, loadFiles, readable, foldl_loadNext_eq, Nat.zero_add]

theorem tableNames_perm (entries : List String) :
    (tableNames entries).Perm (entries.filter fun name => Path.extension? name == some "toml") :=
  List.mergeSort_perm _ _

/-- The names of the tables are in order. -/
theorem tableNames_eq {names entries : List String}
    (h : names.Perm (entries.filter fun name => Path.extension? name == some "toml"))
    (hsorted : names.Pairwise (· ≤ ·)) : names = tableNames entries :=
  eq_of_perm_of_pairwise (h.trans (tableNames_perm entries).symm) hsorted (pairwise_sortTexts _)

theorem mem_of_mem_tableNames {name : String} {entries : List String} (h : name ∈ tableNames entries) :
    name ∈ entries :=
  List.mem_of_mem_filter ((tableNames_perm entries).mem_iff.mp h)

/-- Fewer files are as many tables fewer. -/
theorem tableNames_filter (entries : List String) (keep : String → Bool) :
    tableNames (entries.filter keep) = (tableNames entries).filter keep := by
  refine (tableNames_eq ?_ ((pairwise_sortTexts _).filter keep)).symm
  rw [List.filter_comm]
  exact (tableNames_perm entries).filter keep

/-- Where two hosts have the same files, the same comes of loading them. -/
theorem readable_congr {host' : Host Id} {names : List String}
    (h : ∀ name ∈ names, host'.readText (Path.join dir name) = host.readText (Path.join dir name)) :
    readable host' dir names = readable host dir names :=
  List.filterMap_congr fun name hname => by rw [h name hname]

/-- Files that fail when their turn comes may as well be missing. -/
theorem foldl_filter {keep : String → Bool} {names : List String} (before : List String)
    (hfails : ∀ a name b, names = a ++ name :: b → keep name = false →
      Fails host dir (loadFiles host dir r (before ++ a)).1 name) :
    (readable host dir (names.filter keep)).foldl loadNext (loadFiles host dir r before) =
      (readable host dir names).foldl loadNext (loadFiles host dir r before) := by
  induction names generalizing before with
  | nil => rfl
  | cons name rest ih =>
    -- the files behind this one come when it has been loaded, so `before` is general
    have hrest := ih (before ++ [name]) (by
      intro a name' b hcut
      rw [List.append_assoc]
      exact hfails (name :: a) name' b (by rw [hcut]; rfl))
    rw [loadFiles_append] at hrest
    have hcons : ∀ names, readable host dir (name :: names) =
        readable host dir [name] ++ readable host dir names := fun names => readable_append [name] names
    cases hkeep : keep name with
    | true =>
      rw [List.filter_cons_of_pos hkeep, hcons rest, hcons (rest.filter keep), List.foldl_append,
        List.foldl_append]
      exact hrest
    | false =>
      have hfail := hfails [] name rest rfl hkeep
      rw [List.append_nil] at hfail
      rw [hfail.foldl_eq] at hrest
      rw [List.filter_cons_of_neg (by simp [hkeep]), hcons, List.foldl_append, hfail.foldl_eq]
      exact hrest

section Known

open Registration (named? target?)

variable {log : List Registration}

/-- What is found by a name, in a registry and behind registrations. -/
theorem lookup_grammars_replay (name : String) :
    (r.replay log).grammars.lookup name = (named? log name).or (r.grammars.lookup name) := by
  induction log with
  | nil => rfl
  | cons x log ih =>
    rw [Registration.named?_cons]
    have hstep : (r.replay (x :: log)).grammars.lookup name =
        if name = x.name then some x.grammar else (r.replay log).grammars.lookup name := lookup_setKey name
    by_cases hname : name = x.name
    · rw [if_pos hname] at hstep ⊢
      exact hstep
    · rw [if_neg hname] at hstep ⊢
      exact hstep.trans ih

theorem lookup_aliases_replay (further : String) :
    (r.replay log).aliases.lookup further = (target? log further).or (r.aliases.lookup further) := by
  induction log with
  | nil => rfl
  | cons x log ih =>
    rw [Registration.target?_cons]
    have hstep : (r.replay (x :: log)).aliases.lookup further =
        if further ∈ x.furtherNames then some x.name else (r.replay log).aliases.lookup further :=
      lookup_setKeys further
    by_cases hfurther : further ∈ x.furtherNames
    · rw [if_pos hfurther] at hstep ⊢
      exact hstep
    · rw [if_neg hfurther] at hstep ⊢
      exact hstep.trans ih

theorem isSome_get?_iff {query : String} :
    (r.get? query).isSome ↔ (r.grammars.lookup (Text.lowercase query)).isSome ∨
      ∃ name, r.aliases.lookup (Text.lowercase query) = some name ∧ (r.grammars.lookup name).isSome := by
  rw [get?]
  cases r.grammars.lookup (Text.lowercase query) with
  | some g => simp
  | none =>
    constructor
    · intro h
      obtain ⟨g, hg⟩ := Option.isSome_iff_exists.mp h
      obtain ⟨name, hname, hg⟩ := Option.bind_eq_some_iff.mp hg
      exact .inr ⟨name, hname, by rw [hg]; rfl⟩
    · rintro (h | ⟨name, hname, h⟩)
      · cases h
      · rw [hname]
        exact h

theorem isSome_lookup_replay {name : String}
    (h : (r.grammars.lookup name).isSome ∨ ∃ x ∈ log, x.name = name) :
    ((r.replay log).grammars.lookup name).isSome := by
  rw [lookup_grammars_replay, Option.isSome_or, Bool.or_eq_true, Registration.named?_isSome]
  exact h.symm

theorem exists_of_target? {further name : String} (h : target? log further = some name) :
    ∃ x ∈ log, x.name = name := by
  obtain ⟨x, hx, rfl⟩ := Option.map_eq_some_iff.mp h
  exact ⟨x, List.mem_of_find?_eq_some hx, rfl⟩

/-- Behind registrations, all is known that was known before, and all names that were registered. -/
theorem isSome_get?_replay {query : String}
    (h : (r.get? query).isSome ∨ ∃ x ∈ log,
      Text.lowercase query = x.name ∨ Text.lowercase query ∈ x.furtherNames) :
    ((r.replay log).get? query).isSome := by
  rw [isSome_get?_iff, lookup_aliases_replay]
  rw [isSome_get?_iff] at h
  -- a further name that was registered leads to a name that was
  cases htarget : target? log (Text.lowercase query) with
  | some name => exact .inr ⟨name, rfl, isSome_lookup_replay (.inr (exists_of_target? htarget))⟩
  | none =>
    rcases h with (hname | ⟨name, hfurther, hname⟩) | ⟨x, hx, hname | hfurther⟩
    · exact .inl (isSome_lookup_replay (.inl hname))
    · exact .inr ⟨name, hfurther, isSome_lookup_replay (.inl hname)⟩
    · exact .inl (isSome_lookup_replay (.inr ⟨x, hx, hname.symm⟩))
    · rw [target?, Option.map_eq_none_iff, List.find?_eq_none] at htarget
      exact absurd (by simpa using hfurther) (htarget x hx)

end Known

/-- The registrations that loading files comes to, the last one first. -/
def filesLog (host : Host Id) (dir : String) (r : Registry) (names : List String) : List Registration :=
  r.tablesLog (names.map fun name => (Id.run (host.readText (Path.join dir name))).toOption)

theorem loadFiles_eq_replay (names : List String) :
    (loadFiles host dir r names).1 = r.replay (filesLog host dir r names) := by
  rw [loadFiles, readable, foldl_loadNext_eq, loadTables_eq_replay]
  rfl

/-- What a table may name for the inside of its patterns when files have been loaded, and what it gets. -/
structure Offers (host : Host Id) (dir : String) (r : Registry) (names : List String) : Prop where
  /-- All that was known before is known, and all that the files have registered. -/
  known : ∀ query, ((r.get? query).isSome ∨ ∃ x ∈ filesLog host dir r names,
      Text.lowercase query = x.name ∨ Text.lowercase query ∈ x.furtherNames) →
    ((loadFiles host dir r names).1.get? query).isSome
  /-- By the name of a grammar, the last one is known that a file has registered by that name. -/
  last : ∀ query g, Registration.named? (filesLog host dir r names) (Text.lowercase query) = some g →
    (loadFiles host dir r names).1.get? query = some g
  /-- A table that would compile if no more than this was known is loaded, and its rules get what is
  known by the names that they ask for. -/
  loads : ∀ name source table resolve g,
    Id.run (host.readText (Path.join dir name)) = .ok source → GrammarTable.parse source = .ok table →
    Widens resolve (loadFiles host dir r names).1.get? → table.compile resolve = .ok g →
    ∃ g', ¬ Fails host dir (loadFiles host dir r names).1 name ∧
      (loadFiles host dir r names).1.loadTable source =
        .ok ((loadFiles host dir r names).1.register g' table.aliases, g') ∧
      table.Binds (loadFiles host dir r names).1.get? g'

theorem not_fails_of_loadTable {name source : String} {loaded : Registry × Grammar}
    (hread : Id.run (host.readText (Path.join dir name)) = .ok source)
    (h : r.loadTable source = .ok loaded) : ¬ Fails host dir r name := by
  rintro (hfail | ⟨hfail, hparse⟩ | ⟨hfail, hparse, hcompile⟩)
  · rw [hread] at hfail
    cases hfail
  · obtain rfl := Except.ok.inj (hread.symm.trans hfail)
    rw [loadTable, hparse] at h
    cases h
  · obtain rfl := Except.ok.inj (hread.symm.trans hfail)
    rw [loadTable, hparse] at h
    dsimp only at h
    rw [hcompile] at h
    cases h

theorem offers (host : Host Id) (dir : String) (r : Registry) (names : List String) :
    Offers host dir r names := by
  refine ⟨?_, ?_, ?_⟩
  · intro query hquery
    rw [loadFiles_eq_replay]
    exact isSome_get?_replay hquery
  · intro query g hlast
    rw [loadFiles_eq_replay, get?, lookup_grammars_replay, hlast, Option.some_or]
  · intro name source table resolve g hread hparse hwidens hcompile
    obtain ⟨g', hg'⟩ := GrammarTable.compile_of_widens hwidens hcompile
    have hload : (loadFiles host dir r names).1.loadTable source =
        .ok ((loadFiles host dir r names).1.register g' table.aliases, g') := by
      rw [loadTable, hparse]
      dsimp only
      rw [hg']
    exact ⟨g', not_fails_of_loadTable hread hload, hload, GrammarTable.binds_of_compile hg'⟩

/-- How a directory with some entries is loaded. -/
structure Tolerates (host : Host Id) (dir : String) (r : Registry) (entries : List String) : Prop where
  /-- The tables are loaded in the order of their paths, each on top of those before it. -/
  fold : ∀ names, names.Perm (entries.filter fun name => Path.extension? name == some "toml") →
    names.Pairwise (· ≤ ·) → Id.run (r.loadDirectory host dir) = .ok (loadFiles host dir r names)
  /-- A file that fails leaves the registry and the count. -/
  failed : ∀ before name after, tableNames entries = before ++ name :: after →
    Fails host dir (loadFiles host dir r before).1 name →
    loadFiles host dir r (before ++ [name]) = loadFiles host dir r before
  /-- If files are missing that fail when their turn comes, nothing changes. -/
  removed : ∀ (host' : Host Id) (keep : String → Bool),
    Id.run (host'.listDirectory dir) = .ok (entries.filter keep) →
    (∀ name ∈ entries, keep name = true →
      host'.readText (Path.join dir name) = host.readText (Path.join dir name)) →
    (∀ before name after, tableNames entries = before ++ name :: after → keep name = false →
      Fails host dir (loadFiles host dir r before).1 name) →
    Id.run (r.loadDirectory host' dir) = Id.run (r.loadDirectory host dir)
  /-- Nor does anything if the entries come in another order. -/
  reordered : ∀ (host' : Host Id) entries', Id.run (host'.listDirectory dir) = .ok entries' →
    entries'.Perm entries →
    (∀ name ∈ entries, host'.readText (Path.join dir name) = host.readText (Path.join dir name)) →
    Id.run (r.loadDirectory host' dir) = Id.run (r.loadDirectory host dir)
  inside : ∀ before name after, tableNames entries = before ++ name :: after →
    Offers host dir r before

/-- Loading a directory is a fold that passes over what fails. If the directory cannot be listed, that is
an error and changes nothing. -/
theorem loadDirectory_tolerates (host : Host Id) (dir : String) (r : Registry) :
    match Id.run (host.listDirectory dir) with
    | .ok entries => Tolerates host dir r entries
    | .error e => Id.run (r.loadDirectory host dir) = .error e ∧ r.apply (.loadDirectory host dir) = r := by
  cases hlist : Id.run (host.listDirectory dir) with
  | error e =>
    have hload : Id.run (r.loadDirectory host dir) = .error e := by
      rw [run_loadDirectory, hlist]
    exact ⟨hload, by rw [apply, hload]⟩
  | ok entries =>
    have hload := run_loadDirectory_eq_loadFiles (r := r) hlist
    refine ⟨?_, ?_, ?_, ?_, fun before _ _ _ => offers host dir r before⟩
    · intro names hperm hsorted
      rw [hload, tableNames_eq hperm hsorted]
    · intro before name after _ hfail
      rw [loadFiles_append, hfail.foldl_eq]
    · intro host' keep hlist' hread hfails
      have hfiles : readable host' dir ((tableNames entries).filter keep) =
          readable host dir ((tableNames entries).filter keep) := by
        refine readable_congr fun name hname => ?_
        obtain ⟨hname, hkeep⟩ := List.mem_filter.mp hname
        exact hread name (mem_of_mem_tableNames hname) hkeep
      rw [hload, run_loadDirectory_eq_loadFiles hlist', tableNames_filter, loadFiles, hfiles]
      exact congrArg Except.ok (foldl_filter [] hfails)
    · intro host' entries' hlist' hperm hread
      have hnames : tableNames entries' = tableNames entries :=
        tableNames_eq ((tableNames_perm entries').trans (hperm.filter _)) (pairwise_sortTexts _)
      have hfiles : readable host' dir (tableNames entries) = readable host dir (tableNames entries) :=
        readable_congr fun name hname => hread name (mem_of_mem_tableNames hname)
      rw [hload, run_loadDirectory_eq_loadFiles hlist', hnames, loadFiles, hfiles, loadFiles]

/-- A directory with a table that uses another one, a table that is none, and a file that cannot be read. -/
def wordsHost : Host Id where
  home := none
  readText path :=
    if path == "d/a.toml" then .ok "name = \"Word\"\n"
    else if path == "d/b.toml" then .ok "["
    else if path == "d/c.toml" then
      .ok "name = \"line\"\n[[token]]\nname = \"text\"\n[[token.pattern]]\nregex = \"a\"\ninside = \"word\"\n"
    else .error .notFound
  listDirectory _ := .ok ["c.toml", "notes.txt", "b.toml", "gone.toml", "a.toml"]
  readInput := .ok ""
  terminal := false

/-- The table that comes last finds the first one by its name in lowercase. -/
theorem loadDirectory_tolerates_words :
    ∃ loaded, Id.run (empty.loadDirectory wordsHost "d") = .ok loaded ∧ loaded.2 = 2 ∧
      (loaded.1.get? "LINE").isSome := by
  have h : Tolerates wordsHost "d" empty ["c.toml", "notes.txt", "b.toml", "gone.toml", "a.toml"] :=
    loadDirectory_tolerates wordsHost "d" empty
  have hload := h.fold ["a.toml", "b.toml", "c.toml", "gone.toml"] (by decide +kernel) (by decide +kernel)
  exact ⟨_, hload, by decide +kernel, by decide +kernel⟩

end Registry

end Highlight
