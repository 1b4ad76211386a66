import Highlight.Proofs.Config.Order

/-!
# Which classes a configured style reaches

A setting for the style of a class is found by its key in lowercase, while the classes of tokens are
compared as they are spelled. So the setting reaches the class whose name is the lowercase form of the one in
the setting: the class itself exactly if its name is in lowercase.
-/

namespace Highlight

def Settings.styleLine (name spec : String) : List Char := ("style." ++ name ++ " = " ++ spec).toList

/-- Every token that the theme finds in a class gets a style: those with the class as their other kind, and
those with it as their kind and no other kind that is in the theme. -/
structure Theme.Reaches (t : Theme) (name : String) (st : Style) : Prop where
  entry : t.get? name = some st
  altKind : ∀ kind, t.styleFor kind (some name) = st
  kind : ∀ altKind, (∀ other, altKind = some other → t.get? other = none) → t.styleFor name altKind = st

theorem Theme.reaches_iff {t : Theme} {name : String} {st : Style} :
    t.Reaches name st ↔ t.get? name = some st := by
  refine ⟨Reaches.entry, fun h => ⟨h, ?_, ?_⟩⟩
  · intro kind
    rw [styleFor, Option.bind_some, h]
    rfl
  · intro altKind hnone
    have halt : altKind.bind t.get? = none := Option.bind_eq_none_iff.mpr fun other hother => hnone other hother
    rw [styleFor, halt, h]
    rfl

namespace Settings

/-- A line with nothing but blanks sets nothing. -/
theorem not_lineSets_of_blank {line : List Char} (h : ∀ c ∈ line, isBlank c = true) (key value : String) :
    ¬ LineSets line key value := by
  intro hset
  obtain ⟨name, rest, htrim, -⟩ := hset.cut
  rw [Text.trim, List.dropWhile_eq_nil_iff.mpr h] at htrim
  simp [Text.trimEnd] at htrim

/-- The line that sets the style of a class is trimmed at its end only. -/
theorem trim_style (cs : List Char) : Text.trim ("style.".toList ++ cs) = "style.".toList ++ Text.trimEnd cs := by
  have hstyle : "style.".toList = "style".toList ++ ['.'] := by decide
  have hfront : ("style.".toList ++ cs).dropWhile isBlank = "style".toList ++ '.' :: cs := by
    rw [hstyle, List.append_assoc]
    exact List.dropWhile_cons_of_neg (by decide)
  rw [Text.trim, hfront, Text.trimEnd_append_cons (by decide), hstyle, List.append_assoc]
  rfl

theorem lineSets_styleLine {name : String} (hname : '=' ∉ name.toList)
    (hend : Text.trimEnd name.toList = name.toList) (spec : String) :
    ∃ value, LineSets (styleLine name spec) (Text.lowercase ("style." ++ name)) value ∧
      Style.parse? value = Style.parse? spec := by
  have hline : styleLine name spec = "style.".toList ++ ((name.toList ++ [' ']) ++ '=' :: ' ' :: spec.toList) := by
    simp [styleLine]
  have htrim : Text.trim (styleLine name spec) =
      ("style.".toList ++ (name.toList ++ [' '])) ++ '=' :: Text.trimEnd (' ' :: spec.toList) := by
    rw [hline, trim_style, Text.trimEnd_append_cons (by decide), ← List.append_assoc]
  have hkey : Text.trim ("style.".toList ++ (name.toList ++ [' '])) = ("style." ++ name).toList := by
    rw [trim_style, Text.trimEnd_append_blank (by decide), hend, String.toList_append]
  refine ⟨String.ofList (Text.trim (Text.trimEnd (' ' :: spec.toList))), ⟨?_, _, _, htrim, ?_, ?_, rfl⟩, ?_⟩
  · rw [htrim]
    simp
  · simpa using hname
  · rw [hkey, String.ofList_toList]
  · rw [Style.parse?, Style.parse?, String.toList_ofList, Text.words_trim, Text.words_trimEnd]
    rfl

theorem isLower_style : ∀ c ∈ "style.".toList, Text.IsLower c := by
  have hall : ("style.".toList.all fun c => decide (Text.IsLower c)) = true := by decide +kernel
  exact fun c hc => of_decide_eq_true (List.all_eq_true.mp hall c hc)

/-- In lowercase, the key that sets the style of a class sets that of some class. -/
theorem exists_lowercase_style (name : String) :
    ∃ lowered, Text.lowercase ("style." ++ name) = "style." ++ lowered := by
  obtain ⟨after, hafter⟩ := Text.exists_lowercaseFrom_append isLower_style false name.toList
  refine ⟨String.ofList (Text.lowercaseFrom after name.toList), ?_⟩
  rw [Text.lowercase, String.toList_append, hafter, ← String.toList_inj]
  simp

theorem lowercase_style_iff {name : String} :
    Text.lowercase ("style." ++ name) = "style." ++ name ↔ Text.lowercase name = name := by
  rw [Text.lowercase_eq_self_iff, Text.lowercase_eq_self_iff, String.toList_append, List.forall_mem_append]
  exact ⟨And.right, And.intro isLower_style⟩

/-- With nothing but blank lines behind it, a line is the last one for the key that it sets, and the lines in
front of it are those for the other keys. -/
theorem effective_iff {text key : String} {front back : List (List Char)} {line : List Char}
    {value? : Option String} (hlines : Text.IsLines text.toList (front ++ line :: back))
    (hback : ∀ l ∈ back, ∀ c ∈ l, isBlank c = true) :
    Effective text key value? ↔
      (∃ value, LineSets line key value ∧ value? = some value) ∨
        (∀ value, ¬ LineSets line key value) ∧ LastValue key front value? := by
  have hnone : ∀ l ∈ back, ∀ key value, ¬ LineSets l key value :=
    fun l hl => not_lineSets_of_blank (hback l hl)
  rw [← lastValue_snoc, ← lastValue_append hnone, List.append_assoc, List.singleton_append, Effective]
  constructor
  · rintro ⟨lines, hlines', h⟩
    rwa [← Text.isLines_iff.mp hlines, Text.isLines_iff.mp hlines']
  · exact fun h => ⟨_, hlines, h⟩

end Settings

/-- The classes of the standard theme are in lowercase. -/
theorem Theme.lowercase_of_get?_standard {name : String} {st : Style} (h : Theme.standard.get? name = some st) :
    Text.lowercase name = name := by
  have hall : ∀ p ∈ Theme.standard.entries, Text.lowercase p.1 = p.1 := by decide +kernel
  obtain ⟨front, back, hentries, -⟩ := List.lookup_eq_some_iff.mp h
  exact hall (name, st) (by rw [hentries]; simp)

namespace Config

variable {host : Host Id} {path text name spec : String} {st : Style} {front back : List (List Char)}

/-- A file that ends with a setting for the style of a class is taken, and the style reaches the class
exactly if the name of the class is in lowercase. -/
theorem loadFrom_reaches_iff (hread : Id.run (host.readText path) = .ok text)
    (hlines : Text.IsLines text.toList (front ++ Settings.styleLine name spec :: back))
    (hback : ∀ l ∈ back, ∀ c ∈ l, isBlank c = true)
    (hname : '=' ∉ name.toList) (hend : Text.trimEnd name.toList = name.toList)
    (hspec : Style.parse? spec = some st)
    (hothers : ∀ key value, key ≠ Text.lowercase ("style." ++ name) →
      Settings.LastValue key front (some value) → Accepted key value) :
    ∃ c, Id.run (loadFrom host path) = .ok c ∧ (c.theme.Reaches name st ↔ Text.lowercase name = name) := by
  obtain ⟨value, hset, hparse⟩ := Settings.lineSets_styleLine hname hend spec
  have hload := run_loadFrom hread
  have hlists := Settings.lists_parse text
  obtain ⟨c, hc⟩ : ∃ c, Id.run (loadFrom host path) = .ok c := by
    rw [hload, exists_applyAll_iff_effective hlists]
    intro key v hv
    rcases (Settings.effective_iff hlines hback).mp hv with ⟨w, hw, heq⟩ | ⟨hnone, hlast⟩
    · obtain ⟨rfl, rfl⟩ := hw.unique hset
      obtain ⟨lowered, hlowered⟩ := Settings.exists_lowercase_style name
      rw [Option.some.inj heq, hlowered, accepted_style, hparse, hspec]
      rfl
    · refine hothers key v ?_ hlast
      rintro rfl
      exact hnone value hset
  refine ⟨c, hc, ?_⟩
  obtain ⟨value?, hvalue, htheme⟩ := (follows_of_applyAll hlists (hload.symm.trans hc)).theme name
  rw [Theme.reaches_iff, htheme]
  constructor
  · intro h
    cases value? with
    | none => exact Theme.lowercase_of_get?_standard h
    | some v =>
      obtain ⟨lines, -, hlast⟩ := hvalue
      exact Settings.lowercase_style_iff.mp hlast.lowercase_key
  · intro hlower
    rw [Settings.lowercase_style_iff.mpr hlower] at hset
    rcases (Settings.effective_iff hlines hback).mp hvalue with ⟨w, hw, rfl⟩ | ⟨hnone, -⟩
    · rw [← hspec, ← hparse, (hw.unique hset).2]
    · exact absurd hset (hnone value)

/-- The only line there is sets the style of a class in lowercase. -/
theorem loadFrom_reaches_tag :
    Id.run ((oneText "style.tag = red\n").readText "c") = .ok "style.tag = red\n" ∧
    Text.IsLines "style.tag = red\n".toList ([] ++ Settings.styleLine "tag" "red" :: [[]]) ∧
    ∃ c, Id.run (loadFrom (oneText "style.tag = red\n") "c") = .ok c ∧ c.theme.Reaches "tag" (.ofColor .red) := by
  have hread : Id.run ((oneText "style.tag = red\n").readText "c") = .ok "style.tag = red\n" := rfl
  have hlines : Text.IsLines "style.tag = red\n".toList ([] ++ Settings.styleLine "tag" "red" :: [[]]) :=
    Text.isLines_iff.mpr (by decide +kernel)
  have hspec : Style.parse? "red" = some (.ofColor .red) := by decide +kernel
  obtain ⟨c, hc, hreaches⟩ := loadFrom_reaches_iff hread hlines (by simp) (by decide) (by decide +kernel) hspec
    fun key value _ h => absurd h (Settings.not_lastValue_nil key value)
  exact ⟨hread, hlines, c, hc, hreaches.mpr (by decide +kernel)⟩

/-- In the only line there is, the name of the class has an uppercase letter. -/
theorem not_forall_loadFrom_reaches :
    ¬ ∀ (host : Host Id) (path text name spec : String) (st : Style) (front back : List (List Char)),
      Id.run (host.readText path) = .ok text →
      Text.IsLines text.toList (front ++ Settings.styleLine name spec :: back) → (back = [] ∨ back = [[]]) →
      '=' ∉ name.toList → '\n' ∉ name.toList → Text.trim name.toList = name.toList →
      Style.parse? spec = some st →
      (∀ key value, Settings.LastValue key front (some value) → Accepted key value) →
        ∃ c, Id.run (loadFrom host path) = .ok c ∧ c.theme.Reaches name st := by
  intro hall
  have hread : Id.run ((oneText "style.Tag = red\n").readText "c") = .ok "style.Tag = red\n" := rfl
  obtain ⟨c, hc, hreaches⟩ := hall _ _ _ "Tag" "red" (.ofColor .red) [] [[]] hread
    (Text.isLines_iff.mpr (by decide +kernel)) (.inr rfl) (by decide) (by decide) (by decide +kernel)
    (by decide +kernel) fun key value h => absurd h (Settings.not_lastValue_nil key value)
  have hload : Id.run (loadFrom (oneText "style.Tag = red\n") "c") =
      .ok { styles := [("tag", .ofColor .red)] } := by
    rw [run_loadFrom hread]
    decide +kernel
  obtain rfl := Except.ok.inj (hload.symm.trans hc)
  exact absurd hreaches.entry (by decide)

end Config

end Highlight
