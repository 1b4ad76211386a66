import Highlight.Config.Load
import Highlight.Proofs.Config.Settings

/-!
# What a configuration file leads to

The settings that count decide on a configuration one by one. So a file is accepted exactly if each setting
that counts is, whatever lines those for the same key in front of it are, and neither the order in which the
settings are taken nor the order in which the configured styles go into the theme makes a difference.
-/

namespace Highlight

namespace Config

/-- A setting that is understood. -/
def Accepted (key value : String) : Prop :=
  key = "color" ∨ key = "grammar-dir" ∨ key = "default-grammar" ∨
    ∃ name, key = "style." ++ name ∧ (Style.parse? value).isSome

/-- Two configurations that are the same, but for the order in which styles are listed. -/
structure Agrees (c c' : Config) : Prop where
  color : c.color = c'.color
  grammarDir : c.grammarDir = c'.grammarDir
  defaultGrammar : c.defaultGrammar = c'.defaultGrammar
  styles : c.styles.Perm c'.styles

/-- Everything in the configuration is the meaning of the setting that counts in the text, or the default. -/
structure Follows (home : Option String) (text : String) (c : Config) : Prop where
  color : ∃ value?, Settings.Effective text "color" value? ∧ c.color = (value?.map isOn).getD true
  grammarDir : ∃ value?, Settings.Effective text "grammar-dir" value? ∧
    c.grammarDir = value?.map (Path.expandHome home)
  defaultGrammar : ∃ value?, Settings.Effective text "default-grammar" value? ∧
    c.defaultGrammar = value?.map Text.lowercase
  styles : ∀ name, ∃ value?, Settings.Effective text ("style." ++ name) value? ∧
    c.styles.lookup name = value?.bind Style.parse?
  theme : ∀ name, ∃ value?, Settings.Effective text ("style." ++ name) value? ∧
    c.theme.get? name =
      match value? with
      | some value => Style.parse? value
      | none => Theme.standard.get? name

theorem styleClass?_eq_some_iff {key name : String} : styleClass? key = some name ↔ key = "style." ++ name := by
  rw [styleClass?]
  constructor
  · intro h
    split at h
    · next rest hkey =>
      obtain rfl : String.ofList rest = name := by simpa using h
      rw [← String.toList_inj, hkey]
      simp
    · cases h
  · rintro rfl
    have hkey : ("style." ++ name).toList = 's' :: 't' :: 'y' :: 'l' :: 'e' :: '.' :: name.toList := by
      rw [String.toList_append]
      rfl
    rw [hkey]
    simp

/-- A setting for a style is understood if its value describes one. -/
theorem accepted_style {name value : String} :
    Accepted ("style." ++ name) value ↔ (Style.parse? value).isSome := by
  have hclass : styleClass? ("style." ++ name) = some name := styleClass?_eq_some_iff.mpr rfl
  constructor
  · rintro (h | h | h | ⟨name', hname, hstyle⟩)
    · rw [h] at hclass
      simp [styleClass?] at hclass
    · rw [h] at hclass
      simp [styleClass?] at hclass
    · rw [h] at hclass
      simp [styleClass?] at hclass
    · exact hstyle
  · exact fun hstyle => .inr (.inr (.inr ⟨name, rfl, hstyle⟩))

def style? (setting : String × String) : Option (String × Style) :=
  (styleClass? setting.1).bind fun name => (Style.parse? setting.2).map fun s => (name, s)

section Apply

variable {home : Option String} {c : Config} {key value : String}

theorem apply_color : c.apply home "color" value = .ok { c with color := isOn value } := rfl

theorem apply_grammarDir :
    c.apply home "grammar-dir" value = .ok { c with grammarDir := some (Path.expandHome home value) } := rfl

theorem apply_defaultGrammar :
    c.apply home "default-grammar" value = .ok { c with defaultGrammar := some (Text.lowercase value) } := rfl

theorem apply_other (hcolor : key ≠ "color") (hdir : key ≠ "grammar-dir") (hdefault : key ≠ "default-grammar") :
    c.apply home key value =
      match styleClass? key with
      | none => .error (.unknownSetting key)
      | some name =>
        match Style.parse? value with
        | some s => .ok { c with styles := c.styles ++ [(name, s)] }
        | none => .error (.invalidStyle value name) := by
  unfold apply
  split
  · exact absurd rfl hcolor
  · exact absurd rfl hdir
  · exact absurd rfl hdefault
  · rfl

/-- A setting is taken if it is understood, and then it adds its style, if it is one for a style. -/
theorem apply_cases (home : Option String) (c : Config) (key value : String) :
    (Accepted key value ∧ ∃ c', c.apply home key value = .ok c' ∧
        c'.color = (if "color" = key then isOn value else c.color) ∧
        c'.grammarDir = (if "grammar-dir" = key then some (Path.expandHome home value) else c.grammarDir) ∧
        c'.defaultGrammar =
          (if "default-grammar" = key then some (Text.lowercase value) else c.defaultGrammar) ∧
        c'.styles = c.styles ++ (style? (key, value)).toList) ∨
      (¬ Accepted key value ∧ ∃ e, c.apply home key value = .error e) := by
  by_cases hcolor : key = "color"
  · subst hcolor
    have hstyle : style? ("color", value) = none := by simp [style?, styleClass?]
    exact .inl ⟨.inl rfl, _, apply_color, rfl, rfl, rfl, by simp [hstyle]⟩
  by_cases hdir : key = "grammar-dir"
  · subst hdir
    have hstyle : style? ("grammar-dir", value) = none := by simp [style?, styleClass?]
    exact .inl ⟨.inr (.inl rfl), _, apply_grammarDir, rfl, rfl, rfl, by simp [hstyle]⟩
  by_cases hdefault : key = "default-grammar"
  · subst hdefault
    have hstyle : style? ("default-grammar", value) = none := by simp [style?, styleClass?]
    exact .inl ⟨.inr (.inr (.inl rfl)), _, apply_defaultGrammar, rfl, rfl, rfl, by simp [hstyle]⟩
  rw [apply_other hcolor hdir hdefault, if_neg (Ne.symm hcolor), if_neg (Ne.symm hdir),
    if_neg (Ne.symm hdefault)]
  cases hclass : styleClass? key with
  | none =>
    refine .inr ⟨?_, _, rfl⟩
    rintro (h | h | h | ⟨name, hname, -⟩)
    · exact hcolor h
    · exact hdir h
    · exact hdefault h
    · rw [styleClass?_eq_some_iff.mpr hname] at hclass
      cases hclass
  | some name =>
    have hname := styleClass?_eq_some_iff.mp hclass
    dsimp only
    cases hparse : Style.parse? value with
    | some s =>
      refine .inl ⟨.inr (.inr (.inr ⟨name, hname, by rw [hparse]; rfl⟩)), _, rfl, rfl, rfl, rfl, ?_⟩
      rw [style?]
      dsimp only
      rw [hclass, hparse]
      rfl
    | none =>
      refine .inr ⟨?_, _, rfl⟩
      rintro (h | h | h | ⟨name', -, hstyle⟩)
      · exact hcolor h
      · exact hdir h
      · exact hdefault h
      · rw [hparse] at hstyle
        cases hstyle

/-- Settings are taken if all of them are understood. -/
theorem exists_applyAll_iff {s : Settings} :
    (∃ c', applyAll home c s = .ok c') ↔ ∀ p ∈ s, Accepted p.1 p.2 := by
  induction s generalizing c with
  | nil => simp [applyAll]
  | cons p s ih =>
    obtain ⟨key, value⟩ := p
    rw [applyAll, List.forall_mem_cons]
    rcases apply_cases home c key value with ⟨haccepted, c', hc', -⟩ | ⟨hnot, e, he⟩
    · rw [hc']
      dsimp only
      rw [ih]
      exact ⟨fun h => ⟨haccepted, h⟩, fun h => h.2⟩
    · rw [he]
      constructor
      · rintro ⟨c', h⟩
        cases h
      · intro h
        exact absurd h.1 hnot

/-- What settings without repeated keys make of a configuration, once all of them are taken. -/
theorem applyAll_eq_ok {s : Settings} (hkeys : (s.map (·.1)).Nodup) {c' : Config}
    (h : applyAll home c s = .ok c') :
    c'.color = ((s.lookup "color").map isOn).getD c.color ∧
      c'.grammarDir = ((s.lookup "grammar-dir").map (Path.expandHome home)).or c.grammarDir ∧
      c'.defaultGrammar = ((s.lookup "default-grammar").map Text.lowercase).or c.defaultGrammar ∧
      c'.styles = c.styles ++ s.filterMap style? := by
  induction s generalizing c with
  | nil =>
    cases h
    simp
  | cons p s ih =>
    obtain ⟨key, value⟩ := p
    rw [List.map_cons, List.nodup_cons] at hkeys
    obtain ⟨hkey, hkeys⟩ := hkeys
    have hlookup : s.lookup key = none := lookup_eq_none_of_not_mem hkey
    rw [applyAll] at h
    rcases apply_cases home c key value with ⟨-, c₁, hc₁, hcolor, hdir, hdefault, hstyles⟩ | ⟨-, e, he⟩
    · rw [hc₁] at h
      obtain ⟨ihcolor, ihdir, ihdefault, ihstyles⟩ := ih hkeys h
      refine ⟨?_, ?_, ?_, ?_⟩
      · rw [ihcolor, hcolor, lookup_cons_if]
        split
        · next hk => rw [hk, hlookup]; rfl
        · rfl
      · rw [ihdir, hdir, lookup_cons_if]
        split
        · next hk => rw [hk, hlookup]; rfl
        · rfl
      · rw [ihdefault, hdefault, lookup_cons_if]
        split
        · next hk => rw [hk, hlookup]; rfl
        · rfl
      · rw [ihstyles, hstyles, List.append_assoc]
        cases hstyle : style? (key, value) with
        | none => rw [List.filterMap_cons_none hstyle]; rfl
        | some p => rw [List.filterMap_cons_some hstyle]; rfl
    · rw [he] at h
      cases h

end Apply

section Styles

variable {s : Settings}

theorem style?_eq_some_iff {key value name : String} {st : Style} :
    style? (key, value) = some (name, st) ↔ key = "style." ++ name ∧ Style.parse? value = some st := by
  rw [style?, Option.bind_eq_some_iff]
  constructor
  · rintro ⟨n, hn, h⟩
    obtain ⟨st', hst, heq⟩ := Option.map_eq_some_iff.mp h
    obtain ⟨rfl, rfl⟩ := Prod.mk.inj heq
    exact ⟨styleClass?_eq_some_iff.mp hn, hst⟩
  · rintro ⟨hkey, hst⟩
    exact ⟨name, styleClass?_eq_some_iff.mpr hkey, by rw [hst]; rfl⟩

theorem mem_keys_of_mem_styles {name : String} (h : name ∈ (s.filterMap style?).map (·.1)) :
    "style." ++ name ∈ s.map (·.1) := by
  obtain ⟨⟨n, st⟩, hmem, rfl⟩ := List.mem_map.mp h
  obtain ⟨⟨key, value⟩, hp, hstyle⟩ := List.mem_filterMap.mp hmem
  obtain ⟨rfl, -⟩ := style?_eq_some_iff.mp hstyle
  exact List.mem_map_of_mem (f := (·.1)) hp

theorem nodup_styles (hkeys : (s.map (·.1)).Nodup) : ((s.filterMap style?).map (·.1)).Nodup := by
  induction s with
  | nil => exact List.nodup_nil
  | cons p s ih =>
    obtain ⟨key, value⟩ := p
    obtain ⟨hkey, hrest⟩ := List.nodup_cons.mp hkeys
    cases hstyle : style? (key, value) with
    | none =>
      rw [List.filterMap_cons_none hstyle]
      exact ih hrest
    | some p =>
      obtain ⟨name, st⟩ := p
      obtain ⟨rfl, -⟩ := style?_eq_some_iff.mp hstyle
      rw [List.filterMap_cons_some hstyle, List.map_cons, List.nodup_cons]
      exact ⟨fun hmem => hkey (mem_keys_of_mem_styles hmem), ih hrest⟩

/-- The style of a class is the one that the setting for it describes. -/
theorem lookup_styles (hkeys : (s.map (·.1)).Nodup) (name : String) :
    (s.filterMap style?).lookup name = (s.lookup ("style." ++ name)).bind Style.parse? := by
  induction s with
  | nil => rfl
  | cons p s ih =>
    obtain ⟨key, value⟩ := p
    obtain ⟨hkey, hrest⟩ := List.nodup_cons.mp hkeys
    rw [lookup_cons_if]
    cases hstyle : style? (key, value) with
    | none =>
      rw [List.filterMap_cons_none hstyle, ih hrest]
      split
      · next hname =>
        -- the value describes no style, and no other setting has the key
        have hparse : Style.parse? value = none := by
          rw [Option.eq_none_iff_forall_ne_some]
          intro st hst
          rw [style?_eq_some_iff.mpr ⟨hname.symm, hst⟩] at hstyle
          cases hstyle
        rw [hname, lookup_eq_none_of_not_mem hkey, Option.bind_none, Option.bind_some, hparse]
      · rfl
    | some p =>
      obtain ⟨n, st⟩ := p
      obtain ⟨rfl, hst⟩ := style?_eq_some_iff.mp hstyle
      rw [List.filterMap_cons_some hstyle, lookup_cons_if, ih hrest]
      by_cases hname : name = n
      · rw [if_pos hname, if_pos (congrArg _ hname), Option.bind_some, hst]
      · rw [if_neg hname, if_neg fun h => hname (by simpa using h)]

end Styles

theorem get?_foldl_set {styles : List (String × Style)} (hkeys : (styles.map (·.1)).Nodup) (t : Theme)
    (name : String) :
    (styles.foldl (fun t (name, s) => t.set name s) t).get? name = (styles.lookup name).or (t.get? name) := by
  induction styles generalizing t with
  | nil => rfl
  | cons p styles ih =>
    obtain ⟨n, s⟩ := p
    obtain ⟨hn, hkeys⟩ := List.nodup_cons.mp hkeys
    have hset : (t.set n s).get? name = if name = n then some s else t.get? name := lookup_cons_if name
    rw [List.foldl_cons, ih hkeys, hset, lookup_cons_if]
    split
    · next hname => rw [hname, lookup_eq_none_of_not_mem hn]; rfl
    · rfl

/-- A class has the configured style, or else that of the standard theme. -/
theorem get?_theme {c : Config} (hkeys : (c.styles.map (·.1)).Nodup) (name : String) :
    c.theme.get? name = (c.styles.lookup name).or (Theme.standard.get? name) :=
  get?_foldl_set hkeys _ name

section Orders

variable {home : Option String} {text : String} {order order' : Settings} {c c' : Config}

/-- In any order, the settings of a file are taken if those that count are understood. -/
theorem exists_applyAll_iff_effective (h : Settings.Lists text order) :
    (∃ c, applyAll home {} order = .ok c) ↔
      ∀ key value, Settings.Effective text key (some value) → Accepted key value := by
  rw [exists_applyAll_iff]
  constructor
  · exact fun hall key value heffective => hall (key, value) ((h.counts key value).mpr heffective)
  · exact fun hall p hp => hall p.1 p.2 ((h.counts p.1 p.2).mp hp)

theorem follows_of_applyAll (h : Settings.Lists text order) (hc : applyAll home {} order = .ok c) :
    Follows home text c := by
  have heffective : ∀ key, Settings.Effective text key (order.lookup key) := by
    intro key
    rw [lookup_perm (h.perm (Settings.lists_parse text)) h.once]
    exact Settings.lookup_parse_eq_iff.mp rfl
  obtain ⟨hcolor, hdir, hdefault, hstyles⟩ := applyAll_eq_ok h.once hc
  have hlookup : ∀ name, c.styles.lookup name = (order.lookup ("style." ++ name)).bind Style.parse? := by
    intro name
    rw [hstyles]
    exact lookup_styles h.once name
  have hkeys : (c.styles.map (·.1)).Nodup := by
    rw [hstyles]
    exact nodup_styles h.once
  constructor
  · exact ⟨_, heffective _, hcolor⟩
  · exact ⟨_, heffective _, hdir.trans Option.or_none⟩
  · exact ⟨_, heffective _, hdefault.trans Option.or_none⟩
  · exact fun name => ⟨_, heffective _, hlookup name⟩
  · intro name
    refine ⟨_, heffective _, ?_⟩
    rw [get?_theme hkeys, hlookup]
    cases hvalue : order.lookup ("style." ++ name) with
    | none => rfl
    | some value =>
      -- a setting that counts has been taken, so its value describes a style
      have haccepted := exists_applyAll_iff.mp ⟨c, hc⟩ _ ((mem_iff_lookup h.once).mpr hvalue)
      obtain ⟨st, hst⟩ := Option.isSome_iff_exists.mp (accepted_style.mp haccepted)
      rw [Option.bind_some, hst, Option.some_or]
      exact hst.symm

end Orders

theorem run_loadFrom {host : Host Id} {path text : String} (hread : Id.run (host.readText path) = .ok text) :
    Id.run (loadFrom host path) = applyAll host.home {} (Settings.parse text) := by
  have hread' : host.readText path = .ok text := hread
  simp only [loadFrom, hread']
  rfl

/-- Files that all have the same text. -/
def oneText (text : String) : Host Id where
  home := some "/home/me"
  readText _ := .ok text
  listDirectory _ := .error .notFound
  readInput := .ok ""
  terminal := false

end Config

end Highlight
