import Mathlib.Data.List.Induction
import Mathlib.Data.List.Nodup
import Highlight.Config.Basic
import Highlight.Proofs.Registry.Keys
import Highlight.Proofs.Table.Compile
import Highlight.Proofs.Text.Lines
import Highlight.Proofs.Text.Lowercase

/-!
# The settings that count

A line of a configuration file may set a key, and of the lines for one key the last one counts. `Effective`
says this of the text itself. The settings that are collected line by line are the ones that count, each
once (`Settings.lookup_parse_eq_iff`), so that their order does not matter.
-/

namespace Highlight

namespace Settings

/-- A line sets a key: blanks around it apart, it is no comment, and it has the key in front of its first
`=` and the value behind that. -/
structure LineSets (line : List Char) (key value : String) : Prop where
  comment : (Text.trim line).head? ≠ some '#'
  cut : ∃ name rest, Text.trim line = name ++ '=' :: rest ∧ '=' ∉ name ∧
    key = Text.lowercase (String.ofList (Text.trim name)) ∧ value = String.ofList (Text.trim rest)

/-- What the last of the lines for a key sets it to, if there are such lines. -/
inductive LastValue (key : String) (lines : List (List Char)) : Option String → Prop where
  | set {front back : List (List Char)} {line : List Char} {value : String}
      (hlines : lines = front ++ line :: back) (hset : LineSets line key value)
      (hlast : ∀ later ∈ back, ∀ other, ¬ LineSets later key other) : LastValue key lines (some value)
  | unset (hnone : ∀ line ∈ lines, ∀ value, ¬ LineSets line key value) : LastValue key lines none

/-- What counts for a key in the text of a file. -/
def Effective (text key : String) (value? : Option String) : Prop :=
  ∃ lines, Text.IsLines text.toList lines ∧ LastValue key lines value?

theorem ofLine?_eq_some_iff {line : List Char} {key value : String} :
    ofLine? line = some (key, value) ↔ LineSets line key value := by
  rw [ofLine?]
  dsimp only
  by_cases hcomment : (Text.trim line).head? = some '#'
  · rw [if_pos (by simpa using hcomment)]
    constructor
    · intro h
      cases h
    · intro h
      exact absurd hcomment h.comment
  · rw [if_neg (by simpa using hcomment), Option.map_eq_some_iff]
    constructor
    · rintro ⟨⟨name, rest⟩, hsplit, heq⟩
      obtain ⟨rfl, rfl⟩ := Prod.mk.inj heq
      obtain ⟨htrim, hname⟩ := Text.splitFirst?_eq_some_iff.mp hsplit
      exact ⟨hcomment, name, rest, htrim, hname, rfl, rfl⟩
    · rintro ⟨-, name, rest, htrim, hname, rfl, rfl⟩
      exact ⟨(name, rest), Text.splitFirst?_eq_some_iff.mpr ⟨htrim, hname⟩, rfl⟩

theorem LineSets.unique {line : List Char} {key key' value value' : String} (h : LineSets line key value)
    (h' : LineSets line key' value') : key = key' ∧ value = value' := by
  have heq := (ofLine?_eq_some_iff.mpr h).symm.trans (ofLine?_eq_some_iff.mpr h')
  simpa using heq

section Set

variable {s : Settings} {key value : String}

theorem lookup_set (k : String) : (s.set key value).lookup k = if k = key then some value else s.lookup k := by
  rw [set, List.lookup_append]
  by_cases hk : k = key
  · rw [hk, lookup_filter_self, if_pos rfl, Option.none_or, List.lookup_cons_self]
  · rw [lookup_filter_ne hk, lookup_cons_if, if_neg hk, if_neg hk]
    exact Option.or_none

theorem nodup_set (h : (s.map (·.1)).Nodup) : ((s.set key value).map (·.1)).Nodup := by
  rw [set, List.map_append, List.nodup_append]
  refine ⟨h.sublist (keys_filter_sublist s key), by simp, ?_⟩
  simp

end Set

def addLine (s : Settings) (line : List Char) : Settings :=
  match ofLine? line with
  | some (key, value) => s.set key value
  | none => s

theorem parse_eq (text : String) : parse text = (Text.splitAll '\n' text.toList).foldl addLine [] := rfl

theorem nodup_foldl (lines : List (List Char)) {s : Settings} (h : (s.map (·.1)).Nodup) :
    ((lines.foldl addLine s).map (·.1)).Nodup := by
  induction lines generalizing s with
  | nil => exact h
  | cons line lines ih =>
    refine ih ?_
    rw [addLine]
    split
    · exact nodup_set h
    · exact h

/-- No key is listed twice. -/
theorem nodup_parse (text : String) : ((parse text).map (·.1)).Nodup := nodup_foldl _ List.nodup_nil

theorem not_lastValue_nil (key value : String) : ¬ LastValue key [] (some value) := by
  intro h
  cases h with
  | set hlines => simp at hlines

/-- One more line is the last one for the key that it sets. -/
theorem lastValue_snoc {key : String} {lines : List (List Char)} {line : List Char} {value? : Option String} :
    LastValue key (lines ++ [line]) value? ↔
      (∃ value, LineSets line key value ∧ value? = some value) ∨
        (∀ value, ¬ LineSets line key value) ∧ LastValue key lines value? := by
  constructor
  · intro h
    cases h with
    | @set front back last value hlines hset hlast =>
      rcases eq_snoc_cases hlines with ⟨-, -, rfl⟩ | ⟨back', rfl, rfl⟩
      · exact .inl ⟨value, hset, rfl⟩
      · exact .inr ⟨hlast line (by simp), .set rfl hset fun later hl => hlast later (by simp [hl])⟩
    | unset hnone =>
      exact .inr ⟨hnone line (by simp), .unset fun later hl => hnone later (List.mem_append_left _ hl)⟩
  · rintro (⟨value, hset, rfl⟩ | ⟨hnot, h⟩)
    · have hlast : lines ++ [line] = lines ++ line :: [] := rfl
      exact .set hlast hset (by simp)
    · cases h with
      | @set front back last value hlines hset hlast =>
        have hsplit : lines ++ [line] = front ++ last :: (back ++ [line]) := by
          rw [hlines, List.append_assoc, List.cons_append]
        refine .set hsplit hset ?_
        rw [List.forall_mem_append]
        exact ⟨hlast, by simpa using hnot⟩
      | unset hnone =>
        refine .unset ?_
        rw [List.forall_mem_append]
        exact ⟨hnone, by simpa using hnot⟩

/-- Lines at the end that set nothing make no difference. -/
theorem lastValue_append {key : String} {lines back : List (List Char)} {value? : Option String}
    (h : ∀ line ∈ back, ∀ key value, ¬ LineSets line key value) :
    LastValue key (lines ++ back) value? ↔ LastValue key lines value? := by
  induction back using List.reverseRecOn with
  | nil => rw [List.append_nil]
  | append_singleton back line ih =>
    obtain ⟨hback, hline⟩ := List.forall_mem_append.mp h
    have hnone : ∀ value, ¬ LineSets line key value := hline line (List.mem_singleton_self _) key
    rw [← List.append_assoc, lastValue_snoc, ih hback]
    simp [hnone]

/-- Keys are in lowercase. -/
theorem LastValue.lowercase_key {key value : String} {lines : List (List Char)}
    (h : LastValue key lines (some value)) : Text.lowercase key = key := by
  cases h with
  | set _ hset =>
    obtain ⟨name, rest, -, -, rfl, -⟩ := hset.cut
    exact Text.lowercase_lowercase _

theorem lookup_addLine {s : Settings} {line : List Char} {key : String} {value? : Option String} :
    (addLine s line).lookup key = value? ↔
      (∃ value, LineSets line key value ∧ value? = some value) ∨
        (∀ value, ¬ LineSets line key value) ∧ s.lookup key = value? := by
  rw [addLine]
  cases hline : ofLine? line with
  | none =>
    have hnot : ∀ value, ¬ LineSets line key value := by
      intro value h
      rw [ofLine?_eq_some_iff.mpr h] at hline
      cases hline
    simp [hnot]
  | some setting =>
    obtain ⟨k, v⟩ := setting
    have hset := ofLine?_eq_some_iff.mp hline
    dsimp only
    rw [lookup_set]
    by_cases hk : key = k
    · subst hk
      rw [if_pos rfl]
      constructor
      · rintro rfl
        exact .inl ⟨v, hset, rfl⟩
      · rintro (⟨value, h, rfl⟩ | ⟨hnot, -⟩)
        · rw [(h.unique hset).2]
        · exact absurd hset (hnot v)
    · have hnot : ∀ value, ¬ LineSets line key value := fun value h => hk (h.unique hset).1
      rw [if_neg hk]
      simp [hnot]

theorem lookup_foldl {lines : List (List Char)} {key : String} {value? : Option String} :
    (lines.foldl addLine []).lookup key = value? ↔ LastValue key lines value? := by
  induction lines using List.reverseRecOn with
  | nil =>
    constructor
    · rintro rfl
      exact .unset (by simp)
    · intro h
      cases value? with
      | none => rfl
      | some value => exact absurd h (not_lastValue_nil key value)
  | append_singleton lines line ih => rw [List.foldl_append, lastValue_snoc, ← ih]; exact lookup_addLine

/-- The settings of a file are those that count. -/
theorem lookup_parse_eq_iff {text key : String} {value? : Option String} :
    (parse text).lookup key = value? ↔ Effective text key value? := by
  rw [parse_eq, lookup_foldl, Effective]
  constructor
  · exact fun h => ⟨_, Text.isLines_iff.mpr rfl, h⟩
  · rintro ⟨lines, hlines, h⟩
    rwa [Text.isLines_iff.mp hlines]

/-- The settings that count in a text, each once, in some order. -/
structure Lists (text : String) (s : Settings) : Prop where
  once : (s.map (·.1)).Nodup
  counts : ∀ key value, (key, value) ∈ s ↔ Effective text key (some value)

theorem lists_parse (text : String) : Lists text (parse text) where
  once := nodup_parse text
  counts _ _ := (mem_iff_lookup (nodup_parse text)).trans lookup_parse_eq_iff

theorem Lists.perm {text : String} {s s' : Settings} (h : Lists text s) (h' : Lists text s') : s.Perm s' := by
  rw [List.perm_ext_iff_of_nodup (h.once.of_map _) (h'.once.of_map _)]
  rintro ⟨key, value⟩
  rw [h.counts, h'.counts]

end Settings

end Highlight
