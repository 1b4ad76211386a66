import Mathlib.Logic.Relation
import Highlight.Proofs.Style.Names
import Highlight.Proofs.Text.Words

/-!
# What the description of a style says

A description is read word by word, with a count of the colors so far, and ends early at a word without a
meaning or at a third color. What comes out does not depend on that order of work: `ofWords` tells the style
from all words together, and a step of the reading adds one word to it. So the style of a description depends
on its colors in order and on which attributes there are, and every style has a description.
-/

namespace Highlight.Style

open Text (Spaced)

namespace Word

/-- The colors among words, in order. -/
def colors (ms : List Word) : List Color := ms.filterMap color?

/-- What those words stand for that stand for something. -/
def meanings (words : List (List Char)) : List Word := words.filterMap fun w => ofText? (String.ofList w)

@[simp] theorem colors_append (a b : List Word) : colors (a ++ b) = colors a ++ colors b :=
  List.filterMap_append

theorem colors_cons_of_none {m : Word} (h : m.color? = none) (ms : List Word) :
    colors (m :: ms) = colors ms := List.filterMap_cons_none h

@[simp] theorem meanings_append (a b : List (List Char)) : meanings (a ++ b) = meanings a ++ meanings b :=
  List.filterMap_append

theorem meanings_cons_of_some {w : List Char} {m : Word} (h : ofText? (String.ofList w) = some m)
    (ws : List (List Char)) : meanings (w :: ws) = m :: meanings ws := List.filterMap_cons_some h

end Word

open Word (colors meanings)

/-- The style that words describe: the first color is the foreground, the second one the background, and an
attribute is set if its word is among them. -/
def ofWords (ms : List Word) : Style where
  fg := (colors ms)[0]?.getD .default
  bg := (colors ms)[1]?.getD .default
  bold := decide (.bold ∈ ms)
  italic := decide (.italic ∈ ms)
  underline := decide (.underline ∈ ms)

/-- The words of a description with what each of them stands for, at most two colors among it. -/
structure Describes (words : List (List Char)) (ms : List Word) : Prop where
  spelled : List.Forall₂ (fun w m => m.SpelledBy (String.ofList w)) words ms
  few : (colors ms).length ≤ 2

/-- A word more is taken into the style, unless it is a third color. -/
theorem add?_ofWords {done : List Word} (hfew : (colors done).length ≤ 2) (m : Word) :
    (ofWords done).add? (colors done).length m =
      if (colors (done ++ [m])).length ≤ 2 then
        some (ofWords (done ++ [m]), (colors (done ++ [m])).length)
      else none := by
  cases m with
  | color c =>
    have hsnoc : colors (done ++ [.color c]) = colors done ++ [c] := Word.colors_append _ _
    rw [hsnoc, ofWords, ofWords, hsnoc]
    match colors done, hfew with
    | [], _ => simp [add?]
    | [a], _ => simp [add?]
    | [a, b], _ => rfl
  | _ =>
    have hsnoc : ∀ m : Word, m.color? = none → colors (done ++ [m]) = colors done := by
      intro m hm
      rw [Word.colors_append, Word.colors_cons_of_none hm]
      exact List.append_nil _
    rw [hsnoc _ rfl, if_pos hfew, add?, ofWords, ofWords, hsnoc _ rfl]
    simp

/-- The words that are left are taken into the style if they all have a meaning and no third color comes. -/
theorem addWords?_ofWords {done : List Word} (hfew : (colors done).length ≤ 2) (words : List (List Char)) :
    (ofWords done).addWords? (colors done).length words =
      if (∀ w ∈ words, (Word.ofText? (String.ofList w)).isSome) ∧
          (colors (done ++ meanings words)).length ≤ 2 then
        some (ofWords (done ++ meanings words))
      else none := by
  induction words generalizing done with
  | nil => simp [addWords?, meanings, hfew]
  | cons w words ih =>
    rw [addWords?]
    cases hw : Word.ofText? (String.ofList w) with
    | none => simp [hw]
    | some m =>
      have hcons : done ++ meanings (w :: words) = (done ++ [m]) ++ meanings words := by
        rw [Word.meanings_cons_of_some hw, ← List.append_cons]
      rw [Option.bind_some, add?_ofWords hfew, hcons]
      by_cases hstep : (colors (done ++ [m])).length ≤ 2
      · rw [if_pos hstep]
        simp only [List.forall_mem_cons, hw, Option.isSome_some, true_and]
        exact ih hstep
      · have hmany : ¬ (colors (done ++ [m] ++ meanings words)).length ≤ 2 := by
          rw [Word.colors_append, List.length_append]
          omega
        rw [if_neg hstep, if_neg (fun h => hmany h.2)]

/-- The style of a description, from its words taken together. -/
theorem parse?_eq {spec : String} {words : List (List Char)} (h : Spaced words spec.toList) :
    parse? spec =
      if (∀ w ∈ words, (Word.ofText? (String.ofList w)).isSome) ∧ (colors (meanings words)).length ≤ 2 then
        some (ofWords (meanings words))
      else none := by
  rw [parse?, Text.words_of_spaced h]
  exact @addWords?_ofWords [] (Nat.zero_le 2) words

theorem forall₂_spelledBy_iff {words : List (List Char)} {ms : List Word} :
    List.Forall₂ (fun w m => m.SpelledBy (String.ofList w)) words ms ↔
      (∀ w ∈ words, (Word.ofText? (String.ofList w)).isSome) ∧ ms = meanings words := by
  simp only [← Word.ofText?_eq_some_iff]
  induction words generalizing ms with
  | nil => simp [meanings]
  | cons w words ih =>
    rw [List.forall₂_cons_left_iff, meanings, List.filterMap_cons]
    cases hw : Word.ofText? (String.ofList w) with
    | none => simp [hw]
    | some m => simp [hw, ih, meanings, and_assoc]

/-- A description is taken for the style that its words describe. -/
theorem parse?_eq_some_iff {spec : String} {words : List (List Char)} (h : Spaced words spec.toList)
    {st : Style} : parse? spec = some st ↔ ∃ ms, Describes words ms ∧ st = ofWords ms := by
  rw [parse?_eq h, Option.ite_none_right_eq_some, Option.some_inj]
  constructor
  · rintro ⟨⟨hall, hfew⟩, rfl⟩
    exact ⟨_, ⟨forall₂_spelledBy_iff.mpr ⟨hall, rfl⟩, hfew⟩, rfl⟩
  · rintro ⟨ms, ⟨hspelled, hfew⟩, rfl⟩
    obtain ⟨hall, rfl⟩ := forall₂_spelledBy_iff.mp hspelled
    exact ⟨⟨hall, hfew⟩, rfl⟩

section Variants

/-- Descriptions that differ in something that does not count. -/
inductive Variant : String → String → Prop where
  /-- A word for an attribute stands there once more. -/
  | again {spec spec' : String} {front back : List (List Char)} {v w : List Char} {m : Word}
      (hm : m.color? = none) (hv : m.SpelledBy (String.ofList v)) (hw : m.SpelledBy (String.ofList w))
      (hmem : v ∈ front ++ back) (h : Spaced (front ++ back) spec.toList)
      (h' : Spaced (front ++ w :: back) spec'.toList) : Variant spec spec'
  /-- A word for an attribute stands in another place. -/
  | moved {spec spec' : String} {front middle back : List (List Char)} {w : List Char} {m : Word}
      (hm : m.color? = none) (hw : m.SpelledBy (String.ofList w))
      (h : Spaced (front ++ w :: (middle ++ back)) spec.toList)
      (h' : Spaced (front ++ (middle ++ w :: back)) spec'.toList) : Variant spec spec'
  /-- ASCII letters are in another case. -/
  | recased {spec spec' : String}
      (h : spec.toList.map Char.toLower = spec'.toList.map Char.toLower) : Variant spec spec'
  /-- Other blanks, or more or fewer of them, stand around the words. -/
  | respaced {spec spec' : String} {words : List (List Char)} (h : Spaced words spec.toList)
      (h' : Spaced words spec'.toList) : Variant spec spec'

/-- Colors in order, and attributes in any order and number, make the style. -/
theorem ofWords_congr {ms ms' : List Word} (hcolors : colors ms = colors ms')
    (hmem : ∀ m : Word, m.color? = none → (m ∈ ms ↔ m ∈ ms')) : ofWords ms = ofWords ms' := by
  rw [ofWords, ofWords, hcolors]
  simp only [hmem .bold rfl, hmem .italic rfl, hmem .underline rfl]

/-- Words with the same colors in order and the same attributes describe the same. -/
theorem parse?_congr {spec spec' : String} {words words' : List (List Char)}
    (h : Spaced words spec.toList) (h' : Spaced words' spec'.toList)
    (hknown : (∀ w ∈ words, (Word.ofText? (String.ofList w)).isSome) ↔
      ∀ w ∈ words', (Word.ofText? (String.ofList w)).isSome)
    (hcolors : colors (meanings words) = colors (meanings words'))
    (hmem : ∀ m : Word, m.color? = none → (m ∈ meanings words ↔ m ∈ meanings words')) :
    parse? spec = parse? spec' := by
  rw [parse?_eq h, parse?_eq h', ofWords_congr hcolors hmem, hcolors]
  simp only [hknown]

theorem parse?_map_toLower (spec : String) :
    parse? (String.ofList (spec.toList.map Char.toLower)) = parse? spec := by
  have hwords := Text.words_map (fun c => (Text.sameLetter_toLower c).blank) spec.toList
  have hmeanings : meanings (Text.words (spec.toList.map Char.toLower)) =
      meanings (Text.words spec.toList) := by
    rw [hwords, meanings, meanings, List.filterMap_map]
    simp only [Function.comp_def, Word.ofText?_map_toLower]
  have hspaced : Spaced (Text.words (spec.toList.map Char.toLower))
      (String.ofList (spec.toList.map Char.toLower)).toList :=
    Text.spaced_iff.mpr (congrArg Text.words (String.toList_ofList ..))
  rw [parse?_eq hspaced, hmeanings, parse?_eq (Text.spaced_iff.mpr rfl), hwords]
  simp only [List.forall_mem_map, Word.ofText?_map_toLower]

theorem Variant.parse?_eq {spec spec' : String} (h : Variant spec spec') : parse? spec = parse? spec' := by
  cases h with
  | @again front back v w m hm hv hw hmem h h' =>
    rw [← Word.ofText?_eq_some_iff] at hv hw
    have hagain : m ∈ meanings (front ++ back) := List.mem_filterMap.mpr ⟨v, hmem, hv⟩
    rw [Word.meanings_append] at hagain
    refine parse?_congr h h' ?_ ?_ ?_
    · simp [hw, or_imp, forall_and]
    · simp [Word.meanings_cons_of_some hw, Word.colors_cons_of_none hm]
    · intro n _
      rw [Word.meanings_append, Word.meanings_append, Word.meanings_cons_of_some hw, List.mem_append,
        List.mem_append, List.mem_cons]
      rw [List.mem_append] at hagain
      constructor
      · rintro (hn | hn)
        · exact .inl hn
        · exact .inr (.inr hn)
      · rintro (hn | rfl | hn)
        · exact .inl hn
        · exact hagain
        · exact .inr hn
  | @moved front middle back w m hm hw h h' =>
    rw [← Word.ofText?_eq_some_iff] at hw
    have hperm : (front ++ w :: (middle ++ back)).Perm (front ++ (middle ++ w :: back)) :=
      List.perm_middle.symm.append_left front
    refine parse?_congr h h' ?_ ?_ ?_
    · simp only [hperm.mem_iff]
    · simp [Word.meanings_cons_of_some hw, Word.colors_cons_of_none hm]
    · intro n _
      exact (hperm.filterMap _).mem_iff
  | recased h => rw [← parse?_map_toLower, h, parse?_map_toLower]
  | respaced h h' => rw [Style.parse?_eq h, Style.parse?_eq h']

end Variants

def Word.text : Word → String
  | .bold => "bold"
  | .italic => "italic"
  | .underline => "underline"
  | .color c => c.name

theorem Word.ofText?_text (m : Word) : Text.IsWord m.text.toList ∧ ofText? m.text = some m := by
  cases m with
  | color c => cases c <;> constructor <;> decide +kernel
  | _ => constructor <;> decide +kernel

/-- Words with a space between each one and the next. -/
def write (ms : List Word) : String := String.ofList ([' '].intercalate (ms.map (·.text.toList)))

/-- Written words describe the style that they are for. -/
theorem parse?_write {ms : List Word} (hfew : (colors ms).length ≤ 2) :
    parse? (write ms) = some (ofWords ms) := by
  have hspaced : Spaced (ms.map (·.text.toList)) (write ms).toList := by
    rw [write, String.toList_ofList]
    refine Text.spaced_intercalate fun w hw => ?_
    obtain ⟨m, -, rfl⟩ := List.mem_map.mp hw
    exact m.ofText?_text.1
  rw [parse?_eq_some_iff hspaced]
  refine ⟨ms, ⟨?_, hfew⟩, rfl⟩
  rw [List.forall₂_map_left_iff, List.forall₂_same]
  intro m _
  rw [← Word.ofText?_eq_some_iff, String.ofList_toList]
  exact m.ofText?_text.2

/-- The colors of a style, and the attributes that are set. -/
def inWords (st : Style) : List Word :=
  .color st.fg :: .color st.bg :: ((if st.bold then [.bold] else []) ++
    ((if st.italic then [.italic] else []) ++ if st.underline then [.underline] else []))

theorem ofWords_inWords (st : Style) : (colors st.inWords).length ≤ 2 ∧ ofWords st.inWords = st := by
  obtain ⟨fg, bg, bold, italic, underline⟩ := st
  cases bold <;> cases italic <;> cases underline <;> exact ⟨Nat.le_refl 2, rfl⟩

/-- A text, which is cut into words in one way, describes a style exactly if each of its words in lowercase is
an attribute or a name of a color and at most two are colors, and the style is the one that these words tell.
It describes the same in any other order and number of the attributes, in any case of ASCII letters and with
any blanks around its words. Every style is described by some text. -/
theorem parse?_exact :
    (∀ spec : String, ∃! words, Spaced words spec.toList) ∧
    (∀ spec words, Spaced words spec.toList →
      ((∃ st, parse? spec = some st) ↔ ∃ ms, Describes words ms) ∧
      ∀ st, parse? spec = some st ↔ ∃ ms, Describes words ms ∧ st = ofWords ms) ∧
    (∀ spec spec', Relation.EqvGen Variant spec spec' → parse? spec = parse? spec') ∧
    ∀ st, ∃ spec, parse? spec = some st := by
  refine ⟨?_, fun spec words h => ⟨?_, fun st => parse?_eq_some_iff h⟩, ?_, ?_⟩
  · exact fun spec => ⟨_, Text.spaced_iff.mpr rfl, fun words h => (Text.spaced_iff.mp h).symm⟩
  · simp only [parse?_eq_some_iff h]
    exact ⟨fun ⟨_, ms, hms, _⟩ => ⟨ms, hms⟩, fun ⟨ms, hms⟩ => ⟨_, ms, hms, rfl⟩⟩
  · intro spec spec' h
    induction h with
    | rel _ _ h => exact h.parse?_eq
    | refl => rfl
    | symm _ _ _ ih => exact ih.symm
    | trans _ _ _ _ _ ih ih' => exact ih.trans ih'
  · intro st
    obtain ⟨hfew, hst⟩ := ofWords_inWords st
    exact ⟨_, hst ▸ parse?_write hfew⟩

/-- Bold red, with the attribute in front in uppercase or behind. -/
theorem parse?_exact_red :
    Relation.EqvGen Variant "BOLD  red" "red bold" ∧ parse? "BOLD  red" = parse? "red bold" ∧
    ∃ ms, Describes ["red".toList, "bold".toList] ms ∧ { Style.ofColor .red with bold := true } = ofWords ms := by
  have hbold : Text.lowercase (String.ofList "bold".toList) = "bold" := by decide +kernel
  have hfront : Spaced ([] ++ "bold".toList :: (["red".toList] ++ [])) "bold  red".toList :=
    Text.spaced_iff.mpr (by decide +kernel)
  have hback : Spaced ["red".toList, "bold".toList] "red bold".toList :=
    Text.spaced_iff.mpr (by decide +kernel)
  have hvariant : Relation.EqvGen Variant "BOLD  red" "red bold" :=
    .trans _ "bold  red" _ (.rel _ _ (.recased (by decide +kernel)))
      (.rel _ _ (.moved (m := .bold) rfl hbold hfront hback))
  obtain ⟨-, hexact, hsame, -⟩ := parse?_exact
  exact ⟨hvariant, hsame _ _ hvariant, ((hexact _ _ hback).2 _).mp (by decide +kernel)⟩

end Highlight.Style
