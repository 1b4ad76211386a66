import Mathlib.Data.List.Forall2
import Highlight.Style.Basic
import Highlight.Proofs.Text.Letters
import Highlight.Proofs.Text.Lowercase

/-!
# Names of colors, and words that describe a style

Which words name a color or an attribute, told without looking them up: a word in lowercase is one of the
names, where a hyphen and an underscore may stand for one another. Looking up a word finds what it stands
for, and nothing where it stands for nothing.
-/

namespace Highlight

namespace Color

def name : Color → String
  | default => "default"
  | black => "black"
  | red => "red"
  | green => "green"
  | yellow => "yellow"
  | blue => "blue"
  | magenta => "magenta"
  | cyan => "cyan"
  | white => "white"
  | brightBlack => "bright-black"
  | brightRed => "bright-red"
  | brightGreen => "bright-green"
  | brightYellow => "bright-yellow"
  | brightBlue => "bright-blue"
  | brightMagenta => "bright-magenta"
  | brightCyan => "bright-cyan"
  | brightWhite => "bright-white"

/-- All names of a color: bright black is also called gray, in two spellings. -/
def names (c : Color) : List String := c.name :: if c = brightBlack then ["gray", "grey"] else []

/-- A character and itself, and also a hyphen and an underscore. -/
def Interchangeable (a b : Char) : Prop := a = b ∨ (a ∈ ['-', '_'] ∧ b ∈ ['-', '_'])

/-- A word in lowercase is a name of the color but for its hyphens and underscores. -/
def NamedBy (c : Color) (word : String) : Prop :=
  ∃ name ∈ c.names, List.Forall₂ Interchangeable (Text.lowercase word).toList name.toList

theorem ofPlainName?_eq_some_iff {s : String} {c : Color} : ofPlainName? s = some c ↔ s ∈ c.names := by
  constructor
  · intro h
    unfold ofPlainName? at h
    split at h <;> cases h <;> decide
  · have hall : ∀ name ∈ c.names, ofPlainName? name = some c := by cases c <;> decide
    exact hall s

theorem interchangeable_iff {a b : Char} :
    Interchangeable a b ↔ (if a == '_' then '-' else a) = if b == '_' then '-' else b := by
  simp only [Interchangeable, beq_iff_eq]
  by_cases ha : a = '_'
  · subst ha
    by_cases hb : b = '_'
    · simp [hb]
    · simp [hb, Ne.symm hb, eq_comm]
  · by_cases hb : b = '_'
    · simp [ha, hb]
    · rw [if_neg ha, if_neg hb, or_iff_left_iff_imp]
      simp only [List.mem_cons, List.not_mem_nil, or_false, ha, hb]
      rintro ⟨rfl, rfl⟩
      rfl

theorem hyphenate_eq_iff {s t : String} :
    hyphenate s = hyphenate t ↔ List.Forall₂ Interchangeable s.toList t.toList := by
  have hrel : Interchangeable = fun a b => (if a == '_' then '-' else a) = if b == '_' then '-' else b :=
    funext fun _ => funext fun _ => propext interchangeable_iff
  rw [hyphenate, hyphenate, String.ofList_inj, ← List.forall₂_eq_eq_eq, List.forall₂_map_left_iff,
    List.forall₂_map_right_iff, hrel]

theorem hyphenate_of_mem_names {c : Color} {name : String} (h : name ∈ c.names) : hyphenate name = name := by
  have hall : ∀ name ∈ c.names, hyphenate name = name := by cases c <;> decide
  exact hall name h

/-- Looking up a word finds the color that it names. -/
theorem ofName?_eq_some_iff {word : String} {c : Color} : ofName? word = some c ↔ c.NamedBy word := by
  rw [ofName?, ofPlainName?_eq_some_iff, NamedBy]
  constructor
  · intro h
    refine ⟨_, h, hyphenate_eq_iff.mp ?_⟩
    rw [hyphenate_of_mem_names h]
  · rintro ⟨name, hname, halike⟩
    rwa [hyphenate_eq_iff.mpr halike, hyphenate_of_mem_names hname]

end Color

namespace Style.Word

/-- The word stands for an attribute or names a color. -/
def SpelledBy : Word → String → Prop
  | bold, word => Text.lowercase word = "bold"
  | italic, word => Text.lowercase word = "italic"
  | underline, word => Text.lowercase word = "underline"
  | color c, word => c.NamedBy word

def color? : Word → Option Color
  | color c => some c
  | _ => none

/-- Looking up a word finds what it stands for. -/
theorem ofText?_eq_some_iff {word : String} {m : Word} : ofText? word = some m ↔ m.SpelledBy word := by
  have hcolor : ∀ c, Color.ofName? (Text.lowercase word) = some c ↔ c.NamedBy word := by
    intro c
    rw [← Color.ofName?_eq_some_iff, Color.ofName?, Color.ofName?, Text.lowercase_lowercase]
  -- no color is called as an attribute is
  have hnone : Color.ofName? "bold" = none ∧ Color.ofName? "italic" = none ∧
      Color.ofName? "underline" = none := by decide +kernel
  rw [ofText?]
  split
  · next h =>
    simp only [h] at hcolor
    cases m <;> simp [SpelledBy, h, ← hcolor, hnone]
  · next h =>
    simp only [h] at hcolor
    cases m <;> simp [SpelledBy, h, ← hcolor, hnone]
  · next h =>
    simp only [h] at hcolor
    cases m <;> simp [SpelledBy, h, ← hcolor, hnone]
  · next hbold hitalic hunderline =>
    cases m with
    | bold => simpa [SpelledBy] using hbold
    | italic => simpa [SpelledBy] using hitalic
    | underline => simpa [SpelledBy] using hunderline
    | color c => simp [SpelledBy, hcolor]

/-- The case of ASCII letters does not matter for what a word stands for. -/
theorem ofText?_map_toLower (cs : List Char) :
    ofText? (String.ofList (cs.map Char.toLower)) = ofText? (String.ofList cs) := by
  rw [ofText?, ofText?, Text.lowercase_map_toLower]

end Style.Word

end Highlight
