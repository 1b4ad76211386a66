import Highlight.CharSet.Classes
import Highlight.Text.Lowercase

/-!
# The case of ASCII letters

An ASCII letter in lowercase has the same lowercase form and the same place among the tables as the one in
uppercase. So lowercasing does not see which of the two stands in a text, not even where a capital sigma
looks at its neighbours.
-/

namespace Highlight.Text

/-- Two characters that lowercasing and cutting at blanks treat alike. -/
structure SameLetter (c d : Char) : Prop where
  blank : isBlank c = isBlank d
  cased : isCased c = isCased d
  ignorable : isCaseIgnorable c = isCaseIgnorable d
  sigma : c = 'Σ' ↔ d = 'Σ'
  lower : lowercaseChar c = lowercaseChar d

theorem sameLetter_toLower (c : Char) : SameLetter c.toLower c := by
  by_cases hascii : c.toNat < 128
  · have hall : ∀ n < 128, isBlank (Char.ofNat n).toLower = isBlank (Char.ofNat n) ∧
        isCased (Char.ofNat n).toLower = isCased (Char.ofNat n) ∧
        isCaseIgnorable (Char.ofNat n).toLower = isCaseIgnorable (Char.ofNat n) ∧
        ((Char.ofNat n).toLower = 'Σ' ↔ Char.ofNat n = 'Σ') ∧
        lowercaseChar (Char.ofNat n).toLower = lowercaseChar (Char.ofNat n) := by decide +kernel
    have h := hall c.toNat hascii
    rw [Char.ofNat_toNat] at h
    exact ⟨h.1, h.2.1, h.2.2.1, h.2.2.2.1, h.2.2.2.2⟩
  · have hsame : c.toLower = c := by
      refine dif_neg ?_
      rintro ⟨-, hle⟩
      have hnat : c.toNat ≤ 'Z'.toNat := hle
      have hZ : 'Z'.toNat = 90 := rfl
      omega
    rw [hsame]
    exact ⟨rfl, rfl, rfl, .rfl, rfl⟩

theorem beginsCased_map_toLower (cs : List Char) :
    beginsCased (cs.map Char.toLower) = beginsCased cs := by
  induction cs with
  | nil => rfl
  | cons c cs ih =>
    have hc := sameLetter_toLower c
    rw [List.map_cons, beginsCased, beginsCased, ih, hc.ignorable, hc.cased]

theorem lowercaseFrom_map_toLower (afterCased : Bool) (cs : List Char) :
    lowercaseFrom afterCased (cs.map Char.toLower) = lowercaseFrom afterCased cs := by
  induction cs generalizing afterCased with
  | nil => rfl
  | cons c cs ih =>
    have hc := sameLetter_toLower c
    have hsigma : (c.toLower == 'Σ') = (c == 'Σ') := by
      rw [Bool.eq_iff_iff, beq_iff_eq, beq_iff_eq]
      exact hc.sigma
    rw [List.map_cons, lowercaseFrom, lowercaseFrom, ih, beginsCased_map_toLower, hsigma, hc.lower,
      hc.ignorable, hc.cased]

/-- The lowercase form of a text does not depend on the case of its ASCII letters. -/
theorem lowercase_map_toLower (cs : List Char) :
    lowercase (String.ofList (cs.map Char.toLower)) = lowercase (String.ofList cs) := by
  rw [lowercase, lowercase, String.toList_ofList, String.toList_ofList, lowercaseFrom_map_toLower]

end Highlight.Text
