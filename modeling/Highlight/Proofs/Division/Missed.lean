import Highlight.Proofs.Division.Stages
import Highlight.Proofs.Grammar.Plain

/-!
# Matches that are missed

A pattern misses a place among pieces if it matches there within a free run, taken on its own. A
plain pattern that misses a place of some pieces matches there in the text that they spell as
well (`Missed.hits`). So what a search of that text finds begins at such a place at the latest:
`Missed.le_of_search`.
-/

namespace Highlight

open Piece (spell Solid)

namespace Piece

/-- The pattern matches within a free run, at a place with `place` characters behind it. -/
def Missed (q : Pattern) (ps : List Piece) (place : Nat) : Prop :=
  ∃ front x y back, ps = front ++ .free (x ++ y) :: back ∧ q.Hits y ∧
    place = y.length + (spell back).length

variable {q : Pattern}

theorem not_missed_nil {place : Nat} : ¬ Missed q [] place := by
  rintro ⟨front, x, y, back, h, -⟩
  exact absurd h.symm (List.append_ne_nil_of_right_ne_nil _ (List.cons_ne_nil _ _))

theorem Missed.append_left {ps : List Piece} {place : Nat} (h : Missed q ps place)
    (front : List Piece) : Missed q (front ++ ps) place := by
  obtain ⟨lead, x, y, back, rfl, hy, rfl⟩ := h
  exact ⟨front ++ lead, x, y, back, by rw [List.append_assoc], hy, rfl⟩

theorem Missed.append_right {ps : List Piece} {place : Nat} (h : Missed q ps place)
    (behind : List Piece) : Missed q (ps ++ behind) (place + (spell behind).length) := by
  obtain ⟨lead, x, y, back, rfl, hy, rfl⟩ := h
  refine ⟨lead, x, y, back ++ behind, by simp, hy, ?_⟩
  rw [spell_append, List.length_append]
  omega

/-- A place that is missed lies in the first pieces or in the others. -/
theorem missed_append {ps behind : List Piece} {place : Nat} (h : Missed q (ps ++ behind) place) :
    (∃ e, Missed q ps e ∧ place = e + (spell behind).length) ∨ Missed q behind place := by
  obtain ⟨lead, x, y, back, heq, hy, rfl⟩ := h
  rcases List.append_eq_append_iff.mp heq with ⟨mid, rfl, hmid⟩ | ⟨mid, rfl, hmid⟩
  · exact .inr ⟨mid, x, y, back, hmid, hy, rfl⟩
  · cases mid with
    | nil => exact .inr ⟨[], x, y, back, hmid.symm, hy, rfl⟩
    | cons p mid =>
      rw [List.cons_append, List.cons.injEq] at hmid
      obtain ⟨rfl, rfl⟩ := hmid
      refine .inl ⟨y.length + (spell mid).length, ⟨lead, x, y, mid, rfl, hy, rfl⟩, ?_⟩
      rw [spell_append, List.length_append]
      omega

theorem missed_claimed {c : Claimed} {ps : List Piece} {place : Nat}
    (h : Missed q (.claimed c :: ps) place) : Missed q ps place := by
  obtain ⟨lead, x, y, back, heq, hy, rfl⟩ := h
  cases lead with
  | nil => cases heq
  | cons p lead =>
    rw [List.cons_append, List.cons.injEq] at heq
    exact ⟨lead, x, y, back, heq.2, hy, rfl⟩

theorem missed_free {run : List Char} {ps : List Piece} {place : Nat}
    (h : Missed q (.free run :: ps) place) :
    (∃ x y, run = x ++ y ∧ q.Hits y ∧ place = y.length + (spell ps).length) ∨
      Missed q ps place := by
  obtain ⟨lead, x, y, back, heq, hy, rfl⟩ := h
  cases lead with
  | nil =>
    cases heq
    exact .inl ⟨x, y, rfl, hy, rfl⟩
  | cons p lead =>
    rw [List.cons_append, List.cons.injEq] at heq
    exact .inr ⟨lead, x, y, back, heq.2, hy, rfl⟩

theorem Missed.of_hits {x y : List Char} (hy : q.Hits y) (ps : List Piece) :
    Missed q (.free (x ++ y) :: ps) (y.length + (spell ps).length) :=
  ⟨[], x, y, ps, rfl, hy, rfl⟩

theorem Missed.cast {ps : List Piece} {place place' : Nat} (h : Missed q ps place)
    (hplace : place = place') : Missed q ps place' := hplace ▸ h

/-- A place that is missed lies among the pieces. -/
theorem Missed.le {ps : List Piece} {place : Nat} (h : Missed q ps place) :
    place ≤ (spell ps).length := by
  obtain ⟨lead, x, y, back, rfl, -, rfl⟩ := h
  simp only [spell_append, spell_cons, text_free, List.length_append]
  omega

/-- It has characters behind it. -/
theorem Missed.pos {ps : List Piece} {place : Nat} (h : Missed q ps place) : 0 < place := by
  obtain ⟨lead, x, y, back, -, hy, rfl⟩ := h
  have := List.length_pos_iff.mpr hy.ne_nil
  omega

theorem missed_ofFree {t : List Char} {place : Nat} (h : Missed q (ofFree t) place) :
    ∃ x y, t = x ++ y ∧ q.Hits y ∧ place = y.length := by
  rw [ofFree] at h
  split at h
  · exact absurd h not_missed_nil
  · rcases missed_free h with ⟨x, y, ht, hy, hplace⟩ | h
    · exact ⟨x, y, ht, hy, by simpa using hplace⟩
    · exact absurd h not_missed_nil

/-- When free text is joined to pieces, a place that is missed behind it was missed before. -/
theorem missed_joinFree {t : List Char} {ps : List Piece} {place : Nat}
    (h : Missed q (joinFree t ps) place) (hle : place ≤ (spell ps).length) : Missed q ps place := by
  by_cases ht : t = []
  · rw [ht] at h
    exact h
  cases ps with
  | nil =>
    rw [spell_nil, List.length_nil] at hle
    have := h.pos
    omega
  | cons p ps =>
    cases p with
    | claimed c =>
      rw [joinFree_claimed ht] at h
      rcases missed_free h with ⟨x, y, hsplit, hy, rfl⟩ | h
      · have := List.length_pos_iff.mpr hy.ne_nil
        omega
      · exact h
    | free u =>
      rw [joinFree_free ht] at h
      rcases missed_free h with ⟨x, y, hsplit, hy, rfl⟩ | h
      · simp only [spell_cons, text_free, List.length_append] at hle
        obtain ⟨mid, rfl⟩ : ∃ mid, u = mid ++ y := by
          rcases List.append_eq_append_iff.mp hsplit with ⟨mid, -, hu⟩ | ⟨mid, -, hy'⟩
          · exact ⟨mid, hu⟩
          · have := congrArg List.length hy'
            rw [List.length_append] at this
            obtain rfl : mid = [] := List.length_eq_zero_iff.mp (by omega)
            exact ⟨[], hy'.symm⟩
        exact .of_hits hy ps
      · exact h.append_left [.free u]

/-- Where a plain pattern misses a place, it matches in the text that the pieces spell. -/
theorem Missed.hits (hq : q.Plain) {ps : List Piece} {place : Nat} (h : Missed q ps place) :
    ∃ front back, spell ps = front ++ back ∧ q.Hits back ∧ place = back.length := by
  obtain ⟨lead, x, y, back, rfl, hy, rfl⟩ := h
  refine ⟨spell lead ++ x, y ++ spell back, ?_, hq.hits_append hy _, ?_⟩
  · simp
  · rw [List.length_append]

/-- Where a plain pattern is not found in the text ahead, it misses no place of the pieces. -/
theorem not_missed_of_search (hq : q.Plain) {before : Option Char} {ps : List Piece}
    (h : q.search before (spell ps) = none) (place : Nat) : ¬ Missed q ps place := by
  intro hm
  obtain ⟨front, back, htext, hback, -⟩ := hm.hits hq
  exact hq.not_hits_of_search h htext hback

/-- A place that is missed does not come before what a search for the pattern finds. -/
theorem Missed.le_of_search (hq : q.Plain) {before : Option Char} {ps : List Piece} {hit : Hit}
    (hs : q.search before (spell ps) = some hit) {place : Nat} (h : Missed q ps place) :
    place + hit.token.start ≤ (spell ps).length := by
  obtain ⟨front, back, htext, hback, rfl⟩ := h.hits hq
  have hle := hq.search_first hs htext hback
  rw [htext, List.length_append]
  omega

end Piece

end Highlight
