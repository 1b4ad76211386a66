import Mathlib.Data.List.Chain
import Highlight.Text.Span

/-!
# Filling gaps

Things lie one behind the other without a hole, some of them mere gaps. If no two gaps are neighbours,
then the other things alone determine the whole: it is they, with each hole that they leave filled by
one gap.
-/

namespace Highlight

section Gaps

variable {α : Type} (span : α → Span) (gap : Span → α)

def gapOf (start stop : Nat) : List α := if start < stop then [gap ⟨start, stop⟩] else []

/-- Things in order, with the gaps that they leave between `start` and `stop`. -/
def fillGaps (stop : Nat) : (start : Nat) → List α → List α
  | start, [] => gapOf gap start stop
  | start, a :: as => gapOf gap start (span a).start ++ a :: fillGaps stop (span a).stop as

/-- Things follow one another from `start` to `stop`, and none of them is empty. -/
def Follow (stop : Nat) : (start : Nat) → List α → Prop
  | start, [] => start = stop
  | start, a :: as => (span a).start = start ∧ start < (span a).stop ∧ Follow stop (span a).stop as

theorem gapOf_self (start : Nat) : gapOf gap start start = [] := if_neg (Nat.lt_irrefl start)

theorem gapOf_lt {start stop : Nat} (h : start < stop) : gapOf gap start stop = [gap ⟨start, stop⟩] :=
  if_pos h

variable {span gap} {isGap : α → Bool}

/-- Where no two gaps are neighbours, the other things determine the whole. -/
theorem eq_fillGaps {as : List α} {start stop : Nat} (h : Follow span stop start as)
    (hgap : ∀ a ∈ as, isGap a = true → a = gap (span a))
    (hparted : as.IsChain fun a b => ¬ (isGap a = true ∧ isGap b = true)) :
    as = fillGaps span gap stop start (as.filter fun a => !isGap a) := by
  induction as generalizing start with
  | nil =>
    obtain rfl : start = stop := h
    exact (gapOf_self gap start).symm
  | cons a as ih =>
    obtain ⟨rfl, hlt, hrest⟩ := h
    have htail := ih hrest (fun b hb => hgap b (List.mem_cons_of_mem a hb)) hparted.tail
    cases hg : isGap a with
    | false =>
      rw [List.filter_cons_of_pos (by simp [hg]), fillGaps, gapOf_self, ← htail]
      rfl
    | true =>
      have ha : a = gap ⟨(span a).start, (span a).stop⟩ := hgap a (List.mem_cons_self ..) hg
      rw [List.filter_cons_of_neg (by simp [hg])]
      cases as with
      | nil =>
        obtain rfl : (span a).stop = stop := hrest
        rw [List.filter_nil, fillGaps, gapOf_lt gap hlt, ← ha]
      | cons b bs =>
        -- the next thing is no gap, and begins where this one ends
        have hb : isGap b = false := by
          have hnot := (List.isChain_cons_cons.mp hparted).1
          cases hb : isGap b with
          | false => rfl
          | true => exact absurd ⟨hg, hb⟩ hnot
        have hstart : (span b).start = (span a).stop := hrest.1
        rw [List.filter_cons_of_pos (by simp [hb]), fillGaps, hstart, gapOf_self] at htail
        rw [List.filter_cons_of_pos (by simp [hb]), fillGaps, hstart, gapOf_lt gap hlt, ← ha]
        exact congrArg (a :: ·) htail

end Gaps

end Highlight
