import Highlight.Regex.Basic

/-!
# How far a match reaches

A match that begins where a text begins ends within that text, whatever the program. Nothing is
said here about which of several matches is preferred.
-/

namespace Highlight.Regex

/-- The best match so far once the threads at `here` have settled. -/
def Settled.bestAt (s : Settled) (here : Nat) (best : Option Found) : Option Found :=
  match s.accepted with
  | some t => some ⟨here, t⟩
  | none => best

/-- The threads at one position when nothing but characters can move them on. -/
def Program.settled (p : Program) (before after : Option Char) (here : Nat)
    (threads : List Thread) : Settled :=
  p.settle before after here (p.settleFuel threads.length) (Marks.none p.code.size) threads

theorem Program.follow_nil (p : Program) (before : Option Char) (here : Nat)
    (threads : List Thread) (best : Option Found) :
    p.follow [] before here threads best = (p.settled before none here threads).bestAt here best := by
  rw [Program.follow]
  rfl

theorem Program.follow_cons (p : Program) (c : Char) (rest : List Char) (before : Option Char)
    (here : Nat) (threads : List Thread) (best : Option Found) :
    p.follow (c :: rest) before here threads best =
      match advance c (p.settled before (some c) here threads).waiting with
      | [] => (p.settled before (some c) here threads).bestAt here best
      | next => p.follow rest (some c) (here + 1) next
          ((p.settled before (some c) here threads).bestAt here best) := by
  rw [Program.follow]
  rfl

/-- A match in the making never ends behind `limit` if it did not before. -/
theorem Settled.bestAt_stop_le {s : Settled} {here limit : Nat} {best : Option Found}
    (hbest : ∀ b, best = some b → b.stop ≤ limit) (hhere : here ≤ limit) :
    ∀ b, s.bestAt here best = some b → b.stop ≤ limit := by
  intro b hb
  rw [Settled.bestAt] at hb
  split at hb
  · cases hb
    exact hhere
  · exact hbest b hb

theorem Program.follow_stop_le (p : Program) :
    ∀ (text : List Char) (before : Option Char) (here : Nat) (threads : List Thread)
      (best : Option Found),
      (∀ b, best = some b → b.stop ≤ here + text.length) →
      ∀ found, p.follow text before here threads best = some found →
        found.stop ≤ here + text.length := by
  intro text
  induction text with
  | nil =>
    intro before here threads best hbest found hfound
    rw [follow_nil] at hfound
    exact Settled.bestAt_stop_le hbest (by omega) found hfound
  | cons c rest ih =>
    intro before here threads best hbest found hfound
    have hlen : here + (c :: rest).length = (here + 1) + rest.length := by
      simp only [List.length_cons]
      omega
    have hhere : here ≤ here + (c :: rest).length := Nat.le_add_right _ _
    have hnow := Settled.bestAt_stop_le
      (s := p.settled before (some c) here threads) hbest hhere
    rw [follow_cons] at hfound
    split at hfound
    · exact hnow found hfound
    · rw [hlen] at hnow ⊢
      exact ih _ _ _ _ hnow found hfound

theorem matchAt_stop_le {r : Highlight.Regex} {before : Option Char} {text : List Char}
    {c : Captures} (h : r.matchAt before text = some c) : c.stop ≤ text.length := by
  rw [Highlight.Regex.matchAt, Program.matchAt] at h
  split at h
  · next found hfound =>
    cases h
    have := r.program.follow_stop_le text before 0 _ none (by simp) found hfound
    simpa using this
  · cases h

end Highlight.Regex
