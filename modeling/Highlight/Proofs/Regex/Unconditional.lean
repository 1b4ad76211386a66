import Highlight.Proofs.Regex.Extent

/-!
# Programs without conditions

A program without conditions never looks at what surrounds the characters it takes. So the
character in front of a match says nothing about it, and a match is not lost when the text grows
at its end: there is a match again, and the preferred one is at least as long.
-/

namespace Highlight.Regex

/-- Whether an instruction asks for a condition. -/
def Instr.isCheck : Instr → Bool
  | check .. => true
  | _ => false

def Program.Unconditional (p : Program) : Prop := ∀ i ∈ p.code, i.isCheck = false

/-- Only conditions look at the characters around a position. -/
theorem Program.Unconditional.settle_eq {p : Program} (hp : p.Unconditional)
    (before after before' after' : Option Char) (here fuel : Nat) :
    ∀ seen threads, p.settle before after here fuel seen threads =
      p.settle before' after' here fuel seen threads := by
  induction fuel with
  | zero =>
    intro seen threads
    rw [Program.settle, Program.settle]
  | succ fuel ih =>
    intro seen threads
    cases threads with
    | nil => rw [Program.settle, Program.settle]
    | cons t rest =>
      rw [Program.settle, Program.settle]
      split
      · exact ih seen rest
      · cases hi : p.code[t.state]? with
        | none => exact ih _ _
        | some i =>
          cases i with
          | accept => rfl
          | consume s next => simp only [ih]
          | split first second => exact ih _ _
          | check a next => exact absurd (hp _ (Array.mem_of_getElem? hi)) Bool.noConfusion
          | enter group next => exact ih _ _
          | leave group next => exact ih _ _

theorem Program.Unconditional.settled_eq {p : Program} (hp : p.Unconditional)
    (before after before' after' : Option Char) (here : Nat) (threads : List Thread) :
    p.settled before after here threads = p.settled before' after' here threads :=
  hp.settle_eq before after before' after' here _ _ _

theorem Program.Unconditional.follow_before {p : Program} (hp : p.Unconditional)
    (before before' : Option Char) (text : List Char) (here : Nat) (threads : List Thread)
    (best : Option Found) :
    p.follow text before here threads best = p.follow text before' here threads best := by
  cases text with
  | nil => rw [follow_nil, follow_nil, hp.settled_eq before none before' none]
  | cons c rest =>
    rw [follow_cons, follow_cons, hp.settled_eq before (some c) before' (some c)]

/-- There is a match in the making, and it ends at `stop` or behind. -/
def Found.From (stop : Nat) (best : Option Found) : Prop := ∃ f, best = some f ∧ stop ≤ f.stop

theorem Found.From.bestAt {stop here : Nat} {best : Option Found} (h : Found.From stop best)
    (hle : stop ≤ here) (s : Settled) : Found.From stop (s.bestAt here best) := by
  rw [Settled.bestAt]
  split
  · exact ⟨_, rfl, hle⟩
  · exact h

/-- A match in the making is only ever replaced by one that ends further on. -/
theorem Program.follow_from (p : Program) {stop : Nat} (text : List Char) :
    ∀ (before : Option Char) (here : Nat) (threads : List Thread) (best : Option Found),
      stop ≤ here → Found.From stop best → Found.From stop (p.follow text before here threads best) := by
  induction text with
  | nil =>
    intro before here threads best hle hbest
    rw [follow_nil]
    exact hbest.bestAt hle _
  | cons c rest ih =>
    intro before here threads best hle hbest
    have hnow := hbest.bestAt hle (p.settled before (some c) here threads)
    rw [follow_cons]
    split
    · exact hnow
    · exact ih _ _ _ _ (Nat.le_succ_of_le hle) hnow

/-- What has been found in a text is found, or something longer, when more text comes behind. -/
theorem Program.Unconditional.follow_append {p : Program} (hp : p.Unconditional) (stop : Nat)
    (more text : List Char) :
    ∀ (before : Option Char) (here : Nat) (threads : List Thread) (best : Option Found),
      stop ≤ here + text.length → Found.From stop (p.follow text before here threads best) →
      Found.From stop (p.follow (text ++ more) before here threads best) := by
  induction text with
  | nil =>
    intro before here threads best hle h
    rw [follow_nil] at h
    cases more with
    | nil =>
      rw [List.append_nil, follow_nil]
      exact h
    | cons c rest =>
      rw [hp.settled_eq before none before (some c)] at h
      rw [List.nil_append, follow_cons]
      split
      · exact h
      · exact p.follow_from rest _ _ _ _ (Nat.le_succ_of_le hle) h
  | cons c rest ih =>
    intro before here threads best hle h
    rw [List.cons_append, follow_cons]
    rw [follow_cons] at h
    rw [List.length_cons] at hle
    cases hnext : advance c (p.settled before (some c) here threads).waiting with
    | nil =>
      simp only [hnext] at h ⊢
      exact h
    | cons t threads' =>
      simp only [hnext] at h ⊢
      exact ih _ _ _ _ (by omega) h

theorem matchAt_before {r : Highlight.Regex} (hr : r.program.Unconditional)
    (before before' : Option Char) (text : List Char) :
    r.matchAt before text = r.matchAt before' text := by
  rw [Highlight.Regex.matchAt, Highlight.Regex.matchAt, Program.matchAt, Program.matchAt,
    hr.follow_before before before']

theorem matchAt_append {r : Highlight.Regex} (hr : r.program.Unconditional)
    {before : Option Char} {text : List Char} {c : Captures} (h : r.matchAt before text = some c)
    (more : List Char) : ∃ c', r.matchAt before (text ++ more) = some c' ∧ c.stop ≤ c'.stop := by
  have hstop := matchAt_stop_le h
  rw [Highlight.Regex.matchAt, Program.matchAt] at h
  split at h
  · next found hfound =>
    cases h
    obtain ⟨found', hfound', hle⟩ := hr.follow_append found.stop more text before 0 _
      none (by simpa using hstop) ⟨found, hfound, Nat.le_refl _⟩
    rw [Highlight.Regex.matchAt, Program.matchAt, hfound']
    exact ⟨_, rfl, hle⟩
  · cases h

end Highlight.Regex
