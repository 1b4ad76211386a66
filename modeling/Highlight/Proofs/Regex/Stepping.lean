import Highlight.Proofs.Regex.Extent

/-!
# Following threads step by step

What a program does with a text is worked out one character at a time: the threads settle, and
those that wait for the character go on behind it. `follow_go` and `follow_stop` are the two
ways in which such a step can end. How the threads of a given program settle is for `simp` to work
out, with the equations of `settle` and the lemmas on `Marks`.
-/

namespace Highlight.Regex

@[simp] theorem Marks.contains_none (size state : Nat) : (none size).contains state = false := by
  simp [none, contains, Array.getD]

@[simp] theorem Marks.contains_insert_of_ne (m : Marks) {state other : Nat} (h : state ≠ other) :
    (m.insert state).contains other = m.contains other := by
  simp [insert, contains, Array.getD_eq_getD_getElem?, h]

namespace Program

variable {p : Program} {c : Char} {rest : List Char} {before : Option Char} {here : Nat}
  {threads : List Thread} {best : Option Found} {s : Settled}

/-- Some threads take the character. -/
theorem follow_go (hs : p.settled before (some c) here threads = s) {t : Thread}
    {next : List Thread} (ha : advance c s.waiting = t :: next) :
    p.follow (c :: rest) before here threads best =
      p.follow rest (some c) (here + 1) (t :: next) (s.bestAt here best) := by
  rw [follow_cons, hs, ha]

/-- No thread takes the character. -/
theorem follow_stop (hs : p.settled before (some c) here threads = s)
    (ha : advance c s.waiting = []) :
    p.follow (c :: rest) before here threads best = s.bestAt here best := by
  rw [follow_cons, hs, ha]

/-- Some threads take the character, and none accepts before it. -/
theorem follow_on {waiting : List Waiting}
    (hs : p.settled before (some c) here threads = ⟨waiting, none⟩) {t : Thread}
    {next : List Thread} (ha : advance c waiting = t :: next) :
    p.follow (c :: rest) before here threads best =
      p.follow rest (some c) (here + 1) (t :: next) best := follow_go hs ha

/-- No thread takes the character, and none accepts before it. -/
theorem follow_stuck {waiting : List Waiting}
    (hs : p.settled before (some c) here threads = ⟨waiting, none⟩) (ha : advance c waiting = []) :
    p.follow (c :: rest) before here threads best = best := follow_stop hs ha

/-- Threads that settle alike go on alike. -/
theorem follow_congr {others : List Thread} (text : List Char)
    (hs : ∀ after, p.settled before after here threads = p.settled before after here others) :
    p.follow text before here threads best = p.follow text before here others best := by
  cases text with
  | nil => rw [follow_nil, follow_nil, hs]
  | cons c rest => rw [follow_cons, follow_cons, hs]

/-- A thread that accepts ends all others. -/
theorem follow_accept {t : Thread} (text : List Char)
    (hs : ∀ after, p.settled before after here threads = ⟨[], some t⟩) :
    p.follow text before here threads best = some ⟨here, t⟩ := by
  cases text with
  | nil =>
    rw [follow_nil, hs]
    rfl
  | cons c rest =>
    rw [follow_stop (hs (some c)) rfl]
    rfl

end Program

@[simp] theorem advance_nil (c : Char) : advance c [] = [] := rfl

@[simp] theorem advance_cons (c : Char) (w : Waiting) (ws : List Waiting) :
    advance c (w :: ws) =
      if w.set.contains c then w.thread :: advance c ws else advance c ws := by
  rw [advance, List.filterMap_cons, advance]
  split
  · next h => rw [if_neg (fun hc => by simp [hc] at h)]
  · next h =>
    split at h
    · next hc =>
      cases h
      rw [if_pos hc]
    · cases h

end Highlight.Regex
