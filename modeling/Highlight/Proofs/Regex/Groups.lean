import Highlight.Proofs.Regex.Extent

/-!
# Groups lie within their match

A thread remembers places that it has passed, so none of them is ahead of it, and a group ends no
sooner than it was entered. This goes through all steps of a program, whatever the program. So what a
group of a match has matched is a span of the match.
-/

namespace Highlight.Regex

theorem mem_of_lookup {α : Type} {entries : List (Nat × α)} {n : Nat} {a : α}
    (h : entries.lookup n = some a) : (n, a) ∈ entries := by
  obtain ⟨front, back, rfl, -⟩ := List.lookup_eq_some_iff.mp h
  simp

/-- Nothing that a thread remembers lies ahead of `here`, and no group ends before it begins. -/
structure Thread.Within (t : Thread) (here : Nat) : Prop where
  entered : ∀ e ∈ t.entered, e.2 ≤ here
  groups : ∀ g ∈ t.groups, g.2.start ≤ g.2.stop ∧ g.2.stop ≤ here

namespace Thread.Within

variable {t : Thread} {here : Nat}

theorem mono (h : t.Within here) {there : Nat} (hle : here ≤ there) : t.Within there := by
  constructor
  · exact fun e he => Nat.le_trans (h.entered e he) hle
  · exact fun g hg => ⟨(h.groups g hg).1, Nat.le_trans (h.groups g hg).2 hle⟩

theorem goto (h : t.Within here) (state : Nat) : (t.goto state).Within here :=
  ⟨h.entered, h.groups⟩

theorem enter (h : t.Within here) (group next : Nat) : (t.enter group here next).Within here := by
  refine ⟨?_, h.groups⟩
  intro e he
  rcases List.mem_cons.mp he with rfl | he
  · exact Nat.le_refl _
  · exact h.entered e he

theorem leave (h : t.Within here) (group next : Nat) : (t.leave group here next).Within here := by
  rw [Thread.leave]
  split
  · next start hstart =>
    refine ⟨h.entered, ?_⟩
    intro g hg
    rcases List.mem_cons.mp hg with rfl | hg
    · exact ⟨h.entered _ (mem_of_lookup hstart), Nat.le_refl _⟩
    · exact h.groups g hg
  · exact ⟨h.entered, h.groups⟩

end Thread.Within

/-- The same for all threads that have settled at `here`. -/
structure Settled.Within (s : Settled) (here : Nat) : Prop where
  waiting : ∀ w ∈ s.waiting, w.thread.Within here
  accepted : ∀ t, s.accepted = some t → t.Within here

theorem Program.settle_within (p : Program) (before after : Option Char) (here fuel : Nat) :
    ∀ seen threads, (∀ t ∈ threads, t.Within here) →
      (p.settle before after here fuel seen threads).Within here := by
  have hnothing : Settled.Within ⟨[], none⟩ here := ⟨by simp, by simp⟩
  induction fuel with
  | zero =>
    intro seen threads _
    rw [settle]
    exact hnothing
  | succ fuel ih =>
    intro seen threads hall
    cases threads with
    | nil =>
      rw [settle]
      exact hnothing
    | cons t rest =>
      obtain ⟨ht, hrest⟩ := List.forall_mem_cons.mp hall
      rw [settle]
      split
      · exact ih seen rest hrest
      · cases p.code[t.state]? with
        | none => exact ih _ rest hrest
        | some i =>
          cases i with
          | accept =>
            refine ⟨by simp, ?_⟩
            rintro _ ⟨⟩
            exact ht
          | consume s next =>
            have hsettled := ih (seen.insert t.state) rest hrest
            exact ⟨List.forall_mem_cons.mpr ⟨ht.goto next, hsettled.waiting⟩, hsettled.accepted⟩
          | split first second =>
            exact ih _ _ (List.forall_mem_cons.mpr ⟨ht.goto first,
              List.forall_mem_cons.mpr ⟨ht.goto second, hrest⟩⟩)
          | check a next =>
            dsimp only
            split
            · exact ih _ _ (List.forall_mem_cons.mpr ⟨ht.goto next, hrest⟩)
            · exact ih _ rest hrest
          | enter group next => exact ih _ _ (List.forall_mem_cons.mpr ⟨ht.enter group next, hrest⟩)
          | leave group next => exact ih _ _ (List.forall_mem_cons.mpr ⟨ht.leave group next, hrest⟩)

/-- The same for a match in the making, at the place where it ends. -/
def Found.Within (best : Option Found) : Prop := ∀ f, best = some f → f.thread.Within f.stop

theorem Settled.Within.bestAt {s : Settled} {here : Nat} {best : Option Found} (h : s.Within here)
    (hbest : Found.Within best) : Found.Within (s.bestAt here best) := by
  rw [Settled.bestAt]
  split
  · next t ht =>
    rintro _ ⟨⟩
    exact h.accepted t ht
  · exact hbest

theorem Settled.Within.advance {s : Settled} {here : Nat} (h : s.Within here) (c : Char) :
    ∀ t ∈ advance c s.waiting, t.Within (here + 1) := by
  intro t ht
  obtain ⟨w, hw, hthread⟩ := List.mem_filterMap.mp ht
  split at hthread
  · cases hthread
    exact (h.waiting w hw).mono (Nat.le_succ here)
  · cases hthread

theorem Program.follow_within (p : Program) (text : List Char) :
    ∀ (before : Option Char) (here : Nat) (threads : List Thread) (best : Option Found),
      (∀ t ∈ threads, t.Within here) → Found.Within best →
      Found.Within (p.follow text before here threads best) := by
  induction text with
  | nil =>
    intro before here threads best hthreads hbest
    rw [follow_nil]
    exact (p.settle_within _ _ _ _ _ _ hthreads).bestAt hbest
  | cons c rest ih =>
    intro before here threads best hthreads hbest
    have hsettled : (p.settled before (some c) here threads).Within here :=
      p.settle_within _ _ _ _ _ _ hthreads
    rw [follow_cons]
    split
    · exact hsettled.bestAt hbest
    · exact ih _ _ _ _ (hsettled.advance c) (hsettled.bestAt hbest)

/-- What a group has matched is a span of the match. -/
theorem matchAt_groups {r : Highlight.Regex} {before : Option Char} {text : List Char} {c : Captures}
    (h : r.matchAt before text = some c) {s : Span} (hs : some s ∈ c.groups) :
    s.start ≤ s.stop ∧ s.stop ≤ c.stop := by
  rw [Highlight.Regex.matchAt, Program.matchAt] at h
  split at h
  · next found hfound =>
    cases h
    obtain ⟨i, -, hlookup⟩ := List.mem_map.mp hs
    have hbegin : ∀ t ∈ [({ state := r.program.start } : Thread)], t.Within 0 := by
      intro t ht
      rw [List.mem_singleton.mp ht]
      exact ⟨by simp, by simp⟩
    have hwithin := r.program.follow_within text before 0 _ none hbegin (by rintro _ ⟨⟩) found hfound
    exact hwithin.groups _ (mem_of_lookup hlookup)
  · cases h

end Highlight.Regex
