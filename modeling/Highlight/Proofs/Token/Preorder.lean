import Mathlib.Data.List.Chain
import Highlight.Proofs.Token.Tiling

/-!
# Ranges in pre-order

The ranges of a divided text come in pre-order: a range, the ranges inside it, and the ranges
behind it. `StyledRange.Forest` is the grammar of such lists, and `StyledRange.Nesting` is what a
reader of the list relies on: who lies inside whom can be told from the order and the depths, and
whoever applies the ranges one after another ends with the innermost one at each byte. That a
divided text has such ranges rests on the tiling of its nodes at every depth.
-/

namespace Highlight

/-- The span `t` lies inside the span `s`. -/
def Span.Encloses (s t : Span) : Prop := s.start ≤ t.start ∧ t.stop ≤ s.stop

namespace StyledRange

def Covers (r : StyledRange) (i : Nat) : Prop := r.span.start ≤ i ∧ i < r.span.stop

instance (r : StyledRange) (i : Nat) : Decidable (r.Covers i) :=
  inferInstanceAs (Decidable (_ ∧ _))

/-- A range applied over what each byte had before. -/
def applyTo (before : Nat → Option StyledRange) (r : StyledRange) : Nat → Option StyledRange :=
  fun i => if r.Covers i then some r else before i

/-- What each byte has once ranges have been applied one after another. -/
def applyAll (rs : List StyledRange) : Nat → Option StyledRange := rs.foldl applyTo fun _ => none

/-- Of the ranges that cover a byte, `r` lies inside all others and is deeper than they are. -/
def Innermost (rs : List StyledRange) (i : Nat) (r : StyledRange) : Prop :=
  r ∈ rs ∧ r.Covers i ∧
    ∀ r' ∈ rs, r'.Covers i → r' = r ∨ (r'.span.Encloses r.span ∧ r'.depth < r.depth)

/-- Of two ranges, the second lies behind the first, or inside it and deeper. -/
def BehindOrInside (a b : StyledRange) : Prop :=
  a.span.stop ≤ b.span.start ∨ (a.span.Encloses b.span ∧ a.depth < b.depth)

/-- Ranges that are nested and in pre-order. -/
structure Nesting (rs : List StyledRange) : Prop where
  solid : ∀ r ∈ rs, r.span.start < r.span.stop
  behind_or_inside : rs.Pairwise BehindOrInside
  starts : rs.Pairwise fun a b => a.span.start ≤ b.span.start
  first : ∀ r, rs.head? = some r → r.depth = 0
  deepens : rs.IsChain fun a b => b.depth ≤ a.depth + 1
  /-- The closest range in front of `r` that is one less deep has `r` inside. -/
  parent : ∀ front r back, rs = front ++ r :: back → 0 < r.depth →
    ∃ a p b, front = a ++ p :: b ∧ p.depth + 1 = r.depth ∧ (∀ x ∈ b, x.depth + 1 ≠ r.depth) ∧
      p.span.Encloses r.span
  innermost : ∀ i, (applyAll rs i = none ∧ ∀ r ∈ rs, ¬ r.Covers i) ∨
    ∃ r, applyAll rs i = some r ∧ Innermost rs i r

/-- Ranges between two offsets, none of them less deep than `depth`: first one of that depth, then
those inside it, then those behind it. -/
inductive Forest : (depth start stop : Nat) → List StyledRange → Prop where
  | nil {depth start stop : Nat} (h : start ≤ stop) : Forest depth start stop []
  | cons {depth start stop : Nat} {r : StyledRange} {inner behind : List StyledRange}
      (hstart : start ≤ r.span.start) (hsolid : r.span.start < r.span.stop) (hdepth : r.depth = depth)
      (hinner : Forest (depth + 1) r.span.start r.span.stop inner)
      (hbehind : Forest depth r.span.stop stop behind) :
      Forest depth start stop (r :: (inner ++ behind))

namespace Forest

variable {depth start stop : Nat} {rs : List StyledRange}

theorem le (h : Forest depth start stop rs) : start ≤ stop := by
  induction h with
  | nil h => exact h
  | cons hstart hsolid _ _ _ _ ih => omega

/-- Ranges may also be seen as lying behind an earlier offset. -/
theorem from_le {start' : Nat} (h : Forest depth start stop rs) (hle : start' ≤ start) :
    Forest depth start' stop rs := by
  cases h with
  | nil h => exact .nil (Nat.le_trans hle h)
  | cons hstart hsolid hdepth hinner hbehind =>
    exact .cons (Nat.le_trans hle hstart) hsolid hdepth hinner hbehind

theorem bounds (h : Forest depth start stop rs) :
    ∀ r ∈ rs, depth ≤ r.depth ∧ start ≤ r.span.start ∧ r.span.start < r.span.stop ∧
      r.span.stop ≤ stop := by
  induction h with
  | nil => simp
  | @cons depth start stop r inner behind hstart hsolid hdepth hinner hbehind ihinner ihbehind =>
    have hle := hbehind.le
    intro x hx
    rcases List.mem_cons.mp hx with rfl | hx
    · omega
    rcases List.mem_append.mp hx with hx | hx
    · have hb := ihinner x hx
      omega
    · have hb := ihbehind x hx
      omega

theorem pairwise (h : Forest depth start stop rs) : rs.Pairwise BehindOrInside := by
  induction h with
  | nil => exact .nil
  | @cons depth start stop r inner behind hstart hsolid hdepth hinner hbehind ihinner ihbehind =>
    refine .cons ?_ (List.pairwise_append.mpr ⟨ihinner, ihbehind, ?_⟩)
    · intro x hx
      rcases List.mem_append.mp hx with hx | hx
      · obtain ⟨hd, hs, -, he⟩ := hinner.bounds x hx
        exact .inr ⟨⟨hs, he⟩, by omega⟩
      · exact .inl (hbehind.bounds x hx).2.1
    · intro x hx y hy
      have hxb := hinner.bounds x hx
      have hyb := hbehind.bounds y hy
      exact .inl (by omega)

theorem head_depth (h : Forest depth start stop rs) : ∀ r, rs.head? = some r → r.depth = depth := by
  intro r hr
  cases h with
  | nil => cases hr
  | cons _ _ hdepth _ _ =>
    cases hr
    exact hdepth

theorem deepens (h : Forest depth start stop rs) :
    rs.IsChain fun a b => b.depth ≤ a.depth + 1 := by
  induction h with
  | nil => exact .nil
  | @cons depth start stop r inner behind hstart hsolid hdepth hinner hbehind ihinner ihbehind =>
    -- behind `inner` the list goes back up to `depth`, which is never a step down
    have hjoin : (inner ++ behind).IsChain fun a b => b.depth ≤ a.depth + 1 := by
      refine List.IsChain.append ihinner ihbehind ?_
      intro x hx y hy
      have hxd := (hinner.bounds x (List.mem_of_getLast? hx)).1
      have hyd := hbehind.head_depth y hy
      omega
    refine List.IsChain.cons hjoin ?_
    intro y hy
    rw [List.head?_append] at hy
    cases hhead : inner.head? with
    | some x =>
      rw [hhead] at hy
      cases hy
      have hd := hinner.head_depth _ hhead
      omega
    | none =>
      rw [hhead] at hy
      have hd := hbehind.head_depth y hy
      omega

/-- A range deeper than the outermost ones has its parent in front of it. -/
theorem exists_parent (h : Forest depth start stop rs) :
    ∀ front r back, rs = front ++ r :: back → depth < r.depth →
      ∃ a p b, front = a ++ p :: b ∧ p.depth + 1 = r.depth ∧ (∀ x ∈ b, x.depth + 1 ≠ r.depth) ∧
        p.span.Encloses r.span := by
  induction h with
  | nil =>
    intro front r back hrs _
    simp at hrs
  | @cons depth start stop t inner behind hstart hsolid hdepth hinner hbehind ihinner ihbehind =>
    intro front r back hrs hr
    cases front with
    | nil =>
      obtain ⟨rfl, -⟩ := List.cons.inj hrs
      omega
    | cons t' front =>
      obtain ⟨rfl, hsplit⟩ := List.cons.inj hrs
      rcases List.append_eq_append_iff.mp hsplit with ⟨more, rfl, hmore⟩ | ⟨more, hmore, hback⟩
      · -- `r` lies behind `t` and what is inside it
        obtain ⟨a, p, b, rfl, hp, hb, hinside⟩ := ihbehind more r back hmore hr
        exact ⟨t :: (inner ++ a), p, b, by simp, hp, hb, hinside⟩
      · cases more with
        | nil =>
          obtain ⟨a, p, b, hnil, -⟩ := ihbehind [] r back hback.symm hr
          simp at hnil
        | cons r' more =>
          obtain ⟨rfl, -⟩ := List.cons.inj hback
          have hbounds := hinner.bounds r (by simp [hmore])
          by_cases hnext : depth + 1 = r.depth
          · -- `r` lies right below `t`, and in front of it only deeper ranges
            refine ⟨[], t, front, rfl, by omega, ?_, hbounds.2.1, hbounds.2.2.2⟩
            intro x hx
            have hxd := (hinner.bounds x (by simp [hmore, hx])).1
            omega
          · obtain ⟨a, p, b, rfl, hp, hb, hinside⟩ := ihinner front r more hmore (by omega)
            exact ⟨t :: a, p, b, rfl, hp, hb, hinside⟩

end Forest

theorem applyAll_concat (rs : List StyledRange) (r : StyledRange) (i : Nat) :
    applyAll (rs ++ [r]) i = if r.Covers i then some r else applyAll rs i := by
  rw [applyAll, List.foldl_append]
  rfl

/-- Where each range lies behind the ones before it or inside them, the last one applied is the
innermost one. -/
theorem applyAll_innermost {rs : List StyledRange} (h : rs.Pairwise BehindOrInside) (i : Nat) :
    (applyAll rs i = none ∧ ∀ r ∈ rs, ¬ r.Covers i) ∨
      ∃ r, applyAll rs i = some r ∧ Innermost rs i r := by
  -- from the back, because the range applied last is the one that shows
  induction rs using List.reverseRecOn with
  | nil => exact .inl ⟨rfl, by simp⟩
  | append_singleton rs r ih =>
    obtain ⟨hrs, -, hr⟩ := List.pairwise_append.mp h
    rw [applyAll_concat]
    by_cases hcovers : r.Covers i
    · rw [if_pos hcovers]
      refine .inr ⟨r, rfl, by simp, hcovers, ?_⟩
      intro r' hr' hcovers'
      rcases List.mem_append.mp hr' with hr' | hr'
      · rcases hr r' hr' r (List.mem_singleton_self r) with hbehind | hinside
        · obtain ⟨hstart, -⟩ := hcovers
          obtain ⟨-, hstop⟩ := hcovers'
          omega
        · exact .inr hinside
      · exact .inl (List.mem_singleton.mp hr')
    · rw [if_neg hcovers]
      rcases ih hrs with ⟨hnone, hall⟩ | ⟨q, hq, hmem, hqc, hall⟩
      · refine .inl ⟨hnone, ?_⟩
        intro r' hr'
        rcases List.mem_append.mp hr' with hr' | hr'
        · exact hall r' hr'
        · rwa [List.mem_singleton.mp hr']
      · refine .inr ⟨q, hq, List.mem_append_left _ hmem, hqc, ?_⟩
        intro r' hr' hcovers'
        rcases List.mem_append.mp hr' with hr' | hr'
        · exact hall r' hr' hcovers'
        · rw [List.mem_singleton.mp hr'] at hcovers'
          exact absurd hcovers' hcovers

end StyledRange

namespace Node

open StyledRange (Forest)

/-- The ranges of nodes that tile are nested as the nodes are. -/
theorem forest_flattenFrom {text : List Char} : ∀ (depth start stop : Nat) (ns : List Node),
    TilesThrough text start stop ns → Forest depth start stop (flattenFrom depth ns)
  | _, _, _, [], h => .nil (Nat.le_of_eq h.1)
  | depth, _, stop, .run s t :: ns, h => by
    have hrest := forest_flattenFrom depth s.stop stop ns h.tail
    obtain ⟨⟨rfl, hlt, -⟩, -⟩ := h
    -- a run has no range of its own, so the ranges behind it are all there are
    rw [flattenFrom, ranges, List.nil_append]
    exact hrest.from_le (Nat.le_of_lt hlt)
  | depth, _, stop, .token kind altKind s t children :: ns, h => by
    have hrest := forest_flattenFrom depth s.stop stop ns h.tail
    have hsolid := h.1.2.1
    obtain ⟨rfl, -⟩ := h.1
    have hinner : Forest (depth + 1) s.start s.stop (flattenFrom (depth + 1) children) := by
      by_cases hnil : children = []
      · rw [hnil]
        exact .nil (Nat.le_of_lt hsolid)
      · exact forest_flattenFrom (depth + 1) s.start s.stop children (h.inside hnil)
    rw [flattenFrom, ranges, List.cons_append]
    exact .cons (Nat.le_refl _) hsolid rfl hinner hrest

end Node

namespace Grammar

open Node StyledRange

/-- The ranges of a divided text are nested and in pre-order. -/
theorem nesting_flatten (g : Grammar) (text : String) : Nesting (flatten (g.tokenize text)) := by
  have hforest : Forest 0 0 text.utf8ByteSize (flatten (g.tokenize text)) :=
    forest_flattenFrom 0 0 _ _ (g.tilesThrough_tokenize text)
  have hbounds := hforest.bounds
  refine ⟨?_, hforest.pairwise, ?_, hforest.head_depth, hforest.deepens, ?_, ?_⟩
  · intro r hr
    exact (hbounds r hr).2.2.1
  · refine (List.Pairwise.and_mem.mp hforest.pairwise).imp ?_
    rintro a b ⟨ha, -, hbehind | ⟨hinside, -⟩⟩
    · have hsolid := (hbounds a ha).2.2.1
      omega
    · exact hinside.1
  · exact hforest.exists_parent
  · exact applyAll_innermost hforest.pairwise

end Grammar

end Highlight
