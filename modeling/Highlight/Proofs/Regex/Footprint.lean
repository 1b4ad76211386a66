import Highlight.Regex.Basic

/-!
# A bound on footprints

To lay down the states of an automaton and count them is the long way to see that it is small.
`Shape.weight` bounds the bytes that a shape takes without laying it down: sharing among states
can only make the automaton smaller. An expression that is light by this bound fits, and its
regular expression is accepted (`compile_of_light`).
-/

namespace Highlight.Regex

namespace Sharing

theorem bytes_add (l : Layout) (states payload : Nat) :
    (l.add states payload).bytes = l.bytes + (Layout.stateBytes * states + payload) := by
  simp only [Layout.bytes, Layout.add, Layout.stateBytes]
  omega

/-- A state that is asked for is laid down at most once. -/
theorem state_bytes_le (s : Sharing) (content : List Nat) (payload : Nat) :
    (s.state content payload).2.layout.bytes ≤ s.layout.bytes + (Layout.stateBytes + payload) := by
  rw [state]
  dsimp only
  split
  · exact Nat.le_add_right _ _
  · exact Nat.le_of_eq (bytes_add _ _ _)

end Sharing

namespace OpenState

/-- What an open state takes once it is laid down. -/
def weight (o : OpenState) : Nat :=
  Layout.stateBytes + Layout.transitionBytes * (o.arrows.length / 3 + if o.last.isSome then 1 else 0)

def weights : List OpenState → Nat
  | [] => 0
  | o :: deeper => o.weight + weights deeper

theorem finish_arrows (o : OpenState) (next : Nat) :
    (o.finish next).arrows.length / 3 = o.arrows.length / 3 + if o.last.isSome then 1 else 0 := by
  rw [finish]
  cases o.last with
  | none => rfl
  | some r =>
    simp only [List.length_append, List.length_cons, List.length_nil]
    exact Nat.add_div_right _ (by decide)

theorem closeAll_bytes_le (target : Nat) (states : List OpenState) (s : Sharing) :
    (closeAll target states s).2.layout.bytes ≤ s.layout.bytes + weights states := by
  induction states with
  | nil => exact Nat.le_refl _
  | cons o deeper ih =>
    rw [closeAll]
    dsimp only
    refine Nat.le_trans (Sharing.state_bytes_le _ _ _) ?_
    rw [finish_arrows, weights, weight]
    omega

/-- A byte sequence adds a state and a transition for each of its ranges at most. -/
theorem addSequence_bytes_le (target : Nat) (states : List OpenState) (rs : List ByteRange)
    (s : Sharing) :
    (addSequence target states rs s).2.layout.bytes + weights (addSequence target states rs s).1 ≤
      s.layout.bytes + weights states +
        (Layout.stateBytes + Layout.transitionBytes) * rs.length := by
  induction states generalizing rs s with
  | nil =>
    rw [addSequence]
    · exact Nat.le_add_right _ _
    · simp
  | cons o deeper ih =>
    cases rs with
    | nil =>
      rw [addSequence]
      · exact Nat.le_add_right _ _
      · simp
    | cons r rs =>
      rw [addSequence]
      have hcons : ∀ (o : OpenState) states, weights (o :: states) = o.weight + weights states :=
        fun _ _ => rfl
      split
      · have := ih rs s
        rw [List.length_cons, Nat.mul_succ]
        simp only [hcons]
        omega
      · -- the old states behind `o` are laid down, and `o` gets another transition
        have hclose := closeAll_bytes_le target deeper s
        have hnew : weights (rs.map fun r => { last := some r : OpenState }) =
            (Layout.stateBytes + Layout.transitionBytes) * rs.length := by
          induction rs with
          | nil => rfl
          | cons r rs ihrs =>
            rw [List.map_cons, hcons, ihrs, List.length_cons, Nat.mul_succ]
            simp only [weight, List.length_nil, Option.isSome_some, if_true]
            omega
        simp only [hcons, hnew, List.length_cons, weight, finish_arrows, Option.isSome_some, if_true]
        simp only [Layout.stateBytes, Layout.transitionBytes]
        omega

end OpenState

namespace Layout

/-- What byte sequences take that share nothing. -/
def sequencesWeight : List (List ByteRange) → Nat
  | [] => 0
  | rs :: sequences =>
    branchBytes + (stateBytes + transitionBytes) * rs.length + sequencesWeight sequences

def spreadWeight (sequences : List (List ByteRange)) : Nat :=
  2 * stateBytes + sequencesWeight sequences

theorem addForwards_bytes_le (l : Layout) (sequences : List (List ByteRange)) :
    (l.addForwards sequences).bytes ≤ l.bytes + spreadWeight sequences := by
  have hfold : ∀ (sequences : List (List ByteRange)) (states : List OpenState) (s : Sharing),
      let r := sequences.foldl
        (fun open_ sequence => OpenState.addSequence l.states open_.1 sequence open_.2) (states, s)
      r.2.layout.bytes + OpenState.weights r.1 ≤
        s.layout.bytes + OpenState.weights states + sequencesWeight sequences := by
    intro sequences
    induction sequences with
    | nil => exact fun _ _ => Nat.le_refl _
    | cons rs sequences ih =>
      intro states s
      have hadd := OpenState.addSequence_bytes_le l.states states rs s
      have hrest := ih (OpenState.addSequence l.states states rs s).1
        (OpenState.addSequence l.states states rs s).2
      rw [List.foldl_cons, sequencesWeight]
      refine Nat.le_trans hrest ?_
      omega
  have hall := hfold sequences [{}] (.start (l.add 1 0) forwardSlots)
  rw [addForwards]
  dsimp only
  refine Nat.le_trans (OpenState.closeAll_bytes_le _ _ _) (Nat.le_trans hall ?_)
  have hstart : OpenState.weights [{}] = stateBytes := rfl
  rw [hstart, spreadWeight, Sharing.start, Sharing.bytes_add]
  omega

/-- Lay down the states of a byte sequence that is read backwards. -/
def addReversed (target : Nat) (s : Sharing) (sequence : List ByteRange) : Sharing :=
  (sequence.foldl (fun (next, s) r => s.state [next, r.lo, r.hi] 0) (target, s)).2

theorem addBackwards_eq (l : Layout) (sequences : List (List ByteRange)) :
    l.addBackwards sequences = (sequences.foldl (addReversed (l.states + 1))
      (.start (l.add 2 (branchBytes * sequences.length)) backwardSlots)).layout := rfl

theorem addReversed_bytes_le (target : Nat) (s : Sharing) (sequence : List ByteRange) :
    (addReversed target s sequence).layout.bytes ≤
      s.layout.bytes + (stateBytes + transitionBytes) * sequence.length := by
  have hfold : ∀ (sequence : List ByteRange) (x : Nat × Sharing),
      (sequence.foldl (fun (next, s) r => s.state [next, r.lo, r.hi] 0) x).2.layout.bytes ≤
        x.2.layout.bytes + (stateBytes + transitionBytes) * sequence.length := by
    intro sequence
    induction sequence with
    | nil => exact fun x => Nat.le_add_right _ _
    | cons r rs ih =>
      rintro ⟨next, s⟩
      have hstate := s.state_bytes_le [next, r.lo, r.hi] 0
      rw [List.foldl_cons, List.length_cons, Nat.mul_succ]
      refine Nat.le_trans (ih _) ?_
      dsimp only
      omega
  exact hfold sequence (target, s)

theorem addBackwards_bytes_le (l : Layout) (sequences : List (List ByteRange)) :
    (l.addBackwards sequences).bytes ≤ l.bytes + spreadWeight sequences := by
  have hall : ∀ (sequences : List (List ByteRange)) (s : Sharing),
      (sequences.foldl (addReversed (l.states + 1)) s).layout.bytes +
          branchBytes * sequences.length ≤
        s.layout.bytes + sequencesWeight sequences := by
    intro sequences
    induction sequences with
    | nil => exact fun _ => Nat.le_refl _
    | cons rs sequences ih =>
      intro s
      have hrs := addReversed_bytes_le (l.states + 1) s rs
      have hrest := ih (addReversed (l.states + 1) s rs)
      rw [List.foldl_cons, sequencesWeight, List.length_cons, Nat.mul_succ]
      omega
  have hstart : ∀ size, (Sharing.start (l.add 2 (branchBytes * sequences.length)) size).layout =
      l.add 2 (branchBytes * sequences.length) := fun _ => rfl
  have hfold := hall sequences (.start (l.add 2 (branchBytes * sequences.length)) backwardSlots)
  rw [hstart, Sharing.bytes_add, ← addBackwards_eq] at hfold
  rw [spreadWeight]
  omega

end Layout

namespace Shape

/-- A bound on the bytes that a shape takes. -/
def weight : Shape → Nat
  | block l => l.bytes
  | spread sequences => Layout.spreadWeight sequences
  | both a b => a.weight + b.weight
  | copies n s => n * s.weight

theorem layCopies_bytes_le {lay : Layout → Layout} {weight : Nat}
    (h : ∀ l, (lay l).bytes ≤ l.bytes + weight) (n : Nat) (l : Layout) :
    (layCopies lay n l).bytes ≤ l.bytes + n * weight := by
  induction n generalizing l with
  | zero =>
    rw [layCopies]
    exact Nat.le_add_right _ _
  | succ n ih =>
    rw [layCopies, Nat.succ_mul]
    split
    · exact Nat.le_add_right _ _
    · have hn := ih (lay l)
      have hl := h l
      omega

/-- Laying down a shape takes no more than its weight. -/
theorem lay_bytes_le (d : Direction) (s : Shape) (l : Layout) :
    (s.lay d l).bytes ≤ l.bytes + s.weight := by
  induction s generalizing l with
  | block l' =>
    rw [lay, weight, Sharing.bytes_add]
    exact Nat.le_refl _
  | spread sequences =>
    simp only [lay, weight]
    split
    · exact Nat.le_add_right _ _
    · cases d with
      | forwards => exact l.addForwards_bytes_le sequences
      | backwards => exact l.addBackwards_bytes_le sequences
  | both a b iha ihb =>
    simp only [lay, weight]
    have ha := iha l
    have hb := ihb (a.lay d l)
    omega
  | copies n s ih =>
    rw [lay, weight]
    exact layCopies_bytes_le ih n l

end Shape

namespace Expr

/-- The weights of the two automata for the expression stay within the limit. -/
def light (e : Expr) : Bool :=
  (lead e.bindsStart).bytes + (Shape.states 1 0 ++ e.shape .forwards ++ .states 2 0).weight
      ≤ Layout.limit &&
    (lead e.bindsEnd).bytes + (e.shape .backwards ++ .states 1 0).weight ≤ Layout.limit

theorem fits_of_light {e : Expr} (h : e.light = true) : e.fits = true := by
  simp only [light, Bool.and_eq_true, decide_eq_true_eq] at h
  have hforwards := Shape.lay_bytes_le .forwards
    (Shape.states 1 0 ++ e.shape .forwards ++ .states 2 0) (lead e.bindsStart)
  have hbackwards := Shape.lay_bytes_le .backwards
    (e.shape .backwards ++ .states 1 0) (lead e.bindsEnd)
  simp only [fits, footprint, Layout.tooLarge, Bool.and_eq_true, Bool.not_eq_true']
  exact ⟨decide_eq_false (by omega), decide_eq_false (by omega)⟩

end Expr

/-- A light expression is accepted. -/
theorem compile_of_light {source : String} {flags : Flags} {e : Expr}
    (he : (Expr.ofSource flags source.toList).toOption = some e) (hlight : e.light = true) :
    compile source flags = .ok (ofExpr source e) := by
  rw [compile]
  cases h : Expr.ofSource flags source.toList with
  | error cause =>
    rw [h] at he
    cases he
  | ok e' =>
    rw [h] at he
    cases he
    simp only [bind, Except.bind, Expr.fits_of_light hlight, if_true]
    rfl

end Highlight.Regex
