import Highlight.Proofs.Division.Sweep

/-!
# Free runs are maximal

Between two free runs there is always a token. A claim keeps this, since what it leaves over is
joined with a free run that follows. So a sweep keeps it, and not only among the pieces ahead: what
has been passed over does not come to stand before a free run either.
-/

namespace Highlight

namespace Piece

def beginsFree : List Piece → Bool
  | free _ :: _ => true
  | _ => false

/-- No free run has another free run next to it. -/
def Parted : List Piece → Prop
  | [] => True
  | p :: ps => (p.isFree = true → beginsFree ps = false) ∧ Parted ps

theorem parted_claimed {c : Claimed} {ps : List Piece} : Parted (claimed c :: ps) ↔ Parted ps :=
  ⟨fun h => h.2, fun h => ⟨fun hfree => absurd hfree Bool.noConfusion, h⟩⟩

theorem parted_free {t : List Char} {ps : List Piece} :
    Parted (free t :: ps) ↔ beginsFree ps = false ∧ Parted ps :=
  ⟨fun h => ⟨h.1 rfl, h.2⟩, fun h => ⟨fun _ => h.1, h.2⟩⟩

theorem Parted.of_append {ps qs : List Piece} (h : Parted (ps ++ qs)) : Parted qs := by
  induction ps with
  | nil => exact h
  | cons p ps ih => exact ih h.2

/-- Pieces in front of a token may be looked at apart from what comes behind it. -/
theorem parted_append_claimed {ps qs : List Piece} {c : Claimed} :
    Parted (ps ++ claimed c :: qs) ↔ Parted ps ∧ Parted qs := by
  induction ps with
  | nil => exact ⟨fun h => ⟨trivial, parted_claimed.mp h⟩, fun h => parted_claimed.mpr h.2⟩
  | cons p ps ih =>
    have hbegins : beginsFree (ps ++ claimed c :: qs) = beginsFree ps := by
      cases ps with
      | nil => rfl
      | cons q ps => cases q <;> rfl
    rw [List.cons_append, Parted, Parted, ih, hbegins, and_assoc]

/-- A free run may be cut down to a part of it. -/
theorem Parted.cut_free {ps qs : List Piece} {run : List Char}
    (h : Parted (ps ++ free run :: qs)) (t : List Char) : Parted (ps ++ ofFree t) := by
  induction ps with
  | nil =>
    rw [List.nil_append, ofFree]
    split
    · trivial
    · exact ⟨fun _ => rfl, trivial⟩
  | cons p ps ih =>
    refine ⟨fun hfree => ?_, ih h.2⟩
    have hbegins := h.1 hfree
    cases ps with
    | nil => exact absurd hbegins (by simp [beginsFree])
    | cons q ps => cases q with
      | free u => exact hbegins
      | claimed c => rfl

theorem joinFree_of_parted {t : List Char} {ps : List Piece} (h : beginsFree ps = false) :
    joinFree t ps = ofFree t ++ ps := by
  by_cases ht : t = []
  · rw [ht]
    rfl
  · have hof : ofFree t = [free t] := if_neg (by simpa using ht)
    cases ps with
    | nil => rw [joinFree_nil ht, hof, List.append_nil]
    | cons p ps =>
      cases p with
      | free u => exact absurd h (by simp [beginsFree])
      | claimed c =>
        rw [joinFree_claimed ht, hof]
        rfl

theorem Parted.joinFree {ps : List Piece} (h : Parted ps) (t : List Char) :
    Parted (joinFree t ps) := by
  by_cases ht : t = []
  · rw [ht]
    exact h
  · cases ps with
    | nil =>
      rw [joinFree_nil ht]
      exact ⟨fun _ => rfl, trivial⟩
    | cons p ps =>
      cases p with
      | free u =>
        rw [joinFree_free ht]
        exact h
      | claimed c =>
        rw [joinFree_claimed ht]
        exact ⟨fun _ => rfl, h⟩

theorem parted_ofFree (t : List Char) : Parted (ofFree t) := by
  rw [ofFree]
  split
  · trivial
  · exact ⟨fun _ => rfl, trivial⟩

end Piece

open Piece (Parted)

/-- A claim leaves free runs maximal: its token parts what it leaves over, and what is left behind it
has been joined. -/
theorem Claim.parted {c : Claim} {front ps region : List Piece} {run : List Char}
    (h : Parted (front ++ ps)) (hps : ps = c.passed ++ .free run :: region ++ c.rest) (d : Claimed) :
    Parted (front ++ c.lead ++ .claimed d :: c.ahead) := by
  rw [hps] at h
  have hrest : Parted c.rest := h.of_append.of_append
  rw [List.append_assoc, List.cons_append, ← List.append_assoc] at h
  rw [lead, ← List.append_assoc, Piece.parted_append_claimed]
  exact ⟨h.cut_free c.before, hrest.joinFree c.after⟩

/-- Whatever stands in front of the pieces, sweeping them keeps free runs maximal if rescans do. -/
theorem sweep_parted {rescan : Nat → Nat → Option Char → List Piece → List Piece} {kind : String}
    {p : Pattern}
    (hrescan : ∀ fuel limit before front ps,
      Parted (front ++ ps) → Parted (front ++ rescan fuel limit before ps)) :
    ∀ fuel limit before ps, ∀ front,
      Parted (front ++ ps) → Parted (front ++ sweep rescan kind p fuel limit before ps) := by
  apply sweep_induction (motive := fun _ _ _ ps swept => ∀ front,
    Parted (front ++ ps) → Parted (front ++ swept))
  case spent => exact fun _ _ _ _ h => h
  case done => exact fun _ _ _ _ h => h
  case token =>
    intro fuel limit before c rest swept ih front h
    rw [Piece.parted_append_claimed] at h ⊢
    exact ⟨h.1, ih [] h.2⟩
  case ends => exact fun _ _ _ _ _ _ _ h => h
  case behind =>
    intro fuel limit before run rest passed rest' swept _ htarget ih front h
    rw [(Target.ofRun_behind_cut htarget).1, ← List.append_assoc] at h
    rw [← List.append_assoc]
    exact ih (front ++ passed) h
  case claim =>
    intro fuel limit before run rest c swept htarget _ ih front h
    obtain ⟨hit, free, region, -, hps, -, -, -⟩ := Target.ofRun_claim htarget
    have hclaim := Claim.parted h hps ⟨kind, p, c.token⟩
    rw [Piece.parted_append_claimed] at hclaim
    have hahead : Parted (c.aheadOf rescan fuel before) := by
      rw [Claim.aheadOf]
      split
      · exact hrescan _ _ _ [] _ hclaim.2
      · exact hclaim.2
    rw [← List.append_assoc, Piece.parted_append_claimed]
    exact ⟨hclaim.1, ih [] hahead⟩

/-- However rules are applied, free runs stay maximal. -/
theorem applyRules_parted_append (rules : List Rule) :
    ∀ fuel limit before front ps,
      Parted (front ++ ps) → Parted (front ++ applyRules rules fuel limit before ps) := by
  apply applyRules_induction (motive := fun f => ∀ front ps, Parted (front ++ ps) →
    Parted (front ++ f ps))
  case hid => exact fun _ _ h => h
  case hcomp => exact fun f g hf hg front ps h => hf front _ (hg front ps h)
  case hsweep =>
    intro rule _ p _ rescan hrescan fuel limit before front ps h
    exact sweep_parted hrescan fuel limit before ps front h

/-- The same for pieces that nothing stands in front of. -/
theorem applyRules_parted (rules : List Rule) :
    ∀ fuel limit before ps, Parted ps → Parted (applyRules rules fuel limit before ps) :=
  fun fuel limit before => applyRules_parted_append rules fuel limit before []

/-- The free runs of a divided text are maximal. -/
theorem Grammar.parted_divide (g : Grammar) (text : List Char) : Parted (g.divide text) :=
  applyRules_parted _ _ _ _ _ (Piece.parted_ofFree text)

end Highlight
