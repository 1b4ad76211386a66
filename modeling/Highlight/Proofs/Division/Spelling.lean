import Highlight.Proofs.Division.Sweep

/-!
# Dividing keeps the text

Whatever the rules, the pieces spell the text that was divided, and no piece is empty. Both
invariants go through a sweep step by step, and through the rescans by induction on the rules.
-/

namespace Highlight

open Piece

/-- What a rescan has to keep: the text that the pieces spell, and that none is empty. -/
structure Keeps (f : List Piece → List Piece) : Prop where
  spell : ∀ ps, spell (f ps) = spell ps
  solid : ∀ ps, Solid ps → Solid (f ps)

theorem Keeps.id : Keeps (fun ps => ps) := ⟨fun _ => rfl, fun _ h => h⟩

theorem Keeps.comp {f g : List Piece → List Piece} (hf : Keeps f) (hg : Keeps g) :
    Keeps (fun ps => f (g ps)) :=
  ⟨fun ps => by rw [hf.spell, hg.spell], fun ps h => hf.solid _ (hg.solid ps h)⟩

theorem Claim.spell_aheadOf {rescan : Nat → Nat → Option Char → List Piece → List Piece}
    (hrescan : ∀ fuel limit before, Keeps (rescan fuel limit before)) (c : Claim) (fuel : Nat)
    (before : Option Char) :
    spell (c.aheadOf rescan fuel before) = c.after ++ spell c.rest := by
  rw [aheadOf]
  split
  · rw [(hrescan _ _ _).spell, spell_ahead]
  · exact spell_ahead c

theorem Claim.solid_aheadOf {rescan : Nat → Nat → Option Char → List Piece → List Piece}
    (hrescan : ∀ fuel limit before, Keeps (rescan fuel limit before)) {c : Claim}
    (hrest : Solid c.rest) (fuel : Nat) (before : Option Char) :
    Solid (c.aheadOf rescan fuel before) := by
  rw [aheadOf]
  split
  · exact (hrescan _ _ _).solid _ (solid_joinFree hrest)
  · exact solid_joinFree hrest

theorem sweep_spell {rescan : Nat → Nat → Option Char → List Piece → List Piece} {kind : String}
    {p : Pattern} (hrescan : ∀ fuel limit before, Keeps (rescan fuel limit before)) :
    ∀ fuel limit before pieces,
      spell (sweep rescan kind p fuel limit before pieces) = spell pieces := by
  apply sweep_induction (motive := fun _ _ _ pieces swept => spell swept = spell pieces)
  case spent => intros; rfl
  case done => intros; rfl
  case token =>
    intro fuel limit before c rest swept ih
    rw [spell_cons, spell_cons, ih]
  case ends => intros; rfl
  case behind =>
    intro fuel limit before run rest passed rest' swept _ htarget ih
    rw [(Target.ofRun_behind_cut htarget).1, spell_append, spell_append, ih]
  case claim =>
    intro fuel limit before run rest c swept htarget _ ih
    obtain ⟨hit, free, region, -, hps, hc, -, -⟩ := Target.ofRun_claim htarget
    rw [spell_append, spell_cons, ih, Claim.spell_aheadOf hrescan, hc.spell_eq hps, text_claimed,
      List.append_assoc]

theorem sweep_solid {rescan : Nat → Nat → Option Char → List Piece → List Piece} {kind : String}
    {p : Pattern} (hrescan : ∀ fuel limit before, Keeps (rescan fuel limit before)) :
    ∀ fuel limit before pieces,
      Solid pieces → Solid (sweep rescan kind p fuel limit before pieces) := by
  apply sweep_induction (motive := fun _ _ _ pieces swept => Solid pieces → Solid swept)
  case spent => exact fun _ _ _ h => h
  case done => exact fun _ _ _ h => h
  case token =>
    intro fuel limit before c rest swept ih h
    rw [solid_cons] at h ⊢
    exact ⟨h.1, ih h.2⟩
  case ends => exact fun _ _ _ _ _ _ h => h
  case behind =>
    intro fuel limit before run rest passed rest' swept _ htarget ih h
    rw [(Target.ofRun_behind_cut htarget).1, solid_append] at h
    exact solid_append.mpr ⟨h.1, ih h.2⟩
  case claim =>
    intro fuel limit before run rest c swept htarget _ ih h
    obtain ⟨hit, free, region, -, hps, hc, -, -⟩ := Target.ofRun_claim htarget
    rw [hps, solid_append, solid_append] at h
    obtain ⟨⟨hpassed, -⟩, hrest⟩ := h
    rw [solid_append, solid_cons]
    exact ⟨solid_append.mpr ⟨hpassed, solid_ofFree _⟩, hc.token_ne,
      ih (Claim.solid_aheadOf hrescan hrest fuel before)⟩

/-- The lengths of the parts into which a claim cuts the text ahead. -/
theorem Claim.Covers.length_eq {c : Claim} {run : List Char} {region ps : List Piece}
    (h : c.Covers run region) (hps : ps = c.passed ++ .free run :: region ++ c.rest) :
    (Piece.spell ps).length =
      c.offset + c.token.length + (c.after.length + (Piece.spell c.rest).length) := by
  rw [h.spell_eq hps]
  simp only [List.length_append, c.length_spell_lead]

/-- A sweep with enough fuel over pieces none of which is empty, step by step. What has been swept
spells what was ahead. -/
theorem sweep_induction_solid
    {rescan : Nat → Nat → Option Char → List Piece → List Piece} {kind : String} {p : Pattern}
    {motive : Nat → Option Nat → Option Char → List Piece → List Piece → Prop}
    (hrescan : ∀ fuel limit before, Keeps (rescan fuel limit before))
    (done : ∀ fuel limit before, motive fuel limit before [] [])
    (token : ∀ fuel limit before (c : Claimed) rest swept, spell swept = spell rest →
      motive fuel (limit.map (· - c.text.length)) (Text.lastOr before c.text) rest swept →
      motive (fuel + 1) limit before (.claimed c :: rest) (.claimed c :: swept))
    (ends : ∀ fuel limit before run rest, SweepEnds p limit before run rest →
      motive (fuel + 1) limit before (.free run :: rest) (.free run :: rest))
    (behind : ∀ fuel limit before run rest passed rest' swept, limit ≠ some 0 →
      Target.ofRun p before run rest = .behind passed rest' → spell swept = spell rest' →
      motive fuel (limit.map (· - (spell passed).length)) (Text.lastOr before (spell passed)) rest'
        swept →
      motive (fuel + 1) limit before (.free run :: rest) (passed ++ swept))
    (claim : ∀ fuel limit before run rest c swept, Solid (.free run :: rest) →
      (spell (.free run :: rest)).length ≤ fuel + 1 → Target.ofRun p before run rest = .claim c →
      (∀ l, limit = some l → c.offset < l) → spell swept = c.after ++ spell c.rest →
      motive fuel (limit.map (· - (c.offset + c.token.length))) (Text.lastOr before c.token)
        (c.aheadOf rescan fuel before) swept →
      motive (fuel + 1) limit before (.free run :: rest)
        (c.lead ++ .claimed ⟨kind, p, c.token⟩ :: swept)) :
    ∀ fuel limit before ps, Solid ps → (spell ps).length ≤ fuel →
      motive fuel limit before ps (sweep rescan kind p fuel limit before ps) := by
  have hall : ∀ fuel limit before ps,
      spell (sweep rescan kind p fuel limit before ps) = spell ps → Solid ps →
      (spell ps).length ≤ fuel →
      motive fuel limit before ps (sweep rescan kind p fuel limit before ps) := by
    apply sweep_induction (motive := fun fuel limit before ps swept => spell swept = spell ps →
      Solid ps → (spell ps).length ≤ fuel → motive fuel limit before ps swept)
    case spent =>
      intro limit before ps _ hsolid hfuel
      cases ps with
      | nil => exact done 0 limit before
      | cons p ps =>
        have := length_spell_pos hsolid (List.cons_ne_nil _ _)
        omega
    case done => exact fun fuel limit before _ _ _ => done _ limit before
    case token =>
      intro fuel limit before c rest swept ih hspell hsolid hfuel
      obtain ⟨hc, hrest⟩ := solid_cons.mp hsolid
      have hpos := List.length_pos_iff.mpr hc
      rw [spell_cons, List.length_append] at hfuel
      have hswept := List.append_cancel_left hspell
      exact token _ _ _ _ _ _ hswept (ih hswept hrest (by omega))
    case ends => exact fun fuel limit before run rest hends _ _ _ => ends _ _ _ _ _ hends
    case behind =>
      intro fuel limit before run rest passed rest' swept hlimit htarget ih hspell hsolid hfuel
      obtain ⟨hcut, hne⟩ := Target.ofRun_behind_cut htarget
      rw [hcut] at hsolid hfuel hspell
      obtain ⟨hpassed, hrest⟩ := solid_append.mp hsolid
      have hpos := length_spell_pos hpassed hne
      rw [spell_append, List.length_append] at hfuel
      rw [spell_append, spell_append] at hspell
      have hswept := List.append_cancel_left hspell
      exact behind _ _ _ _ _ _ _ _ hlimit htarget hswept (ih hswept hrest (by omega))
    case claim =>
      intro fuel limit before run rest c swept htarget hlimit ih hspell hsolid hfuel
      obtain ⟨hit, free, region, -, hps, hc, -, -⟩ := Target.ofRun_claim htarget
      have htotal := hc.length_eq hps
      have hpos := Claim.token_pos hc
      have hrest : Solid c.rest := by
        rw [hps] at hsolid
        exact (solid_append.mp hsolid).2
      have hahead := Claim.spell_aheadOf hrescan c fuel before
      rw [hc.spell_eq hps, spell_append, spell_cons, text_claimed, List.append_assoc] at hspell
      have hswept := List.append_cancel_left (List.append_cancel_left hspell)
      refine claim _ _ _ _ _ _ _ hsolid hfuel htarget hlimit hswept
        (ih (hswept.trans hahead.symm) (Claim.solid_aheadOf hrescan hrest fuel before) ?_)
      rw [hahead, List.length_append]
      omega
  intro fuel limit before ps
  exact hall fuel limit before ps (sweep_spell hrescan fuel limit before ps)

/-- All sweeps of all rules keep the text and make no empty piece. -/
theorem applyRules_keeps (rules : List Rule) :
    ∀ fuel limit before, Keeps (applyRules rules fuel limit before) := by
  apply applyRules_induction Keeps.id fun _ _ => Keeps.comp
  intro rule _ p _ rescan hrescan fuel limit before
  exact ⟨sweep_spell hrescan fuel limit before, sweep_solid hrescan fuel limit before⟩

/-- The pieces of a divided text spell the text. -/
theorem Grammar.spell_divide (g : Grammar) (text : List Char) : spell (g.divide text) = text := by
  rw [divide, (applyRules_keeps _ _ _ _).spell, spell_ofFree]

/-- No piece of a divided text is empty. -/
theorem Grammar.solid_divide (g : Grammar) (text : List Char) : Solid (g.divide text) :=
  (applyRules_keeps _ _ _ _).solid _ (solid_ofFree text)

end Highlight
