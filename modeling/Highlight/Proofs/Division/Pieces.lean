import Highlight.Division.Piece
import Highlight.Proofs.Grammar.Search

/-!
# What a claim covers

Locating and absorbing pieces cuts a list of pieces in two and changes none of them. So a claim
covers a free run with the pieces behind it, up to where its leftover ends, and what it keeps of
their text is what they spell. `Target.across_claim` and `Target.within_covers` say so for the
two kinds of search; `Target.across_behind` says what is passed over instead.
-/

namespace Highlight

namespace Piece

@[simp] theorem spell_nil : spell [] = [] := rfl

@[simp] theorem spell_cons (p : Piece) (ps : List Piece) : spell (p :: ps) = p.text ++ spell ps :=
  rfl

@[simp] theorem spell_append (ps qs : List Piece) : spell (ps ++ qs) = spell ps ++ spell qs :=
  List.flatMap_append

@[simp] theorem text_free (t : List Char) : (free t).text = t := rfl

@[simp] theorem text_claimed (c : Claimed) : (claimed c).text = c.text := rfl

theorem spell_snoc (ps : List Piece) (p : Piece) : spell (ps ++ [p]) = spell ps ++ p.text := by
  rw [spell_append, spell_cons, spell_nil, List.append_nil]

@[simp] theorem spell_ofFree (t : List Char) : spell (ofFree t) = t := by
  unfold ofFree
  split
  · next h => rw [spell_nil, List.isEmpty_iff.mp h]
  · simp

@[simp] theorem joinFree_empty (ps : List Piece) : joinFree [] ps = ps := rfl

theorem joinFree_nil {t : List Char} (ht : t ≠ []) : joinFree t [] = [free t] := by
  rw [joinFree, if_neg (by simpa using ht)]
  simp

theorem joinFree_free {t : List Char} (ht : t ≠ []) (u : List Char) (ps : List Piece) :
    joinFree t (free u :: ps) = free (t ++ u) :: ps := by
  rw [joinFree, if_neg (by simpa using ht)]

theorem joinFree_claimed {t : List Char} (ht : t ≠ []) (c : Claimed) (ps : List Piece) :
    joinFree t (claimed c :: ps) = free t :: claimed c :: ps := by
  rw [joinFree, if_neg (by simpa using ht)]
  simp

@[simp] theorem spell_joinFree (t : List Char) (ps : List Piece) :
    spell (joinFree t ps) = t ++ spell ps := by
  unfold joinFree
  split
  · next h => rw [List.isEmpty_iff.mp h, List.nil_append]
  · split <;> simp

/-- No piece is empty. -/
def Solid (ps : List Piece) : Prop := ∀ p ∈ ps, p.text ≠ []

theorem solid_nil : Solid [] := by simp [Solid]

theorem solid_cons {p : Piece} {ps : List Piece} : Solid (p :: ps) ↔ p.text ≠ [] ∧ Solid ps := by
  simp [Solid]

theorem solid_append {ps qs : List Piece} : Solid (ps ++ qs) ↔ Solid ps ∧ Solid qs := by
  simp only [Solid, List.mem_append]
  constructor
  · intro h
    exact ⟨fun p hp => h p (.inl hp), fun p hp => h p (.inr hp)⟩
  · rintro ⟨hp, hq⟩ p (hmem | hmem)
    · exact hp p hmem
    · exact hq p hmem

theorem solid_ofFree (t : List Char) : Solid (ofFree t) := by
  unfold ofFree
  split
  · exact solid_nil
  · next h =>
    rw [solid_cons]
    exact ⟨fun he => h (List.isEmpty_iff.mpr he), solid_nil⟩

theorem solid_joinFree {t : List Char} {ps : List Piece} (h : Solid ps) : Solid (joinFree t ps) := by
  unfold joinFree
  split
  · exact h
  · next ht =>
    have hne : t ≠ [] := fun he => ht (List.isEmpty_iff.mpr he)
    split
    · rw [solid_cons] at h ⊢
      refine ⟨?_, h.2⟩
      intro he
      exact hne (List.append_eq_nil_iff.mp he).1
    · rw [solid_cons]
      exact ⟨hne, h⟩

theorem length_spell_pos {ps : List Piece} (h : Solid ps) (hne : ps ≠ []) :
    0 < (spell ps).length := by
  cases ps with
  | nil => exact absurd rfl hne
  | cons p ps =>
    have hp := List.length_pos_iff.mpr (solid_cons.mp h).1
    rw [spell_cons, List.length_append]
    omega

/-- Locating a position cuts the pieces at the piece that holds it. -/
theorem locate_eq {ps passed rest : List Piece} {position start : Nat}
    (h : locate position ps = (passed, start, rest)) :
    ps = passed ++ rest ∧ position = (spell passed).length + start ∧
      ∀ p tail, rest = p :: tail → start < p.text.length := by
  induction ps generalizing position passed with
  | nil =>
    rw [locate] at h
    cases h
    simp
  | cons p ps ih =>
    rw [locate] at h
    split at h
    · next hle =>
      cases hl : locate (position - p.text.length) ps with
      | mk passed' more =>
        obtain ⟨start', rest'⟩ := more
        rw [hl] at h
        cases h
        obtain ⟨hps, hposition, hlt⟩ := ih hl
        refine ⟨by rw [hps, List.cons_append], ?_, hlt⟩
        rw [spell_cons, List.length_append]
        omega
    · next hlt =>
      cases h
      refine ⟨rfl, by simp, ?_⟩
      intro q tail hq
      cases hq
      omega

/-- Absorbing takes pieces from the front until their text is long enough. -/
theorem absorb_eq {ps rest : List Piece} {need count : Nat} {afterGreedy : Bool}
    {taken : List Char} (h : absorb need afterGreedy ps = (taken, count, rest)) :
    ∃ front, ps = front ++ rest ∧ taken = spell front ∧ count = front.length ∧
      (need ≤ taken.length ∨ rest = []) := by
  induction ps generalizing need afterGreedy taken count with
  | nil =>
    rw [absorb] at h
    cases h
    exact ⟨[], rfl, rfl, rfl, .inr rfl⟩
  | cons p ps ih =>
    rw [absorb] at h
    split at h
    · cases ha : absorb (need - p.text.length) p.isGreedy ps with
      | mk taken' more =>
        obtain ⟨count', rest'⟩ := more
        rw [ha] at h
        cases h
        obtain ⟨front, hps, htaken, hcount, hneed⟩ := ih ha
        refine ⟨p :: front, by rw [hps, List.cons_append], by rw [htaken, spell_cons],
          by rw [hcount, List.length_cons], hneed.imp ?_ id⟩
        intro hle
        rw [List.length_append]
        omega
    · next hstop =>
      cases h
      refine ⟨[], rfl, rfl, rfl, .inl ?_⟩
      simp only [Bool.or_eq_true, decide_eq_true_eq, not_or] at hstop
      omega

/-- A token is only absorbed while the text in front of it is too short. -/
theorem absorb_touches {ps rest : List Piece} {need count : Nat} {afterGreedy : Bool}
    {taken : List Char} (h : absorb need afterGreedy ps = (taken, count, rest)) :
    ∃ front, ps = front ++ rest ∧
      ∀ a d b, front = a ++ .claimed d :: b → (spell a).length < need := by
  induction ps generalizing need afterGreedy taken count with
  | nil =>
    rw [absorb] at h
    cases h
    exact ⟨[], rfl, fun a d b hnil => absurd hnil.symm (by simp)⟩
  | cons p ps ih =>
    rw [absorb] at h
    split at h
    · next htake =>
      cases ha : absorb (need - p.text.length) p.isGreedy ps with
      | mk taken' more =>
        obtain ⟨count', rest'⟩ := more
        rw [ha] at h
        cases h
        obtain ⟨front, hps, htouches⟩ := ih ha
        refine ⟨p :: front, by rw [hps, List.cons_append], ?_⟩
        intro a d b hsplit
        cases a with
        | nil =>
          rw [List.nil_append, List.cons.injEq] at hsplit
          rw [hsplit.1] at htake
          simpa [isFree] using htake
        | cons q a =>
          rw [List.cons_append, List.cons.injEq] at hsplit
          have hlt := htouches a d b hsplit.2
          rw [spell_cons, List.length_append, ← hsplit.1]
          omega
    · cases h
      exact ⟨[], rfl, fun a d b hnil => absurd hnil.symm (by simp)⟩

/-- A free run in front is always absorbed. -/
theorem absorb_free (need : Nat) (run : List Char) (ps : List Piece) :
    absorb need false (.free run :: ps) =
      (run ++ (absorb (need - run.length) false ps).1,
        (absorb (need - run.length) false ps).2.1 + 1,
        (absorb (need - run.length) false ps).2.2) := by
  rw [absorb, if_pos (by simp [isFree])]
  rfl

end Piece

namespace Claim

/-- A claim covers a free run and the pieces behind it: what it keeps of their text is what they
spell, its token begins in the free run, and it dissolves something if there are such pieces. -/
structure Covers (c : Claim) (run : List Char) (region : List Piece) : Prop where
  spell : run ++ Piece.spell region = c.before ++ c.token ++ c.after
  begins : c.before.length < run.length
  token_ne : c.token ≠ []
  dissolves : c.dissolves = !region.isEmpty

@[simp] theorem spell_lead (c : Claim) :
    Piece.spell c.lead = Piece.spell c.passed ++ c.before := by
  simp [lead]

@[simp] theorem spell_ahead (c : Claim) :
    Piece.spell c.ahead = c.after ++ Piece.spell c.rest := by
  simp [ahead]

theorem length_spell_lead (c : Claim) : (Piece.spell c.lead).length = c.offset := by
  simp [offset]

/-- The text that a claim covers, with what it passes and what it leaves, is the text ahead. -/
theorem Covers.spell_eq {c : Claim} {run : List Char} {region ps : List Piece}
    (h : c.Covers run region) (hps : ps = c.passed ++ .free run :: region ++ c.rest) :
    Piece.spell ps = Piece.spell c.lead ++ c.token ++ (c.after ++ Piece.spell c.rest) := by
  rw [hps, spell_lead]
  simp only [Piece.spell_append, Piece.spell_cons, Piece.text_free, List.append_assoc]
  rw [← List.append_assoc run, h.spell]
  simp only [List.append_assoc]

/-- A claim puts no empty piece in the place of what it covers. -/
theorem Covers.solid {c : Claim} {run : List Char} {front region ps : List Piece} {kind : String}
    {p : Pattern} (h : c.Covers run region) (hps : ps = c.passed ++ .free run :: region ++ c.rest)
    (hsolid : Piece.Solid (front ++ ps)) :
    Piece.Solid (front ++ c.lead ++ .claimed ⟨kind, p, c.token⟩ :: c.ahead) := by
  rw [hps] at hsolid
  simp only [Piece.solid_append] at hsolid
  rw [Piece.solid_append, Piece.solid_append, Piece.solid_cons, lead, Piece.solid_append]
  exact ⟨⟨hsolid.1, hsolid.2.1.1, Piece.solid_ofFree _⟩, h.token_ne,
    Piece.solid_joinFree hsolid.2.2⟩

theorem token_pos {c : Claim} {run : List Char} {region : List Piece} (h : c.Covers run region) :
    0 < c.token.length := List.length_pos_iff.mpr h.token_ne

end Claim

/-- Cutting a text at the two ends of a span leaves its three parts. -/
theorem take_token_drop (t : List Char) {start len : Nat} :
    t.take start ++ (t.drop start).take len ++ t.drop (start + len) = t := by
  rw [List.append_assoc, ← List.drop_drop, List.take_append_drop, List.take_append_drop]

namespace Target

/-- The claim on a part of a free run covers that run. -/
theorem within_covers {token : Span} {run : List Char} {rest : List Piece}
    (hne : token.start < token.stop) (hle : token.stop ≤ run.length) :
    (Claim.within token run rest).Covers run [] ∧
      (Claim.within token run rest).offset = token.start ∧
      (Claim.within token run rest).token.length = token.length := by
  have hlen : token.start + token.length = token.stop := by
    rw [Span.length]
    omega
  have htoken : (Claim.within token run rest).token.length = token.length := by
    simp only [Claim.within, List.length_take, List.length_drop]
    omega
  refine ⟨⟨?_, ?_, ?_, rfl⟩, ?_, htoken⟩
  · simp only [Claim.within, Piece.spell_nil, List.append_nil, ← hlen]
    exact (take_token_drop run).symm
  · simp only [Claim.within, List.length_take]
    omega
  · rw [← List.length_pos_iff, htoken]
    omega
  · simp only [Claim.offset, Claim.within, Piece.spell_nil, List.length_nil, List.length_take]
    omega

/-- A match across pieces that begins in free text is a claim on all pieces from there on that it
touches. -/
theorem across_claim {token : Span} {ps : List Piece} {c : Claim}
    (h : across token ps = .claim c) (hne : token.start < token.stop)
    (hle : token.stop ≤ (Piece.spell ps).length) :
    ∃ run region, ps = c.passed ++ .free run :: region ++ c.rest ∧ c.Covers run region ∧
      c.offset = token.start ∧ c.token.length = token.length := by
  rw [across] at h
  split at h
  · next passed start run rest hl =>
    obtain ⟨rfl, hposition, hlt⟩ := Piece.locate_eq hl
    have hstart : start < run.length := hlt _ _ rfl
    dsimp only at h
    rw [Piece.absorb_free] at h
    cases ha : Piece.absorb (start + token.length - run.length) false rest with
    | mk taken more =>
      obtain ⟨count, behind⟩ := more
      rw [ha] at h
      dsimp only at h
      obtain ⟨region, rfl, rfl, rfl, hneed⟩ := Piece.absorb_eq ha
      injection h with h
      subst h
      have hlen : start + token.length ≤ (run ++ Piece.spell region).length := by
        simp only [Span.length, List.length_append, Piece.spell_append, Piece.spell_cons,
          Piece.text_free] at hneed hle ⊢
        rcases hneed with hneed | rfl
        · omega
        · simp only [Piece.spell_nil, List.length_nil] at hle
          omega
      have htoken : (((run ++ Piece.spell region).drop start).take token.length).length
          = token.length := by
        rw [List.length_take, List.length_drop]
        omega
      refine ⟨run, region, by simp, ⟨(take_token_drop _).symm, ?_, ?_, ?_⟩, ?_, htoken⟩
      · rw [List.length_take]
        omega
      · rw [← List.length_pos_iff, htoken, Span.length]
        omega
      · cases region with
        | nil => rfl
        | cons p region => simp
      · rw [Claim.offset, hposition, List.length_take, Nat.min_eq_left (by omega)]
  · cases h
  · cases h

/-- Each token that a claim across pieces covers is one that the claimed text runs into. -/
theorem across_claim_touches {token : Span} {ps : List Piece} {c : Claim}
    (h : across token ps = .claim c) (hne : token.start < token.stop)
    (hle : token.stop ≤ (Piece.spell ps).length) {run : List Char} {region : List Piece}
    (hps : ps = c.passed ++ .free run :: region ++ c.rest) {a b : List Piece} {d : Claimed}
    (hregion : region = a ++ .claimed d :: b) :
    run.length + (Piece.spell a).length < c.before.length + c.token.length := by
  obtain ⟨-, -, -, -, hoffset, hlength⟩ := across_claim h hne hle
  rw [across] at h
  split at h
  · next passed start free rest hl =>
    obtain ⟨hcut, hposition, -⟩ := Piece.locate_eq hl
    cases ha : Piece.absorb (start + token.length) false (.free free :: rest) with
    | mk taken more =>
      obtain ⟨count, behind⟩ := more
      obtain ⟨front, hfront, htouches⟩ := Piece.absorb_touches ha
      dsimp only at h
      rw [ha] at h
      injection h with h
      have hpassed : c.passed = passed := by rw [← h]
      have hrest : c.rest = behind := by rw [← h]
      rw [hcut, hpassed, hrest, List.append_assoc, hfront] at hps
      have hsame := List.append_cancel_right (List.append_cancel_left hps)
      have hlt := htouches (.free run :: a) d b (by rw [hsame, hregion, List.cons_append])
      rw [Claim.offset, hpassed] at hoffset
      rw [Piece.spell_cons, List.length_append, Piece.text_free] at hlt
      omega
  · cases h
  · cases h

/-- A match across pieces that begins inside a token is passed over together with that token. -/
theorem across_behind {token : Span} {ps passed rest : List Piece}
    (h : across token ps = .behind passed rest)
    (hlt : token.start < (Piece.spell ps).length) :
    ∃ front c, passed = front ++ [.claimed c] ∧ ps = passed ++ rest ∧
      (Piece.spell front).length ≤ token.start := by
  rw [across] at h
  split at h
  · cases h
  · next front start piece rest' hne hl =>
    cases h
    obtain ⟨hps, hposition, -⟩ := Piece.locate_eq hl
    cases piece with
    | free run => exact absurd rfl (hne run)
    | claimed c => exact ⟨front, c, rfl, by rw [hps, List.append_assoc]; rfl, by omega⟩
  · next front start hl =>
    obtain ⟨hps, hposition, -⟩ := Piece.locate_eq hl
    rw [hps, List.append_nil] at hlt
    omega

/-- A match that begins in a free piece claims what is absorbed from that piece on. -/
theorem across_free {token : Span} {ps passed behind : List Piece} {position : Nat}
    {free : List Char}
    (hl : Piece.locate token.start ps = (passed, position, .free free :: behind)) :
    ∃ c taken, across token ps = .claim c ∧ c.passed = passed ∧
      Piece.absorb (position + token.length) false (.free free :: behind) =
        (c.before ++ c.token ++ c.after, taken, c.rest) ∧
      taken + c.rest.length = behind.length + 1 := by
  obtain ⟨region, taken, rest, ha⟩ : ∃ region taken rest,
      Piece.absorb (position + token.length) false (.free free :: behind) = (region, taken, rest) :=
    ⟨_, _, _, rfl⟩
  obtain ⟨front, hcut, -, htaken, -⟩ := Piece.absorb_eq ha
  have hcount := congrArg List.length hcut
  rw [List.length_cons, List.length_append] at hcount
  rw [across, hl]
  dsimp only
  rw [ha]
  refine ⟨_, taken, rfl, rfl, ?_, ?_⟩
  · rw [take_token_drop]
  · dsimp only
    omega

/-- A match that begins inside a token leads behind that token. -/
theorem across_claimed {token : Span} {ps passed behind : List Piece} {position : Nat} {c : Claimed}
    (hl : Piece.locate token.start ps = (passed, position, .claimed c :: behind)) :
    across token ps = .behind (passed ++ [.claimed c]) behind := by
  rw [across, hl]

theorem across_ne_nowhere {token : Span} {ps : List Piece} : across token ps ≠ .nowhere := by
  intro h
  rw [across] at h
  split at h <;> cases h

end Target

end Highlight
