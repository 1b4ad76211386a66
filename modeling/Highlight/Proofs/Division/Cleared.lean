import Highlight.Proofs.Division.Spelling

/-!
# A greedy sweep clears the text

A greedy pattern looks at all of the text ahead, so its sweep passes over no place in free text where it
has a hit: it goes on from where it has found the next hit, and what it passes over lies in front of that
hit. `Piece.Cleared` is what a sweep without a limit leaves behind it, whatever the rescans make of the
pieces ahead. The pattern must have no leading context, or a hit would begin before its token does, and
what is in sight to the left of a place must not decide on whether there is a hit.
-/

namespace Highlight

open Piece (spell)

namespace Piece

/-- In no free run is there a place where the pattern has a hit in all of the text from there on. -/
def Cleared (p : Pattern) (ps : List Piece) : Prop :=
  ∀ front x y back, ps = front ++ .free (x ++ y) :: back → y ≠ [] →
    p.hitAt none (y ++ spell back) = none

variable {p : Pattern} {before : Option Char}

theorem cleared_nil : Cleared p [] := by
  intro front x y back h
  exact absurd h.symm (by simp)

theorem Cleared.claimed {ps : List Piece} (h : Cleared p ps) (c : Claimed) :
    Cleared p (.claimed c :: ps) := by
  intro front x y back hcut hy
  cases front with
  | nil => cases hcut
  | cons q front =>
    rw [List.cons_append, List.cons.injEq] at hcut
    exact h front x y back hcut.2 hy

section Indifferent

variable (hleft : ∀ before text, p.hitAt before text = none ↔ p.hitAt none text = none)

include hleft

/-- Where a search finds nothing, there is nothing to clear. -/
theorem cleared_of_search_eq_none {ps : List Piece} (hs : p.search before (spell ps) = none) :
    Cleared p ps := by
  intro front x y back hcut _
  rw [← hleft (Text.lastOr before (spell front ++ x))]
  refine PatternWith.search_eq_none_iff.mp hs _ _ ?_
  rw [hcut]
  simp only [spell_append, spell_cons, text_free, List.append_assoc]

/-- Pieces in front of the hit that a search finds hold no hit, so that all is cleared if the pieces
behind the next token are. -/
theorem cleared_of_search {hit : Hit} {text : List Char} {front behind : List Piece} {d : Claimed}
    (hp : p.lookbehind = none) (hs : p.search before text = some hit)
    (htext : text = spell (front ++ .claimed d :: behind))
    (hfront : (spell front).length ≤ hit.token.start) (hbehind : Cleared p behind) :
    Cleared p (front ++ .claimed d :: behind) := by
  intro lead x y back hcut hy
  rcases List.append_eq_append_iff.mp hcut with ⟨mid, rfl, hmid⟩ | ⟨mid, rfl, hmid⟩
  · cases mid with
    | nil => cases hmid
    | cons q mid =>
      rw [List.cons_append, List.cons.injEq] at hmid
      exact hbehind mid x y back hmid.2 hy
  · cases mid with
    | nil => cases hmid
    | cons q mid =>
      rw [List.cons_append, List.cons.injEq] at hmid
      obtain ⟨rfl, rfl⟩ := hmid
      have hpos := List.length_pos_iff.mpr hy
      rw [← hleft (Text.lastOr before (spell lead ++ x))]
      refine PatternWith.hitAt_none_of_search hp hs ?_ ?_
      · rw [htext]
        simp only [spell_append, spell_cons, text_free, List.append_assoc]
      · rw [spell_append, spell_cons, text_free, List.length_append, List.length_append,
          List.length_append] at hfront
        rw [List.length_append]
        omega

end Indifferent

end Piece

/-- A claim of a greedy pattern has its token where a search of all of the text ahead finds it. -/
theorem Target.ofRun_claim_greedy {p : Pattern} (hgreedy : p.greedy = true) {before : Option Char}
    {run : List Char} {rest : List Piece} {c : Claim} (h : ofRun p before run rest = .claim c) :
    ∃ before' hit, p.search before' (run ++ spell rest) = some hit ∧ c.offset = hit.token.start := by
  by_cases hrest : rest = []
  · subst hrest
    rw [ofRun_eq_alone (.inr rfl)] at h
    split at h
    · next hit hs =>
      injection h with h
      have hw := PatternWith.search_within hs
      refine ⟨none, hit, by rwa [Piece.spell_nil, List.append_nil], ?_⟩
      rw [← h]
      exact (within_covers hw.nonempty hw.stop_le).2.1
    · cases h
  · rw [ofRun_eq_across hgreedy hrest] at h
    split at h
    · next hit hs =>
      have hw := PatternWith.search_within hs
      obtain ⟨-, -, -, -, hoffset, -⟩ := across_claim h hw.nonempty (by
        rw [Piece.spell_cons, Piece.text_free]
        exact hw.stop_le)
      exact ⟨before, hit, hs, hoffset⟩
    · cases h

/-- A sweep of a greedy pattern that no limit stops clears the pieces. -/
theorem sweep_cleared {rescan : Nat → Nat → Option Char → List Piece → List Piece} {kind : String}
    {p : Pattern} (hkeeps : ∀ fuel limit before, Keeps (rescan fuel limit before))
    (hgreedy : p.greedy = true) (hp : p.lookbehind = none)
    (hleft : ∀ before text, p.hitAt before text = none ↔ p.hitAt none text = none) :
    ∀ fuel limit before ps, Piece.Solid ps → (spell ps).length ≤ fuel → limit = none →
      Piece.Cleared p (sweep rescan kind p fuel limit before ps) := by
  apply sweep_induction_solid (motive := fun _ limit _ _ swept => limit = none →
    Piece.Cleared p swept) hkeeps
  case done => exact fun _ _ _ _ => Piece.cleared_nil
  case token =>
    intro fuel limit before c rest swept _ ih hlimit
    exact (ih (by rw [hlimit]; rfl)).claimed c
  case ends =>
    intro fuel limit before run rest hends hlimit
    subst hlimit
    rcases hends with h0 | hnowhere | ⟨c, -, l, hl, -⟩
    · cases h0
    · exact Piece.cleared_of_search_eq_none hleft (Target.ofRun_nowhere hnowhere).2.2
    · cases hl
  case behind =>
    intro fuel limit before run rest passed rest' swept _ htarget hswept ih hlimit
    have hbehind := ih (by rw [hlimit]; rfl)
    rcases Target.ofRun_behind htarget with ⟨rfl, rfl, hlast, hnone⟩ |
      ⟨hit, front, c, -, -, hs, rfl, hcut, hfront⟩
    · -- the run is the last piece, and nothing is found in it
      obtain rfl : rest' = [] := by
        rcases hlast with hlast | hlast
        · rw [hgreedy] at hlast
          cases hlast
        · exact hlast
      refine Piece.cleared_of_search_eq_none hleft (show p.search none _ = none from ?_)
      rw [List.singleton_append, Piece.spell_cons, hswept, Piece.spell_nil, List.append_nil]
      exact hnone
    · have htext : run ++ spell rest = spell (front ++ .claimed c :: swept) := by
        have hspell := congrArg spell hcut
        rw [Piece.spell_cons, Piece.text_free] at hspell
        rw [hspell]
        simp only [Piece.spell_append, Piece.spell_cons, Piece.spell_nil, List.append_nil, hswept,
          List.append_assoc]
      rw [List.append_assoc, List.singleton_append]
      exact Piece.cleared_of_search hleft hp hs htext hfront hbehind
  case claim =>
    intro fuel limit before run rest c swept _ _ htarget _ hswept ih hlimit
    have hbehind := ih (by rw [hlimit]; rfl)
    obtain ⟨-, free, region, -, hps, hc, -, -⟩ := Target.ofRun_claim htarget
    obtain ⟨before', hit, hs, hoffset⟩ := Target.ofRun_claim_greedy hgreedy htarget
    have htext : run ++ spell rest = spell (c.lead ++ .claimed ⟨kind, p, c.token⟩ :: swept) := by
      have hspell := hc.spell_eq hps
      rw [Piece.spell_cons, Piece.text_free] at hspell
      rw [hspell, Piece.spell_append, Piece.spell_cons, hswept, List.append_assoc]
      rfl
    exact Piece.cleared_of_search hleft hp hs htext
      (Nat.le_of_eq (c.length_spell_lead.trans hoffset)) hbehind

end Highlight
