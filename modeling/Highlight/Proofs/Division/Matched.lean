import Highlight.Proofs.Division.Spelling

/-!
# Every token is a match

A token among the pieces of a divided text is what its pattern found when it made the token: in a part
of the text on its own, or, if the pattern is greedy, in all of the text from some place on.
`Piece.Each` says of pieces that each token has a property together with its place, given by the text
in front of it. Places never change, so a token that a later claim leaves alone keeps the property.
-/

namespace Highlight

open Piece (spell)

namespace Piece

/-- Each token among pieces has the property, which is told the text in front of the token. -/
def Each (P : List Char → Claimed → Prop) : (front : List Char) → List Piece → Prop
  | _, [] => True
  | front, free t :: rest => Each P (front ++ t) rest
  | front, claimed c :: rest => P front c ∧ Each P (front ++ c.text) rest

variable {P : List Char → Claimed → Prop} {front : List Char}

theorem each_append {a b : List Piece} :
    Each P front (a ++ b) ↔ Each P front a ∧ Each P (front ++ spell a) b := by
  induction a generalizing front with
  | nil => simp [Each]
  | cons p a ih =>
    rw [spell_cons, ← List.append_assoc]
    cases p with
    | free t => exact ih
    | claimed c => rw [List.cons_append, Each, Each, ih, and_assoc, text_claimed]

theorem each_ofFree (front t : List Char) : Each P front (ofFree t) := by
  rw [ofFree]
  split <;> trivial

theorem each_joinFree {t : List Char} {ps : List Piece} :
    Each P front (joinFree t ps) ↔ Each P (front ++ t) ps := by
  by_cases ht : t = []
  · rw [ht, joinFree_empty, List.append_nil]
  · cases ps with
    | nil => rw [joinFree_nil ht, Each, Each, Each]
    | cons p ps =>
      cases p with
      | free u => rw [joinFree_free ht, Each, Each, List.append_assoc]
      | claimed c => rw [joinFree_claimed ht, Each]

theorem Each.at {a b : List Piece} {c : Claimed} (h : Each P front (a ++ claimed c :: b)) :
    P (front ++ spell a) c := (each_append.mp h).2.1

end Piece

/-- A claim leaves each token where it was, in front of what it covers and behind it. -/
theorem Claim.Covers.each {P : List Char → Claimed → Prop} {front run : List Char}
    {region ps : List Piece} {c : Claim} (hc : c.Covers run region)
    (hps : ps = c.passed ++ .free run :: region ++ c.rest) (h : Piece.Each P front ps) :
    Piece.Each P front c.lead ∧ Piece.Each P (front ++ Piece.spell c.lead ++ c.token) c.ahead := by
  rw [hps, Piece.each_append, Piece.each_append] at h
  obtain ⟨⟨hpassed, -⟩, hrest⟩ := h
  constructor
  · exact Piece.each_append.mpr ⟨hpassed, Piece.each_ofFree _ _⟩
  · have hplace : front ++ Piece.spell (c.passed ++ .free run :: region) =
        front ++ Piece.spell c.lead ++ c.token ++ c.after := by
      have hcovers := hc.spell
      simp only [Piece.spell_append, Piece.spell_cons, Piece.text_free, spell_lead,
        List.append_assoc] at hcovers ⊢
      rw [hcovers]
    rw [hplace] at hrest
    exact Piece.each_joinFree.mpr hrest

/-- The pattern finds the token that stands behind `front` in the text. -/
inductive Matched (text : List Char) (p : Pattern) : (front token : List Char) → Prop where
  | alone {lead x token y back : List Char} {hit : Hit}
      (htext : text = lead ++ (x ++ token ++ y) ++ back)
      (hs : p.search none (x ++ token ++ y) = some hit)
      (htoken : hit.token = ⟨x.length, x.length + token.length⟩) : Matched text p (lead ++ x) token
  | ahead {lead x token back : List Char} {hit : Hit} (hgreedy : p.greedy = true)
      (htext : text = lead ++ (x ++ token ++ back))
      (hs : p.search (Text.lastOr none lead) (x ++ token ++ back) = some hit)
      (htoken : hit.token = ⟨x.length, x.length + token.length⟩) : Matched text p (lead ++ x) token

/-- What is claimed has just been found. -/
theorem Target.matched_of_claim {p : Pattern} {text front run : List Char} {rest : List Piece}
    {c : Claim} (htext : text = front ++ spell (.free run :: rest))
    (h : ofRun p (Text.lastOr none front) run rest = .claim c) :
    Matched text p (front ++ spell c.lead) c.token := by
  obtain ⟨hit, free, region, hfound, hps, hc, hoffset, hlength⟩ := ofRun_claim h
  have hspell := hc.spell_eq hps
  have hpos := Claim.token_pos hc
  have htoken : hit.token =
      ⟨(spell c.lead).length, (spell c.lead).length + c.token.length⟩ := by
    have hstop : hit.token.start + hit.token.length = hit.token.stop := by
      rw [hlength, Span.length] at hpos
      rw [Span.length]
      omega
    rw [c.length_spell_lead, hoffset, hlength, hstop]
  rw [Piece.spell_cons, Piece.text_free] at hspell htext
  cases hfound with
  | ahead hgreedy hrest hs =>
    rw [hspell] at hs htext
    exact .ahead hgreedy htext hs htoken
  | alone hs =>
    have hle := (PatternWith.search_within hs).stop_le
    rw [htoken, ← List.length_append] at hle
    obtain ⟨y, rfl⟩ : spell c.lead ++ c.token <+: run :=
      List.prefix_of_prefix_length_le ⟨_, hspell.symm⟩ ⟨_, rfl⟩ hle
    rw [← List.append_assoc] at htext
    exact .alone htext hs htoken

/-- What is kept of each token while pieces of a text are gone over. -/
structure KeepsEach (P : List Char → Claimed → Prop) (text : List Char) (before : Option Char)
    (f : List Piece → List Piece) : Prop where
  keeps : Keeps f
  each : ∀ front ps, before = Text.lastOr none front → text = front ++ spell ps →
    Piece.Each P front ps → Piece.Each P front (f ps)

section

variable {text : List Char}

/-- Each token among the pieces is what its pattern finds. -/
abbrev MatchedAt (text front : List Char) (c : Claimed) : Prop :=
  Matched text c.pattern front c.text

/-- A sweep leaves the tokens it passes alone and adds tokens that it has just found. -/
theorem sweep_matched {rescan : Nat → Nat → Option Char → List Piece → List Piece} {kind : String}
    {p : Pattern}
    (hrescan : ∀ fuel limit before, KeepsEach (MatchedAt text) text before (rescan fuel limit before)) :
    ∀ fuel limit before ps front, before = Text.lastOr none front → text = front ++ spell ps →
      Piece.Each (MatchedAt text) front ps →
      Piece.Each (MatchedAt text) front (sweep rescan kind p fuel limit before ps) := by
  apply sweep_induction (motive := fun _ _ before ps swept => ∀ front,
    before = Text.lastOr none front → text = front ++ spell ps →
    Piece.Each (MatchedAt text) front ps → Piece.Each (MatchedAt text) front swept)
  case spent => exact fun _ _ _ _ _ _ h => h
  case done => exact fun _ _ _ _ _ _ h => h
  case token =>
    intro fuel limit before c rest swept ih front hbefore htext h
    refine ⟨h.1, ih _ ?_ ?_ h.2⟩
    · rw [hbefore, Text.lastOr_append]
    · rw [htext, Piece.spell_cons, Piece.text_claimed, List.append_assoc]
  case ends => exact fun _ _ _ _ _ _ _ _ _ h => h
  case behind =>
    intro fuel limit before run rest passed rest' swept _ htarget ih front hbefore htext h
    rw [(Target.ofRun_behind_cut htarget).1] at htext h
    obtain ⟨hpassed, hrest⟩ := Piece.each_append.mp h
    refine Piece.each_append.mpr ⟨hpassed, ih _ ?_ ?_ hrest⟩
    · rw [hbefore, Text.lastOr_append]
    · rw [htext, Piece.spell_append, List.append_assoc]
  case claim =>
    intro fuel limit before run rest c swept htarget _ ih front hbefore htext h
    have hmatched : Matched text p (front ++ spell c.lead) c.token := by
      rw [hbefore] at htarget
      exact Target.matched_of_claim htext htarget
    obtain ⟨hit, free, region, -, hps, hc, -, -⟩ := Target.ofRun_claim htarget
    have htext' : text = front ++ spell c.lead ++ c.token ++ (c.after ++ spell c.rest) := by
      rw [htext, hc.spell_eq hps]
      simp only [List.append_assoc]
    have hbefore' : Text.lastOr before c.token =
        Text.lastOr none (front ++ spell c.lead ++ c.token) := by
      rw [Text.lastOr_append]
      exact Text.lastOr_of_ne _ _ hc.token_ne
    obtain ⟨hlead, hahead⟩ := hc.each hps h
    have haheadOf : Piece.Each (MatchedAt text) (front ++ spell c.lead ++ c.token)
        (c.aheadOf rescan fuel before) := by
      rw [Claim.aheadOf]
      split
      · apply (hrescan fuel c.after.length _).each _ _ hbefore' _ hahead
        rw [c.spell_ahead]
        exact htext'
      · exact hahead
    refine Piece.each_append.mpr ⟨hlead, hmatched, ih _ hbefore' ?_ haheadOf⟩
    rw [Claim.spell_aheadOf fun fuel limit before => (hrescan fuel limit before).keeps]
    exact htext'

theorem applyRules_matched (text : List Char) (rules : List Rule) :
    ∀ fuel limit before, KeepsEach (MatchedAt text) text before (applyRules rules fuel limit before) := by
  apply applyRules_induction_before
  case hid => exact fun before => ⟨.id, fun _ _ _ _ h => h⟩
  case hcomp =>
    intro before f g hf hg
    refine ⟨hf.keeps.comp hg.keeps, ?_⟩
    intro front ps hbefore htext h
    apply hf.each front (g ps) hbefore _ (hg.each front ps hbefore htext h)
    rw [hg.keeps.spell]
    exact htext
  case hsweep =>
    intro rule _ p _ rescan hrescan fuel limit before
    have hkeeps := fun fuel limit before => (hrescan fuel limit before).keeps
    constructor
    · exact ⟨sweep_spell hkeeps fuel limit before, sweep_solid hkeeps fuel limit before⟩
    · exact fun front ps => sweep_matched hrescan fuel limit before ps front

end

/-- Each token of a divided text is what its pattern finds in the text. -/
theorem Grammar.matched_divide (g : Grammar) (text : List Char) :
    Piece.Each (MatchedAt text) [] (g.divide text) := by
  apply (applyRules_matched text g.rules.reverse text.length none none).each
  · rfl
  · rw [Piece.spell_ofFree]
    rfl
  · exact Piece.each_ofFree _ _

end Highlight
