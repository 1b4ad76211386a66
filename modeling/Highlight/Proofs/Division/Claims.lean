import Highlight.Proofs.Division.Parted

/-!
# The claim that a given hit makes

Where a search is known to find a certain part of the text, the claim can be written down: it lies
within one free run, or it runs over into the token behind that run, or it is passed over with a
token in which it begins. The sweeps in question follow.
-/

namespace Highlight

open Piece

theorem Piece.ofFree_of_ne {t : List Char} (ht : t ≠ []) : ofFree t = [free t] :=
  if_neg (by simpa using ht)

theorem Piece.joinFree_nil_eq (t : List Char) : joinFree t [] = ofFree t := by
  rw [joinFree_of_parted rfl, List.append_nil]

theorem Piece.locate_inside {position : Nat} {p : Piece} {ps : List Piece}
    (h : position < p.text.length) : locate position (p :: ps) = ([], position, p :: ps) := by
  rw [locate, if_neg (by omega)]

theorem drop_token (lead token after : List Char) :
    (lead ++ (token ++ after)).drop (lead.length + token.length) = after := by
  rw [← List.drop_drop, List.drop_left, List.drop_left]

namespace Target

variable {p : Pattern} {before : Option Char} {run lead token after : List Char}
  {rest : List Piece} {hit : Hit}

/-- What a search in one run finds is claimed within that run. -/
theorem ofRun_alone (halone : p.greedy = false ∨ rest = []) (hs : p.search none run = some hit)
    (hrun : run = lead ++ (token ++ after))
    (htoken : hit.token = ⟨lead.length, lead.length + token.length⟩) :
    ofRun p before run rest = .claim ⟨[], lead, token, after, false, rest⟩ := by
  rw [ofRun_eq_alone halone, hs, hrun]
  simp only [Claim.within, htoken, Span.length, Nat.add_sub_cancel_left, List.take_left,
    List.drop_left, drop_token]

/-- What is found within the free run that comes first is claimed within it, also where the search
goes on behind that run. -/
theorem ofRun_first (hgreedy : p.greedy = true) (hparted : beginsFree rest = false)
    (hne : token ≠ []) (hrun : run = lead ++ (token ++ after))
    (hs : ∀ b, ∃ hit, p.search b (run ++ spell rest) = some hit ∧
      hit.token = ⟨lead.length, lead.length + token.length⟩) :
    ofRun p before run rest = .claim ⟨[], lead, token, after, false, rest⟩ := by
  by_cases hrest : rest = []
  · obtain ⟨hit, hsome, htoken⟩ := hs none
    rw [hrest, spell_nil, List.append_nil] at hsome
    exact ofRun_alone (.inr hrest) hsome hrun htoken
  · obtain ⟨hit, hsome, htoken⟩ := hs before
    have hpos := List.length_pos_iff.mpr hne
    have hlen := congrArg List.length hrun
    rw [List.length_append, List.length_append] at hlen
    have habsorb : absorb 0 false rest = ([], 0, rest) := by
      cases rest with
      | nil => rfl
      | cons q rest => cases q with
        | free t => cases hparted
        | claimed c => rfl
    rw [ofRun_eq_across hgreedy hrest, hsome]
    dsimp only
    rw [across, htoken, locate_inside (show lead.length < (free run).text.length by
      rw [text_free]
      omega)]
    dsimp only
    rw [absorb_free, Span.length, Nat.add_sub_cancel_left,
      show lead.length + token.length - run.length = 0 by omega, habsorb, List.append_nil, hrun,
      List.take_left, List.drop_left, List.take_left, drop_token]
    rfl

/-- What begins in the free run that comes first and ends in the greedy token behind it claims both,
and what is left of the token becomes free. -/
theorem ofRun_into (hgreedy : p.greedy = true) {c : Claimed} (hc : c.pattern.greedy = true)
    {front back : List Char} (hfront : front ≠ []) (hback : back ≠ [])
    (hrun : run = lead ++ front) (htext : c.text = back ++ after)
    (hs : p.search before (run ++ spell (claimed c :: rest)) = some hit)
    (htoken : hit.token = ⟨lead.length, lead.length + (front ++ back).length⟩) :
    ofRun p before run (claimed c :: rest) =
      .claim ⟨[], lead, front ++ back, after, true, rest⟩ := by
  have hfront' := List.length_pos_iff.mpr hfront
  have hback' := List.length_pos_iff.mpr hback
  have hlen := congrArg List.length hrun
  have hclen := congrArg List.length htext
  rw [List.length_append] at hlen hclen htoken
  have hneed : lead.length + (front.length + back.length) - run.length = back.length := by omega
  have habsorb : absorb back.length false (claimed c :: rest) = (c.text, 1, rest) := by
    have hrest : absorb (back.length - c.text.length) true rest = ([], 0, rest) := by
      rw [show back.length - c.text.length = 0 by omega]
      cases rest with
      | nil => rfl
      | cons q rest => cases q <;> rfl
    rw [absorb, if_pos (by simp [hback'])]
    rw [text_claimed, show (claimed c).isGreedy = true from hc, hrest]
    dsimp only
    rw [List.append_nil]
  rw [ofRun_eq_across hgreedy (List.cons_ne_nil _ _), hs]
  dsimp only
  rw [across, htoken, locate_inside (show lead.length < (free run).text.length by
    rw [text_free]
    omega)]
  dsimp only
  have hregion : run ++ c.text = lead ++ ((front ++ back) ++ after) := by
    rw [hrun, htext]
    simp only [List.append_assoc]
  rw [absorb_free, Span.length, Nat.add_sub_cancel_left, hneed, habsorb]
  dsimp only
  rw [hregion, List.take_left, List.drop_left, ← List.length_append, List.take_left, drop_token]
  rfl

/-- What begins in the token behind the free run is passed over with it. -/
theorem ofRun_over (hgreedy : p.greedy = true) {c : Claimed}
    (hs : p.search before (run ++ spell (claimed c :: rest)) = some hit)
    (hstart : run.length ≤ hit.token.start) (hlt : hit.token.start < run.length + c.text.length) :
    ofRun p before run (claimed c :: rest) = .behind [free run, claimed c] rest := by
  have hlocate : locate hit.token.start (free run :: claimed c :: rest) =
      ([free run], hit.token.start - run.length, claimed c :: rest) := by
    rw [locate, if_pos (by exact hstart), text_free, locate_inside (show
      hit.token.start - run.length < (claimed c).text.length by
        rw [text_claimed]
        omega)]
  rw [ofRun_eq_across hgreedy (List.cons_ne_nil _ _), hs]
  exact across_claimed hlocate

end Target

section Sweep

variable {rescan : Nat → Nat → Option Char → List Piece → List Piece} {kind : String} {p : Pattern}
  {fuel : Nat} {limit : Option Nat} {before : Option Char} {run : List Char} {rest : List Piece}

theorem sweep_nil : sweep rescan kind p fuel limit before [] = [] := by
  cases fuel <;> rfl

/-- A sweep whose limit has been reached changes nothing. -/
theorem sweep_limit_zero (fuel : Nat) (before : Option Char) (ps : List Piece) :
    sweep rescan kind p fuel (some 0) before ps = ps := by
  induction fuel generalizing before ps with
  | zero => rfl
  | succ fuel ih =>
    cases ps with
    | nil => rfl
    | cons q ps =>
      cases q with
      | free run => exact sweep_free_ends (.inl rfl)
      | claimed c =>
        rw [sweep, Option.map_some, Nat.zero_sub, ih]

theorem sweep_of_claim {lead token after : List Char} {dissolves : Bool} {behind : List Piece}
    (h : Target.ofRun p before run rest = .claim ⟨[], lead, token, after, dissolves, behind⟩)
    (hlimit : ∀ l, limit = some l → lead.length < l) :
    sweep rescan kind p (fuel + 1) limit before (.free run :: rest) =
      ofFree lead ++ .claimed ⟨kind, p, token⟩ ::
        sweep rescan kind p fuel (limit.map (· - (lead.length + token.length)))
          (Text.lastOr before token)
          (if dissolves then rescan fuel after.length (Text.lastOr before token) (joinFree after behind)
            else joinFree after behind) := by
  have hoffset : (⟨[], lead, token, after, dissolves, behind⟩ : Claim).offset = lead.length := by
    rw [Claim.offset, spell_nil, List.length_nil, Nat.zero_add]
  rw [sweep_free_claim h (by rwa [hoffset]), hoffset]
  rfl

theorem sweep_alone_some {lead token after : List Char} {hit : Hit}
    (halone : p.greedy = false ∨ rest = []) (hs : p.search none run = some hit)
    (hrun : run = lead ++ (token ++ after))
    (htoken : hit.token = ⟨lead.length, lead.length + token.length⟩) :
    sweep rescan kind p (fuel + 1) none before (.free run :: rest) =
      ofFree lead ++ .claimed ⟨kind, p, token⟩ ::
        sweep rescan kind p fuel none (Text.lastOr before token) (joinFree after rest) :=
  sweep_of_claim (Target.ofRun_alone halone hs hrun htoken) (fun _ h => by cases h)

theorem sweep_alone_none (halone : p.greedy = false ∨ rest = []) (hs : p.search none run = none) :
    sweep rescan kind p (fuel + 1) none before (.free run :: rest) =
      .free run :: sweep rescan kind p fuel none (Text.lastOr before run) rest := by
  have htarget : Target.ofRun p before run rest = .behind [.free run] rest := by
    rw [Target.ofRun_eq_alone halone, hs]
  rw [sweep_free_behind (by simp) htarget, spell_cons, spell_nil, text_free,
    List.append_nil]
  rfl

/-- Where a claim of a greedy pattern begins, if all hits begin at `n` or behind it. -/
theorem Target.le_offset {n : Nat} {c : Claim} (hgreedy : p.greedy = true)
    (h : ∀ b hit, p.search b (run ++ spell rest) = some hit → n ≤ hit.token.start)
    (htarget : ofRun p before run rest = .claim c) : n ≤ c.offset := by
  by_cases hrest : rest = []
  · subst hrest
    rw [spell_nil, List.append_nil] at h
    rw [ofRun_eq_alone (.inr rfl)] at htarget
    split at htarget
    · next hit hs =>
      have hw := PatternWith.search_within hs
      injection htarget with hc
      rw [← hc, (within_covers hw.nonempty hw.stop_le).2.1]
      exact h _ _ hs
    · cases htarget
  · rw [ofRun_eq_across hgreedy hrest] at htarget
    split at htarget
    · next hit hs =>
      have hw := PatternWith.search_within hs
      obtain ⟨_, _, _, _, hoffset, _⟩ := across_claim htarget hw.nonempty hw.stop_le
      rw [hoffset]
      exact h _ _ hs
    · cases htarget

/-- A sweep changes nothing if all hits begin at its limit or behind it, and the limit lies in the
free run that comes first. -/
theorem sweep_at_limit {n : Nat} (hn : n ≤ run.length) (hgreedy : p.greedy = true)
    (h : ∀ b hit, p.search b (run ++ spell rest) = some hit → n ≤ hit.token.start) :
    sweep rescan kind p fuel (some n) before (.free run :: rest) = .free run :: rest := by
  cases fuel with
  | zero => rfl
  | succ fuel =>
    by_cases hzero : n = 0
    · rw [hzero]
      exact sweep_limit_zero _ _ _
    · cases htarget : Target.ofRun p before run rest with
      | nowhere => exact sweep_free_ends (.inr (.inl htarget))
      | behind passed rest' =>
        obtain ⟨hcut, hne⟩ := Target.ofRun_behind_cut htarget
        have hpassed : n ≤ (spell passed).length := by
          cases passed with
          | nil => exact absurd rfl hne
          | cons q passed =>
            obtain ⟨rfl, -⟩ := List.cons.inj hcut
            rw [spell_cons, text_free, List.length_append]
            omega
        rw [sweep_free_behind (by simpa using hzero) htarget, Option.map_some,
          Nat.sub_eq_zero_of_le hpassed, sweep_limit_zero]
        exact hcut.symm
      | claim c =>
        have hoffset := Target.le_offset hgreedy h htarget
        exact sweep_free_ends (.inr (.inr ⟨c, htarget, n, rfl, hoffset⟩))

end Sweep

section Idle

variable {p : Pattern} {starts : Char → Bool}

/-- The token of whatever a pattern finds begins with one of certain characters. -/
def BeginsWith (p : Pattern) (starts : Char → Bool) : Prop :=
  ∀ before lead d back hit, p.search before (lead ++ d :: back) = some hit →
    hit.token.start = lead.length → starts d = true

/-- There is nothing to claim where no free text has a character with which a token begins. -/
theorem Target.ofRun_ne_claim (hp : BeginsWith p starts) {before : Option Char} {run : List Char}
    {rest : List Piece} (hfree : ∀ t, free t ∈ free run :: rest → ∀ d ∈ t, starts d = false)
    (c : Claim) : ofRun p before run rest ≠ .claim c := by
  intro h
  obtain ⟨hit, t, region, hfound, hps, hc, hoffset, -⟩ := ofRun_claim h
  cases hfound with
  | alone hs =>
    have hw := PatternWith.search_within hs
    have hne := hw.nonempty
    have hle := hw.stop_le
    obtain ⟨lead, d, back, hrun, hlead⟩ : ∃ lead d back, run = lead ++ d :: back ∧
        lead.length = hit.token.start := by
      have hlt : hit.token.start < run.length := by omega
      refine ⟨run.take hit.token.start, run[hit.token.start], run.drop (hit.token.start + 1), ?_, ?_⟩
      · rw [List.getElem_cons_drop, List.take_append_drop]
      · rw [List.length_take, Nat.min_eq_left (Nat.le_of_lt hlt)]
    have hd : d ∈ run := by rw [hrun]; simp
    have hstarts := hp none lead d back hit (by rwa [← hrun]) hlead.symm
    rw [hfree run (List.mem_cons_self ..) d hd] at hstarts
    cases hstarts
  | ahead _ _ hs =>
    obtain ⟨d, token, htoken⟩ := List.exists_cons_of_ne_nil hc.token_ne
    have hspell := hc.spell_eq hps
    rw [spell_cons, text_free, htoken, List.append_assoc, List.cons_append] at hspell
    rw [hspell] at hs
    have hstarts := hp before _ d _ hit hs (by rw [c.length_spell_lead, hoffset])
    have hcut := hc.spell
    have hbegins := hc.begins
    rw [htoken] at hcut
    have hd : d ∈ t := by
      have hget := congrArg (fun l : List Char => l[c.before.length]?) hcut
      simp only [List.append_assoc, List.cons_append] at hget
      rw [List.getElem?_append_left hbegins, List.getElem?_append_right (Nat.le_refl _),
        Nat.sub_self] at hget
      exact List.mem_of_getElem? hget
    have hmem : free t ∈ free run :: rest := by rw [hps]; simp
    rw [hfree t hmem d hd] at hstarts
    cases hstarts

/-- A sweep changes nothing where no free text has a character with which a token begins. -/
theorem sweep_idle {rescan : Nat → Nat → Option Char → List Piece → List Piece} {kind : String}
    (hp : BeginsWith p starts) :
    ∀ fuel limit before ps, (∀ t, free t ∈ ps → ∀ d ∈ t, starts d = false) →
      sweep rescan kind p fuel limit before ps = ps := by
  apply sweep_induction (motive := fun _ _ _ ps swept =>
    (∀ t, free t ∈ ps → ∀ d ∈ t, starts d = false) → swept = ps)
  case spent => exact fun _ _ _ _ => rfl
  case done => exact fun _ _ _ _ => rfl
  case token =>
    intro fuel limit before c rest swept ih hfree
    rw [ih fun t ht => hfree t (List.mem_cons_of_mem _ ht)]
  case ends => exact fun _ _ _ _ _ _ _ => rfl
  case behind =>
    intro fuel limit before run rest passed rest' swept _ htarget ih hfree
    obtain ⟨hcut, -⟩ := Target.ofRun_behind_cut htarget
    rw [hcut] at hfree ⊢
    rw [ih fun t ht => hfree t (List.mem_append_right _ ht)]
  case claim =>
    intro fuel limit before run rest c swept htarget _ _ hfree
    exact absurd htarget (Target.ofRun_ne_claim hp hfree c)

end Idle

end Highlight
