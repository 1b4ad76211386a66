import Highlight.Proofs.Segments.Commit
import Highlight.Proofs.Division.Spelling

/-!
# A pattern in place

`Scope.runPattern` works on one list of segments and goes on from index to index. It does what a
sweep does to the pieces ahead: `Stands` says how the two views belong together, its lemmas say
how they move on together, and `runPattern_layOut` follows a sweep step by step. A pattern never
fails in place, whatever the rescans are, as long as they do not.
-/

namespace Highlight

open Piece (spell Solid)
open Segment Checked

namespace Scope
variable {sc : Scope} {index : Nat} {rule : Rule} {p : Pattern} {limit? : Option Nat} {start : Nat}
  {front rest : List Piece} {run : List Char}

section Iteration

variable {items : List Segment} {i : Nat} {run : Span}

/-! An iteration of a pattern's loop, by the segment that it looks at and by where the pattern leads. -/

theorem runPattern_done (h : items.length ≤ i) : runPattern sc index rule p limit? i items = pure items := by
  rw [runPattern, if_neg (Nat.not_lt.mpr h)]

theorem runPattern_token {node : Node} {greedy : Bool} (hi : items[i]? = some (.token node greedy)) :
    runPattern sc index rule p limit? i items = runPattern sc index rule p limit? (i + 1) items := by
  obtain ⟨hlt, -⟩ := List.getElem?_eq_some_iff.mp hi
  conv => enter [1]; rw [runPattern]
  rw [if_pos hlt, segment_eq hi, pure_bind]

theorem runPattern_at_limit (hi : items[i]? = some (.text run)) (h : limit?.any (· ≤ run.start) = true) :
    runPattern sc index rule p limit? i items = pure items := by
  obtain ⟨hlt, -⟩ := List.getElem?_eq_some_iff.mp hi
  rw [runPattern, if_pos hlt, segment_eq hi, pure_bind]
  dsimp only
  rw [if_pos h]

theorem runPattern_nothing (hi : items[i]? = some (.text run)) (h : ¬ limit?.any (· ≤ run.start) = true)
    (hland : sc.land items p i run = pure .nothing) :
    runPattern sc index rule p limit? i items = pure items := by
  obtain ⟨hlt, -⟩ := List.getElem?_eq_some_iff.mp hi
  rw [runPattern, if_pos hlt, segment_eq hi, pure_bind]
  dsimp only
  rw [if_neg h, hland, pure_bind]

theorem runPattern_goOn {j : Nat} (hi : items[i]? = some (.text run))
    (h : ¬ limit?.any (· ≤ run.start) = true) (hland : sc.land items p i run = pure (.goOn j)) :
    runPattern sc index rule p limit? i items = runPattern sc index rule p limit? j items := by
  obtain ⟨hlt, -⟩ := List.getElem?_eq_some_iff.mp hi
  conv => enter [1]; rw [runPattern]
  rw [if_pos hlt, segment_eq hi, pure_bind]
  dsimp only
  rw [if_neg h, hland, pure_bind]

theorem runPattern_found {claim : SegmentClaim} (hi : items[i]? = some (.text run))
    (h : ¬ limit?.any (· ≤ run.start) = true) (hland : sc.land items p i run = pure (.found claim)) :
    runPattern sc index rule p limit? i items =
      if limit?.any (· ≤ claim.matched.token.start) then pure items
      else (do
        let (i, items) ← commit sc items rule p claim
        let items ← if claim.count != 1 then
            runRules sc i (some index) (some claim.stop) 0 sc.grammar.rules items
          else pure items
        runPattern sc index rule p limit? (i + 1) items) := by
  obtain ⟨hlt, -⟩ := List.getElem?_eq_some_iff.mp hi
  conv => enter [1]; rw [runPattern]
  rw [if_pos hlt, segment_eq hi, pure_bind]
  dsimp only
  rw [if_neg h, hland, pure_bind]

end Iteration

/-- Limits in bytes of the whole text and in characters ahead. -/
inductive Limits (start : Nat) (text : List Char) : Option Nat → Option Nat → Prop where
  | none : Limits start text none none
  | some {b n : Nat} (h : Text.Ahead start text b n) : Limits start text (some b) (some n)

theorem Limits.any_le_iff {start : Nat} {text : List Char} {limit : Option Nat}
    (h : Limits start text limit? limit) {k : Nat} (hk : k ≤ text.length) :
    limit?.any (· ≤ start + Text.byteOffset text k) = true ↔ limit.any (· ≤ k) = true := by
  cases h with
  | none => simp
  | some h => simpa using h.le_iff hk

theorem Limits.behind {start : Nat} {front text : List Char} {limit : Option Nat}
    (h : Limits start (front ++ text) limit? limit) :
    Limits (start + Text.byteLength front) text limit? (limit.map (· - front.length)) := by
  cases h with
  | none => exact .none
  | some h => exact .some h.behind


/-- Tokens of a pattern are made without a fault. -/
def Makes (sc : Scope) (rule : Rule) (p : Pattern) : Prop :=
  ∀ s t, Text.IsPart sc.text s t → makeToken sc rule p s = pure
    (.token rule.name p.altKind s (String.ofList t) (p.nodesInside s.start t))

/-- The pieces stand where the machine is about to go on: behind `front`, with enough fuel for a
sweep, and under the same limit. -/
structure Stands (sc : Scope) (front ps : List Piece) (fuel : Nat) (limit : Option Nat)
    (before : Option Char) (limit? : Option Nat) : Prop where
  part : Text.IsPart sc.text sc.range (spell (front ++ ps))
  solid : Solid (front ++ ps)
  fuel : (spell ps).length ≤ fuel
  before : before = Text.lastOr none (spell front)
  limits : Limits (sc.range.start + Text.byteLength (spell front)) (spell ps) limit? limit

namespace Stands

variable {fuel : Nat} {limit : Option Nat} {before : Option Char} {ps : List Piece}

/-- Pieces can be cut in another way. -/
theorem recut {qs : List Piece} (h : Stands sc front ps fuel limit before limit?)
    (hspell : spell qs = spell ps) (hsolid : Solid (front ++ qs)) :
    Stands sc front qs fuel limit before limit? := by
  refine ⟨?_, hsolid, ?_, h.before, ?_⟩
  · rw [Piece.spell_append, hspell, ← Piece.spell_append]
    exact h.part
  · rw [hspell]
    exact h.fuel
  · rw [hspell]
    exact h.limits

/-- The pieces ahead lie behind `front`. -/
theorem isPart_ahead (h : Stands sc front ps fuel limit before limit?) :
    Text.IsPart sc.text ⟨sc.range.start + Text.byteLength (spell front),
      sc.range.start + Text.byteLength (spell front) + Text.byteLength (spell ps)⟩ (spell ps) := by
  have hpart := h.part
  rw [Piece.spell_append, ← List.append_nil (_ ++ spell ps)] at hpart
  exact hpart.middle

/-- Going on behind pieces takes one unit of fuel at most. -/
theorem step {a b : List Piece} (h : Stands sc front (a ++ b) (fuel + 1) limit before limit?)
    (hne : a ≠ []) :
    Stands sc (front ++ a) b fuel (limit.map (· - (spell a).length)) (Text.lastOr before (spell a))
      limit? := by
  have hsolid := h.solid
  rw [Piece.solid_append, Piece.solid_append] at hsolid
  have hpos := Piece.length_spell_pos hsolid.2.1 hne
  have hfuel := h.fuel
  have hlimits := h.limits
  rw [Piece.spell_append] at hlimits
  refine ⟨?_, ?_, ?_, ?_, ?_⟩
  · rw [List.append_assoc]
    exact h.part
  · rw [List.append_assoc]
    exact h.solid
  · rw [Piece.spell_append, List.length_append] at hfuel
    omega
  · rw [h.before, Piece.spell_append, Text.lastOr_append]
  · rw [Piece.spell_append, Text.byteLength_append, ← Nat.add_assoc]
    exact hlimits.behind

/-- A limit is reached by the text `a` ahead in bytes if it is in characters. -/
theorem any_le_iff {a b : List Char} (h : Stands sc front ps fuel limit before limit?)
    (hps : spell ps = a ++ b) :
    limit?.any (· ≤ sc.range.start + Text.byteLength (spell front) + Text.byteLength a) = true ↔
      limit.any (· ≤ a.length) = true := by
  have hlimits := h.limits
  rw [hps] at hlimits
  have hiff := hlimits.any_le_iff (k := a.length) (by simp)
  rwa [Text.byteOffset, List.take_left' rfl] at hiff

theorem any_le_start_iff (h : Stands sc front ps fuel limit before limit?) :
    limit?.any (· ≤ sc.range.start + Text.byteLength (spell front)) = true ↔ limit = some 0 := by
  have hiff := h.any_le_iff (List.nil_append _).symm
  rw [Text.byteLength_nil, Nat.add_zero] at hiff
  rw [hiff]
  cases limit <;> simp

/-- A limit precludes the claim `c` in bytes if it does in characters. -/
theorem any_le_claim_iff {c : Claim} {claim : SegmentClaim} {free : List Char}
    {region : List Piece} (h : Stands sc front ps fuel limit before limit?)
    (hps : ps = c.passed ++ .free free :: region ++ c.rest) (hc : c.Covers free region)
    (hd : claim.Describes sc.range.start front ps c) :
    limit?.any (· ≤ claim.matched.token.start) = true ↔ limit.any (· ≤ c.offset) = true := by
  have hspell := hc.spell_eq hps
  rw [List.append_assoc] at hspell
  have hiff := h.any_le_iff hspell
  rw [Claim.length_spell_lead] at hiff
  rw [hd.token, Piece.spell_append, Text.byteLength_append, ← Nat.add_assoc]
  exact hiff

/-- Behind the token of a claim stand the pieces that the claim leaves ahead. -/
theorem behind_claim {c : Claim} {free : List Char} {region : List Piece}
    (kind : String) (p : Pattern) (h : Stands sc front ps (fuel + 1) limit before limit?)
    (hps : ps = c.passed ++ .free free :: region ++ c.rest) (hc : c.Covers free region) :
    Stands sc (front ++ c.lead ++ [.claimed ⟨kind, p, c.token⟩]) c.ahead fuel
      (limit.map (· - (c.offset + c.token.length))) (Text.lastOr before c.token) limit? := by
  have hcut : front ++ (c.lead ++ [.claimed ⟨kind, p, c.token⟩] ++ c.ahead) =
      front ++ c.lead ++ .claimed ⟨kind, p, c.token⟩ :: c.ahead := by simp
  have hspell : spell (c.lead ++ [.claimed ⟨kind, p, c.token⟩] ++ c.ahead) = spell ps := by
    rw [hc.spell_eq hps, Piece.spell_append, Piece.spell_snoc, Claim.spell_ahead]
    rfl
  have hsolid : Solid (front ++ (c.lead ++ [.claimed ⟨kind, p, c.token⟩] ++ c.ahead)) := by
    rw [hcut]
    exact hc.solid hps h.solid
  have hstep := (h.recut hspell hsolid).step (by simp)
  have hlast : Text.lastOr before (spell (c.lead ++ [.claimed ⟨kind, p, c.token⟩])) =
      Text.lastOr before c.token := by
    rw [Piece.spell_snoc, Text.lastOr_append]
    exact Text.lastOr_of_ne _ _ hc.token_ne
  have hlen : (spell (c.lead ++ [.claimed ⟨kind, p, c.token⟩])).length =
      c.offset + c.token.length := by
    rw [Piece.spell_snoc, List.length_append, Claim.length_spell_lead]
    rfl
  rwa [hlast, hlen, ← List.append_assoc] at hstep

/-- Fuel runs out only where nothing is left ahead. -/
theorem eq_nil (h : Stands sc front ps 0 limit before limit?) : ps = [] := by
  cases ps with
  | nil => rfl
  | cons p ps =>
    have hpos := Piece.length_spell_pos (Piece.solid_append.mp h.solid).2 (List.cons_ne_nil _ _)
    have hfuel := h.fuel
    omega

/-- There may be more fuel than is needed. -/
theorem more (h : Stands sc front ps fuel limit before limit?) {fuel' : Nat} (hle : fuel ≤ fuel') :
    Stands sc front ps fuel' limit before limit? :=
  ⟨h.part, h.solid, Nat.le_trans h.fuel hle, h.before, h.limits⟩

/-- The rescan behind the token of a claim is limited to what the claim leaves over. -/
theorem rescan_claim {c : Claim} {claim : SegmentClaim} {free : List Char} {region : List Piece}
    (kind : String) (p : Pattern) (h : Stands sc front ps (fuel + 1) limit before limit?)
    (hps : ps = c.passed ++ .free free :: region ++ c.rest) (hc : c.Covers free region)
    (hd : claim.Describes sc.range.start front ps c) :
    Stands sc (front ++ c.lead ++ [.claimed ⟨kind, p, c.token⟩]) c.ahead fuel
      (some c.after.length) (Text.lastOr before c.token) (some claim.stop) := by
  have hbehind := h.behind_claim kind p hps hc
  refine ⟨hbehind.part, hbehind.solid, hbehind.fuel, hbehind.before, ?_⟩
  rw [hd.stop_eq kind p, Claim.spell_ahead]
  exact .some (Text.Ahead.of_length _ _ _)

/-- Where a rescan is due, it leaves the pieces behind the token where they were. -/
theorem behind_rescan {rescan : Nat → Nat → Option Char → List Piece → List Piece} {c : Claim}
    {free : List Char} {region : List Piece} (kind : String) (p : Pattern)
    (h : Stands sc front ps (fuel + 1) limit before limit?)
    (hkeeps : ∀ fuel limit before, Keeps (rescan fuel limit before))
    (hps : ps = c.passed ++ .free free :: region ++ c.rest) (hc : c.Covers free region) :
    Stands sc (front ++ c.lead ++ [.claimed ⟨kind, p, c.token⟩]) (c.aheadOf rescan fuel before) fuel
      (limit.map (· - (c.offset + c.token.length))) (Text.lastOr before c.token) limit? := by
  have hbehind := h.behind_claim kind p hps hc
  have hspell : spell (c.aheadOf rescan fuel before) = spell c.ahead := by
    rw [Claim.spell_aheadOf hkeeps, Claim.spell_ahead]
  have hsolid := h.solid
  rw [hps, Piece.solid_append, Piece.solid_append] at hsolid
  exact hbehind.recut hspell (Piece.solid_append.mpr ⟨(Piece.solid_append.mp hbehind.solid).1,
    Claim.solid_aheadOf hkeeps hsolid.2.2 fuel before⟩)

/-- The claim's token can be made, so the claim is committed. -/
theorem commit_claim {c : Claim} {claim : SegmentClaim} {free : List Char} {region : List Piece}
    {rule : Rule} (h : Stands sc front ps (fuel + 1) limit before limit?) (hmakes : Makes sc rule p)
    (hps : ps = c.passed ++ .free free :: region ++ c.rest) (hc : c.Covers free region)
    (hd : claim.Describes sc.range.start front ps c) :
    makeToken sc rule p claim.matched.token = pure
      (.token rule.name p.altKind claim.matched.token (String.ofList c.token)
        (p.nodesInside claim.matched.token.start c.token)) ∧
    commit sc (layOut sc.range.start (front ++ ps)) rule p claim =
      pure (front.length + c.lead.length,
        layOut sc.range.start (front ++ c.lead ++ .claimed ⟨rule.name, p, c.token⟩ :: c.ahead)) := by
  have hpart := (h.behind_claim rule.name p hps hc).part
  rw [List.append_assoc, List.singleton_append, Piece.spell_append, Piece.spell_cons,
    ← List.append_assoc] at hpart
  have htoken : Text.IsPart sc.text claim.matched.token c.token := by
    rw [hd.token]
    exact hpart.middle
  have hmake := hmakes _ _ htoken
  exact ⟨hmake, commit_layOut h.part h.solid hd hps hc hmake⟩

end Stands

/-- The rules before the one with the number `index` do behind a new token what `rescan` does to
the pieces there. -/
def Rescans (sc : Scope) (index : Nat)
    (rescan : Nat → Nat → Option Char → List Piece → List Piece) : Prop :=
  ∀ front c ps fuel n before limit,
    Stands sc (front ++ [.claimed c]) ps fuel (some n) before (some limit) →
    runRules sc front.length (some index) (some limit) 0 sc.grammar.rules
      (layOut sc.range.start (front ++ .claimed c :: ps)) =
      pure (layOut sc.range.start (front ++ .claimed c :: rescan fuel n before ps))

section Step

variable {fuel : Nat} {limit : Option Nat} {before : Option Char}

/-- Where a sweep ends, the machine leaves the segments as they are. -/
theorem Stands.runPattern_ends (h : Stands sc front (.free run :: rest) fuel limit before limit?)
    (hends : SweepEnds p limit before run rest) :
    runPattern sc index rule p limit? front.length
        (layOut sc.range.start (front ++ .free run :: rest)) =
      pure (layOut sc.range.start (front ++ .free run :: rest)) := by
  have hi := getElem?_layOut sc.range.start front (.free run) rest
  by_cases hlimit : limit = some 0
  · exact runPattern_at_limit hi (h.any_le_start_iff.mpr hlimit)
  · have hopen := mt h.any_le_start_iff.mp hlimit
    obtain ⟨landing, hland, hdescribes⟩ := land_layOut (p := p) h.part
    rw [← h.before] at hdescribes
    rcases hends with h0 | hnowhere | ⟨c, htarget, l, rfl, hl⟩
    · exact absurd h0 hlimit
    · rw [hnowhere] at hdescribes
      cases hdescribes
      exact runPattern_nothing hi hopen hland
    · obtain ⟨-, free, region, -, hps, hc, -, -⟩ := Target.ofRun_claim htarget
      rw [htarget] at hdescribes
      cases hdescribes with
      | found hd =>
        have hany := (h.any_le_claim_iff hps hc hd).mpr (by simpa using hl)
        rw [runPattern_found hi hopen hland, if_pos hany]

/-- Where a sweep passes pieces by, the machine goes on behind them. -/
theorem Stands.runPattern_behind {passed rest' : List Piece}
    (h : Stands sc front (.free run :: rest) fuel limit before limit?) (hlimit : limit ≠ some 0)
    (htarget : Target.ofRun p before run rest = .behind passed rest') :
    runPattern sc index rule p limit? front.length
        (layOut sc.range.start (front ++ .free run :: rest)) =
      runPattern sc index rule p limit? (front ++ passed).length
        (layOut sc.range.start (front ++ passed ++ rest')) := by
  have hopen := mt h.any_le_start_iff.mp hlimit
  obtain ⟨landing, hland, hdescribes⟩ := land_layOut (p := p) h.part
  rw [← h.before, htarget] at hdescribes
  cases hdescribes
  rw [runPattern_goOn (getElem?_layOut _ front (.free run) rest) hopen hland, List.length_append,
    List.append_assoc, (Target.ofRun_behind_cut htarget).1]

/-- Where a sweep makes a token, the machine commits the claim, has the rules before go over what
was dissolved, and goes on behind the token. -/
theorem Stands.runPattern_claim {rescan : Nat → Nat → Option Char → List Piece → List Piece}
    {c : Claim} (h : Stands sc front (.free run :: rest) (fuel + 1) limit before limit?)
    (hmakes : Makes sc rule p) (hrescans : Rescans sc index rescan)
    (htarget : Target.ofRun p before run rest = .claim c)
    (hlimit : ∀ l, limit = some l → c.offset < l) :
    runPattern sc index rule p limit? front.length
        (layOut sc.range.start (front ++ .free run :: rest)) =
      runPattern sc index rule p limit? (front.length + c.lead.length + 1)
        (layOut sc.range.start
          (front ++ c.lead ++ .claimed ⟨rule.name, p, c.token⟩ :: c.aheadOf rescan fuel before)) := by
  obtain ⟨hit, free, region, -, hps, hc, -, -⟩ := Target.ofRun_claim htarget
  have hopen : ¬ limit?.any (· ≤ sc.range.start + Text.byteLength (spell front)) = true := by
    intro hany
    have := hlimit 0 (h.any_le_start_iff.mp hany)
    omega
  obtain ⟨landing, hland, hdescribes⟩ := land_layOut (p := p) h.part
  rw [← h.before, htarget] at hdescribes
  cases hdescribes with
  | @found claim _ hd =>
    have hany : ¬ limit?.any (· ≤ claim.matched.token.start) = true := by
      rw [h.any_le_claim_iff hps hc hd]
      cases limit with
      | none => simp
      | some l => simpa using hlimit l rfl
    rw [runPattern_found (getElem?_layOut _ front (.free run) rest) hopen hland, if_neg hany,
      (h.commit_claim hmakes hps hc hd).2, pure_bind, Claim.aheadOf]
    dsimp only
    rw [hd.count_ne_one hps hc]
    cases hdissolves : c.dissolves with
    | false =>
      rw [if_neg Bool.false_ne_true, if_neg Bool.false_ne_true, pure_bind]
    | true =>
      have hrescan := hrescans _ _ _ _ _ _ _ (h.rescan_claim rule.name p hps hc hd)
      rw [List.length_append] at hrescan
      rw [if_pos rfl, if_pos rfl, hrescan, pure_bind]

end Step

/-- The run of a pattern in place, from the pieces behind `front` on, is its sweep over them. -/
theorem runPattern_layOut {rescan : Nat → Nat → Option Char → List Piece → List Piece}
    (hmakes : Makes sc rule p) (hkeeps : ∀ fuel limit before, Keeps (rescan fuel limit before))
    (hrescans : Rescans sc index rescan) :
    ∀ fuel limit before ps, ∀ front limit?, Stands sc front ps fuel limit before limit? →
      runPattern sc index rule p limit? front.length (layOut sc.range.start (front ++ ps)) =
        pure (layOut sc.range.start (front ++ sweep rescan rule.name p fuel limit before ps)) := by
  apply sweep_induction (motive := fun fuel limit before ps swept => ∀ front limit?,
    Stands sc front ps fuel limit before limit? →
      runPattern sc index rule p limit? front.length (layOut sc.range.start (front ++ ps)) =
        pure (layOut sc.range.start (front ++ swept)))
  case spent =>
    intro limit before ps front limit? h
    rw [h.eq_nil, List.append_nil]
    exact runPattern_done (Nat.le_of_eq (length_layOut _ front))
  case done =>
    intro fuel limit before front limit? h
    rw [List.append_nil]
    exact runPattern_done (Nat.le_of_eq (length_layOut _ front))
  case token =>
    intro fuel limit before c rest swept ih front limit? h
    have hstep := Stands.step (a := [.claimed c]) h (List.cons_ne_nil _ _)
    rw [Piece.spell_cons, Piece.spell_nil, List.append_nil] at hstep
    have hrest := ih (front ++ [.claimed c]) limit? hstep
    rw [← List.append_cons, ← List.append_cons, List.length_append] at hrest
    rw [runPattern_token (getElem?_layOut _ front (.claimed c) rest)]
    exact hrest
  case ends => exact fun fuel limit before run rest hends front limit? h => h.runPattern_ends hends
  case behind =>
    intro fuel limit before run rest passed rest' swept hlimit htarget ih front limit? h
    rw [h.runPattern_behind hlimit htarget, ← List.append_assoc]
    obtain ⟨hcut, hne⟩ := Target.ofRun_behind_cut htarget
    rw [hcut] at h
    exact ih _ limit? (h.step hne)
  case claim =>
    intro fuel limit before run rest c swept htarget hlimit ih front limit? h
    obtain ⟨hit, free, region, -, hps, hc, -, -⟩ := Target.ofRun_claim htarget
    have hrest := ih _ limit? (h.behind_rescan rule.name p hkeeps hps hc)
    rw [← List.append_cons, ← List.append_cons, List.length_append, List.length_append,
      List.length_singleton] at hrest
    rw [h.runPattern_claim hmakes hrescans htarget hlimit, ← List.append_assoc]
    exact hrest

end Scope

end Highlight
