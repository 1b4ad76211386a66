import Highlight.Proofs.Division.Parted
import Highlight.Proofs.Division.Stages
import Highlight.Proofs.Segments.Run

/-!
# The calls of a division

While a range is divided in place, rules are run, each runs its patterns one after the other, and a
pattern that claims text across tokens has the earlier rules run again. `Scope.Calls` has one case for
each way in which one such call leads to the next, with the segments as they are at that moment, so the
states of the segments are those of the calls that `Scope.Reached` reaches. At each of these the segments
are pieces laid out, in which free runs are maximal, and the next call finds them so again.
-/

namespace Highlight

open Piece (spell Parted)
open Segment Checked

/-- A run of rules or of a pattern that begins or goes on, with the segments at that moment. -/
inductive Call where
  | rules (start : Nat) (until? limit : Option Nat) (index : Nat) (rules : List Rule)
      (items : List Segment)
  | pattern (index : Nat) (rule : Rule) (p : Pattern) (limit : Option Nat) (i : Nat)
      (items : List Segment)

def Call.items : Call → List Segment
  | rules _ _ _ _ _ items => items
  | pattern _ _ _ _ _ items => items

namespace Scope

/-- At the free run with index `i`, the pattern makes a claim that its limit does not preclude. -/
inductive Claims (sc : Scope) (p : Pattern) (limit : Option Nat) (i : Nat) (items : List Segment)
    (claim : SegmentClaim) : Prop where
  | found {run : Span} (hrun : items[i]? = some (.text run)) (hopen : ¬ limit.any (· ≤ run.start))
      (hland : sc.land items p i run = pure (.found claim))
      (hwithin : ¬ limit.any (· ≤ claim.matched.token.start)) : Claims sc p limit i items claim

/-- What a call leads to next. -/
inductive Calls (sc : Scope) : Call → Call → Prop where
  /-- The first patterns of a rule have been run, and the next one begins. -/
  | pattern {start index : Nat} {until? limit : Option Nat} {rule : Rule} {rest : List Rule}
      {done todo : List Pattern} {p : Pattern} {items items' : List Segment}
      (huntil : until? ≠ some index) (hpatterns : rule.patterns = done ++ p :: todo)
      (hdone : done.foldlM (fun items p => sc.runPattern index rule p limit start items) items =
        pure items') :
      Calls sc (.rules start until? limit index (rule :: rest) items)
        (.pattern index rule p limit start items')
  /-- All patterns of a rule have been run, and the next rule begins. -/
  | rule {start index : Nat} {until? limit : Option Nat} {rule : Rule} {rest : List Rule}
      {items items' : List Segment} (huntil : until? ≠ some index)
      (hdone : rule.patterns.foldlM (fun items p => sc.runPattern index rule p limit start items)
        items = pure items') :
      Calls sc (.rules start until? limit index (rule :: rest) items)
        (.rules start until? limit (index + 1) rest items')
  | token {index i : Nat} {rule : Rule} {p : Pattern} {limit : Option Nat} {items : List Segment}
      {node : Node} {greedy : Bool} (hi : items[i]? = some (.token node greedy)) :
      Calls sc (.pattern index rule p limit i items) (.pattern index rule p limit (i + 1) items)
  | goOn {index i j : Nat} {rule : Rule} {p : Pattern} {limit : Option Nat} {items : List Segment}
      {run : Span} (hi : items[i]? = some (.text run)) (hopen : ¬ limit.any (· ≤ run.start))
      (hland : sc.land items p i run = pure (.goOn j)) :
      Calls sc (.pattern index rule p limit i items) (.pattern index rule p limit j items)
  /-- A claim of more than one segment has been committed, and the earlier rules are run again. -/
  | rescan {index i k : Nat} {rule : Rule} {p : Pattern} {limit : Option Nat}
      {items items' : List Segment} {claim : SegmentClaim} (hclaims : sc.Claims p limit i items claim)
      (hcommit : sc.commit items rule p claim = pure (k, items')) (hcount : claim.count ≠ 1) :
      Calls sc (.pattern index rule p limit i items)
        (.rules k (some index) (some claim.stop) 0 sc.grammar.rules items')
  /-- A claim has been committed, and the pattern goes on behind its token. -/
  | behind {index i k : Nat} {rule : Rule} {p : Pattern} {limit : Option Nat}
      {items items' items'' : List Segment} {claim : SegmentClaim}
      (hclaims : sc.Claims p limit i items claim)
      (hcommit : sc.commit items rule p claim = pure (k, items'))
      (hrescan : (if claim.count != 1 then
          sc.runRules k (some index) (some claim.stop) 0 sc.grammar.rules items'
        else pure items') = pure items'') :
      Calls sc (.pattern index rule p limit i items)
        (.pattern index rule p limit (k + 1) items'')

def firstCall (sc : Scope) : Call :=
  .rules 0 none none 0 sc.grammar.rules
    (if sc.range.start < sc.range.stop then [.text sc.range] else [])

/-- A call that the division of the range comes to. -/
inductive Reached (sc : Scope) : Call → Prop where
  | first : Reached sc sc.firstCall
  | next {a b : Call} (h : Reached sc a) (hab : sc.Calls a b) : Reached sc b

/-- The segments are pieces laid out, and what is ahead of the index `i` is about to be worked on. -/
inductive Placed (sc : Scope) (limit? : Option Nat) (i : Nat) : List Segment → Prop where
  | mk {front ps : List Piece} {fuel : Nat} {limit : Option Nat} {before : Option Char}
      (hbegins : Begins front i) (hstands : Stands sc front ps fuel limit before limit?)
      (hparted : Parted (front ++ ps)) : Placed sc limit? i (layOut sc.range.start (front ++ ps))

end Scope

/-- The call knows where its rule stands in the grammar, and its segments are as they should be. -/
inductive Call.Good (sc : Scope) : Call → Prop where
  | rules {earlier rules : List Rule} {start index : Nat} {until? limit : Option Nat}
      {items : List Segment} (hindex : index = earlier.length)
      (hrules : sc.grammar.rules = earlier.reverse ++ rules) (h : sc.Placed limit start items) :
      Good sc (.rules start until? limit index rules items)
  | pattern {earlier later : List Rule} {index : Nat} {rule : Rule} {p : Pattern} {limit : Option Nat}
      {i : Nat} {items : List Segment} (hindex : index = earlier.length)
      (hrules : sc.grammar.rules = earlier.reverse ++ rule :: later) (hp : p ∈ rule.patterns)
      (h : sc.Placed limit i items) : Good sc (.pattern index rule p limit i items)

theorem Checked.pure_inj {α : Type} {a b : α} (h : (pure a : Checked α) = pure b) : a = b :=
  Except.ok.inj (Option.some.inj h)

/-- The segment behind the pieces `front`, and its piece. -/
theorem Segment.exists_of_layOut {start : Nat} {front ps : List Piece} {s : Segment}
    (h : (layOut start (front ++ ps))[front.length]? = some s) :
    ∃ q rest, ps = q :: rest ∧ s = ofPiece (start + Text.byteLength (spell front)) q := by
  rw [layOut_append, List.getElem?_append_right (by simp), length_layOut, Nat.sub_self] at h
  cases ps with
  | nil => cases h
  | cons q rest => exact ⟨q, rest, rfl, (Option.some.inj h).symm⟩

namespace Scope

variable {sc : Scope} {rule : Rule} {p : Pattern} {limit? : Option Nat} {i : Nat}
  {items : List Segment}

/-- Every pattern can make its tokens, since dividing their insides ends well. -/
theorem makes (sc : Scope) (rule : Rule) (p : Pattern) : Makes sc rule p :=
  makes_of_divides fun _ _ _ _ hpart => divide_eq hpart

/-- The first rules, run in place, are their application to the pieces. -/
theorem applies (sc : Scope) {rules later : List Rule} (hrules : sc.grammar.rules = rules ++ later) :
    Applies sc rules.reverse :=
  runRules_layOut (fun rule _ p _ => sc.makes rule p) (by rw [List.reverse_reverse]; exact hrules)

/-- Running the rules before the one with a number is what a rescan for that rule does. -/
theorem rescans_take (sc : Scope) (index : Nat) :
    Rescans sc index (rescanWith (sc.grammar.rules.take index).reverse) := by
  intro front c ps fuel n before limit hstands
  have happlies := sc.applies (List.take_append_drop index sc.grammar.rules).symm
  have hrun := happlies _ _ _ _ _ _ _ (.token front c rfl) hstands
  rw [List.reverse_reverse, ← runRules_take, Nat.zero_add, ← List.append_cons, ← List.append_cons] at hrun
  exact hrun

theorem rescans (sc : Scope) {earlier later : List Rule}
    (hrules : sc.grammar.rules = earlier.reverse ++ later) :
    Rescans sc earlier.length (rescanWith earlier) := by
  have h := sc.rescans_take earlier.length
  rwa [hrules, List.take_left' List.length_reverse, List.reverse_reverse] at h

theorem rescanWith_keeps (earlier : List Rule) :
    ∀ fuel limit before, Keeps (rescanWith earlier fuel limit before) :=
  fun fuel limit => applyRules_keeps earlier fuel (some limit)

/-- A pattern's run ends, and leaves the pieces ahead as they should be, whatever rule it is run for. -/
theorem Stands.runPattern {front ps : List Piece} {fuel : Nat} {limit : Option Nat}
    {before : Option Char} (h : Stands sc front ps fuel limit before limit?) (hbegins : Begins front i)
    (hparted : Parted (front ++ ps)) (index : Nat) (rule : Rule) (p : Pattern) :
    ∃ qs, sc.runPattern index rule p limit? i (layOut sc.range.start (front ++ ps)) =
        pure (layOut sc.range.start (front ++ qs)) ∧
      Stands sc front qs fuel limit before limit? ∧ Parted (front ++ qs) := by
  obtain ⟨earlier, hrescans⟩ : ∃ earlier, Rescans sc index (rescanWith earlier) :=
    ⟨_, sc.rescans_take index⟩
  have hkeeps := rescanWith_keeps earlier
  have hrun := runPattern_layOut (sc.makes rule p) hkeeps hrescans _ _ _ _ _ _ h
  have hswept : Parted (front ++ Highlight.sweep (rescanWith earlier) rule.name p fuel limit before ps) :=
    sweep_parted (fun fuel limit => applyRules_parted_append earlier fuel (some limit)) _ _ _ _ _ hparted
  exact ⟨_, (runPattern_begins hbegins).trans hrun, h.sweep hkeeps rule.name, hswept⟩

theorem Placed.runPattern (h : Placed sc limit? i items) (index : Nat) (rule : Rule) (p : Pattern) :
    ∃ items', sc.runPattern index rule p limit? i items = pure items' ∧ Placed sc limit? i items' := by
  obtain @⟨front, ps, fuel, limit, before, hbegins, hstands, hparted⟩ := h
  obtain ⟨qs, hrun, hstands', hparted'⟩ := hstands.runPattern hbegins hparted index rule p
  exact ⟨_, hrun, .mk hbegins hstands' hparted'⟩

theorem Placed.foldlM {index : Nat} {patterns : List Pattern} (h : Placed sc limit? i items)
    {items' : List Segment}
    (hdone : patterns.foldlM (fun items p => sc.runPattern index rule p limit? i items) items =
      pure items') : Placed sc limit? i items' := by
  induction patterns generalizing items with
  | nil =>
    rw [← Checked.pure_inj hdone]
    exact h
  | cons p patterns ih =>
    obtain ⟨next, hrun, hnext⟩ := h.runPattern index rule p
    rw [List.foldlM_cons, hrun, pure_bind] at hdone
    exact ih hnext hdone

theorem Begins.snoc (front : List Piece) (q : Piece) : Begins (front ++ [q]) (front.length + 1) := by
  have h : Begins (front ++ [q]) (front ++ [q]).length := .behind
  rwa [List.length_append, List.length_singleton] at h

/-- At a token, the next index is that of the pieces behind it. -/
theorem Placed.token {node : Node} {greedy : Bool} (h : Placed sc limit? i items)
    (hi : items[i]? = some (.token node greedy)) : Placed sc limit? (i + 1) items := by
  obtain @⟨front, ps, fuel, limit, before, hbegins, hstands, hparted⟩ := h
  cases hbegins with
  | token lead c hfront =>
    rw [hfront] at hstands hparted ⊢
    exact .mk (.snoc lead _) hstands hparted
  | behind =>
    obtain ⟨q, rest, rfl, hq⟩ := exists_of_layOut hi
    have hstep := (hstands.more (Nat.le_succ _)).step (a := [q]) (by simp)
    rw [List.append_cons] at hparted ⊢
    exact .mk (.snoc front q) hstep hparted

/-- At a free run, the index is that of the pieces ahead, and the run is the first of them. -/
theorem Placed.run {run : Span} (h : Placed sc limit? i items) (hi : items[i]? = some (.text run)) :
    ∃ front t rest fuel limit, i = front.length ∧
      items = layOut sc.range.start (front ++ .free t :: rest) ∧
      run = ⟨sc.range.start + Text.byteLength (spell front),
        sc.range.start + Text.byteLength (spell front) + Text.byteLength t⟩ ∧
      Stands sc front (.free t :: rest) (fuel + 1) limit (Text.lastOr none (spell front)) limit? ∧
      Parted (front ++ .free t :: rest) := by
  obtain @⟨front, ps, fuel, limit, before, hbegins, hstands, hparted⟩ := h
  cases hbegins with
  | token lead c hfront =>
    rw [hfront, ← List.append_cons] at hi
    obtain ⟨q, rest, hps, hq⟩ := exists_of_layOut hi
    cases hps
    cases hq
  | behind =>
    obtain ⟨q, rest, rfl, hq⟩ := exists_of_layOut hi
    have hbefore := hstands.before
    subst hbefore
    cases q with
    | claimed c => cases hq
    | free t =>
      cases hq
      exact ⟨front, t, rest, fuel, limit, rfl, rfl, rfl, hstands.more (Nat.le_succ _), hparted⟩

/-- Where the pattern leads from a free run, on the pieces. -/
theorem Stands.landing {front rest : List Piece} {t : List Char} {fuel : Nat} {limit : Option Nat}
    {before : Option Char} {landing : Landing}
    (h : Stands sc front (.free t :: rest) fuel limit before limit?)
    (hland : sc.land (layOut sc.range.start (front ++ .free t :: rest)) p front.length
      ⟨sc.range.start + Text.byteLength (spell front),
        sc.range.start + Text.byteLength (spell front) + Text.byteLength t⟩ = pure landing) :
    landing.Describes sc.range.start front (.free t :: rest) (Target.ofRun p before t rest) := by
  obtain ⟨landing', hland', hdescribes⟩ := land_layOut (p := p) h.part
  rw [hland] at hland'
  rw [Checked.pure_inj hland', h.before]
  exact hdescribes

/-- A pattern that goes on has passed over some of the pieces. -/
theorem Stands.passed {front rest : List Piece} {t : List Char} {fuel : Nat} {limit : Option Nat}
    {before : Option Char} {j : Nat} (h : Stands sc front (.free t :: rest) fuel limit before limit?)
    (hland : sc.land (layOut sc.range.start (front ++ .free t :: rest)) p front.length
      ⟨sc.range.start + Text.byteLength (spell front),
        sc.range.start + Text.byteLength (spell front) + Text.byteLength t⟩ = pure (.goOn j)) :
    ∃ passed rest', .free t :: rest = passed ++ rest' ∧ passed ≠ [] ∧ j = front.length + passed.length := by
  have hdescribes := h.landing hland
  cases htarget : Target.ofRun p before t rest with
  | nowhere =>
    rw [htarget] at hdescribes
    cases hdescribes
  | claim c =>
    rw [htarget] at hdescribes
    cases hdescribes
  | behind passed rest' =>
    rw [htarget] at hdescribes
    cases hdescribes
    obtain ⟨hcut, hne⟩ := Target.ofRun_behind_cut htarget
    exact ⟨passed, rest', hcut, hne, rfl⟩

theorem Placed.goOn {run : Span} {j : Nat} (h : Placed sc limit? i items)
    (hi : items[i]? = some (.text run)) (hland : sc.land items p i run = pure (.goOn j)) :
    Placed sc limit? j items := by
  obtain ⟨front, t, rest, fuel, limit, rfl, rfl, rfl, hstands, hparted⟩ := h.run hi
  obtain ⟨passed, rest', hcut, hne, rfl⟩ := hstands.passed hland
  rw [hcut] at hstands hparted ⊢
  rw [← List.append_assoc] at hparted ⊢
  rw [← List.length_append]
  exact .mk .behind (hstands.step hne) hparted

theorem Placed.lt_of_goOn {run : Span} {j : Nat} (h : Placed sc limit? i items)
    (hi : items[i]? = some (.text run)) (hland : sc.land items p i run = pure (.goOn j)) : i < j := by
  obtain ⟨front, t, rest, fuel, limit, rfl, rfl, rfl, hstands, -⟩ := h.run hi
  obtain ⟨passed, rest', -, hne, rfl⟩ := hstands.passed hland
  exact Nat.lt_add_of_pos_right (List.length_pos_iff.mpr hne)

/-- A claim on segments is a claim on the pieces that they stand for, from the same index on. -/
theorem Placed.claims_front {claim : SegmentClaim} (h : Placed sc limit? i items)
    (hclaims : sc.Claims p limit? i items claim) :
    ∃ front t rest fuel limit c free region, i = front.length ∧
      items = layOut sc.range.start (front ++ .free t :: rest) ∧
      Stands sc front (.free t :: rest) (fuel + 1) limit (Text.lastOr none (spell front)) limit? ∧
      Parted (front ++ .free t :: rest) ∧
      Target.ofRun p (Text.lastOr none (spell front)) t rest = .claim c ∧
      .free t :: rest = c.passed ++ .free free :: region ++ c.rest ∧ c.Covers free region ∧
      claim.Describes sc.range.start front (.free t :: rest) c := by
  obtain ⟨hrun, -, hland, -⟩ := hclaims
  obtain ⟨front, t, rest, fuel, limit, rfl, rfl, rfl, hstands, hparted⟩ := h.run hrun
  have hdescribes := hstands.landing hland
  cases htarget : Target.ofRun p (Text.lastOr none (spell front)) t rest with
  | nowhere =>
    rw [htarget] at hdescribes
    cases hdescribes
  | behind passed rest' =>
    rw [htarget] at hdescribes
    cases hdescribes
  | claim c =>
    rw [htarget] at hdescribes
    obtain ⟨hit, free, region, -, hps, hc, -, -⟩ := Target.ofRun_claim htarget
    cases hdescribes with
    | found hd =>
      exact ⟨front, t, rest, fuel, limit, c, free, region, rfl, rfl, hstands, hparted, htarget, hps, hc, hd⟩

theorem Placed.claims {claim : SegmentClaim} (h : Placed sc limit? i items)
    (hclaims : sc.Claims p limit? i items claim) :
    ∃ front t rest fuel limit c free region,
      items = layOut sc.range.start (front ++ .free t :: rest) ∧
      Stands sc front (.free t :: rest) (fuel + 1) limit (Text.lastOr none (spell front)) limit? ∧
      Parted (front ++ .free t :: rest) ∧
      Target.ofRun p (Text.lastOr none (spell front)) t rest = .claim c ∧
      .free t :: rest = c.passed ++ .free free :: region ++ c.rest ∧ c.Covers free region ∧
      claim.Describes sc.range.start front (.free t :: rest) c := by
  obtain ⟨front, t, rest, fuel, limit, c, free, region, -, h⟩ := h.claims_front hclaims
  exact ⟨front, t, rest, fuel, limit, c, free, region, h⟩

/-- Where no limit is set, a claim on the pieces is made on their segments. -/
theorem Stands.exists_claims {front rest : List Piece} {t : List Char} {fuel : Nat} {limit : Option Nat}
    {before : Option Char} {c : Claim} (h : Stands sc front (.free t :: rest) fuel limit before none)
    (htarget : Target.ofRun p before t rest = .claim c) :
    ∃ claim, sc.Claims p none front.length (layOut sc.range.start (front ++ .free t :: rest)) claim ∧
      claim.Describes sc.range.start front (.free t :: rest) c := by
  obtain ⟨landing, hland, hdescribes⟩ := land_layOut (p := p) h.part
  rw [← h.before, htarget] at hdescribes
  cases hdescribes with
  | found hd =>
    exact ⟨_, .found (getElem?_layOut ..) (by simp) hland (by simp), hd⟩

/-- What a commit leads to: the index of the new token, and the segments with that token in place. -/
theorem Stands.committed {front ps region : List Piece} {free : List Char} {fuel : Nat}
    {limit : Option Nat} {before : Option Char} {c : Claim} {claim : SegmentClaim} {k : Nat}
    {items' : List Segment} (h : Stands sc front ps (fuel + 1) limit before limit?)
    (hps : ps = c.passed ++ .free free :: region ++ c.rest) (hc : c.Covers free region)
    (hd : claim.Describes sc.range.start front ps c)
    (hcommit : sc.commit (layOut sc.range.start (front ++ ps)) rule p claim = pure (k, items')) :
    k = (front ++ c.lead).length ∧
      items' = layOut sc.range.start (front ++ c.lead ++ .claimed ⟨rule.name, p, c.token⟩ :: c.ahead) := by
  rw [(h.commit_claim (sc.makes rule p) hps hc hd).2, ← List.length_append] at hcommit
  have hresult := Checked.pure_inj hcommit
  cases hresult
  exact ⟨rfl, rfl⟩

/-- Once a claim has been committed, the rescan finds the segments as they should be. -/
theorem Placed.rescan {rule : Rule} {claim : SegmentClaim} {k : Nat} {items' : List Segment}
    (h : Placed sc limit? i items) (hclaims : sc.Claims p limit? i items claim)
    (hcommit : sc.commit items rule p claim = pure (k, items')) :
    Placed sc (some claim.stop) k items' := by
  obtain ⟨front, t, rest, fuel, limit, c, free, region, rfl, hstands, hparted, -, hps, hc, hd⟩ :=
    h.claims hclaims
  obtain ⟨rfl, rfl⟩ := hstands.committed hps hc hd hcommit
  have hafter := Claim.parted hparted hps ⟨rule.name, p, c.token⟩
  rw [List.append_cons] at hafter ⊢
  exact .mk (.token _ _ rfl) (hstands.rescan_claim rule.name p hps hc hd) hafter

/-- Behind a committed claim, the pattern finds the segments as they should be. -/
theorem Placed.behind {earlier later : List Rule} {rule : Rule} {claim : SegmentClaim} {k : Nat}
    {items' items'' : List Segment} (hrules : sc.grammar.rules = earlier.reverse ++ rule :: later)
    (h : Placed sc limit? i items) (hclaims : sc.Claims p limit? i items claim)
    (hcommit : sc.commit items rule p claim = pure (k, items'))
    (hrescan : (if claim.count != 1 then
        sc.runRules k (some earlier.length) (some claim.stop) 0 sc.grammar.rules items'
      else pure items') = pure items'') : Placed sc limit? (k + 1) items'' := by
  obtain ⟨front, t, rest, fuel, limit, c, free, region, rfl, hstands, hparted, -, hps, hc, hd⟩ :=
    h.claims hclaims
  obtain ⟨rfl, rfl⟩ := hstands.committed hps hc hd hcommit
  have hafter := Claim.parted hparted hps ⟨rule.name, p, c.token⟩
  rw [hd.count_ne_one hps hc] at hrescan
  have hbehind := hstands.behind_rescan rule.name p (rescanWith_keeps earlier) hps hc
  -- what the pieces behind the token are, with the segments that they are laid out as
  have hahead : items'' = layOut sc.range.start (front ++ c.lead ++ .claimed ⟨rule.name, p, c.token⟩ ::
      c.aheadOf (rescanWith earlier) fuel (Text.lastOr none (spell front))) := by
    rw [Claim.aheadOf]
    cases hdissolves : c.dissolves with
    | false =>
      rw [hdissolves, if_neg Bool.false_ne_true] at hrescan
      rw [if_neg Bool.false_ne_true]
      exact (Checked.pure_inj hrescan).symm
    | true =>
      rw [hdissolves, if_pos rfl,
        rescans sc hrules _ _ _ _ _ _ _ (hstands.rescan_claim rule.name p hps hc hd)] at hrescan
      rw [if_pos rfl]
      exact (Checked.pure_inj hrescan).symm
  have hparted' : Parted (front ++ c.lead ++ .claimed ⟨rule.name, p, c.token⟩ ::
      c.aheadOf (rescanWith earlier) fuel (Text.lastOr none (spell front))) := by
    rw [Claim.aheadOf]
    split
    · rw [List.append_cons] at hafter ⊢
      exact applyRules_parted_append _ _ _ _ _ _ hafter
    · exact hafter
  rw [hahead]
  rw [List.append_cons] at hparted' ⊢
  exact .mk (.snoc _ _) hbehind hparted'

end Scope

/-- All rules may be run where the segments are as they should be. -/
theorem Call.Good.all {sc : Scope} {start : Nat} {until? limit : Option Nat} {items : List Segment}
    (h : sc.Placed limit start items) : Good sc (.rules start until? limit 0 sc.grammar.rules items) := by
  have hindex : 0 = ([] : List Rule).length := rfl
  exact .rules hindex rfl h

/-- What a call leads to is as good as the call itself. -/
theorem Call.Good.next {sc : Scope} {a b : Call} (h : Good sc a) (hab : sc.Calls a b) : Good sc b := by
  cases h with
  | @rules earlier _ _ _ _ _ _ hindex hrules hplaced =>
    subst hindex
    cases hab with
    | pattern huntil hpatterns hdone =>
      refine .pattern rfl hrules ?_ (hplaced.foldlM hdone)
      rw [hpatterns]
      simp
    | @rule _ _ _ _ rule rest _ _ huntil hdone =>
      have hrules' : sc.grammar.rules = (rule :: earlier).reverse ++ rest := by
        rw [hrules, List.reverse_cons, List.append_assoc]
        rfl
      exact .rules rfl hrules' (hplaced.foldlM hdone)
  | pattern hindex hrules hp hplaced =>
    subst hindex
    cases hab with
    | token hi => exact .pattern rfl hrules hp (hplaced.token hi)
    | goOn hi hopen hland => exact .pattern rfl hrules hp (hplaced.goOn hi hland)
    | rescan hclaims hcommit hcount =>
      exact .all (hplaced.rescan hclaims hcommit)
    | behind hclaims hcommit hrescan =>
      exact .pattern rfl hrules hp (hplaced.behind hrules hclaims hcommit hrescan)

namespace Scope

variable {sc : Scope} {text : List Char}

theorem reached_good (hpart : Text.IsPart sc.text sc.range text) {call : Call} (h : sc.Reached call) :
    call.Good sc := by
  induction h with
  | first =>
    obtain ⟨hitems, hstands⟩ := first_layOut sc hpart
    rw [firstCall, hitems]
    exact .all (.mk .behind hstands (Piece.parted_ofFree text))
  | next _ hab ih => exact ih.next hab

/-- At every call the segments are pieces of the range laid out, in which free runs are maximal. -/
theorem reached_layOut (hpart : Text.IsPart sc.text sc.range text) {call : Call}
    (h : sc.Reached call) :
    ∃ ps, call.items = layOut sc.range.start ps ∧ Text.IsPart sc.text sc.range (spell ps) ∧
      Piece.Solid ps ∧ Parted ps := by
  have hplaced : ∃ limit i, Placed sc limit i call.items := by
    cases reached_good hpart h with
    | rules _ _ hplaced => exact ⟨_, _, hplaced⟩
    | pattern _ _ _ hplaced => exact ⟨_, _, hplaced⟩
  obtain ⟨limit, i, hplaced⟩ := hplaced
  generalize call.items = items at hplaced
  cases hplaced with
  | mk _ hstands hparted => exact ⟨_, rfl, hstands.part, hstands.solid, hparted⟩

/-- Each rule has its turn, on what the rules before it have made of the range. -/
theorem reached_rules (sc : Scope) {text : List Char} (hpart : Text.IsPart sc.text sc.range text)
    {earlier later : List Rule} (hrules : sc.grammar.rules = earlier.reverse ++ later) :
    sc.Reached (.rules 0 none none earlier.length later (layOut sc.range.start
      (applyRules earlier text.length none none (Piece.ofFree text)))) := by
  obtain ⟨hitems, hstands⟩ := first_layOut sc hpart
  induction earlier generalizing later with
  | nil =>
    have hfirst : sc.Reached sc.firstCall := .first
    rw [firstCall, hitems, hrules] at hfirst
    exact hfirst
  | cons rule earlier ih =>
    have hrules' : sc.grammar.rules = earlier.reverse ++ rule :: later := by
      rw [hrules, List.reverse_cons, List.append_assoc]
      rfl
    have hkeeps := applyRules_keeps earlier text.length none none
    have hmakes : ∀ p ∈ rule.patterns, Makes sc rule p := fun p _ => sc.makes rule p
    have hdone := foldlM_runPattern hmakes (rescanWith_keeps earlier) (rescans sc hrules') .behind
      (hstands.keeps hkeeps)
    exact .next (ih hrules') (.rule (by simp) hdone)

/-- Each pattern of a rule has its turn, on what the patterns before it have made of that. -/
theorem reached_pattern (sc : Scope) {text : List Char} (hpart : Text.IsPart sc.text sc.range text)
    {earlier later : List Rule} {rule : Rule} (hrules : sc.grammar.rules = earlier.reverse ++ rule :: later)
    {done todo : List Pattern} {p : Pattern} (hpatterns : rule.patterns = done ++ p :: todo) :
    sc.Reached (.pattern earlier.length rule p none 0 (layOut sc.range.start
      (sweepAll earlier rule.name done text.length none none
        (applyRules earlier text.length none none (Piece.ofFree text))))) := by
  have hstands := (first_layOut sc hpart).2
  have hkeeps := applyRules_keeps earlier text.length none none
  have hmakes : ∀ p ∈ done, Makes sc rule p := fun p _ => sc.makes rule p
  have hdone := foldlM_runPattern hmakes (rescanWith_keeps earlier) (rescans sc hrules) .behind
    (hstands.keeps hkeeps)
  exact .next (reached_rules sc hpart hrules) (.pattern (by simp) hpatterns hdone)

/-- Where a pattern has a claim at the first free run of its turn, it makes that claim. -/
theorem exists_claims_turn (sc : Scope) {text : List Char} (hpart : Text.IsPart sc.text sc.range text)
    {earlier later : List Rule} {rule : Rule} (hrules : sc.grammar.rules = earlier.reverse ++ rule :: later)
    {done todo : List Pattern} {p : Pattern} (hpatterns : rule.patterns = done ++ p :: todo)
    {run : List Char} {rest : List Piece} {c : Claim}
    (hpieces : sweepAll earlier rule.name done text.length none none
      (applyRules earlier text.length none none (Piece.ofFree text)) = .free run :: rest)
    (htarget : Target.ofRun p none run rest = .claim c) :
    ∃ items claim, sc.Reached (.pattern earlier.length rule p none 0 items) ∧
      sc.Claims p none 0 items claim ∧ items = layOut sc.range.start (.free run :: rest) ∧
      claim.Describes sc.range.start [] (.free run :: rest) c := by
  have hcall := reached_pattern sc hpart hrules hpatterns
  have hstands := (first_layOut sc hpart).2.keeps (applyRules_keeps earlier text.length none none)
  have hswept : Keeps (sweepAll earlier rule.name done text.length none none) :=
    foldl_passes .id (fun _ _ => .comp) fun p _ =>
      ⟨sweep_spell (rescanWith_keeps earlier) _ _ _, sweep_solid (rescanWith_keeps earlier) _ _ _⟩
  have hturn := hstands.keeps hswept
  rw [hpieces] at hcall hturn
  obtain ⟨claim, hclaims, hd⟩ := hturn.exists_claims htarget
  exact ⟨_, claim, hcall, hclaims, rfl, hd⟩

end Scope

end Highlight
