import Highlight.Proofs.Segments.Rescan

/-!
# What a run leaves alone

Rules and patterns are run from some segment on, and the segments before it are none of their business.
Neither is that segment itself, if it is a token, since a run passes over tokens. `KeptTo` says so of two
lists of segments. A rescan begins at the token that has just been committed, so that token is still there
when the rescan has ended, however many commits and rescans it took, and the pattern may go on behind it.
Since the segments always tile their range, this is also why a pattern looks at bytes ever further behind.
-/

namespace Highlight

open Piece (spell Solid Parted)
open Segment Checked

namespace Segment

/-- What stands before the index `i` is the same in both, and what stands there too if it is a token. -/
structure KeptTo (i : Nat) (items items' : List Segment) : Prop where
  before : items'.take i = items.take i
  token : ∀ node greedy, items[i]? = some (.token node greedy) → items'[i]? = some (.token node greedy)

theorem KeptTo.refl (i : Nat) (items : List Segment) : KeptTo i items items := ⟨rfl, fun _ _ h => h⟩

/-- Pieces may be exchanged behind those that are kept, which a token at the index has to be among. -/
theorem KeptTo.exchange {start i : Nat} {front ps : List Piece} (hi : i ≤ front.length)
    (htoken : ∀ node greedy, (layOut start (front ++ ps))[i]? = some (.token node greedy) →
      i < front.length) (qs : List Piece) :
    KeptTo i (layOut start (front ++ ps)) (layOut start (front ++ qs)) := by
  rw [layOut_append] at htoken ⊢
  rw [layOut_append start front qs]
  constructor
  · rw [List.take_append_of_le_length (by rwa [length_layOut]),
      List.take_append_of_le_length (by rwa [length_layOut])]
  · intro node greedy h
    have hlt : i < (layOut start front).length := by
      rw [length_layOut]
      exact htoken node greedy h
    rw [List.getElem?_append_left hlt] at h ⊢
    exact h

section Tiling

variable {start stop stop' i j : Nat} {items items' : List Segment} {a b : Segment}

/-- The segments of a tiling begin where it does or behind. -/
theorem start_le_of_tiling (h : tiling stop start items = true) (ha : items[i]? = some a) :
    start ≤ a.span.start := by
  induction items generalizing start i with
  | nil => cases ha
  | cons s rest ih =>
    simp only [tiling, Bool.and_eq_true, beq_iff_eq, decide_eq_true_eq] at h
    obtain ⟨⟨hstart, hlt⟩, hrest⟩ := h
    cases i with
    | zero =>
      cases ha
      exact Nat.le_of_eq hstart.symm
    | succ i =>
      have := ih hrest ha
      omega

/-- The segments of a tiling begin one behind the other. -/
theorem start_lt_of_tiling (h : tiling stop start items = true) (hij : i < j) (ha : items[i]? = some a)
    (hb : items[j]? = some b) : a.span.start < b.span.start := by
  induction items generalizing start i j with
  | nil => cases ha
  | cons s rest ih =>
    simp only [tiling, Bool.and_eq_true, decide_eq_true_eq] at h
    obtain ⟨⟨-, hlt⟩, hrest⟩ := h
    cases j with
    | zero => cases hij
    | succ j =>
      cases i with
      | zero =>
        cases ha
        exact Nat.lt_of_lt_of_le hlt (start_le_of_tiling hrest hb)
      | succ i => exact ih hrest (Nat.lt_of_succ_lt_succ hij) ha hb

/-- What follows the same segments begins at the same byte. -/
theorem start_eq_of_tiling (h : tiling stop start items = true) (h' : tiling stop' start items' = true)
    (hbefore : items'.take i = items.take i) (ha : items[i]? = some a) (hb : items'[i]? = some b) :
    a.span.start = b.span.start := by
  induction i generalizing start items items' with
  | zero =>
    cases items with
    | nil => cases ha
    | cons s rest =>
      cases items' with
      | nil => cases hb
      | cons s' rest' =>
        cases ha
        cases hb
        simp only [tiling, Bool.and_eq_true, beq_iff_eq] at h h'
        exact h.1.1.trans h'.1.1.symm
  | succ i ih =>
    cases items with
    | nil => cases ha
    | cons s rest =>
      cases items' with
      | nil => cases hb
      | cons s' rest' =>
        rw [List.take_succ_cons, List.take_succ_cons, List.cons.injEq] at hbefore
        obtain ⟨rfl, hbefore⟩ := hbefore
        simp only [tiling, Bool.and_eq_true] at h h'
        exact ih h.2 h'.2 hbefore ha hb

theorem start_lt_of_before (h : tiling stop start items = true) (h' : tiling stop' start items' = true)
    (hbefore : items'.take i = items.take i) (hij : i < j) (ha : items[i]? = some a)
    (hb : items'[j]? = some b) : a.span.start < b.span.start := by
  obtain ⟨hj, -⟩ := List.getElem?_eq_some_iff.mp hb
  have hi : items'[i]? = some items'[i] := List.getElem?_eq_getElem (Nat.lt_trans hij hj)
  rw [start_eq_of_tiling h h' hbefore ha hi]
  exact start_lt_of_tiling h' hij hi hb

end Tiling

end Segment

namespace Scope

variable {sc : Scope} {index i j k : Nat} {rule : Rule} {p : Pattern} {limit? : Option Nat}
  {items items' : List Segment}

/-- The segments are pieces of the range laid out, in which free runs are maximal. -/
def Laid (sc : Scope) (items : List Segment) : Prop :=
  ∃ ps, items = layOut sc.range.start ps ∧ Text.IsPart sc.text sc.range (spell ps) ∧ Solid ps ∧ Parted ps

theorem Stands.laid {front ps : List Piece} {fuel : Nat} {limit : Option Nat} {before : Option Char}
    (h : Stands sc front ps fuel limit before limit?) (hparted : Parted (front ++ ps)) :
    sc.Laid (layOut sc.range.start (front ++ ps)) :=
  ⟨_, rfl, h.part, h.solid, hparted⟩

theorem Limits.exists_limits (start : Nat) (text : List Char) (limit? : Option Nat) :
    ∃ limit, Limits start text limit? limit := by
  cases limit? with
  | none => exact ⟨_, .none⟩
  | some b =>
    obtain ⟨n, hn⟩ := Text.Ahead.exists_ahead start text b
    exact ⟨_, .some hn⟩

theorem Claims.run_at {claim : SegmentClaim} (h : sc.Claims p limit? i items claim) :
    ∃ run, items[i]? = some (.text run) := by
  obtain ⟨hrun, -, -, -⟩ := h
  exact ⟨_, hrun⟩

namespace Laid

theorem tiling (h : sc.Laid items) : ∃ stop, Segment.tiling stop sc.range.start items = true := by
  obtain ⟨ps, rfl, -, hsolid, -⟩ := h
  exact ⟨_, tiling_layOut sc.range.start hsolid⟩

/-- Every index and every limit will do to run something from there on. -/
theorem stands (h : sc.Laid items) (hi : i ≤ items.length) (limit? : Option Nat) :
    ∃ front ps fuel limit, i = front.length ∧ items = layOut sc.range.start (front ++ ps) ∧
      Stands sc front ps fuel limit (Text.lastOr none (spell front)) limit? ∧ Parted (front ++ ps) := by
  obtain ⟨ps, rfl, hpart, hsolid, hparted⟩ := h
  rw [length_layOut] at hi
  obtain ⟨front, back, rfl, rfl⟩ : ∃ front back, ps = front ++ back ∧ i = front.length :=
    ⟨ps.take i, ps.drop i, (List.take_append_drop i ps).symm, (List.length_take_of_le hi).symm⟩
  obtain ⟨limit, hlimits⟩ := Limits.exists_limits (sc.range.start + Text.byteLength (spell front))
    (spell back) limit?
  exact ⟨front, back, _, limit, rfl, rfl, ⟨hpart, hsolid, Nat.le_refl _, rfl, hlimits⟩, hparted⟩

theorem placed (h : sc.Laid items) {s : Segment} (hi : items[i]? = some s) (limit? : Option Nat) :
    Placed sc limit? i items := by
  obtain ⟨hlt, -⟩ := List.getElem?_eq_some_iff.mp hi
  obtain ⟨front, ps, fuel, limit, rfl, rfl, hstands, hparted⟩ := h.stands (Nat.le_of_lt hlt) limit?
  exact .mk .behind hstands hparted

/-- Where a token stands at the index, it is one of the pieces in front. -/
theorem begins (h : sc.Laid items) (hi : i ≤ items.length) (limit? : Option Nat) :
    ∃ front ps fuel limit before, items = layOut sc.range.start (front ++ ps) ∧ Begins front i ∧
      Stands sc front ps fuel limit before limit? ∧ Parted (front ++ ps) ∧ i ≤ front.length ∧
      ∀ node greedy, items[i]? = some (.token node greedy) → i < front.length := by
  obtain ⟨front, ps, fuel, limit, rfl, rfl, hstands, hparted⟩ := h.stands hi limit?
  have hstands := hstands.more (Nat.le_succ _)
  cases ps with
  | nil =>
    refine ⟨front, [], _, _, _, rfl, .behind, hstands, hparted, Nat.le_refl _, fun node greedy h => ?_⟩
    rw [List.append_nil, List.getElem?_eq_none (by rw [length_layOut])] at h
    cases h
  | cons q ps =>
    have hget := getElem?_layOut sc.range.start front q ps
    cases q with
    | free t =>
      refine ⟨front, _, _, _, _, rfl, .behind, hstands, hparted, Nat.le_refl _, fun node greedy h => ?_⟩
      rw [hget] at h
      cases h
    | claimed c =>
      have hstep := hstands.step (a := [.claimed c]) (by simp)
      rw [List.append_cons] at hparted ⊢
      refine ⟨_, ps, _, _, _, rfl, .token front c rfl, hstep, hparted, ?_, fun _ _ _ => ?_⟩
      all_goals simp

end Laid

/-- The rules that a bound lets through are the first ones, or all. -/
theorem runRules_bound (sc : Scope) (i : Nat) (until? limit? : Option Nat) :
    ∃ rules later, sc.grammar.rules = rules ++ later ∧ ∀ items,
      runRules sc i until? limit? 0 sc.grammar.rules items = runRules sc i none limit? 0 rules items := by
  cases until? with
  | none => exact ⟨sc.grammar.rules, [], (List.append_nil _).symm, fun _ => rfl⟩
  | some n =>
    refine ⟨_, _, (List.take_append_drop n _).symm, fun items => ?_⟩
    rw [← runRules_take, Nat.zero_add]

/-! Behind the last segment there is nothing to run from. -/

theorem foldlM_beyond (hi : items.length ≤ i) (patterns : List Pattern) :
    patterns.foldlM (fun items p => runPattern sc index rule p limit? i items) items = pure items := by
  induction patterns with
  | nil => rfl
  | cons p patterns ih => rw [List.foldlM_cons, runPattern_done hi, pure_bind, ih]

theorem runRules_beyond {until? : Option Nat} (hi : items.length ≤ i) (rules : List Rule) :
    runRules sc i until? limit? index rules items = pure items := by
  induction rules generalizing index with
  | nil => exact runRules_nil
  | cons rule rules ih =>
    by_cases h : until? = some index
    · rw [runRules, if_pos h]
    · rw [runRules_cons h, foldlM_beyond hi, pure_bind]
      exact ih

namespace Laid

/-- Rules end from wherever they are run, and leave alone what is before. -/
theorem runRules (h : sc.Laid items) (i : Nat) (until? limit? : Option Nat) :
    ∃ items', sc.runRules i until? limit? 0 sc.grammar.rules items = pure items' ∧
      KeptTo i items items' ∧ sc.Laid items' := by
  rcases Nat.lt_or_ge items.length i with hi | hi
  · exact ⟨items, runRules_beyond (Nat.le_of_lt hi) _, .refl i items, h⟩
  · obtain ⟨rules, later, hrules, hbound⟩ := sc.runRules_bound i until? limit?
    obtain ⟨front, ps, fuel, limit, before, rfl, hbegins, hstands, hparted, hle, htoken⟩ := h.begins hi limit?
    have hrun := sc.applies hrules _ _ _ _ _ _ _ hbegins hstands
    rw [List.reverse_reverse, ← hbound] at hrun
    exact ⟨_, hrun, .exchange hle htoken _, (hstands.keeps (applyRules_keeps _ fuel limit before)).laid
      (applyRules_parted_append _ fuel limit before front ps hparted)⟩

/-- Any pattern ends from wherever it is run, as any rule's, and leaves alone what is before. -/
theorem runPattern (h : sc.Laid items) (index : Nat) (rule : Rule) (p : Pattern) (limit? : Option Nat)
    (i : Nat) :
    ∃ items', sc.runPattern index rule p limit? i items = pure items' ∧ KeptTo i items items' ∧
      sc.Laid items' := by
  rcases Nat.lt_or_ge items.length i with hi | hi
  · exact ⟨items, runPattern_done (Nat.le_of_lt hi), .refl i items, h⟩
  · obtain ⟨front, ps, fuel, limit, before, rfl, hbegins, hstands, hparted, hle, htoken⟩ := h.begins hi limit?
    obtain ⟨qs, hrun, hstands', hparted'⟩ := hstands.runPattern hbegins hparted index rule p
    exact ⟨_, hrun, .exchange hle htoken qs, hstands'.laid hparted'⟩

/-- A claim is committed behind what its pattern has left, and its token is there. -/
theorem commit {claim : SegmentClaim} (h : sc.Laid items) (hclaims : sc.Claims p limit? i items claim)
    (rule : Rule) :
    ∃ node k items', sc.makeToken rule p claim.matched.token = pure node ∧
      sc.commit items rule p claim = pure (k, items') ∧ items'[k]? = some (.token node p.greedy) ∧
      i ≤ k ∧ items'.take i = items.take i ∧ sc.Laid items' := by
  obtain ⟨run, hi⟩ := hclaims.run_at
  obtain ⟨front, t, rest, fuel, limit, c, free, region, rfl, rfl, hstands, hparted, -, hps, hc, hd⟩ :=
    (h.placed hi limit?).claims_front hclaims
  obtain ⟨hmake, hcommit⟩ := hstands.commit_claim (sc.makes rule p) hps hc hd
  have hparted' := Claim.parted hparted hps ⟨rule.name, p, c.token⟩
  have hlaid := (hstands.behind_claim rule.name p hps hc).laid (by rwa [← List.append_cons])
  rw [← List.append_cons] at hlaid
  rw [← List.length_append] at hcommit
  refine ⟨_, _, _, hmake, hcommit, ?_, ?_, ?_, hlaid⟩
  · rw [getElem?_layOut, hd.token]
    rfl
  · rw [List.length_append]
    exact Nat.le_add_right _ _
  · rw [List.append_assoc, layOut_append, List.take_left' (length_layOut _ _), layOut_append,
      List.take_left' (length_layOut _ _)]

/-- A rescan that is due ends, and one that is not does nothing. -/
theorem rescan (h : sc.Laid items) (index k : Nat) (claim : SegmentClaim) :
    ∃ items', (if claim.count != 1 then
        sc.runRules k (some index) (some claim.stop) 0 sc.grammar.rules items
      else pure items) = pure items' ∧ KeptTo k items items' ∧ sc.Laid items' := by
  split
  · exact h.runRules k (some index) (some claim.stop)
  · exact ⟨items, rfl, .refl k items, h⟩

/-- An iteration of a pattern's loop leaves what is before its segment, and the next one is behind. -/
theorem next {index' : Nat} {rule' : Rule} {p' : Pattern} {limit' : Option Nat} (h : sc.Laid items)
    (hcalls : sc.Calls (.pattern index rule p limit? i items) (.pattern index' rule' p' limit' j items')) :
    sc.Laid items' ∧ i < j ∧ items'.take i = items.take i := by
  cases hcalls with
  | token hi => exact ⟨h, Nat.lt_succ_self i, rfl⟩
  | goOn hi hopen hland => exact ⟨h, (h.placed hi limit?).lt_of_goOn hi hland, rfl⟩
  | @behind _ _ k _ _ _ _ _ _ claim hclaims hcommit hrescan =>
    obtain ⟨node, k', committed, -, hcommit', -, hle, hbefore, hlaid⟩ := h.commit hclaims rule
    rw [hcommit] at hcommit'
    cases Checked.pure_inj hcommit'
    obtain ⟨rescanned, hrescan', hkept, hlaid'⟩ := hlaid.rescan index k claim
    rw [hrescan] at hrescan'
    cases Checked.pure_inj hrescan'
    refine ⟨hlaid', Nat.lt_succ_of_le hle, ?_⟩
    -- the token has been committed at `i` or behind it
    have htake := congrArg (List.take i) hkept.before
    rw [List.take_take, List.take_take, Nat.min_eq_left hle] at htake
    exact htake.trans hbefore

theorem lands {run : Span} (h : sc.Laid items) (p : Pattern) (hi : items[i]? = some (.text run)) :
    ∃ landing, sc.land items p i run = pure landing := by
  obtain ⟨front, t, rest, fuel, limit, rfl, rfl, rfl, hstands, -⟩ := (h.placed hi none).run hi
  obtain ⟨landing, hland, -⟩ := land_layOut (p := p) hstands.part
  exact ⟨landing, hland⟩

/-- An iteration of a pattern's loop is the last one, and changes nothing, or the loop goes on. -/
theorem ends_or_calls (h : sc.Laid items) (index : Nat) (rule : Rule) (p : Pattern) (limit? : Option Nat)
    (i : Nat) :
    sc.runPattern index rule p limit? i items = pure items ∨ ∃ j items',
      sc.Calls (.pattern index rule p limit? i items) (.pattern index rule p limit? j items') := by
  cases hi : items[i]? with
  | none => exact .inl (runPattern_done (List.getElem?_eq_none_iff.mp hi))
  | some s =>
    cases s with
    | token node greedy => exact .inr ⟨_, _, .token hi⟩
    | text run =>
      by_cases hopen : limit?.any (· ≤ run.start) = true
      · exact .inl (runPattern_at_limit hi hopen)
      · obtain ⟨landing, hland⟩ := h.lands p hi
        cases landing with
        | nothing => exact .inl (runPattern_nothing hi hopen hland)
        | goOn j => exact .inr ⟨_, _, .goOn hi hopen hland⟩
        | found claim =>
          by_cases hwithin : limit?.any (· ≤ claim.matched.token.start) = true
          · left
            rw [runPattern_found hi hopen hland, if_pos hwithin]
          · have hclaims : sc.Claims p limit? i items claim := .found hi hopen hland hwithin
            obtain ⟨node, k, committed, -, hcommit, -, -, -, hlaid⟩ := h.commit hclaims rule
            obtain ⟨rescanned, hrescan, -, -⟩ := hlaid.rescan index k claim
            exact .inr ⟨_, _, .behind hclaims hcommit hrescan⟩

end Laid

/-- Where a pattern's loop goes on, the run comes to what it comes to from there. -/
theorem runPattern_calls {index' : Nat} {rule' : Rule} {p' : Pattern} {limit' : Option Nat}
    (h : sc.Calls (.pattern index rule p limit? i items) (.pattern index' rule' p' limit' j items')) :
    sc.runPattern index rule p limit? i items = sc.runPattern index' rule' p' limit' j items' := by
  cases h with
  | token hi => exact runPattern_token hi
  | goOn hi hopen hland => exact runPattern_goOn hi hopen hland
  | behind hclaims hcommit hrescan =>
    obtain ⟨hi, hopen, hland, hwithin⟩ := hclaims
    rw [runPattern_found hi hopen hland, if_neg hwithin, hcommit, pure_bind]
    dsimp only
    split at hrescan
    case isTrue hcount => rw [if_pos hcount, hrescan, pure_bind]
    case isFalse hcount => rw [if_neg hcount, hrescan, pure_bind]

/-- Whatever call the division of a range has come to, rules and patterns can be run on its segments from any
index on, up to any rule and under any limit, and end. They leave everything before that index as it is, and
what stands there too if it is a token. So a committed token is still there when the rescan that begins at it
has ended, with all the commits and rescans within that. An iteration of a pattern's loop either ends it or
leads to a segment that begins further behind. -/
theorem runs_keep (sc : Scope) (hs : Text.OnBoundaries sc.text sc.range) {call : Call}
    (hcall : sc.Reached call) :
    (∀ i until? limit?, ∃ items',
      sc.runRules i until? limit? 0 sc.grammar.rules call.items = pure items' ∧
      KeptTo i call.items items') ∧
    (∀ index rule p limit? i, ∃ items', sc.runPattern index rule p limit? i call.items = pure items' ∧
      KeptTo i call.items items') ∧
    (∀ index rule p limit? i claim, sc.Claims p limit? i call.items claim → ∃ node k items' items'',
      sc.makeToken rule p claim.matched.token = pure node ∧
      sc.commit call.items rule p claim = pure (k, items') ∧
      sc.runRules k (some index) (some claim.stop) 0 sc.grammar.rules items' = pure items'' ∧
      KeptTo k items' items'' ∧ items'[k]? = some (.token node p.greedy) ∧
      items''[k]? = some (.token node p.greedy)) ∧
    (∀ index rule p limit? i, sc.runPattern index rule p limit? i call.items = pure call.items ∨
      ∃ j items', sc.Calls (.pattern index rule p limit? i call.items)
        (.pattern index rule p limit? j items')) ∧
    ∀ index rule p limit? i j items',
      sc.Calls (.pattern index rule p limit? i call.items) (.pattern index rule p limit? j items') →
      sc.runPattern index rule p limit? i call.items = sc.runPattern index rule p limit? j items' ∧
      ∀ a b, call.items[i]? = some a → items'[j]? = some b → a.span.start < b.span.start := by
  have hlaid : sc.Laid call.items := reached_layOut hs.isPart hcall
  refine ⟨?_, ?_, ?_, hlaid.ends_or_calls, ?_⟩
  · intro i until? limit?
    obtain ⟨items', hrun, hkept, -⟩ := hlaid.runRules i until? limit?
    exact ⟨items', hrun, hkept⟩
  · intro index rule p limit? i
    obtain ⟨items', hrun, hkept, -⟩ := hlaid.runPattern index rule p limit? i
    exact ⟨items', hrun, hkept⟩
  · intro index rule p limit? i claim hclaims
    obtain ⟨node, k, items', hmake, hcommit, htoken, -, -, hlaid'⟩ := hlaid.commit hclaims rule
    obtain ⟨items'', hrun, hkept, -⟩ := hlaid'.runRules k (some index) (some claim.stop)
    exact ⟨node, k, items', items'', hmake, hcommit, hrun, hkept, htoken, hkept.token _ _ htoken⟩
  · intro index rule p limit? i j items' hcalls
    obtain ⟨hlaid', hlt, hbefore⟩ := hlaid.next hcalls
    obtain ⟨stop, htiling⟩ := hlaid.tiling
    obtain ⟨stop', htiling'⟩ := hlaid'.tiling
    exact ⟨runPattern_calls hcalls, fun a b ha hb => start_lt_of_before htiling htiling' hbefore hlt ha hb⟩

end Scope

namespace Grammar

/-- The quoted text in `"a#"#b` dissolves the comment that had begun within it. It is still there when the
text behind it has been searched for comments again. -/
theorem runs_keep_quoted : ∃ items claim,
    Text.OnBoundaries "\"a#\"#b".toList ⟨0, 6⟩ ∧
    Scope.Reached ⟨"\"a#\"#b".toList, ⟨0, 6⟩, Overrun.comments⟩
      (.pattern 1 ⟨"quoted", [Overrun.quoted]⟩ Overrun.quoted none 0 items) ∧
    Scope.Claims ⟨"\"a#\"#b".toList, ⟨0, 6⟩, Overrun.comments⟩ Overrun.quoted none 0 items claim ∧
    claim.count = 2 ∧ ∃ node k items' items'',
      Scope.commit ⟨"\"a#\"#b".toList, ⟨0, 6⟩, Overrun.comments⟩ items
        ⟨"quoted", [Overrun.quoted]⟩ Overrun.quoted claim = pure (k, items') ∧
      Scope.runRules ⟨"\"a#\"#b".toList, ⟨0, 6⟩, Overrun.comments⟩ k (some 1) (some claim.stop) 0
        Overrun.comments.rules items' = pure items'' ∧
      items''[k]? = some (.token node true) := by
  have hs : Text.OnBoundaries "\"a#\"#b".toList ⟨0, 6⟩ := ⟨by decide, by decide +kernel, by decide +kernel⟩
  obtain ⟨c, htarget, hpassed, hrest⟩ : ∃ c, Target.ofRun Overrun.quoted none ['"', 'a']
      [.claimed ⟨"comment", Overrun.comment, ['#', '"', '#', 'b']⟩] = .claim c ∧
      c.passed = [] ∧ c.rest = [] := ⟨_, rfl, rfl, rfl⟩
  have hrules : Overrun.comments.rules =
      [⟨"comment", [Overrun.comment]⟩].reverse ++ ⟨"quoted", [Overrun.quoted]⟩ :: [] := rfl
  have hpatterns : (⟨"quoted", [Overrun.quoted]⟩ : Rule).patterns = [] ++ Overrun.quoted :: [] := rfl
  obtain ⟨items, claim, hcall, hclaims, -, hd⟩ :=
    Scope.exists_claims_turn ⟨"\"a#\"#b".toList, ⟨0, 6⟩, Overrun.comments⟩ (Text.isPart_all _) hrules
      hpatterns (by cbv) htarget
  have hcount : claim.count = 2 := by
    have hfirst := hd.first
    have hlast := hd.count
    rw [hpassed] at hfirst
    rw [hfirst, hrest] at hlast
    simpa using hlast
  obtain ⟨-, -, hcommits, -, -⟩ := Scope.runs_keep _ hs hcall
  obtain ⟨node, k, items', items'', -, hcommit, hrun, -, -, htoken⟩ :=
    hcommits 1 ⟨"quoted", [Overrun.quoted]⟩ Overrun.quoted none 0 claim hclaims
  exact ⟨items, claim, hs, hcall, hclaims, hcount, node, k, items', items'', hcommit, hrun, htoken⟩

end Grammar

end Highlight
