import Highlight.Proofs.Json.Keys

/-!
# The second pass over a document

The rule for strings claims the strings that the first pass has left, one after the other. Where the
first pass has taken the text behind a string for a key, that claim is dissolved and the rule for
keys goes over the text once more, up to the end of what was dissolved. So the next string is claimed
as a key if it is one; but where it was joined to the string behind it as well, that one is set free
behind the limit, and is never offered to the rule for keys again. `Mode` is what the pass has to
remember of this, and `typed` gives the pieces that it makes.
-/

namespace Highlight.Json

open Piece

/-- A string claimed as a string. -/
def value (content : List Char) : Piece := .claimed ⟨"string", string, quoted content⟩

/-- What has become of the text ahead. -/
inductive Mode where
  /-- It is as the first pass has left it. -/
  | settled
  /-- The rule for keys has just gone up to the next string again. -/
  | rescanned
  /-- The next string is free, and the rule for keys will not come back to it. -/
  | missed
  deriving DecidableEq

namespace Mode

/-- Whether a string is claimed as a key, where `colon` says whether a colon follows it. -/
def typesKey (m : Mode) (colon : Bool) : Bool := m != .missed && colon

/-- What has become of the text behind a string. `joined` says whether that text was taken for a
key. -/
def next (m : Mode) (colon joined : Bool) : Mode :=
  if m.typesKey colon then if m == .rescanned && joined then .missed else .settled
  else if joined then .rescanned else .settled

end Mode

/-- The pieces that two passes make of a document. -/
def typed (last : List Char) : Mode → List Strand → List Piece
  | _, [] => ofFree last
  | m, s :: rest =>
    ofFree s.gap ++
      (if m.typesKey (colonAhead (weave last rest)) then key s.content else value s.content) ::
      typed last (m.next (colonAhead (weave last rest)) (joins s.content rest)) rest

/-- How far the text up to the next string reaches, the quote included. -/
def reach : List Strand → Nat
  | [] => 0
  | t :: _ => t.gap.length + 1

theorem lastOr_quoted (before : Option Char) (content : List Char) :
    Text.lastOr before (quoted content) = some '"' := by
  rw [quoted, ← List.cons_append, Text.lastOr_append]
  rfl

section Exposed

variable {last : List Char} {rescan : Nat → Nat → Option Char → List Piece → List Piece}
  {kind : String} {p : Pattern} {s : Strand} {rest : List Strand}

/-- A claim on the next string, where that string is free. -/
theorem sweep_exposed (hgreedy : p.greedy = true) (hrest : ∀ t ∈ rest, t.Sound)
    (hsearch : ∀ b, ∃ hit, p.search b (weave last (s :: rest)) = some hit ∧
      hit.token = ⟨s.gap.length, s.gap.length + (quoted s.content).length⟩)
    {fuel : Nat} {limit : Option Nat} (hlimit : ∀ l, limit = some l → s.gap.length < l)
    (before : Option Char) :
    sweep rescan kind p (fuel + 1) limit before (exposed last (s :: rest)) =
      ofFree s.gap ++ .claimed ⟨kind, p, quoted s.content⟩ ::
        sweep rescan kind p fuel (limit.map (· - (s.gap.length + (quoted s.content).length)))
          (some '"')
          (if joins s.content rest then rescan fuel (reach rest) (some '"') (exposed last rest)
            else aligned last rest) := by
  have hspell := spell_within last (s.gap ++ '"' :: s.content) rest
  have htext : (s.gap ++ '"' :: s.content) ++ '"' :: weave last rest = weave last (s :: rest) := by
    rw [weave]
    simp
  rw [htext] at hspell
  cases hjoins : joins s.content rest with
  | false =>
    obtain ⟨x, tail, heq, htail, hahead⟩ :=
      within_eq_of_not_joins last (s.gap ++ '"' :: s.content) hrest (by rwa [joins_quote])
    have hrun : s.gap ++ '"' :: s.content ++ '"' :: x = s.gap ++ (quoted s.content ++ x) := by
      rw [quoted_append]
      simp
    have hall : s.gap ++ '"' :: s.content ++ '"' :: x ++ spell tail = weave last (s :: rest) := by
      rw [heq] at hspell
      exact hspell
    have hclaim : Target.ofRun p before (s.gap ++ '"' :: s.content ++ '"' :: x) tail =
        .claim ⟨[], s.gap, quoted s.content, x, false, tail⟩ :=
      Target.ofRun_first hgreedy htail (by simp [quoted]) hrun (by rwa [hall])
    rw [exposed, heq, sweep_of_claim hclaim hlimit, lastOr_quoted, hahead]
    rfl
  | true =>
    cases rest with
    | nil => cases hjoins
    | cons t rest =>
      have hcontent := content_ne_of_joins hjoins
      have heq : within last (s.gap ++ '"' :: s.content) (t :: rest) =
          .free (s.gap ++ '"' :: s.content) :: key t.gap :: within last t.content rest := by
        rw [within, if_pos (by rwa [joins_quote])]
      have hahead : joinFree (t.gap ++ ['"']) (within last t.content rest) =
          exposed last (t :: rest) := by
        rw [← within_append _ hcontent, exposed, List.append_assoc, List.singleton_append]
      obtain ⟨hit, hsome, htoken⟩ := hsearch before
      rw [heq] at hspell
      have hclaim : Target.ofRun p before (s.gap ++ '"' :: s.content)
          (key t.gap :: within last t.content rest) =
          .claim ⟨[], s.gap, quoted s.content, t.gap ++ ['"'], true, within last t.content rest⟩ :=
        Target.ofRun_into hgreedy rfl (List.cons_ne_nil '"' s.content) (List.cons_ne_nil '"' []) rfl
          rfl (by rw [← hsome, ← hspell]; rfl) htoken
      rw [exposed, heq, sweep_of_claim hclaim hlimit, hahead, lastOr_quoted, List.length_append,
        List.length_singleton]
      rfl

end Exposed

section Rescan

variable {last : List Char} {s : Strand} {rest : List Strand}

/-- What a rescan for the rule of strings does: the rule for keys, and none before it, goes over the
pieces. -/
def rescanKeys (fuel limit : Nat) (before : Option Char) (ps : List Piece) : List Piece :=
  applyRules [⟨"property", [property]⟩] fuel (some limit) before ps

/-- A rescan up to the next string claims it, if it is a key. -/
theorem rescanKeys_key (hs : s.Sound) (hrest : ∀ t ∈ rest, t.Sound)
    (hkey : colonAhead (weave last rest) = true) (fuel : Nat) (before : Option Char) :
    rescanKeys (fuel + 1) (reach (s :: rest)) before (exposed last (s :: rest)) =
      .free s.gap :: key s.content ::
        (if joins s.content rest then exposed last rest else aligned last rest) := by
  have hlimit : ∀ l, some (reach (s :: rest)) = some l → s.gap.length < l := by
    intro l hl
    cases hl
    exact Nat.lt_succ_self _
  have hspent : reach (s :: rest) - (s.gap.length + (quoted s.content).length) = 0 := by
    rw [reach, length_quoted]
    omega
  change sweep (fun _ _ _ ps => ps) "property" property (fuel + 1) (some (reach (s :: rest))) before
    (exposed last (s :: rest)) = _
  rw [sweep_exposed rfl hrest (property_search_first hs hkey) hlimit, Option.map_some, hspent,
    sweep_limit_zero, ofFree_of_ne hs.gap_ne]
  rfl

/-- No key is found before the end of a string that is none. -/
theorem le_start_of_not_key (hs : s.Sound) (hrest : ∀ t ∈ rest, t.Sound) (hlast : Clean last)
    (hkey : colonAhead (weave last rest) = false) {before : Option Char} {hit : Hit}
    (hsearch : property.search before (weave last (s :: rest)) = some hit) :
    reach (s :: rest) ≤ hit.token.start := by
  have hreach := (Reaches.of_clean seeks_property hs.gap hs.gap_ne before
    ('"' :: (s.content ++ '"' :: weave last rest))).over_string hs.content hkey
  have htext : weave last (s :: rest) = (s.gap ++ '"' :: s.content) ++ '"' :: weave last rest := by
    rw [weave]
    simp
  rw [htext] at hsearch
  rw [reach]
  cases rest with
  | nil =>
    have hover := @Reaches.over_break before _ last []
      (by rw [List.append_nil]; exact hreach) hlast (.inl rfl)
    rw [weave, hover.search_eq_none seeks_property] at hsearch
    cases hsearch
  | cons t rest =>
    have ht := hrest t (List.mem_cons_self ..)
    rw [weave] at hreach hsearch
    cases hjoins : joins (s.gap ++ '"' :: s.content) (t :: rest) with
    | true =>
      obtain ⟨found, hfound, htoken⟩ := hreach.gap_search ht hjoins
      rw [hsearch] at hfound
      cases hfound
      rw [htoken, List.length_append, List.length_cons]
      dsimp only
      omega
    | false =>
      have hover := hreach.over_gap ht hjoins
      rw [show s.gap ++ '"' :: s.content ++ '"' :: (t.gap ++ '"' :: (t.content ++ '"' ::
        weave last rest)) = (s.gap ++ '"' :: s.content ++ '"' :: t.gap) ++ '"' :: (t.content ++ '"' ::
        weave last rest) by simp] at hsearch
      have hstart := hover.le_start hsearch
      simp only [List.length_append, List.length_cons] at hstart
      omega

/-- A rescan up to a string that is no key changes nothing. -/
theorem rescanKeys_not_key (hs : s.Sound) (hrest : ∀ t ∈ rest, t.Sound) (hlast : Clean last)
    (hkey : colonAhead (weave last rest) = false) (fuel : Nat) (before : Option Char) :
    rescanKeys fuel (reach (s :: rest)) before (exposed last (s :: rest)) =
      exposed last (s :: rest) := by
  obtain ⟨y, tail, heq, hle, -⟩ := exists_within_eq last (s.gap ++ '"' :: s.content) rest
  have hspell := spell_within last (s.gap ++ '"' :: s.content) rest
  rw [heq, spell_cons, text_free] at hspell
  have hreach : reach (s :: rest) ≤ y.length := by
    rw [List.length_append, List.length_cons] at hle
    rw [reach]
    omega
  change sweep (fun _ _ _ ps => ps) "property" property fuel (some (reach (s :: rest))) before
    (exposed last (s :: rest)) = _
  rw [exposed, heq]
  refine sweep_at_limit hreach rfl fun b hit hsearch => ?_
  have htext : y ++ spell tail = weave last (s :: rest) := by
    rw [hspell, weave]
    simp
  rw [htext] at hsearch
  exact le_start_of_not_key hs hrest hlast hkey hsearch

end Rescan

section Sweep

variable {last : List Char}

/-- A string is found from the end of the string before. -/
theorem string_search_first {s : Strand} (hs : s.Sound) (tail : List Char) (before : Option Char) :
    ∃ hit, string.search before (s.gap ++ '"' :: (s.content ++ '"' :: tail)) = some hit ∧
      hit.token = ⟨s.gap.length, s.gap.length + (quoted s.content).length⟩ := by
  have hreach := Reaches.of_clean seeks_string hs.gap hs.gap_ne before
    ('"' :: (s.content ++ '"' :: tail))
  refine hreach.string_search (fun h => ?_) hs.content
  exact (hs.gap _ (List.mem_of_getLast? h)).2 rfl

/-- The pass for strings goes over a key. -/
theorem sweep_over_key {s : Strand} (hs : s.Sound)
    {rescan : Nat → Nat → Option Char → List Piece → List Piece} (fuel : Nat) (before : Option Char)
    (ps : List Piece) :
    sweep rescan "string" string (fuel + 1) none before (.free s.gap :: key s.content :: ps) =
      .free s.gap :: key s.content :: sweep rescan "string" string fuel none (some '"') ps := by
  obtain ⟨hit, hsome, htoken⟩ := string_search_first hs (spell ps) before
  have hfound : string.search before (s.gap ++ spell (key s.content :: ps)) = some hit := by
    rw [spell_cons, text_key, ← cut_quoted, hsome]
  have htarget : Target.ofRun string before s.gap (key s.content :: ps) =
      .behind [.free s.gap, key s.content] ps := by
    refine Target.ofRun_over rfl hfound ?_ ?_
    · exact Nat.le_of_eq (congrArg Span.start htoken).symm
    · rw [htoken]
      change s.gap.length < s.gap.length + (quoted s.content).length
      rw [length_quoted]
      omega
  have hlast : Text.lastOr before (spell [.free s.gap, key s.content]) = some '"' := by
    rw [spell_cons, spell_cons, spell_nil, List.append_nil, text_key, Text.lastOr_append,
      lastOr_quoted]
  rw [sweep_free_behind (by simp) htarget, hlast]
  rfl

/-- The pass for strings, over the pieces of the first pass, over those whose next string has been
set free, and over those that a rescan has gone over up to the next string. -/
theorem sweep_strings (row : List Strand) (hrow : ∀ s ∈ row, s.Sound) (hlast : Clean last)
    (fuel : Nat) (before : Option Char) (hfuel : (weave last row).length ≤ fuel) :
    sweep rescanKeys "string" string fuel none before (aligned last row) = typed last .settled row ∧
    sweep rescanKeys "string" string fuel none before (exposed last row) = typed last .missed row ∧
    ∀ fuel' before', (weave last row).length ≤ fuel' →
      sweep rescanKeys "string" string fuel none before
        (rescanKeys fuel' (reach row) before' (exposed last row)) = typed last .rescanned row := by
  induction row generalizing fuel before with
  | nil =>
    have hfree : sweep rescanKeys "string" string fuel none before (ofFree last) = ofFree last :=
      sweep_last seeks_string hlast fuel before
    refine ⟨hfree, hfree, fun fuel' before' _ => ?_⟩
    have hrescan : rescanKeys fuel' (reach []) before' (exposed last []) = exposed last [] :=
      sweep_limit_zero _ _ _
    rw [hrescan]
    exact hfree
  | cons s rest ih =>
    have hs := hrow s (List.mem_cons_self ..)
    have hrest := fun t ht => hrow t (List.mem_cons_of_mem _ ht)
    have hlen : (weave last (s :: rest)).length =
        s.gap.length + (s.content.length + 2) + (weave last rest).length := by
      rw [weave]
      simp only [List.length_append, List.length_cons]
      omega
    obtain ⟨fuel, rfl⟩ : ∃ n, fuel = n + 1 := ⟨fuel - 1, by omega⟩
    have hnext := fun b => ih hrest fuel b (by omega)
    -- what the pass makes of the string and the text behind it, where the string is free
    have hfree : sweep rescanKeys "string" string (fuel + 1) none before (exposed last (s :: rest)) =
        .free s.gap :: value s.content ::
          typed last (if joins s.content rest then .rescanned else .settled) rest := by
      rw [sweep_exposed rfl hrest (string_search_first hs _) (fun _ h => by cases h),
        ofFree_of_ne hs.gap_ne]
      cases joins s.content rest with
      | false => exact congrArg (fun ps => .free s.gap :: value s.content :: ps) (hnext _).1
      | true =>
        exact congrArg (fun ps => .free s.gap :: value s.content :: ps)
          ((hnext _).2.2 fuel _ (by omega))
    cases hkey : colonAhead (weave last rest) with
    | false =>
      have hall : ∀ m, sweep rescanKeys "string" string (fuel + 1) none before
          (exposed last (s :: rest)) = typed last m (s :: rest) := by
        intro m
        rw [hfree, typed, hkey, Mode.typesKey, Bool.and_false, Mode.next, Mode.typesKey,
          Bool.and_false, ofFree_of_ne hs.gap_ne]
        rfl
      refine ⟨?_, hall _, fun fuel' before' _ => ?_⟩
      · rw [aligned, hkey]
        exact hall _
      · rw [rescanKeys_not_key hs hrest hlast hkey]
        exact hall _
    | true =>
      refine ⟨?_, ?_, fun fuel' before' hfuel' => ?_⟩
      · rw [aligned, hkey, if_pos rfl, sweep_over_key hs, (hnext _).1, typed, hkey,
          ofFree_of_ne hs.gap_ne]
        rfl
      · rw [hfree, typed, hkey, ofFree_of_ne hs.gap_ne]
        rfl
      · obtain ⟨fuel', rfl⟩ : ∃ n, fuel' = n + 1 := ⟨fuel' - 1, by omega⟩
        rw [rescanKeys_key hs hrest hkey, sweep_over_key hs, typed, hkey, ofFree_of_ne hs.gap_ne]
        cases joins s.content rest with
        | false => exact congrArg (fun ps => .free s.gap :: key s.content :: ps) (hnext _).1
        | true => exact congrArg (fun ps => .free s.gap :: key s.content :: ps) (hnext _).2.1

/-- Both passes over a text. -/
theorem sweep_twice {row : List Strand} (hrow : ∀ s ∈ row, s.Sound) (hlast : Clean last)
    {fuel : Nat} (hfuel : (weave last row).length ≤ fuel)
    {rescan : Nat → Nat → Option Char → List Piece → List Piece} :
    sweep rescanKeys "string" string fuel none none
      (sweep rescan "property" property fuel none none (ofFree (weave last row))) =
      typed last .settled row := by
  rw [(sweep_keys row hrow hlast).fromEnd fuel none hfuel]
  exact (sweep_strings row hrow hlast fuel none hfuel).1

/-- Both passes over a text that is one string from its very beginning on. -/
theorem sweep_twice_lone {c : List Char} (hc : Content c) (hclean : Clean last)
    (hlast : ∀ d ∈ last, isBlank d = true) {fuel : Nat}
    (hfuel : (weave last [⟨[], c⟩]).length ≤ fuel)
    {rescan : Nat → Nat → Option Char → List Piece → List Piece} :
    sweep rescanKeys "string" string fuel none none
      (sweep rescan "property" property fuel none none (ofFree (weave last [⟨[], c⟩]))) =
      typed last .settled [⟨[], c⟩] := by
  have htext : weave last [⟨[], c⟩] = '"' :: (c ++ '"' :: last) := rfl
  have hrest : property.search (some '"') (c ++ '"' :: last) = none := by
    by_cases hne : c = []
    · rw [hne]
      exact (Reaches.of_quiet seeks_property (hclean.quiet '"') (List.cons_ne_nil _ _)
        (fun h => by cases h) []).search_eq_none seeks_property
    · have hreach : Reaches property (some '"') c ('"' :: (last ++ [])) :=
        Reaches.of_quiet seeks_property (hc.quiet 'x').tail hne (fun h => by cases h) _
      exact (hreach.over_break hclean (.inl rfl)).search_eq_none seeks_property
  have hnone : property.search none ('"' :: (c ++ '"' :: last)) = none := by
    rw [PatternWith.search_cons, property_hitAt_start hc hlast, hrest]
    rfl
  obtain ⟨hit, hhere, htoken⟩ := string_hitAt_start hc last
  have hsome : string.search none ('"' :: (c ++ '"' :: last)) = some hit := by
    rw [PatternWith.search_cons, hhere]
  have htoken' : hit.token =
      ⟨([] : List Char).length, ([] : List Char).length + (quoted c).length⟩ := by
    rw [htoken, length_quoted, List.length_nil, Nat.zero_add]
  have hkey : colonAhead (weave last []) = false := colonAhead_blank hlast
  rw [htext] at hfuel ⊢
  obtain ⟨fuel, rfl⟩ : ∃ n, fuel = n + 1 := ⟨fuel - 1, by rw [List.length_cons] at hfuel; omega⟩
  rw [ofFree_of_ne (List.cons_ne_nil _ _), sweep_alone_none (.inr rfl) hnone, sweep_nil,
    sweep_alone_some (.inr rfl) hsome (cut_quoted [] c last) htoken', joinFree_nil_eq,
    sweep_last seeks_string hclean, typed, hkey, typed]
  rfl

end Sweep

end Highlight.Json
