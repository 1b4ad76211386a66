import Highlight.Proofs.Division.Runs
import Highlight.Proofs.Json.Borders

/-!
# The text between strings

What stands between two strings is a row of other lexemes, and each of the later rules finds those
of its own kind there: `cover` gives the pieces when the lexemes of some kinds have been claimed. A
rule goes over the text that is left of a row as it would go over the row, since no lexeme of another
kind has a character with which its own begin (`Spots`). So the rules claim one kind after the other
(`applyRules_spellRow`).
-/

namespace Highlight.Json

open Piece

namespace Lexeme

/-- The rule for a lexeme: its name and its pattern. -/
def rule : Lexeme → Option (String × Pattern)
  | blank _ => none
  | sign _ => some ("punctuation", punctuation)
  | colon => some ("operator", operator)
  | key _ => some ("property", property)
  | string _ => some ("string", Json.string)
  | number _ => some ("number", Json.number)
  | boolean _ => some ("boolean", Json.boolean)
  | null => some ("null", Json.null)

/-- A lexeme as it is claimed by its rule, if that is one of some kinds. -/
def claim (kinds : List String) (l : Lexeme) : Option Claimed :=
  match l.rule with
  | some (kind, p) => if kind ∈ kinds then some ⟨kind, p, l.text⟩ else none
  | none => none

end Lexeme

/-- Pieces in which the lexemes of some kinds are claimed and all other text is free. -/
def cover (kinds : List String) : List Lexeme → List Piece
  | [] => []
  | l :: row =>
    match l.claim kinds with
    | some c => .claimed c :: cover kinds row
    | none => joinFree l.text (cover kinds row)

section Spots

/-- A pattern finds the lexemes of its kind among lexemes other than strings. -/
structure Spots (kind : String) (p : Pattern) : Prop where
  greedy : p.greedy = false
  claim : ∀ {l : Lexeme} {c : Claimed}, l.claim [kind] = some c → c = ⟨kind, p, l.text⟩
  hit : ∀ {l : Lexeme} {c : Claimed}, l.claim [kind] = some c → l.Valid →
    ∀ {before : Option Char} {tail : List Char}, l.Bordered before tail →
      ∃ hit, p.hitAt before (l.text ++ tail) = some hit ∧ hit.token = ⟨0, l.text.length⟩
  /-- No other lexeme has a character with which a match begins. -/
  miss : ∃ sets, AsksFor p.regex.program sets ∧ ∀ l : Lexeme, l.claim [kind] = none →
    ∀ c ∈ l.alphabet, ∀ s ∈ sets, s.contains c = false

theorem spots_number : Spots "number" number := by
  refine ⟨rfl, fun {l} _ h => ?_, fun {l} _ h hvalid _ _ hborder => ?_, _, asks_number, fun l h => ?_⟩
  · cases l <;> cases h
    rfl
  · cases l <;> cases h
    exact (takes_number (any_word_of_delimits hborder.1) hborder.2 hvalid).hitAt rfl rfl hvalid.ne_nil
  · cases l with
    | number t => cases h
    | _ => rw [Lexeme.alphabet]; exact forall_of_all (by decide)

theorem spots_punctuation : Spots "punctuation" punctuation := by
  refine ⟨rfl, fun {l} _ h => ?_, fun {l} _ h hvalid _ _ hborder => ?_, _, asks_sign, fun l h => ?_⟩
  · cases l <;> cases h
    rfl
  · cases l <;> cases h
    exact (takes_sign hvalid).hitAt rfl rfl (List.cons_ne_nil _ _)
  · cases l with
    | sign c => cases h
    | _ => rw [Lexeme.alphabet]; exact forall_of_all (by decide)

theorem spots_operator : Spots "operator" operator := by
  refine ⟨rfl, fun {l} _ h => ?_, fun {l} _ h hvalid _ _ hborder => ?_, _, asks_colon, fun l h => ?_⟩
  · cases l <;> cases h
    rfl
  · cases l <;> cases h
    exact takes_colon.hitAt rfl rfl (List.cons_ne_nil _ _)
  · cases l with
    | colon => cases h
    | _ => rw [Lexeme.alphabet]; exact forall_of_all (by decide)

theorem spots_boolean : Spots "boolean" boolean := by
  refine ⟨rfl, fun {l} _ h => ?_, fun {l} _ h hvalid _ _ hborder => ?_, _, asks_boolean, fun l h => ?_⟩
  · cases l <;> cases h
    rfl
  · cases l <;> cases h
    have hbefore := any_word_of_delimits hborder.1
    next b =>
    cases b with
    | true => exact (takes_true hbefore hborder.2).hitAt rfl rfl (List.cons_ne_nil _ _)
    | false => exact (takes_false hbefore hborder.2).hitAt rfl rfl (List.cons_ne_nil _ _)
  · cases l with
    | boolean b => cases h
    | _ => rw [Lexeme.alphabet]; exact forall_of_all (by decide)

theorem spots_null : Spots "null" null := by
  refine ⟨rfl, fun {l} _ h => ?_, fun {l} _ h hvalid _ _ hborder => ?_, _, asks_null, fun l h => ?_⟩
  · cases l <;> cases h
    rfl
  · cases l <;> cases h
    have htakes := takes_null (any_word_of_delimits hborder.1) hborder.2
    exact htakes.hitAt rfl rfl (List.cons_ne_nil _ _)
  · cases l with
    | null => cases h
    | _ => rw [Lexeme.alphabet]; exact forall_of_all (by decide)

end Spots

section Cover

variable {kinds : List String} {l : Lexeme} {c : Claimed} {front row rest : List Lexeme}

/-- A row is a part without claims, and perhaps a claim and another row behind it. -/
theorem row_induction (kinds : List String) {motive : List Lexeme → Prop}
    (free : ∀ row, (∀ l ∈ row, l.claim kinds = none) → motive row)
    (claim : ∀ front l c rest, (∀ m ∈ front, m.claim kinds = none) → l.claim kinds = some c →
      motive rest → motive (front ++ l :: rest)) (row : List Lexeme) : motive row := by
  -- over the row, with what has been passed since the last claim kept in front of it
  have hall : ∀ front, (∀ l ∈ front, l.claim kinds = none) → motive (front ++ row) := by
    induction row with
    | nil =>
      intro front hfront
      rw [List.append_nil]
      exact free front hfront
    | cons l row ih =>
      intro front hfront
      cases hl : l.claim kinds with
      | some c => exact claim front l c row hfront hl (ih [] (by simp))
      | none =>
        have hnext := ih (front ++ [l]) (List.forall_mem_append.mpr ⟨hfront, by simpa using hl⟩)
        rwa [List.append_assoc] at hnext
  exact hall [] (by simp)

theorem joinFree_joinFree (t u : List Char) (ps : List Piece) :
    joinFree t (joinFree u ps) = joinFree (t ++ u) ps := by
  by_cases ht : t = []
  · rw [ht]
    rfl
  · by_cases hu : u = []
    · rw [hu, joinFree_empty, List.append_nil]
    · cases ps with
      | nil => rw [joinFree_nil hu, joinFree_free ht, joinFree_nil (by simp [ht])]
      | cons p ps =>
        cases p with
        | free v =>
          rw [joinFree_free hu, joinFree_free ht, joinFree_free (by simp [ht]), List.append_assoc]
        | claimed c => rw [joinFree_claimed hu, joinFree_free ht, joinFree_claimed (by simp [ht])]

theorem cover_nil : cover kinds [] = [] := rfl

theorem cover_claim (hl : l.claim kinds = some c) :
    cover kinds (l :: row) = .claimed c :: cover kinds row := by
  rw [cover, hl]

theorem cover_free (hl : l.claim kinds = none) :
    cover kinds (l :: row) = joinFree l.text (cover kinds row) := by
  rw [cover, hl]

/-- Lexemes without claims make up free text. -/
theorem cover_front (hfront : ∀ l ∈ front, l.claim kinds = none) (row : List Lexeme) :
    cover kinds (front ++ row) = joinFree (spellRow front) (cover kinds row) := by
  induction front with
  | nil => rfl
  | cons l front ih =>
    obtain ⟨hl, hfront⟩ := List.forall_mem_cons.mp hfront
    rw [List.cons_append, cover_free hl, ih hfront, joinFree_joinFree, spellRow_cons]

theorem cover_of_none (hrow : ∀ l ∈ row, l.claim kinds = none) :
    cover kinds row = ofFree (spellRow row) := by
  have hfront := cover_front hrow []
  rwa [List.append_nil, cover_nil, joinFree_nil_eq] at hfront

theorem cover_front_claim (hfront : ∀ l ∈ front, l.claim kinds = none) (hl : l.claim kinds = some c)
    (row : List Lexeme) :
    cover kinds (front ++ l :: row) = ofFree (spellRow front) ++ .claimed c :: cover kinds row := by
  rw [cover_front hfront, cover_claim hl, joinFree_of_parted rfl]

theorem joinFree_append_claimed (t : List Char) (ps qs : List Piece) (c : Claimed) :
    joinFree t (ps ++ .claimed c :: qs) = joinFree t ps ++ .claimed c :: qs := by
  by_cases ht : t = []
  · rw [ht]
    rfl
  · cases ps with
    | nil => rw [List.nil_append, joinFree_claimed ht, joinFree_nil ht, List.singleton_append]
    | cons p ps =>
      cases p with
      | free u =>
        rw [List.cons_append, joinFree_free ht, joinFree_free ht]
        rfl
      | claimed d =>
        rw [List.cons_append, joinFree_claimed ht, joinFree_claimed ht]
        rfl

/-- A claim parts what stands in front of it from what stands behind. -/
theorem cover_append_claim (hl : l.claim kinds = some c) (front row : List Lexeme) :
    cover kinds (front ++ l :: row) = cover kinds front ++ .claimed c :: cover kinds row := by
  induction front with
  | nil => exact cover_claim hl
  | cons m front ih =>
    rw [List.cons_append]
    cases hm : m.claim kinds with
    | some d =>
      rw [cover_claim hm, cover_claim hm, ih]
      rfl
    | none => rw [cover_free hm, cover_free hm, ih, joinFree_append_claimed]

theorem cover_congr {kinds' : List String} (h : ∀ l ∈ row, l.claim kinds = l.claim kinds') :
    cover kinds row = cover kinds' row := by
  induction row with
  | nil => rfl
  | cons l row ih =>
    obtain ⟨hl, hrow⟩ := List.forall_mem_cons.mp h
    rw [cover, cover, hl, ih hrow]

theorem claim_cons_of_none (kind : String) (hl : l.claim kinds = none) :
    l.claim (kind :: kinds) = l.claim [kind] := by
  rw [Lexeme.claim] at hl ⊢
  rw [Lexeme.claim]
  cases hrule : l.rule with
  | none => rfl
  | some r =>
    rw [hrule] at hl
    dsimp only at hl ⊢
    have hnot : r.1 ∉ kinds := fun h => by simp [h] at hl
    simp [hnot]

theorem claim_cons_of_some (kind : String) (hl : l.claim kinds = some c) :
    l.claim (kind :: kinds) = some c := by
  rw [Lexeme.claim] at hl ⊢
  cases hrule : l.rule with
  | none =>
    rw [hrule] at hl
    cases hl
  | some r =>
    rw [hrule] at hl
    dsimp only at hl ⊢
    split at hl
    · next hmem => rw [if_pos (List.mem_cons_of_mem _ hmem), hl]
    · cases hl

end Cover

section Sweep

variable {kind : String} {p : Pattern} {row front rest : List Lexeme} {l : Lexeme} {c : Claimed}

/-- A search passes characters with which no match begins. -/
theorem search_over {u : List Char} (hu : ∀ c ∈ u, Refuses p.regex.program (some c))
    (before : Option Char) (tail : List Char) :
    p.search before (u ++ tail) =
      (p.search (Text.lastOr before u) tail).map (·.shift u.length) := by
  induction u generalizing before with
  | nil =>
    have hid : (fun h : Hit => h.shift 0) = id := funext Hit.shift_zero
    rw [List.nil_append, List.length_nil, hid, Option.map_id]
    rfl
  | cons c u ih =>
    obtain ⟨hc, hu⟩ := List.forall_mem_cons.mp hu
    have hnone : p.hitAt before (c :: (u ++ tail)) = none := Refuses.hitAt _ hc before
    rw [List.cons_append, PatternWith.search_cons, hnone]
    dsimp only
    rw [ih hu, Option.map_map, List.length_cons]
    simp only [Function.comp_def, Hit.shift_shift]
    rfl

/-- The characters of lexemes of other kinds are of no use to a pattern. -/
theorem Spots.refuses (hs : Spots kind p) (hrow : Regular (front ++ rest))
    (hplain : Stringless front) (hfront : ∀ l ∈ front, l.claim [kind] = none) :
    ∀ c ∈ spellRow front, Refuses p.regex.program (some c) := by
  obtain ⟨sets, hasks, hmiss⟩ := hs.miss
  intro c hc
  obtain ⟨l, hl, hc⟩ := List.mem_flatMap.mp hc
  have hvalid := hrow.valid l (List.mem_append_left _ hl)
  refine hasks.refuses fun d hd => ?_
  cases hd
  exact hmiss l (hfront l hl) c (hvalid.subset (hplain l hl) c hc)

theorem Spots.nothing (hs : Spots kind p) (before : Option Char) : p.hitAt before [] = none := by
  obtain ⟨sets, hasks, -⟩ := hs.miss
  exact Refuses.hitAt [] (hasks.refuses fun _ h => by cases h) before

/-- A search in a row finds the first lexeme of its kind. -/
theorem Spots.search_some (hs : Spots kind p) (hrow : Regular (front ++ l :: rest))
    (hplain : Stringless front) (hfront : ∀ m ∈ front, m.claim [kind] = none)
    (hl : l.claim [kind] = some c) :
    ∃ hit, p.search none (spellRow (front ++ l :: rest)) = some hit ∧
      hit.token = ⟨(spellRow front).length, (spellRow front).length + l.text.length⟩ := by
  have hvalid := hrow.valid l (by simp)
  obtain ⟨hit, hhit, htoken⟩ := hs.hit hl hvalid (hrow.bordered hplain)
  have hhere : p.search (Text.lastOr none (spellRow front)) (l.text ++ spellRow rest) = some hit := by
    cases htext : l.text ++ spellRow rest with
    | nil => rw [PatternWith.search_nil, ← htext, hhit]
    | cons d text => rw [PatternWith.search_cons, ← htext, hhit]
  refine ⟨hit.shift (spellRow front).length, ?_, ?_⟩
  · rw [spellRow_append, search_over (hs.refuses hrow hplain hfront), spellRow_cons, hhere]
    rfl
  · simp only [Hit.shift, htoken, Span.shift, Span.mk.injEq]
    omega

theorem Spots.search_none (hs : Spots kind p) (hrow : Regular row) (hplain : Stringless row)
    (hnone : ∀ l ∈ row, l.claim [kind] = none) : p.search none (spellRow row) = none := by
  have hregular : Regular (row ++ []) := by rwa [List.append_nil]
  have hover := search_over (hs.refuses hregular hplain hnone) none []
  rw [List.append_nil, PatternWith.search_nil, hs.nothing] at hover
  exact hover

/-- One rule goes over a row. -/
theorem Spots.sweepRun_spellRow (hs : Spots kind p) (row : List Lexeme) (hrow : Regular row)
    (hplain : Stringless row) : sweepRun kind p (spellRow row) = cover [kind] row := by
  induction row using row_induction [kind] with
  | free row hnone =>
    rw [sweepRun_of_none hs.greedy kind (hs.search_none hrow hplain hnone), cover_of_none hnone]
  | claim front l c rest hfront hl ih =>
    obtain ⟨hplainFront, hplain⟩ := List.forall_mem_append.mp hplain
    have hplainRest := (List.forall_mem_cons.mp hplain).2
    have hrest := hrow.of_append.tail
    obtain ⟨hit, hsearch, htoken⟩ := hs.search_some hrow hplainFront hfront hl
    have hspell : spellRow (front ++ l :: rest) = spellRow front ++ (l.text ++ spellRow rest) := by
      rw [spellRow_append, spellRow_cons]
    rw [sweepRun_of_some hs.greedy kind hsearch hspell htoken, ih hrest hplainRest,
      cover_front_claim hfront hl, hs.claim hl]

/-- One rule goes over what other rules have left of a row. -/
theorem Spots.replaceRuns_cover (hs : Spots kind p) (kinds : List String) (row : List Lexeme)
    (hrow : Regular row) (hplain : Stringless row) :
    replaceRuns (sweepRun kind p) (cover kinds row) = cover (kind :: kinds) row := by
  have hfree : ∀ front rest, Regular (front ++ rest) → Stringless front →
      (∀ l ∈ front, l.claim kinds = none) →
      replaceRuns (sweepRun kind p) (ofFree (spellRow front)) = cover (kind :: kinds) front := by
    intro front rest hrow hplain hnone
    have hcongr : ∀ l ∈ front, l.claim [kind] = l.claim (kind :: kinds) :=
      fun l hl => (claim_cons_of_none kind (hnone l hl)).symm
    rw [← cover_congr hcongr, ← hs.sweepRun_spellRow front (hrow.cut hplain) hplain]
    by_cases ht : spellRow front = []
    · rw [ht]
      exact sweep_nil.symm
    · exact replaceRuns_ofFree ht
  induction row using row_induction kinds with
  | free row hnone =>
    rw [cover_of_none hnone]
    exact hfree row [] (by rwa [List.append_nil]) hplain hnone
  | claim front l c rest hfront hl ih =>
    obtain ⟨hplainFront, hplain⟩ := List.forall_mem_append.mp hplain
    have hplainRest := (List.forall_mem_cons.mp hplain).2
    have hrest := hrow.of_append.tail
    rw [cover_front_claim hfront hl, replaceRuns_append, replaceRuns_claimed, ih hrest hplainRest,
      hfree front _ hrow hplainFront hfront, cover_append_claim (claim_cons_of_some kind hl)]

end Sweep

section Rules

variable {row : List Lexeme}

/-- Rules each of which has one pattern, for the lexemes of its kind. -/
def Spotters (rules : List Rule) : Prop :=
  ∀ rule ∈ rules, ∃ p, rule.patterns = [p] ∧ Spots rule.name p

/-- Rules in a row, one after another. They are given with the last one first. -/
theorem applyRules_spellRow {rules : List Rule} (hrules : Spotters rules) (hrow : Regular row)
    (hplain : Stringless row) {fuel : Nat} (hfuel : (spellRow row).length ≤ fuel)
    (before : Option Char) :
    applyRules rules fuel none before (ofFree (spellRow row)) = cover (rules.map (·.name)) row := by
  induction rules with
  | nil =>
    have hnone : ∀ l ∈ row, l.claim [] = none := by
      intro l _
      rw [Lexeme.claim]
      cases l.rule <;> simp
    exact (cover_of_none hnone).symm
  | cons rule rules ih =>
    obtain ⟨hrule, hrules⟩ := List.forall_mem_cons.mp hrules
    obtain ⟨p, hpatterns, hs⟩ := hrule
    have hkeeps := applyRules_keeps rules fuel none before
    have hsolid := hkeeps.solid _ (solid_ofFree (spellRow row))
    have hparted := applyRules_parted rules fuel none before _ (parted_ofFree (spellRow row))
    have hspell := hkeeps.spell (ofFree (spellRow row))
    rw [spell_ofFree] at hspell
    rw [ih hrules] at hsolid hparted hspell
    have hrun := (sweep_runByRun hs.greedy rules rule.name).eq fuel before _ hsolid hparted
      (by rwa [hspell])
    rw [applyRules_cons, hpatterns, ih hrules]
    exact hrun.trans (hs.replaceRuns_cover _ row hrow hplain)

def stringRules : List Rule :=
  [⟨"property", [property]⟩, ⟨"string", [string]⟩, ⟨"comment", [comment]⟩]

def otherRules : List Rule :=
  [⟨"number", [number]⟩, ⟨"punctuation", [punctuation]⟩, ⟨"operator", [operator]⟩,
    ⟨"boolean", [boolean]⟩, ⟨"null", [null]⟩]

def kinds : List String :=
  ["null", "boolean", "operator", "punctuation", "number", "string", "property"]

theorem spotters_otherRules : Spotters otherRules.reverse := by
  simp only [Spotters, otherRules, List.reverse_cons, List.reverse_nil, List.nil_append,
    List.cons_append, List.forall_mem_cons]
  exact ⟨⟨_, rfl, spots_null⟩, ⟨_, rfl, spots_boolean⟩, ⟨_, rfl, spots_operator⟩,
    ⟨_, rfl, spots_punctuation⟩, ⟨_, rfl, spots_number⟩, by simp⟩

/-- The later rules claim all lexemes of a row without strings. -/
theorem divide_spellRow (name : String) (hrow : Regular row) (hplain : Stringless row) :
    (Grammar.mk name otherRules).divide (spellRow row) = cover kinds row := by
  have hrules := applyRules_spellRow spotters_otherRules hrow hplain (Nat.le_refl _) none
  refine hrules.trans (cover_congr fun l hl => ?_)
  have hcontent := hplain l hl
  cases l with
  | key c => cases hcontent
  | string c => cases hcontent
  | _ => rfl

end Rules

end Highlight.Json
