import Highlight.Proofs.Segments.Sweep

/-!
# Dividing in place always ends well

The rules before another one, run in place, are what `applyRules` does to the pieces. So a rescan
in place is a rescan of the pieces, by induction on the rules, and making a token with nodes
inside it never fails, by induction on how deep grammars nest. Nothing was assumed of the
segments, so dividing a text in place ends for every grammar and every text, without a fault and
with the nodes that `Grammar.tokenize` finds.
-/

namespace Highlight

open Piece (spell Solid)
open Segment Checked

namespace Scope

variable {sc : Scope} {index : Nat} {rule : Rule} {p : Pattern} {limit? : Option Nat} {start : Nat}
  {front : List Piece}

section Rules

variable {i k : Nat} {items : List Segment}

theorem runRules_nil {until? : Option Nat} :
    runRules sc i until? limit? k [] items = pure items := by
  rw [runRules]

theorem runRules_cons {until? : Option Nat} {rules : List Rule} (h : until? ≠ some k) :
    runRules sc i until? limit? k (rule :: rules) items = (do
      let items ← rule.patterns.foldlM
        (fun items p => runPattern sc k rule p limit? i items) items
      runRules sc i until? limit? (k + 1) rules items) := by
  rw [runRules, if_neg h]

/-- Stopping before a rule is running the rules in front of it, which may be all. -/
theorem runRules_take (rules : List Rule) (n : Nat) :
    runRules sc i (some (k + n)) limit? k rules items = runRules sc i none limit? k (rules.take n) items := by
  induction rules generalizing k n items with
  | nil => rw [List.take_nil, runRules_nil, runRules_nil]
  | cons rule rules ih =>
    cases n with
    | zero => rw [List.take_zero, runRules_nil, runRules, if_pos (by simp)]
    | succ n =>
      rw [List.take_succ_cons, runRules_cons (by simp), runRules_cons (by simp)]
      congr 1
      funext items
      rw [Nat.add_comm n, ← Nat.add_assoc]
      exact ih n

theorem runRules_until (before after : List Rule) :
    runRules sc i (some (k + before.length)) limit? k (before ++ after) items =
      runRules sc i none limit? k before items := by
  rw [runRules_take, List.take_left' rfl]

/-- The last rule is run on what the rules before it leave. -/
theorem runRules_snoc (before : List Rule) (rule : Rule) :
    runRules sc i none limit? k (before ++ [rule]) items = (do
      let items ← runRules sc i none limit? k before items
      rule.patterns.foldlM
        (fun items p => runPattern sc (k + before.length) rule p limit? i items) items) := by
  induction before generalizing k items with
  | nil =>
    rw [List.nil_append, runRules_cons (by simp), runRules_nil, pure_bind]
    simp only [runRules_nil, bind_pure]
    rfl
  | cons first before ih =>
    rw [List.cons_append, runRules_cons (by simp), runRules_cons (by simp), bind_assoc]
    congr 1
    funext items
    rw [ih, List.length_cons, Nat.add_comm before.length, ← Nat.add_assoc]

end Rules


/-- What keeps the text and makes no empty piece leaves the pieces where they were. -/
theorem Stands.keeps {f : List Piece → List Piece} {fuel : Nat} {limit : Option Nat}
    {before : Option Char} {ps : List Piece} (h : Stands sc front ps fuel limit before limit?)
    (hf : Keeps f) : Stands sc front (f ps) fuel limit before limit? := by
  have hsolid := Piece.solid_append.mp h.solid
  exact h.recut (hf.spell ps) (Piece.solid_append.mpr ⟨hsolid.1, hf.solid ps hsolid.2⟩)

/-- A sweep leaves its pieces where they were. -/
theorem Stands.sweep {rescan : Nat → Nat → Option Char → List Piece → List Piece} {fuel : Nat}
    {limit : Option Nat} {before : Option Char} {ps : List Piece}
    (hkeeps : ∀ fuel limit before, Keeps (rescan fuel limit before)) (kind : String)
    (h : Stands sc front ps fuel limit before limit?) :
    Stands sc front (Highlight.sweep rescan kind p fuel limit before ps) fuel limit before
      limit? :=
  h.keeps ⟨sweep_spell hkeeps fuel limit before, sweep_solid hkeeps fuel limit before⟩

/-- A run may begin at the token in front of the pieces, since it passes over tokens. -/
inductive Begins (front : List Piece) : Nat → Prop where
  | behind : Begins front front.length
  | token (lead : List Piece) (c : Claimed) (h : front = lead ++ [.claimed c]) : Begins front lead.length

theorem runPattern_begins {i : Nat} {ps : List Piece} (h : Begins front i) :
    runPattern sc index rule p limit? i (layOut start (front ++ ps)) =
      runPattern sc index rule p limit? front.length (layOut start (front ++ ps)) := by
  cases h with
  | behind => rfl
  | token lead c h =>
    rw [h, ← List.append_cons, runPattern_token (getElem?_layOut _ lead (.claimed c) ps), List.length_append]
    rfl

/-- The patterns of a rule are run one after the other. -/
theorem foldlM_runPattern {rescan : Nat → Nat → Option Char → List Piece → List Piece}
    {patterns : List Pattern} {i fuel : Nat} {limit : Option Nat} {before : Option Char}
    {ps : List Piece} (hmakes : ∀ p ∈ patterns, Makes sc rule p)
    (hkeeps : ∀ fuel limit before, Keeps (rescan fuel limit before))
    (hrescans : Rescans sc index rescan) (hbegins : Begins front i)
    (h : Stands sc front ps fuel limit before limit?) :
    patterns.foldlM (fun items p => runPattern sc index rule p limit? i items)
      (layOut sc.range.start (front ++ ps)) =
      pure (layOut sc.range.start (front ++
        patterns.foldl (fun ps p => Highlight.sweep rescan rule.name p fuel limit before ps) ps)) := by
  induction patterns generalizing ps with
  | nil => rfl
  | cons p patterns ih =>
    have hp := runPattern_layOut (hmakes p (List.mem_cons_self ..)) hkeeps hrescans _ _ _ _ _ _ h
    rw [List.foldlM_cons, runPattern_begins hbegins, hp, pure_bind, List.foldl_cons]
    exact ih (fun q hq => hmakes q (List.mem_cons_of_mem _ hq)) (h.sweep hkeeps rule.name)

/-- The rules of a list, run in place from anywhere, are their application to the pieces ahead. -/
def Applies (sc : Scope) (rules : List Rule) : Prop :=
  ∀ front i fuel limit before ps limit?, Begins front i →
    Stands sc front ps fuel limit before limit? →
    runRules sc i none limit? 0 rules.reverse (layOut sc.range.start (front ++ ps)) =
      pure (layOut sc.range.start (front ++ applyRules rules fuel limit before ps))

/-- So stopping before the next rule is the rescan for that rule. -/
theorem Applies.rescans {earlier later : List Rule} (h : Applies sc earlier)
    (hrules : sc.grammar.rules = earlier.reverse ++ later) :
    Rescans sc (0 + earlier.reverse.length)
      (fun fuel limit => applyRules earlier fuel (some limit)) := by
  intro front c ps fuel n before limit hstands
  have hrun := h _ _ _ _ _ _ _ (.token front c rfl) hstands
  rw [← List.append_cons, ← List.append_cons] at hrun
  rw [hrules, runRules_until]
  exact hrun

/-- The run of some rules in place is their application to the pieces. -/
theorem runRules_layOut (hmakes : ∀ rule ∈ sc.grammar.rules, ∀ p ∈ rule.patterns, Makes sc rule p)
    {earlier later : List Rule} (hrules : sc.grammar.rules = earlier.reverse ++ later) :
    Applies sc earlier := by
  induction earlier generalizing later with
  | nil =>
    intro front i fuel limit before ps limit? _ _
    exact runRules_nil
  | cons rule earlier ih =>
    have hrules' : sc.grammar.rules = earlier.reverse ++ rule :: later := by
      rw [hrules, List.reverse_cons, List.append_assoc]
      rfl
    have hmem : rule ∈ sc.grammar.rules := by
      rw [hrules']
      simp
    have happlies := ih hrules'
    intro front i fuel limit before ps limit? hbegins h
    have hkeeps : ∀ fuel limit before,
        Keeps ((fun fuel limit => applyRules earlier fuel (some limit)) fuel limit before) :=
      fun fuel limit before => applyRules_keeps earlier fuel (some limit) before
    have hearlier := applyRules_keeps earlier fuel limit before
    have hstands : Stands sc front (applyRules earlier fuel limit before ps) fuel limit before limit? :=
      h.keeps hearlier
    rw [List.reverse_cons, runRules_snoc, happlies _ _ _ _ _ _ _ hbegins h, pure_bind]
    exact foldlM_runPattern (hmakes rule hmem) hkeeps (happlies.rescans hrules') hbegins hstands

/-- Making a token never fails if dividing its inside does not. -/
theorem makes_of_divides {rule : Rule}
    (h : ∀ inner, p.inside = some inner → ∀ s t, Text.IsPart sc.text s t →
      divide ⟨sc.text, s, inner⟩ = pure (inner.nodesAt s.start t)) : Makes sc rule p := by
  intro s t hpart
  rw [makeToken, part_eq hpart, PatternWith.nodesInside]
  cases hinside : p.inside with
  | none => rfl
  | some inner =>
    dsimp only
    rw [h inner hinside s t hpart, pure_bind, pure_bind]

/-- At first the range is one free run, or none if it is empty. -/
theorem first_layOut (sc : Scope) {text : List Char} (hpart : Text.IsPart sc.text sc.range text) :
    (if sc.range.start < sc.range.stop then [Segment.text sc.range] else []) =
      layOut sc.range.start (Piece.ofFree text) ∧
    Stands sc [] (Piece.ofFree text) text.length none none none := by
  constructor
  · rw [layOut_ofFree (congrArg Span.stop hpart.eq_mk)]
  · refine ⟨?_, Piece.solid_ofFree text, ?_, rfl, .none⟩
    · rw [List.nil_append, Piece.spell_ofFree]
      exact hpart
    · exact Nat.le_of_eq (congrArg List.length (Piece.spell_ofFree text))

/-- The segments of a divided part are the nodes of that part. -/
theorem nodes_divide {text : List Char} {g : Grammar} {s : Span} {t : List Char}
    (hpart : Text.IsPart text s t) :
    nodes text (layOut s.start (g.divide t)) = pure (g.nodesAt s.start t) := by
  obtain ⟨front, back, rfl, rfl⟩ := hpart
  have h := nodes_layOut front back (g.divide t)
  rw [g.spell_divide] at h
  rw [h, g.nodesAt_eq]

/-- Dividing a part of a text in place yields the nodes of that part. -/
theorem divide_eq {text : List Char} {g : Grammar} {s : Span} {t : List Char}
    (hpart : Text.IsPart text s t) : divide ⟨text, s, g⟩ = pure (g.nodesAt s.start t) := by
  induction hn : g.nesting using Nat.strongRecOn generalizing g s t with
  | ind n ih =>
    have hmakes : ∀ rule ∈ g.rules, ∀ p ∈ rule.patterns, Makes ⟨text, s, g⟩ rule p := by
      intro rule hr p hp
      apply makes_of_divides
      intro inner hinside s t hpart
      have hlt := Grammar.nesting_inside hr hp hinside
      exact ih inner.nesting (by omega) hpart rfl
    obtain ⟨hitems, hstands⟩ := first_layOut ⟨text, s, g⟩ hpart
    have hrules : g.rules = g.rules.reverse.reverse ++ [] := by simp
    have hrun := runRules_layOut hmakes hrules _ _ _ _ _ _ _ .behind hstands
    rw [List.reverse_reverse, List.nil_append, List.nil_append] at hrun
    rw [List.length_nil] at hrun
    rw [divide]
    dsimp only
    rw [hitems, hrun, pure_bind]
    exact nodes_divide hpart

end Scope

/-- Dividing a text in place ends for every grammar and every text: without a fault, in the nodes
that `tokenize` finds, and at most as many levels deep as grammars nest. -/
theorem Grammar.divideInPlace_eq (g : Grammar) (text : String) :
    (g.divideInPlace text).run = some (.ok (g.tokenize text)) ∧
      Node.depth (g.tokenize text) ≤ g.nesting := by
  constructor
  · have hpart : Text.IsPart text.toList ⟨0, text.utf8ByteSize⟩ text.toList := by
      rw [← Text.byteLength_toList]
      exact Text.isPart_all text.toList
    rw [divideInPlace, Scope.divide_eq hpart]
    rfl
  · exact g.depth_nodesWithin g.nesting 0 text.toList

end Highlight
