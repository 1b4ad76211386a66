import Highlight.Proofs.Division.Completeness
import Highlight.Proofs.Division.Quiet
import Highlight.Proofs.Text.Part
import Highlight.Proofs.Token.Nesting

/-!
# Untyped text and the matches in it

A run of untyped text may still hold a match of a plain pattern: `missed_of_findIn` finds the place
that the pattern misses among the pieces. So such a match begins in text that escapes the pattern,
and no match is left exactly if none begins in such text.

Where no pattern is greedy, nothing is ever set free: steady patterns leave no match at all, however many
alternatives a rule has (`exhausts_of_steady`).
-/

namespace Highlight

open Piece (Missed)

/-- The number of characters behind a byte offset. -/
def Text.charsBehind (cs : List Char) (offset : Nat) : Nat := (cs.drop (charIndex cs offset)).length

theorem Text.charsBehind_append (front back : List Char) :
    charsBehind (front ++ back) (byteLength front) = back.length := by
  rw [charsBehind, charIndex_append, List.drop_left]

/-- A run among the nodes of pieces comes from a free piece. -/
theorem Piece.mem_toNodes_run {inside : Pattern → Nat → List Char → List Node} {ps : List Piece}
    {start : Nat} {span : Span} {run : String} (h : .run span run ∈ toNodes inside start ps) :
    ∃ a t b, ps = a ++ .free t :: b ∧ run = String.ofList t ∧
      span = ⟨start + Text.byteLength (spell a),
        start + Text.byteLength (spell a) + Text.byteLength t⟩ := by
  induction ps generalizing start with
  | nil => simp [toNodes] at h
  | cons p ps ih =>
    cases p with
    | free t =>
      rw [toNodes] at h
      rcases List.mem_cons.mp h with hrun | h
      · cases hrun
        exact ⟨[], t, ps, rfl, rfl, rfl⟩
      · obtain ⟨a, u, b, rfl, hrun, hspan⟩ := ih h
        refine ⟨.free t :: a, u, b, rfl, hrun, ?_⟩
        rw [hspan, spell_cons, Text.byteLength_append, text_free, Nat.add_assoc start]
    | claimed c =>
      rw [toNodes] at h
      rcases List.mem_cons.mp h with hrun | h
      · cases hrun
      · obtain ⟨a, u, b, rfl, hrun, hspan⟩ := ih h
        refine ⟨.claimed c :: a, u, b, rfl, hrun, ?_⟩
        rw [hspan, spell_cons, Text.byteLength_append, text_claimed, Nat.add_assoc start]

/-- A match that is found in a part of a text begins where the pattern matches in that part. -/
theorem PatternWith.Plain.findIn_hits {Inner : Type} {p : PatternWith Inner} (hp : p.Plain)
    {a t b : List Char} {text : String} {m : Match} (htext : text.toList = a ++ t ++ b)
    (hm : p.findIn? text ⟨Text.byteLength a, Text.byteLength a + Text.byteLength t⟩ = some m) :
    ∃ x y, t = x ++ y ∧ p.Hits y ∧ m.token.start = Text.byteLength (a ++ x) := by
  have hpart : Text.IsPart text.toList
      ⟨Text.byteLength a, Text.byteLength a + Text.byteLength t⟩ t := ⟨a, b, htext, rfl⟩
  rw [findIn?] at hm
  dsimp only at hm
  rw [hpart.slice_eq] at hm
  obtain ⟨h, hs, rfl⟩ := Option.map_eq_some_iff.mp hm
  obtain ⟨x, y, rfl, hstart, hy, -⟩ := hp.hits_of_search hs
  refine ⟨x, y, rfl, hy, ?_⟩
  simp only [Match.shift, Match.ofHit, Text.byteSpan, Span.shift, hstart, Text.byteOffset,
    List.take_left, Text.byteLength_append]
  exact Nat.add_comm _ _

namespace Grammar

/-- A match of a plain pattern in an untyped run is a place that the pattern misses. -/
theorem missed_of_findIn {g : Grammar} {text run : String} {span : Span} {p : Pattern} {m : Match}
    (hp : p.Plain) (hrun : .run span run ∈ g.tokenize text)
    (hm : p.findIn? text span = some m) :
    Missed p (g.divide text.toList) (Text.charsBehind text.toList m.token.start) := by
  rw [tokenize, nodesAt_eq] at hrun
  obtain ⟨a, t, b, hps, -, rfl⟩ := Piece.mem_toNodes_run hrun
  rw [Nat.zero_add] at hm
  have htext : text.toList = Piece.spell a ++ t ++ Piece.spell b := by
    rw [← g.spell_divide text.toList, hps]
    simp
  obtain ⟨x, y, rfl, hy, hstart⟩ := hp.findIn_hits htext hm
  rw [hstart, hps, htext]
  have hsplit : Piece.spell a ++ (x ++ y) ++ Piece.spell b =
      (Piece.spell a ++ x) ++ (y ++ Piece.spell b) := by simp
  rw [hsplit, Text.charsBehind_append, List.length_append]
  exact (Missed.of_hits hy _).append_left _

/-- No pattern of the grammar matches within a run of text that is left untyped. -/
def Exhausts (g : Grammar) (text : String) : Prop :=
  ∀ span run, .run span run ∈ g.tokenize text → ∀ rule ∈ g.rules, ∀ p ∈ rule.patterns,
    p.findIn? text span = none

/-- Some pattern of the grammar matches within an untyped run, at a place that escapes the pattern:
a rescan that the pattern took part in has set it free behind its own limit. -/
def Overruns (g : Grammar) (text : String) : Prop :=
  ∃ span run rule p m, .run span run ∈ g.tokenize text ∧ rule ∈ g.rules ∧ p ∈ rule.patterns ∧
    p.findIn? text span = some m ∧
    Stage.Escapes p (g.startStage text.toList) (Text.charsBehind text.toList m.token.start)

/-- A run of a text is known by its span. -/
theorem exists_run_of_any {nodes : List Node} {span : Span}
    (h : nodes.any (fun n => !n.isToken && n.span == span) = true) :
    ∃ run, .run span run ∈ nodes := by
  obtain ⟨n, hn, hspan⟩ := List.any_eq_true.mp h
  cases n with
  | token => cases hspan
  | run s run =>
    obtain rfl : s = span := by simpa [Node.isToken, Node.span] using hspan
    exact ⟨run, hn⟩

namespace Overrun

/-- Texts between quotes, greedy. -/
def quoted : Pattern where
  regex := .ofExpr "\"[^\"]*\"" (.cat (.literal ['"'])
    (.cat (.rep 0 none true (.set ⟨[(0, 33), (35, 1114111)]⟩)) (.literal ['"'])))
  greedy := true

/-- The rest of a line from a number sign on. -/
def comment : Pattern where
  regex := .ofExpr "#.*" (.cat (.literal ['#'])
    (.rep 0 none true (.set ⟨[(0, 9), (11, 1114111)]⟩)))

/-- A word that ends within a quoted text, greedy. -/
def mark : Pattern where
  regex := .ofExpr "z\"a" (.literal ['z', '"', 'a'])
  greedy := true

/-- A grammar whose second rule misses what its first rule sets free while the third rule has
both of them run again. -/
def grammar : Grammar :=
  .mk "overrun" [⟨"quoted", [quoted]⟩, ⟨"comment", [comment]⟩, ⟨"mark", [mark]⟩]

example : ∀ p ∈ [quoted, comment, mark],
    (Regex.Expr.ofSource {} p.regex.source.toList).toOption.map (.ofExpr p.regex.source) =
      some p.regex := by decide +kernel

theorem plainRules : PlainRules grammar.rules := by
  have hplain : ∀ p : Pattern, p.lookbehind = none → p.lookahead = none →
      p.regex.program.code.all (fun i => !i.isCheck) = true → p.Plain := by
    intro p hbehind hahead hall
    refine ⟨hbehind, hahead, fun i hi => ?_⟩
    simpa using Array.all_eq_true'.mp hall i hi
  intro rule hrule
  simp only [grammar, rules, List.mem_cons, List.not_mem_nil, or_false] at hrule
  rcases hrule with rfl | rfl | rfl
  · exact ⟨quoted, rfl, hplain _ rfl rfl (by decide +kernel)⟩
  · exact ⟨comment, rfl, hplain _ rfl rfl (by decide +kernel)⟩
  · exact ⟨mark, rfl, hplain _ rfl rfl (by decide +kernel)⟩

/-- The run `d#e` is left untyped, although the second rule matches in it. -/
theorem not_exhausts : ¬ grammar.Exhausts "z\"a\"b#c\"d#e" := by
  intro hall
  obtain ⟨run, hrun⟩ : ∃ run, .run ⟨8, 11⟩ run ∈ grammar.tokenize "z\"a\"b#c\"d#e" :=
    exists_run_of_any (by decide +kernel)
  have hmatch : (comment.findIn? "z\"a\"b#c\"d#e" ⟨8, 11⟩).isSome = true := by decide +kernel
  have hrule : ⟨"comment", [comment]⟩ ∈ grammar.rules := by simp [grammar, rules]
  rw [hall _ run hrun _ hrule _ (List.mem_singleton_self _)] at hmatch
  cases hmatch

end Overrun

/-- With one plain pattern to a rule, whatever match is left in untyped text begins where a rescan that
its pattern took part in has set text free behind its own limit. -/
theorem escapes_of_findIn {g : Grammar} (hg : PlainRules g.rules) {text run : String} {span : Span}
    {rule : Rule} {p : Pattern} {m : Match} (hrun : .run span run ∈ g.tokenize text)
    (hrule : rule ∈ g.rules) (hp : p ∈ rule.patterns) (hm : p.findIn? text span = some m) :
    Stage.Escapes p (g.startStage text.toList) (Text.charsBehind text.toList m.token.start) := by
  obtain ⟨q, hsingle, hq⟩ := hg rule hrule
  have hpq : p = q := by
    rw [hsingle] at hp
    exact List.mem_singleton.mp hp
  exact escapes_of_missed hg hrule hp (missed_of_findIn (hpq ▸ hq) hrun hm)

/-- So no match is left in untyped text exactly if none begins in such text. -/
theorem exhausts_iff_not_overruns {g : Grammar} (hg : PlainRules g.rules) (text : String) :
    g.Exhausts text ↔ ¬ g.Overruns text := by
  constructor
  · rintro hall ⟨span, run, rule, p, m, hrun, hrule, hp, hm, -⟩
    rw [hall span run hrun rule hrule p hp] at hm
    cases hm
  · intro hnone span run hrun rule hrule p hp
    rw [Option.eq_none_iff_forall_ne_some]
    intro m hm
    exact hnone ⟨span, run, rule, p, m, hrun, hrule, hp, hm, escapes_of_findIn hg hrun hrule hp hm⟩

/-- There is such a text and such a grammar. -/
theorem overruns_grammar : PlainRules Overrun.grammar.rules ∧
    Overrun.grammar.Overruns "z\"a\"b#c\"d#e" := by
  refine ⟨Overrun.plainRules, Classical.byContradiction fun hnone => ?_⟩
  exact Overrun.not_exhausts ((exhausts_iff_not_overruns Overrun.plainRules _).mpr hnone)

/-- So a grammar with one plain pattern to a rule need not type every match. -/
theorem not_forall_exhausts :
    ¬ ∀ g : Grammar, PlainRules g.rules → ∀ text, g.Exhausts text := fun hall =>
  Overrun.not_exhausts (hall _ Overrun.plainRules _)

/-- With steady patterns only, no untyped run of the tokens of a text holds a match of any alternative of
any rule. -/
theorem exhausts_of_steady (g : Grammar) (text : String) (hg : SteadyRules g.rules text) :
    g.Exhausts text := by
  intro span run hrun rule hrule p hp
  rw [tokenize, nodesAt_eq] at hrun
  obtain ⟨a, t, b, hps, -, rfl⟩ := Piece.mem_toNodes_run hrun
  have hreversed : SteadyRules g.rules.reverse text := fun r hr => hg r (List.mem_reverse.mp hr)
  have hpass : InPass text text.toList.length none 0 (Piece.ofFree text.toList) := by
    have hspell := Piece.spell_ofFree text.toList
    exact ⟨Piece.solid_ofFree _, Piece.parted_ofFree _, hspell.symm ▸ List.infix_rfl,
      Nat.le_of_eq (congrArg List.length hspell), nofun⟩
  have hquiet := applyRules_quiet hreversed (List.mem_reverse.mpr hrule) hp none hpass
  rw [← divide, hps] at hquiet
  have hpart : Text.IsPart text.toList ⟨Text.byteLength (Piece.spell a),
      Text.byteLength (Piece.spell a) + Text.byteLength t⟩ t := by
    refine ⟨Piece.spell a, Piece.spell b, ?_, rfl⟩
    rw [← g.spell_divide text.toList, hps]
    simp
  rw [Nat.zero_add, p.findIn?_part hpart, Option.map_eq_none_iff, Option.eq_none_iff_forall_ne_some]
  intro hit hs
  have hlate := hquiet.of_append.1 hit hs
  have hlt := PatternWith.raw_start_lt_of_search hs
  omega

namespace Overrun

/-- The rules of `grammar`, with patterns that keep to free runs. -/
def tame : Grammar :=
  .mk "tame" (grammar.rules.map fun rule =>
    { rule with patterns := rule.patterns.map fun p => { p with greedy := false } })

theorem steady_tame (text : String) : SteadyRules tame.rules text := by
  intro rule hrule p hp
  obtain ⟨greedyRule, hgreedyRule, rfl⟩ := List.mem_map.mp hrule
  obtain ⟨q, hq, rfl⟩ := List.mem_map.mp hp
  obtain ⟨single, hsingle, hplain⟩ := plainRules greedyRule hgreedyRule
  rw [hsingle] at hq
  obtain rfl := List.mem_singleton.mp hq
  have htame : PatternWith.Plain { q with greedy := false } :=
    ⟨hplain.lookbehind, hplain.lookahead, hplain.unconditional⟩
  exact ⟨rfl, htame.lookbehind, htame.stable text⟩

end Overrun

/-- So the grammar that misses a match does not if its patterns keep to free runs. -/
theorem exhausts_tame : SteadyRules Overrun.tame.rules "z\"a\"b#c\"d#e" ∧
    Overrun.tame.Exhausts "z\"a\"b#c\"d#e" :=
  ⟨Overrun.steady_tame _, exhausts_of_steady _ _ (Overrun.steady_tame _)⟩

end Grammar

end Highlight
