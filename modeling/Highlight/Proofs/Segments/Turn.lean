import Highlight.Proofs.Division.Cleared
import Highlight.Proofs.Grammar.Leftward
import Highlight.Proofs.Segments.Dissolve

/-!
# The turn of a greedy pattern is complete

A greedy pattern that runs over all segments, without a limit, leaves no match behind that begins in an
untyped run, not even one that extends over tokens. This is so for the segments of any call that the
division of a span comes to, and includes all that earlier rules do to the segments meanwhile: a run in
place is a sweep over the pieces, and such a sweep clears them.
-/

namespace Highlight

open Piece (spell Cleared)
open Segment Checked

/-- Where pieces are cleared, a search that begins in one of their free runs finds nothing before the next
character. -/
theorem Piece.Cleared.tryMatch?_behind {p : Pattern} {ps : List Piece} (h : Cleared p ps)
    (hleft : p.regex.IgnoresLeft) {a b : List Piece} {t : List Char} (hps : ps = a ++ .free t :: b)
    {q : Nat} (hstart : Text.byteLength (spell a) ≤ q)
    (hstop : q < Text.byteLength (spell a) + Text.byteLength t) {m : Match}
    (hm : p.tryMatch? (String.ofList (spell ps)) q = some m) : q < m.raw.start := by
  obtain ⟨place, hfirst⟩ := (p.tryMatch?_searchResult _ _).eq_some_iff.mp hm
  rw [(PatternWith.usable_of_usable? hfirst.here).raw_start]
  refine Nat.lt_of_le_of_ne hfirst.le ?_
  rintro rfl
  have hhere := hfirst.here
  have hspell : spell ps = spell a ++ (t ++ spell b) := by rw [hps]; simp
  rw [String.toList_ofList, hspell, PatternWith.usable?_none_of hstart] at hhere
  · cases hhere
  · intro mid back hcut hplace
    rw [hplace, Text.byteLength_append, Nat.add_lt_add_iff_left] at hstop
    have hlength := (Text.byteLength_lt_iff hcut.symm).mp hstop
    -- the place is within the run
    obtain ⟨y, rfl, rfl⟩ : ∃ y, t = mid ++ y ∧ back = y ++ spell b := by
      rcases List.append_eq_append_iff.mp hcut with ⟨y, rfl, -⟩ | ⟨y, rfl, hback⟩
      · rw [List.length_append] at hlength
        omega
      · exact ⟨y, rfl, hback⟩
    have hy : y ≠ [] := by
      rintro rfl
      rw [List.append_nil] at hlength
      exact Nat.lt_irrefl _ hlength
    exact (p.hitAt_eq_none_iff hleft _ _).mpr (h a mid y b hps hy)

/-- On pieces of the range laid out, a run of such a pattern from the first of them on leaves pieces of the
range laid out that are cleared. -/
theorem Scope.runPattern_cleared (sc : Scope) {earlier later : List Rule} {rule : Rule}
    (hrules : sc.grammar.rules = earlier.reverse ++ rule :: later) {p : Pattern}
    (hgreedy : p.greedy = true) (hbehind : p.lookbehind = none) (hleft : p.regex.IgnoresLeft)
    {ps : List Piece} (hpart : Text.IsPart sc.text sc.range (spell ps)) (hsolid : Piece.Solid ps) :
    ∃ swept, sc.runPattern earlier.length rule p none 0 (layOut sc.range.start ps) =
        pure (layOut sc.range.start swept) ∧
      Text.IsPart sc.text sc.range (spell swept) ∧ Cleared p swept := by
  have hkeeps := rescanWith_keeps earlier
  have hstands : Stands sc [] ps (spell ps).length none none none :=
    ⟨hpart, hsolid, Nat.le_refl _, rfl, .none⟩
  refine ⟨sweep (rescanWith earlier) rule.name p (spell ps).length none none ps, ?_, ?_, ?_⟩
  · exact runPattern_layOut (sc.makes rule p) hkeeps (rescans sc hrules) _ _ _ _ _ _ hstands
  · rw [sweep_spell hkeeps]
    exact hpart
  · exact sweep_cleared hkeeps hgreedy hbehind (p.hitAt_eq_none_iff hleft) _ none none ps hsolid
      (Nat.le_refl _) rfl

namespace Grammar

/-- Whatever segments the division of a span has come to, when a greedy pattern without a leading context,
whose matches do not depend on what stands to their left, has run over all of them without a limit, no
match of it begins in an untyped run: from any place there, its search of the whole span finds nothing
that begins at that place. -/
theorem greedy_turn_complete (g : Grammar) (text : String) (s : Span)
    (hs : Text.OnBoundaries text.toList s) {call : Call}
    (hcall : Scope.Reached ⟨text.toList, s, g⟩ call) {earlier later : List Rule} {rule : Rule}
    (hrules : g.rules = earlier ++ rule :: later) {p : Pattern} (hgreedy : p.greedy = true)
    (hbehind : p.lookbehind = none) (hleft : p.regex.IgnoresLeft) :
    ∃ items, Scope.runPattern ⟨text.toList, s, g⟩ earlier.length rule p none 0 call.items = pure items ∧
      ∀ run, .text run ∈ items → ∀ q, run.start ≤ q → q < run.stop →
        ∀ m, p.tryMatch? (String.ofList (Text.slice text.toList s)) (q - s.start) = some m →
          q - s.start < m.raw.start := by
  obtain ⟨ps, hitems, hpart, hsolid, -⟩ := Scope.reached_layOut hs.isPart hcall
  have hreversed : g.rules = earlier.reverse.reverse ++ rule :: later := by
    rw [List.reverse_reverse]
    exact hrules
  obtain ⟨swept, hrun, hswept, hcleared⟩ := Scope.runPattern_cleared ⟨text.toList, s, g⟩ hreversed
    hgreedy hbehind hleft hpart hsolid
  rw [List.length_reverse] at hrun
  rw [hitems]
  refine ⟨_, hrun, ?_⟩
  intro run hmem q hstart hstop m hm
  obtain ⟨a, piece, b, hcut, hpiece⟩ := mem_layOut hmem
  cases piece with
  | claimed c => cases hpiece
  | free t =>
    cases hpiece
    dsimp only at hstart hstop
    rw [hswept.slice_eq] at hm
    exact hcleared.tryMatch?_behind hleft hcut (by omega) (by omega) hm

/-- After the turn of the mark in `z"a"b`, no mark is left that begins in an untyped run. -/
theorem greedy_turn_complete_mark : ∃ call,
    Scope.Reached ⟨"z\"a\"b".toList, ⟨0, 5⟩, Overrun.grammar⟩ call ∧ 1 < call.items.length ∧
    Overrun.mark.regex.IgnoresLeft ∧
    ∃ items, Scope.runPattern ⟨"z\"a\"b".toList, ⟨0, 5⟩, Overrun.grammar⟩ 2
      ⟨"mark", [Overrun.mark]⟩ Overrun.mark none 0 call.items = pure items ∧
      ∀ run, .text run ∈ items → ∀ q, run.start ≤ q → q < run.stop →
        ∀ m, Overrun.mark.tryMatch? (String.ofList (Text.slice "z\"a\"b".toList ⟨0, 5⟩)) (q - 0) =
          some m → q - 0 < m.raw.start := by
  have hs : Text.OnBoundaries "z\"a\"b".toList ⟨0, 5⟩ := ⟨by decide, by decide +kernel, by decide +kernel⟩
  have hall : Overrun.mark.regex.program.code.all (fun i => !i.isCheck) = true := by decide +kernel
  have hleft : Overrun.mark.regex.IgnoresLeft :=
    Regex.ignoresLeft_of_unconditional fun i hi => by simpa using Array.all_eq_true'.mp hall i hi
  have hrules : Overrun.grammar.rules =
      [⟨"quoted", [Overrun.quoted]⟩, ⟨"comment", [Overrun.comment]⟩] ++ ⟨"mark", [Overrun.mark]⟩ :: [] := rfl
  have hreversed : Overrun.grammar.rules =
      [⟨"comment", [Overrun.comment]⟩, ⟨"quoted", [Overrun.quoted]⟩].reverse ++
        ⟨"mark", [Overrun.mark]⟩ :: [] := rfl
  have hpatterns : (⟨"mark", [Overrun.mark]⟩ : Rule).patterns = [] ++ Overrun.mark :: [] := rfl
  have hcall := Scope.reached_pattern ⟨"z\"a\"b".toList, ⟨0, 5⟩, Overrun.grammar⟩ (Text.isPart_all _)
    hreversed hpatterns
  refine ⟨_, hcall, ?_, hleft, ?_⟩
  · rw [Call.items, length_layOut]
    decide +kernel
  · exact Overrun.grammar.greedy_turn_complete "z\"a\"b" ⟨0, 5⟩ hs hcall hrules rfl rfl hleft

end Grammar

end Highlight
