import Highlight.Proofs.Terminal.Parts
import Highlight.Proofs.Terminal.Screen
import Highlight.Proofs.Token.Locality
import Highlight.Proofs.Token.Preorder

/-!
# What a painted text looks like

A screen that reads a painted text shows its characters, each in the style of the innermost token
around it that the theme gives a style. `Theme.Shows` says so in terms of the ranges of the tokens and
the entries of the theme. Painting comes to it by handing styles down the tree, which is the same as
letting the ranges set their styles one after another, as `Theme.styleOver` does, because the ranges
are in pre-order.
-/

namespace Highlight

open StyledRange (applyAll Innermost Forest BehindOrInside)
open Text (byteLength)

namespace StyledRange

variable {rs : List StyledRange} {i : Nat}

theorem Innermost.unique {r r' : StyledRange} (h : Innermost rs i r) (h' : Innermost rs i r') :
    r = r' := by
  obtain ⟨hr, hcovers, hall⟩ := h
  obtain ⟨hr', hcovers', hall'⟩ := h'
  rcases hall r' hr' hcovers' with heq | ⟨-, hlt⟩
  · exact heq.symm
  · rcases hall' r hr hcovers with heq | ⟨-, hlt'⟩
    · exact heq
    · omega

end StyledRange

namespace Theme

variable {t : Theme} {around : Style} {rs : List StyledRange} {i : Nat}

/-- The style of a token in the theme: the entry of its other kind if there is one, else the entry of its
kind. A token may have neither. -/
inductive Gives (t : Theme) (kind : String) : Option String → Style → Prop where
  | altKind {other : String} {s : Style} (h : t.get? other = some s) : Gives t kind (some other) s
  | kind {altKind : Option String} {s : Style}
      (hnone : ∀ other, altKind = some other → t.get? other = none) (h : t.get? kind = some s) :
      Gives t kind altKind s

/-- The theme has a style for a range, and it is not the plain one. -/
def Styles (t : Theme) (r : StyledRange) (s : Style) : Prop :=
  t.Gives r.kind r.altKind s ∧ s ≠ .plain

/-- The byte at an offset has the style of the innermost range around it among those that the theme
gives a style, and is plain if there is none. -/
def Shows (t : Theme) (rs : List StyledRange) (i : Nat) (s : Style) : Prop :=
  (∃ r ∈ rs, r.Covers i ∧ t.Styles r s ∧
    ∀ r' ∈ rs, r'.Covers i → ∀ s', t.Styles r' s' →
      r' = r ∨ (r'.span.Encloses r.span ∧ r'.depth < r.depth)) ∨
  (s = .plain ∧ ∀ r ∈ rs, r.Covers i → ∀ s', ¬ t.Styles r s')

theorem gives_iff {kind : String} {altKind : Option String} {s : Style} :
    t.Gives kind altKind s ↔ (altKind.bind t.get?).or (t.get? kind) = some s := by
  constructor
  · rintro (h | ⟨hnone, h⟩)
    · rw [Option.bind_some, h, Option.some_or]
    · rw [Option.bind_eq_none_iff.mpr fun other hother => hnone other hother, Option.none_or, h]
  · intro h
    rcases Option.or_eq_some_iff.mp h with hother | ⟨hnone, hkind⟩
    · obtain ⟨other, rfl, hother⟩ := Option.bind_eq_some_iff.mp hother
      exact .altKind hother
    · exact .kind (fun other hother => Option.bind_eq_none_iff.mp hnone other hother) hkind

theorem styles_iff {r : StyledRange} {s : Style} :
    t.Styles r s ↔ s = t.styleForRange r ∧ s ≠ .plain := by
  rw [Styles, gives_iff, styleForRange, styleFor]
  refine and_congr_left fun hs => ?_
  cases (r.altKind.bind t.get?).or (t.get? r.kind) with
  | none => simpa using hs
  | some found => simp [eq_comm]

def styled (t : Theme) (rs : List StyledRange) : List StyledRange :=
  rs.filter fun r => !(t.styleForRange r).isPlain

theorem mem_styled {r : StyledRange} : r ∈ t.styled rs ↔ r ∈ rs ∧ ∃ s, t.Styles r s := by
  simp [styled, Style.isPlain, styles_iff]

theorem innermost_styled {r : StyledRange} {s : Style} (hr : r ∈ rs) (hcovers : r.Covers i)
    (hs : t.Styles r s)
    (hall : ∀ r' ∈ rs, r'.Covers i → ∀ s', t.Styles r' s' →
      r' = r ∨ (r'.span.Encloses r.span ∧ r'.depth < r.depth)) :
    Innermost (t.styled rs) i r := by
  refine ⟨mem_styled.mpr ⟨hr, s, hs⟩, hcovers, ?_⟩
  intro r' hr' hcovers'
  obtain ⟨hr', s', hs'⟩ := mem_styled.mp hr'
  exact hall r' hr' hcovers' s' hs'

/-- The style of the byte at an offset once the ranges have set theirs one after another. -/
def styleOver (t : Theme) (around : Style) (rs : List StyledRange) (i : Nat) : Style :=
  rs.foldl (fun s r => if r.Covers i then t.styleWithin s r.kind r.altKind else s) around

theorem styleOver_append (a b : List StyledRange) :
    t.styleOver around (a ++ b) i = t.styleOver (t.styleOver around a i) b i :=
  List.foldl_append

theorem styleOver_of_not_covers (h : ∀ r ∈ rs, ¬ r.Covers i) : t.styleOver around rs i = around := by
  induction rs with
  | nil => rfl
  | cons r rs ih =>
    rw [styleOver, List.foldl_cons, if_neg (h r (List.mem_cons_self ..))]
    exact ih fun r hr => h r (List.mem_cons_of_mem _ hr)

/-- Setting styles one after another leaves that of the last styled range. -/
theorem styleOver_eq_applyAll :
    t.styleOver around rs i = ((applyAll (t.styled rs) i).map t.styleForRange).getD around := by
  induction rs using List.reverseRecOn with
  | nil => rfl
  | append_singleton rs r ih =>
    have hset : t.styleOver around (rs ++ [r]) i =
        if r.Covers i then t.styleWithin (t.styleOver around rs i) r.kind r.altKind
        else t.styleOver around rs i := by
      rw [styleOver_append]
      rfl
    have hstyled : t.styled (rs ++ [r]) =
        t.styled rs ++ if (t.styleForRange r).isPlain then [] else [r] := by
      rw [styled, List.filter_append]
      cases hplain : (t.styleForRange r).isPlain <;> simp [hplain, styled]
    -- a range without a style is passed over on both sides
    rw [hset, hstyled, styleWithin, ih, ← styleForRange]
    cases hplain : (t.styleForRange r).isPlain with
    | true => simp
    | false =>
      simp only [Bool.false_eq_true, if_false, StyledRange.applyAll_concat]
      by_cases hcovers : r.Covers i
      · simp [hcovers]
      · simp [hcovers]

/-- Where ranges are nested and in pre-order, setting styles one after another leaves the style that
shows. -/
theorem shows_iff (h : rs.Pairwise BehindOrInside) (s : Style) :
    t.Shows rs i s ↔ s = t.styleOver .plain rs i := by
  rw [styleOver_eq_applyAll]
  have hstyled : (t.styled rs).Pairwise BehindOrInside := h.filter _
  rcases StyledRange.applyAll_innermost hstyled i with ⟨hnone, hall⟩ | ⟨r, hr, hinner⟩
  · rw [hnone]
    constructor
    · rintro (⟨r, hr, hcovers, hs, -⟩ | ⟨hs, -⟩)
      · exact absurd hcovers (hall r (mem_styled.mpr ⟨hr, s, hs⟩))
      · exact hs
    · intro hs
      refine .inr ⟨hs, ?_⟩
      intro r hr hcovers s' hs'
      exact hall r (mem_styled.mpr ⟨hr, s', hs'⟩) hcovers
  · rw [hr]
    obtain ⟨hmem, hcovers, hinside⟩ := hinner
    obtain ⟨hrs, own, hown⟩ := mem_styled.mp hmem
    obtain rfl : own = t.styleForRange r := (styles_iff.mp hown).1
    constructor
    · rintro (⟨r', hr', hcovers', hs, hall⟩ | ⟨-, hall⟩)
      · rw [(innermost_styled hr' hcovers' hs hall).unique ⟨hmem, hcovers, hinside⟩] at hs
        exact (styles_iff.mp hs).1
      · exact absurd hown (hall r hrs hcovers _)
    · rintro rfl
      refine .inl ⟨r, hrs, hcovers, hown, ?_⟩
      intro r' hr' hcovers' s' hs'
      exact hinside r' (mem_styled.mpr ⟨hr', s', hs'⟩) hcovers'

end Theme

/-- Each character of a text that begins at byte `i` has a style that `P` allows at its byte. -/
def EachAt (P : Nat → Style → Prop) : (i : Nat) → List (Char × Style) → Prop
  | _, [] => True
  | i, (c, s) :: cells => P i s ∧ EachAt P (i + c.utf8Size) cells

namespace EachAt

variable {P Q : Nat → Style → Prop} {i : Nat} {a b : List (Char × Style)}

theorem append (ha : EachAt P i a) (hb : EachAt P (i + byteLength (a.map Prod.fst)) b) :
    EachAt P i (a ++ b) := by
  induction a generalizing i with
  | nil => exact hb
  | cons cell a ih =>
    refine ⟨ha.1, ih ha.2 ?_⟩
    rwa [List.map_cons, Text.byteLength_cons, ← Nat.add_assoc] at hb

theorem imp (ha : EachAt P i a)
    (h : ∀ j s, i ≤ j → j < i + byteLength (a.map Prod.fst) → P j s → Q j s) : EachAt Q i a := by
  induction a generalizing i with
  | nil => trivial
  | cons cell a ih =>
    have hc := cell.1.utf8Size_pos
    rw [List.map_cons, Text.byteLength_cons] at h
    refine ⟨h i _ (Nat.le_refl i) (by omega) ha.1, ih ha.2 ?_⟩
    intro j s hj hlt
    exact h j s (by omega) (by omega)

theorem at_split {c : Char} {s : Style} (h : EachAt P i (a ++ (c, s) :: b)) :
    P (i + byteLength (a.map Prod.fst)) s := by
  induction a generalizing i with
  | nil => exact h.1
  | cons cell a ih =>
    have hrest := ih h.2
    rwa [Nat.add_assoc, ← Text.byteLength_cons, ← List.map_cons] at hrest

theorem of_text {text : List Char} {s : Style}
    (h : ∀ j, i ≤ j → j < i + byteLength text → P j s) : EachAt P i (text.map (·, s)) := by
  induction text generalizing i with
  | nil => trivial
  | cons c text ih =>
    have hc := c.utf8Size_pos
    rw [Text.byteLength_cons] at h
    refine ⟨h i (Nat.le_refl i) (by omega), ih ?_⟩
    intro j hj hlt
    exact h j (by omega) (by omega)

end EachAt

namespace Paint

/-- The characters of parts, each with the style of its part. -/
def cells (parts : List (Style × String)) : List (Char × Style) :=
  parts.flatMap fun (s, text) => text.toList.map (·, s)

theorem cells_cons (s : Style) (text : String) (parts : List (Style × String)) :
    cells ((s, text) :: parts) = text.toList.map (·, s) ++ cells parts := rfl

theorem cells_append (a b : List (Style × String)) : cells (a ++ b) = cells a ++ cells b :=
  List.flatMap_append

theorem chars_cells (parts : List (Style × String)) :
    (cells parts).map Prod.fst = (String.join (parts.map Prod.snd)).toList := by
  induction parts with
  | nil => rfl
  | cons part parts ih =>
    rw [cells_cons, List.map_append, ih, List.map_cons, String.join_cons, String.toList_append]
    simp [Function.comp_def]

end Paint

namespace Theme

variable {t : Theme} {around : Style} {front behind : List StyledRange} {i stop : Nat}
  {a b : List (Char × Style)}

/-- Cells side by side, with ranges that stay on either side of the byte where the cells meet. -/
theorem eachAt_append (ha : EachAt (fun i s => s = t.styleOver around front i) i a)
    (hb : EachAt (fun i s => s = t.styleOver around behind i) stop b)
    (hstop : i + byteLength (a.map Prod.fst) = stop)
    (hfront : ∀ r ∈ front, r.span.stop ≤ stop) (hbehind : ∀ r ∈ behind, stop ≤ r.span.start) :
    EachAt (fun i s => s = t.styleOver around (front ++ behind) i) i (a ++ b) := by
  refine EachAt.append (ha.imp ?_) ?_
  · intro j s _ hj hs
    have hnone : ∀ r ∈ behind, ¬ r.Covers j := by
      rintro r hr ⟨hcovers, -⟩
      have hstart := hbehind r hr
      omega
    rw [hs, styleOver_append, styleOver_of_not_covers hnone]
  · rw [hstop]
    refine hb.imp ?_
    intro j s hj _ hs
    have hnone : ∀ r ∈ front, ¬ r.Covers j := by
      rintro r hr ⟨-, hcovers⟩
      have hbound := hfront r hr
      omega
    rw [hs, styleOver_append, styleOver_of_not_covers hnone]

/-- Inside a range its style is around the ranges that follow. -/
theorem styleOver_cons_covers (r : StyledRange) (h : r.Covers i) (rs : List StyledRange) :
    t.styleOver around (r :: rs) i = t.styleOver (t.styleWithin around r.kind r.altKind) rs i := by
  rw [styleOver, List.foldl_cons, if_pos h]
  rfl

end Theme

namespace Node

open Paint (cells)

/-- The cells of nodes that tile have the styles that the ranges of the nodes set. -/
theorem eachAt_cells {whole : List Char} (t : Theme) :
    ∀ (around : Style) (depth start stop : Nat) (ns : List Node), TilesThrough whole start stop ns →
      EachAt (fun i s => s = t.styleOver around (flattenFrom depth ns) i) start
        (cells (styledPartsOf t around ns))
  | _, _, _, _, [], _ => trivial
  | around, depth, start, stop, .run span text :: ns, h => by
    have hrest := eachAt_cells t around depth span.stop stop ns h.tail
    have hbehind := (forest_flattenFrom depth span.stop stop ns h.tail).bounds
    obtain rfl : span.start = start := h.1.1
    have hchars : span.start + byteLength text.toList = span.stop :=
      (congrArg Span.stop h.1.2.2.1.eq_mk).symm
    have hown : EachAt (fun i s => s = t.styleOver around [] i) span.start
        (text.toList.map (·, around)) := EachAt.of_text fun _ _ _ => rfl
    have hranges : flattenFrom depth (.run span text :: ns) = [] ++ flattenFrom depth ns := rfl
    rw [hranges, styledPartsOf_run, Paint.cells_cons]
    refine Theme.eachAt_append hown hrest ?_ (by simp) fun r hr => (hbehind r hr).2.1
    simp only [List.map_map, Function.comp_def, List.map_id']
    exact hchars
  | around, depth, start, stop, .token kind altKind span text children :: ns, h => by
    have hrest := eachAt_cells t around depth span.stop stop ns h.tail
    have hbehind := (forest_flattenFrom depth span.stop stop ns h.tail).bounds
    have hinside : children ≠ [] → TilesThrough whole span.start span.stop children := h.inside
    have htext : children ≠ [] → concat children = text := fun hne => (h.filled hne).2
    obtain rfl : span.start = start := h.1.1
    have hchars : span.start + byteLength text.toList = span.stop :=
      (congrArg Span.stop h.1.2.2.1.eq_mk).symm
    have hranges : flattenFrom depth (.token kind altKind span text children :: ns) =
        (⟨span, kind, altKind, depth⟩ :: flattenFrom (depth + 1) children) ++ flattenFrom depth ns :=
      rfl
    rw [hranges]
    by_cases hnil : children = []
    · -- the token's own text is a part
      subst hnil
      rw [styledPartsOf_leaf, Paint.cells_cons]
      refine Theme.eachAt_append (EachAt.of_text ?_) hrest ?_ ?_ fun r hr => (hbehind r hr).2.1
      · intro j hj hlt
        rw [hchars] at hlt
        exact (Theme.styleOver_cons_covers ⟨span, kind, altKind, depth⟩ ⟨hj, hlt⟩ []).symm
      · simp only [List.map_map, Function.comp_def, List.map_id']
        exact hchars
      · intro r hr
        rw [List.mem_singleton.mp hr]
    · -- the parts are those of the nodes inside, which have the token's style around them
      have hinner := eachAt_cells t (t.styleWithin around kind altKind) (depth + 1) span.start
        span.stop children (hinside hnil)
      have hbounds := (forest_flattenFrom (depth + 1) span.start span.stop children
        (hinside hnil)).bounds
      have hlength : span.start + byteLength
          ((cells (styledPartsOf t (t.styleWithin around kind altKind) children)).map Prod.fst) =
          span.stop := by
        rw [Paint.chars_cells, join_styledPartsOf t _ span.start span.stop children (hinside hnil),
          htext hnil]
        exact hchars
      rw [styledPartsOf_token hnil, Paint.cells_append]
      refine Theme.eachAt_append (hinner.imp ?_) hrest hlength ?_ fun r hr => (hbehind r hr).2.1
      · intro j s hj hlt hs
        rw [hlength] at hlt
        rw [hs]
        exact (Theme.styleOver_cons_covers ⟨span, kind, altKind, depth⟩ ⟨hj, hlt⟩ _).symm
      · intro r hr
        rcases List.mem_cons.mp hr with rfl | hr
        · exact Nat.le_refl _
        · exact (hbounds r hr).2.2.2

end Node

namespace Paint

def written (parts : List (Style × String)) : String :=
  String.join (parts.map fun (s, text) => part true s text)

/-- A screen shows parts in their styles and is as it was behind each of them. -/
theorem read?_written {parts : List (Style × String)} {shown : List (Char × Style)}
    (h : ∀ p ∈ parts, '\x1b' ∉ p.2.toList) :
    Screen.read? ⟨.plain, .text, shown⟩ (written parts).toList =
      some ⟨.plain, .text, shown ++ cells parts⟩ := by
  induction parts generalizing shown with
  | nil => simp [written, cells]
  | cons p parts ih =>
    obtain ⟨hp, hparts⟩ := List.forall_mem_cons.mp h
    rw [written, List.map_cons, String.join_cons, String.toList_append, Screen.read?_append,
      Screen.read?_part hp, Option.bind_some]
    refine (ih hparts).trans ?_
    rw [List.append_assoc]
    rfl

end Paint

namespace Grammar

open Node Paint Screen

/-- A screen that reads a painted text shows the characters of the text, each in the style of the
innermost token around it that has one, and is reset behind each part that is written. -/
theorem shows_paint (g : Grammar) (theme : Theme) (text : String) (h : '\x1b' ∉ text.toList) :
    ∃ shown, read? {} (Paint.nodes theme true (g.tokenize text)).toList = some { shown := shown } ∧
      shown.map Prod.fst = text.toList ∧
      (∀ front c s back, shown = front ++ (c, s) :: back → ∀ s',
        theme.Shows (flatten (g.tokenize text)) (byteLength (front.map Prod.fst)) s' ↔ s' = s) ∧
      ∀ before after, styledPartsOf theme .plain (g.tokenize text) = before ++ after →
        Paint.nodes theme true (g.tokenize text) = written before ++ written after ∧
        ∃ cells, read? {} (written before).toList = some { shown := cells } ∧ cells <+: shown := by
  have htiles := g.tilesThrough_tokenize text
  have hchars : (cells (styledPartsOf theme .plain (g.tokenize text))).map Prod.fst = text.toList := by
    rw [chars_cells, g.join_styledParts]
  have hplain : ∀ p ∈ styledPartsOf theme .plain (g.tokenize text), '\x1b' ∉ p.2.toList := by
    intro p hp hescape
    refine h (hchars ▸ List.mem_map.mpr ⟨('\x1b', p.1), ?_, rfl⟩)
    exact List.mem_flatMap.mpr ⟨p, hp, List.mem_map.mpr ⟨'\x1b', hescape, rfl⟩⟩
  refine ⟨cells (styledPartsOf theme .plain (g.tokenize text)), read?_written hplain, hchars, ?_, ?_⟩
  · intro front c s back hsplit s'
    have hcells := eachAt_cells theme .plain 0 0 text.utf8ByteSize _ htiles
    rw [hsplit] at hcells
    have hs := hcells.at_split
    rw [Nat.zero_add] at hs
    rw [hs]
    exact Theme.shows_iff (forest_flattenFrom 0 0 text.utf8ByteSize _ htiles).pairwise s'
  · intro before after hparts
    have hpaint : Paint.nodes theme true (g.tokenize text) = written before ++ written after := by
      rw [Paint.nodes, hparts, List.map_append, String.join_append]
      rfl
    rw [hparts] at hplain ⊢
    refine ⟨hpaint, cells before, read?_written fun p hp => hplain p (List.mem_append_left after hp), ?_⟩
    rw [cells_append]
    exact List.prefix_append _ _

namespace Blocks

/-- Blocks in green, and each `x` in red; the rest of a block has no style of its own. -/
def theme : Theme := ⟨[("block", .ofColor .green), ("x", .ofColor .red), ("tail", .plain)]⟩

end Blocks

/-- A block, in which the rest behind the first `x` takes the block's style. -/
theorem shows_paint_blocks :
    '\x1b' ∉ "[x x]".toList ∧
    ∃ shown, read? {} (Paint.nodes Blocks.theme true (Blocks.grammar.tokenize "[x x]")).toList =
        some { shown := shown } ∧ shown.map Prod.fst = ['[', 'x', ' ', 'x', ']'] ∧
      ∀ front c s back, shown = front ++ (c, s) :: back →
        Blocks.theme.Shows (flatten (Blocks.grammar.tokenize "[x x]"))
          (byteLength (front.map Prod.fst)) s := by
  have hplain : '\x1b' ∉ "[x x]".toList := by decide
  obtain ⟨shown, hread, hchars, hshows, -⟩ :=
    Blocks.grammar.shows_paint Blocks.theme "[x x]" hplain
  refine ⟨hplain, shown, hread, hchars, ?_⟩
  intro front c s back hsplit
  exact (hshows front c s back hsplit s).mpr rfl

example :
    (read? {} (Paint.nodes Blocks.theme true (Blocks.grammar.tokenize "[x x]")).toList).map (·.shown) =
      some [('[', .ofColor .green), ('x', .ofColor .red), (' ', .ofColor .green),
        ('x', .ofColor .green), (']', .ofColor .green)] := by
  decide +kernel

end Grammar

end Highlight
