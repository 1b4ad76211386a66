import Highlight.Proofs.Division.Spelling
import Highlight.Proofs.Token.Nesting
import Highlight.Proofs.Text.Part

/-!
# Token trees tile their text

`Node.Tiles` says that a list of nodes covers a span of bytes with no gap, no overlap and no empty
node, and that each node holds the text at its span. The nodes of a divided text do, since its
pieces spell it. The nodes inside a token do so for the span of the token, at every depth, because
they are nodes of the token's own text at the token's own offset.
-/

namespace Highlight

namespace Node

/-- The nodes cover the bytes of `text` from `start` to `stop`: each begins where the one before
it ends, holds the text at its span, and is not empty. -/
def Tiles (text : List Char) : (start stop : Nat) → List Node → Prop
  | start, stop, [] => start = stop
  | start, stop, n :: ns =>
    n.span.start = start ∧ start < n.span.stop ∧ Text.IsPart text n.span n.text.toList ∧
      Tiles text n.span.stop stop ns

/-- A node stands in a list of nodes, or inside one that does. -/
inductive Occurs (n : Node) : List Node → Prop where
  | here {ns : List Node} (h : n ∈ ns) : Occurs n ns
  | inside {parent : Node} {ns : List Node} (h : parent ∈ ns) (hn : Occurs n parent.children) :
      Occurs n ns

/-- The nodes inside a token, if there are any, tile its span and spell its text. -/
def Filled (text : List Char) (n : Node) : Prop :=
  n.children ≠ [] → Tiles text n.span.start n.span.stop n.children ∧ concat n.children = n.text

/-- The nodes tile a span, and so do the nodes inside them for their own spans, at every depth. -/
def TilesThrough (text : List Char) (start stop : Nat) (ns : List Node) : Prop :=
  Tiles text start stop ns ∧ ∀ n, Occurs n ns → Filled text n

/-- Nothing occurs in an empty list. -/
theorem not_occurs_nil {n : Node} : ¬ Occurs n [] := by
  intro h
  cases h with
  | here h => cases h
  | inside h _ => cases h

/-- Nodes that tile a span spell the text at that span. -/
theorem Tiles.isPart {text : List Char} {start stop : Nat} {ns : List Node}
    (h : Tiles text start stop ns) (hstart : Text.IsPart text ⟨start, start⟩ []) :
    Text.IsPart text ⟨start, stop⟩ (concat ns).toList := by
  rw [concat, String.toList_join, List.flatMap_map]
  induction ns generalizing start with
  | nil =>
    obtain rfl : start = stop := h
    exact hstart
  | cons n ns ih =>
    obtain ⟨rfl, -, hn, hrest⟩ := h
    rw [List.flatMap_cons]
    exact hn.append (ih hrest hn.stop)

/-- A tiling of a part spells that part. -/
theorem Tiles.concat_eq {text : List Char} {start stop : Nat} {ns : List Node} {part : String}
    (h : Tiles text start stop ns) (hpart : Text.IsPart text ⟨start, stop⟩ part.toList) :
    concat ns = part := by
  rw [← String.toList_inj]
  exact (h.isPart hpart.start).unique hpart

theorem TilesThrough.tail {text : List Char} {start stop : Nat} {n : Node} {ns : List Node}
    (h : TilesThrough text start stop (n :: ns)) : TilesThrough text n.span.stop stop ns := by
  obtain ⟨⟨-, -, -, hrest⟩, hfilled⟩ := h
  refine ⟨hrest, ?_⟩
  intro m hm
  apply hfilled
  cases hm with
  | here hm => exact .here (List.mem_cons_of_mem n hm)
  | inside hp hm => exact .inside (List.mem_cons_of_mem n hp) hm

theorem TilesThrough.filled {text : List Char} {start stop : Nat} {n : Node} {ns : List Node}
    (h : TilesThrough text start stop (n :: ns)) : Filled text n :=
  h.2 n (.here (List.mem_cons_self ..))

theorem TilesThrough.inside {text : List Char} {start stop : Nat} {n : Node} {ns : List Node}
    (h : TilesThrough text start stop (n :: ns)) (hne : n.children ≠ []) :
    TilesThrough text n.span.start n.span.stop n.children := by
  refine ⟨(h.filled hne).1, ?_⟩
  intro m hm
  exact h.2 m (.inside (List.mem_cons_self ..) hm)

end Node

namespace Piece

variable (inside : Pattern → Nat → List Char → List Node)

/-- The nodes of pieces tile the span where the pieces lie. -/
theorem tiles_toNodes (front back : List Char) {ps : List Piece} (hsolid : Solid ps) :
    Node.Tiles (front ++ spell ps ++ back) (Text.byteLength front)
      (Text.byteLength front + Text.byteLength (spell ps))
      (toNodes inside (Text.byteLength front) ps) := by
  induction ps generalizing front with
  | nil => simp [toNodes, Node.Tiles]
  | cons p ps ih =>
    obtain ⟨hp, hps⟩ := solid_cons.mp hsolid
    have hpos := Text.byteLength_pos hp
    have htext : front ++ spell (p :: ps) ++ back = (front ++ p.text) ++ spell ps ++ back := by simp
    have hstop : Text.byteLength front + Text.byteLength (spell (p :: ps)) =
        Text.byteLength (front ++ p.text) + Text.byteLength (spell ps) := by
      rw [spell_cons, Text.byteLength_append, Text.byteLength_append]
      omega
    have hrest := ih (front ++ p.text) hps
    have hpart : Text.IsPart ((front ++ p.text) ++ spell ps ++ back)
        ⟨Text.byteLength front, Text.byteLength front + Text.byteLength p.text⟩ p.text :=
      ⟨front, spell ps ++ back, by simp, rfl⟩
    rw [htext, hstop]
    rw [Text.byteLength_append] at hrest ⊢
    cases p with
    | free t =>
      refine ⟨rfl, Nat.lt_add_of_pos_right hpos, ?_, hrest⟩
      rw [Node.text, String.toList_ofList]
      exact hpart
    | claimed c =>
      refine ⟨rfl, Nat.lt_add_of_pos_right hpos, ?_, hrest⟩
      rw [Node.text, String.toList_ofList]
      exact hpart

variable {inside} in
/-- A node of pieces is a run without nodes inside, or the token of a claimed piece. -/
theorem mem_toNodes {ps : List Piece} {start : Nat} {n : Node}
    (h : n ∈ toNodes inside start ps) :
    n.children = [] ∨ ∃ a c b, ps = a ++ .claimed c :: b ∧
      n = .token c.kind c.pattern.altKind
        ⟨start + Text.byteLength (spell a), start + Text.byteLength (spell a) + Text.byteLength c.text⟩
        (String.ofList c.text) (inside c.pattern (start + Text.byteLength (spell a)) c.text) := by
  induction ps generalizing start n with
  | nil => simp [toNodes] at h
  | cons p ps ih =>
    -- a node of the tail lies behind the text of `p`
    have htail : ∀ m, m ∈ toNodes inside (start + Text.byteLength p.text) ps →
        m.children = [] ∨ ∃ a c b, p :: ps = a ++ .claimed c :: b ∧
          m = .token c.kind c.pattern.altKind
            ⟨start + Text.byteLength (spell a),
              start + Text.byteLength (spell a) + Text.byteLength c.text⟩
            (String.ofList c.text)
            (inside c.pattern (start + Text.byteLength (spell a)) c.text) := by
      intro m hm
      refine (ih hm).imp id ?_
      rintro ⟨a, c, b, rfl, rfl⟩
      exact ⟨p :: a, c, b, rfl, by simp [Nat.add_assoc]⟩
    cases p with
    | free t =>
      rw [toNodes] at h
      rcases List.mem_cons.mp h with rfl | h
      · exact .inl rfl
      · exact htail n h
    | claimed c =>
      rw [toNodes] at h
      rcases List.mem_cons.mp h with rfl | h
      · exact .inr ⟨[], c, ps, rfl, by simp⟩
      · exact htail n h

end Piece

namespace Grammar

open Node

/-- The nodes of a text that is part of a larger one tile its span. -/
theorem tiles_nodesWithin (depth : Nat) (g : Grammar) (front back text : List Char) :
    Tiles (front ++ text ++ back) (Text.byteLength front)
      (Text.byteLength front + Text.byteLength text)
      (g.nodesWithin (depth + 1) (Text.byteLength front) text) := by
  have h : ∀ inside, Tiles (front ++ text ++ back) (Text.byteLength front)
      (Text.byteLength front + Text.byteLength text)
      (Piece.toNodes inside (Text.byteLength front) (g.divide text)) := by
    intro inside
    have htiles := Piece.tiles_toNodes inside front back (g.solid_divide text)
    rwa [g.spell_divide] at htiles
  rw [nodesWithin]
  exact h _

/-- The nodes inside a token are those of some grammar for the token's own text, at the place
where the token lies in the whole text. -/
theorem children_nodesWithin {depth : Nat} {g : Grammar} {front text : List Char} {n : Node}
    (back : List Char) (h : n ∈ g.nodesWithin (depth + 1) (Text.byteLength front) text)
    (hne : n.children ≠ []) :
    ∃ inner front' back', front ++ text ++ back = front' ++ n.text.toList ++ back' ∧
      n.span = ⟨Text.byteLength front', Text.byteLength front' + Text.byteLength n.text.toList⟩ ∧
      n.children = nodesWithin depth inner (Text.byteLength front') n.text.toList := by
  rw [nodesWithin] at h
  rcases Piece.mem_toNodes h with hnil | ⟨a, c, b, hps, rfl⟩
  · exact absurd hnil hne
  · have htext := g.spell_divide text
    rw [hps] at htext
    rw [← Text.byteLength_append] at hne ⊢
    dsimp only [children, span, Node.text] at hne ⊢
    rw [String.toList_ofList]
    cases hinside : c.pattern.inside with
    | none =>
      rw [hinside] at hne
      exact absurd rfl hne
    | some inner =>
      refine ⟨inner, front ++ Piece.spell a, Piece.spell b ++ back, ?_, rfl, rfl⟩
      rw [← htext]
      simp

/-- Inside a token of any depth the nodes tile the token's span and spell its text. -/
theorem filled_nodesWithin (depth : Nat) :
    ∀ (g : Grammar) (front back text : List Char) (n : Node),
      Occurs n (g.nodesWithin depth (Text.byteLength front) text) →
      n.Filled (front ++ text ++ back) := by
  induction depth with
  | zero =>
    intro g front back text n hn
    exact absurd hn not_occurs_nil
  | succ depth ih =>
    intro g front back text n hn
    cases hn with
    | here h =>
      intro hne
      obtain ⟨inner, front', back', htext, hspan, hchildren⟩ :=
        children_nodesWithin back h hne
      rw [htext, hspan]
      cases depth with
      | zero => exact absurd hchildren hne
      | succ depth =>
        have htiles : Tiles (front' ++ n.text.toList ++ back') (Text.byteLength front')
            (Text.byteLength front' + Text.byteLength n.text.toList) n.children := by
          rw [hchildren]
          exact tiles_nodesWithin depth inner front' back' _
        exact ⟨htiles, htiles.concat_eq ⟨front', back', rfl, rfl⟩⟩
    | @inside parent _ h hn =>
      have hne : parent.children ≠ [] := by
        intro hnil
        rw [hnil] at hn
        exact not_occurs_nil hn
      obtain ⟨inner, front', back', htext, -, hchildren⟩ :=
        children_nodesWithin back h hne
      rw [hchildren] at hn
      rw [htext]
      exact ih inner front' back' _ n hn

theorem tilesThrough_tokenize (g : Grammar) (text : String) :
    TilesThrough text.toList 0 text.utf8ByteSize (g.tokenize text) := by
  obtain ⟨depth, hdepth⟩ : ∃ depth, g.nesting = depth + 1 :=
    ⟨g.nesting - 1, by have := g.nesting_pos; omega⟩
  constructor
  · have h := tiles_nodesWithin depth g [] [] text.toList
    rwa [List.nil_append, List.append_nil, Text.byteLength_nil, Nat.zero_add,
      Text.byteLength_toList, ← hdepth] at h
  · intro n hn
    have h := filled_nodesWithin g.nesting g [] [] text.toList n hn
    rwa [List.nil_append, List.append_nil] at h

theorem concat_tokenize (g : Grammar) (text : String) : concat (g.tokenize text) = text := by
  have hpart := Text.isPart_all text.toList
  rw [Text.byteLength_toList] at hpart
  exact (g.tilesThrough_tokenize text).1.concat_eq hpart

/-- The tokens and runs of a text tile it without gap or overlap, and so do the nodes inside a
token for the token's own span, at every depth. So each list of nodes spells its text. -/
theorem tokenize_tiles (g : Grammar) (text : String) :
    Tiles text.toList 0 text.utf8ByteSize (g.tokenize text) ∧
      concat (g.tokenize text) = text ∧
      ∀ n, Occurs n (g.tokenize text) → n.children ≠ [] →
        Tiles text.toList n.span.start n.span.stop n.children ∧ concat n.children = n.text := by
  obtain ⟨htiles, hfilled⟩ := g.tilesThrough_tokenize text
  refine ⟨htiles, g.concat_tokenize text, ?_⟩
  intro n hn hchildren
  exact hfilled n hn hchildren

end Grammar

end Highlight
