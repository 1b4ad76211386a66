import Highlight.Proofs.Division.Spelling
import Highlight.Proofs.Text.Boundary
import Highlight.Proofs.Token.Nesting

/-!
# Nodes and their pieces

The nodes of a divided text stand for its pieces one by one, each at the byte where its piece lies.
So a node is known by its place among the pieces: what it covers, and which pattern has claimed it.
-/

namespace Highlight

namespace Piece

variable {inside : Pattern → Nat → List Char → List Node}

def toNode (inside : Pattern → Nat → List Char → List Node) (start : Nat) : Piece → Node
  | free t => .run ⟨start, start + Text.byteLength t⟩ (String.ofList t)
  | claimed c =>
    .token c.kind c.pattern.altKind ⟨start, start + Text.byteLength c.text⟩ (String.ofList c.text)
      (inside c.pattern start c.text)

theorem toNodes_cons (start : Nat) (p : Piece) (ps : List Piece) :
    toNodes inside start (p :: ps) =
      p.toNode inside start :: toNodes inside (start + Text.byteLength p.text) ps := by
  cases p <;> rfl

theorem toNodes_append (start : Nat) (a b : List Piece) :
    toNodes inside start (a ++ b) =
      toNodes inside start a ++ toNodes inside (start + Text.byteLength (spell a)) b := by
  induction a generalizing start with
  | nil => rfl
  | cons p a ih =>
    rw [List.cons_append, toNodes_cons, toNodes_cons, ih, spell_cons, Text.byteLength_append,
      Nat.add_assoc, List.cons_append]

@[simp] theorem length_toNodes (start : Nat) (ps : List Piece) :
    (toNodes inside start ps).length = ps.length := by
  induction ps generalizing start with
  | nil => rfl
  | cons p ps ih => rw [toNodes_cons, List.length_cons, ih, List.length_cons]

@[simp] theorem isToken_toNode (start : Nat) (p : Piece) :
    (p.toNode inside start).isToken = !p.isFree := by
  cases p <;> rfl

@[simp] theorem span_toNode (start : Nat) (p : Piece) :
    (p.toNode inside start).span = ⟨start, start + Text.byteLength p.text⟩ := by
  cases p <;> rfl

/-- The node with a piece in front of it lies behind that piece. -/
theorem toNodes_at (start : Nat) (a : List Piece) (p : Piece) (b : List Piece) :
    (toNodes inside start (a ++ p :: b))[a.length]? =
      some (p.toNode inside (start + Text.byteLength (spell a))) := by
  rw [toNodes_append, List.getElem?_append_right (by simp), length_toNodes, Nat.sub_self,
    toNodes_cons]
  rfl

/-- A node with its piece, by their common place. -/
theorem exists_of_toNodes {start i : Nat} {ps : List Piece} {n : Node}
    (h : (toNodes inside start ps)[i]? = some n) :
    ∃ a p b, ps = a ++ p :: b ∧ i = a.length ∧
      n = p.toNode inside (start + Text.byteLength (spell a)) := by
  have hi : i < ps.length := by
    have hlt := (List.getElem?_eq_some_iff.mp h).1
    rwa [length_toNodes] at hlt
  obtain ⟨a, p, b, rfl, rfl⟩ : ∃ a p b, ps = a ++ p :: b ∧ i = a.length :=
    ⟨ps.take i, ps[i], ps.drop (i + 1), by simp, by simp; omega⟩
  rw [toNodes_at] at h
  exact ⟨a, p, b, rfl, rfl, (Option.some.inj h).symm⟩

end Piece

namespace Grammar

variable {g : Grammar} {text : String} {s : Span}

/-- The nodes of a part of a text are those of its pieces. -/
theorem tokenizeRange_eq (g : Grammar) (text : String) (s : Span) :
    g.tokenizeRange text s =
      Piece.toNodes PatternWith.nodesInside s.start (g.divide (Text.slice text.toList s)) :=
  g.nodesAt_eq s.start (Text.slice text.toList s)

theorem tokenize_eq_tokenizeRange (g : Grammar) (text : String) :
    g.tokenize text = g.tokenizeRange text ⟨0, text.utf8ByteSize⟩ := by
  have hpart := Text.isPart_all text.toList
  rw [Text.byteLength_toList] at hpart
  rw [tokenizeRange, hpart.slice_eq]
  rfl

/-- A piece of a part of a text lies on boundaries of the text. -/
theorem isPart_piece {part : List Char} (hpart : Text.IsPart text.toList s part) {a b : List Piece}
    {p : Piece} (hps : g.divide part = a ++ p :: b) :
    Text.IsPart text.toList ⟨s.start + Text.byteLength (Piece.spell a),
      s.start + Text.byteLength (Piece.spell a) + Text.byteLength p.text⟩ p.text := by
  have hspell := g.spell_divide part
  rw [hps, Piece.spell_append, Piece.spell_cons, ← List.append_assoc] at hspell
  rw [← hspell] at hpart
  exact hpart.middle

end Grammar

end Highlight
