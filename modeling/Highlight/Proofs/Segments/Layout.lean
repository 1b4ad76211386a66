import Highlight.Proofs.Segments.Search
import Highlight.Proofs.Division.Pieces
import Highlight.Proofs.Text.Part
import Highlight.Proofs.Token.Nesting

/-!
# Pieces as segments

Laid out from a byte offset, pieces become segments with spans. All operations on segments are
followed on such layouts: looking up, replacing, finding the segment that holds a position, and
absorbing the segments that a match touches. None of them fails there, and each does what the
operation of the same name does to pieces.
-/

namespace Highlight

open Piece (spell Solid)

namespace Segment

/-- The segment of a piece that lies at byte `start`. -/
def ofPiece (start : Nat) : Piece → Segment
  | .free t => .text ⟨start, start + Text.byteLength t⟩
  | .claimed c =>
    .token (.token c.kind c.pattern.altKind ⟨start, start + Text.byteLength c.text⟩
      (String.ofList c.text) (c.pattern.nodesInside start c.text)) c.pattern.greedy

def layOut : (start : Nat) → List Piece → List Segment
  | _, [] => []
  | start, p :: ps => ofPiece start p :: layOut (start + Text.byteLength p.text) ps

@[simp] theorem span_ofPiece (start : Nat) (p : Piece) :
    (ofPiece start p).span = ⟨start, start + Text.byteLength p.text⟩ := by
  cases p <;> rfl

@[simp] theorem isText_ofPiece (start : Nat) (p : Piece) :
    (ofPiece start p).isText = p.isFree := by
  cases p <;> rfl

@[simp] theorem isGreedyToken_ofPiece (start : Nat) (p : Piece) :
    (ofPiece start p).isGreedyToken = p.isGreedy := by
  cases p <;> rfl

@[simp] theorem layOut_nil (start : Nat) : layOut start [] = [] := rfl

@[simp] theorem layOut_cons (start : Nat) (p : Piece) (ps : List Piece) :
    layOut start (p :: ps) = ofPiece start p :: layOut (start + Text.byteLength p.text) ps := rfl

theorem layOut_append (start : Nat) (a b : List Piece) :
    layOut start (a ++ b) = layOut start a ++ layOut (start + Text.byteLength (spell a)) b := by
  induction a generalizing start with
  | nil => rfl
  | cons p a ih =>
    rw [List.cons_append, layOut_cons, ih, layOut_cons, Piece.spell_cons, Text.byteLength_append,
      Nat.add_assoc]
    rfl

@[simp] theorem length_layOut (start : Nat) (ps : List Piece) :
    (layOut start ps).length = ps.length := by
  induction ps generalizing start with
  | nil => rfl
  | cons p ps ih => rw [layOut_cons, List.length_cons, ih, List.length_cons]

/-- Pieces that are not empty tile the bytes that they spell. -/
theorem tiling_layOut {ps : List Piece} (start : Nat) (hsolid : Solid ps) :
    tiling (start + Text.byteLength (spell ps)) start (layOut start ps) = true := by
  induction ps generalizing start with
  | nil => simp [tiling]
  | cons p ps ih =>
    obtain ⟨hp, hps⟩ := Piece.solid_cons.mp hsolid
    have hpos := Text.byteLength_pos hp
    have hrest := ih (start + Text.byteLength p.text) hps
    rw [Piece.spell_cons, Text.byteLength_append, ← Nat.add_assoc]
    simp [tiling, hpos, hrest]

theorem head_layOut (start : Nat) {ps : List Piece} (hne : ps ≠ []) :
    (layOut start ps).head?.map (·.span.start) = some start := by
  cases ps with
  | nil => exact absurd rfl hne
  | cons p ps => simp

theorem getLast_layOut (start : Nat) {ps : List Piece} (hne : ps ≠ []) :
    (layOut start ps).getLast?.map (·.span.stop) = some (start + Text.byteLength (spell ps)) := by
  rcases List.eq_nil_or_concat ps with rfl | ⟨init, last, rfl⟩
  · exact absurd rfl hne
  · rw [List.concat_eq_append, layOut_append]
    simp [Nat.add_assoc]

end Segment

open Segment Checked

theorem Checked.minus_add (a b : Nat) : minus (a + b) a = pure b := by
  rw [minus, if_pos (Nat.le_add_right _ _), Nat.add_sub_cancel_left]

/-- The segment behind `front` is that of the next piece. -/
theorem Segment.getElem?_layOut (start : Nat) (front : List Piece) (p : Piece) (rest : List Piece) :
    (layOut start (front ++ p :: rest))[front.length]? =
      some (ofPiece (start + Text.byteLength (spell front)) p) := by
  rw [layOut_append, List.getElem?_append_right (by simp), length_layOut, Nat.sub_self]
  rfl

theorem Checked.segment_eq {items : List Segment} {i : Nat} {s : Segment} (h : items[i]? = some s) :
    segment items i = pure s := by
  rw [segment, h]

theorem Checked.segment_layOut (start : Nat) (front : List Piece) (p : Piece) (rest : List Piece) :
    segment (layOut start (front ++ p :: rest)) front.length =
      pure (ofPiece (start + Text.byteLength (spell front)) p) :=
  segment_eq (getElem?_layOut start front p rest)

/-- A part of a text can be taken. -/
theorem Checked.part_eq {cs text : List Char} {s : Span} (h : Text.IsPart cs s text) :
    part cs s = pure text := by
  have hslice := h.slice_eq
  obtain ⟨front, back, rfl, rfl⟩ := h
  have hstart : Text.isBoundary (front ++ text ++ back) (Text.byteLength front) = true := by
    rw [List.append_assoc]
    exact Text.isBoundary_append front (text ++ back)
  have hstop : Text.isBoundary (front ++ text ++ back)
      (Text.byteLength front + Text.byteLength text) = true := by
    rw [← Text.byteLength_append]
    exact Text.isBoundary_append (front ++ text) back
  rw [part, if_pos ⟨Nat.le_add_right _ _, hstart, hstop⟩, hslice]

namespace Scope

/-- Replacing pieces by others that spell the same text. -/
theorem replace_layOut {range : Span} {start : Nat} {front old new rest : List Piece}
    (hold : old ≠ []) (hnew : new ≠ []) (hspell : spell new = spell old)
    (hsolid : Solid (front ++ new ++ rest))
    (hrange : range = ⟨start, start + Text.byteLength (spell (front ++ old ++ rest))⟩) :
    replace range (layOut start (front ++ old ++ rest)) front.length old.length
      (layOut (start + Text.byteLength (spell front)) new) =
      pure (layOut start (front ++ new ++ rest)) := by
  have htiling : tiling range.stop range.start (layOut start (front ++ new ++ rest)) = true := by
    have h := tiling_layOut start hsolid
    rw [hrange]
    simp only [Piece.spell_append, hspell] at h ⊢
    exact h
  have hedited : (layOut start (front ++ old ++ rest)).take front.length ++
      layOut (start + Text.byteLength (spell front)) new ++
      (layOut start (front ++ old ++ rest)).drop (front.length + old.length) =
      layOut start (front ++ new ++ rest) := by
    rw [← List.length_append, layOut_append _ (front ++ old) rest, layOut_append _ (front ++ new) rest,
      layOut_append _ front old, layOut_append _ front new, List.append_assoc (layOut start front),
      List.take_left' (length_layOut _ _), ← List.append_assoc (layOut start front),
      List.drop_left' (by simp)]
    simp only [Piece.spell_append, hspell]
  obtain ⟨first, hfirst, hhead⟩ : ∃ first : Segment,
      first.span.start = start + Text.byteLength (spell front) ∧
      segment (layOut start (front ++ old ++ rest)) front.length = pure first := by
    cases old with
    | nil => exact absurd rfl hold
    | cons p old =>
      rw [List.append_assoc]
      exact ⟨_, by simp, segment_layOut start front p (old ++ rest)⟩
  obtain ⟨last, hlast, htail⟩ : ∃ last : Segment,
      last.span.stop = start + Text.byteLength (spell front) + Text.byteLength (spell old) ∧
      segment (layOut start (front ++ old ++ rest)) (front.length + old.length - 1) = pure last := by
    rcases List.eq_nil_or_concat old with rfl | ⟨init, p, rfl⟩
    · exact absurd rfl hold
    · have hlayout : front ++ init.concat p ++ rest = (front ++ init) ++ p :: rest := by simp
      have hindex : front.length + (init.concat p).length - 1 = (front ++ init).length := by
        rw [List.length_concat, List.length_append]
        omega
      rw [hlayout, hindex]
      exact ⟨_, by simp [Nat.add_assoc], segment_layOut start (front ++ init) p rest⟩
  have hcount : 0 < old.length := List.length_pos_iff.mpr hold
  have hminus : minus (front.length + old.length) 1 = pure (front.length + old.length - 1) := by
    rw [minus, if_pos (by omega)]
  have hlength : ¬ (layOut start (front ++ old ++ rest)).length < front.length + old.length := by
    simp only [length_layOut, List.length_append]
    omega
  rw [replace, hhead, pure_bind, hminus, pure_bind, htail, pure_bind, head_layOut _ hnew,
    getLast_layOut _ hnew, hfirst, hlast, hspell, hedited]
  dsimp only
  rw [if_neg (not_not_intro rfl), if_neg (not_not_intro rfl), if_neg hlength, if_pos htiling]

/-- The first segment that ends behind a position is that of the piece which holds it. -/
theorem firstTouched_layOut (start : Nat) (front ps : List Piece) (position : Nat)
    (hle : position ≤ (spell ps).length) :
    firstTouched (layOut start (front ++ ps))
      (start + Text.byteLength (spell front) + Text.byteOffset (spell ps) position) front.length =
      pure (front.length + (Piece.locate position ps).1.length) := by
  induction ps generalizing front position with
  | nil =>
    rw [firstTouched, if_neg (by simp)]
    rfl
  | cons p ps ih =>
    have hlt : front.length < (layOut start (front ++ p :: ps)).length := by simp
    have hoffset : Text.byteOffset (spell (p :: ps)) p.text.length = Text.byteLength p.text := by
      rw [Text.byteOffset, Piece.spell_cons, List.take_left' rfl]
    have hiff : Text.byteLength p.text ≤ Text.byteOffset (spell (p :: ps)) position ↔
        p.text.length ≤ position := by
      rw [← hoffset]
      exact Text.byteOffset_le_iff (by simp) hle
    rw [firstTouched, if_pos hlt, segment_layOut, pure_bind, span_ofPiece, Piece.locate]
    by_cases hp : p.text.length ≤ position
    · have hposition : Text.byteOffset (spell (p :: ps)) position =
          Text.byteOffset (spell ps) (position - p.text.length) + Text.byteLength p.text := by
        rw [Piece.spell_cons, ← Text.byteOffset_append, Nat.sub_add_cancel hp]
      have hfront : Text.byteLength (spell (front ++ [p])) =
          Text.byteLength (spell front) + Text.byteLength p.text := by simp
      have hrest := ih (front ++ [p]) (position - p.text.length) (by
        rw [Piece.spell_cons, List.length_append] at hle
        omega)
      rw [hfront, ← List.append_cons, List.length_append, List.length_singleton] at hrest
      rw [if_pos (by have := hiff.mpr hp; dsimp only; omega), if_pos hp, hposition,
        Nat.add_comm (Text.byteOffset _ _), ← Nat.add_assoc, Nat.add_assoc start, hrest,
        List.length_cons, Nat.add_assoc, Nat.add_comm 1]
    · rw [if_neg (by have := mt hiff.mp hp; dsimp only; omega), if_neg hp]
      rfl

end Scope

/-- A text that begins at byte `start` reaches the byte `b` after `n` characters: after none if the byte is
not ahead at all, and after more than there are if it lies behind the text. -/
def Text.Ahead (start : Nat) (text : List Char) (b n : Nat) : Prop :=
  ∀ k ≤ text.length, b ≤ start + Text.byteOffset text k ↔ n ≤ k

namespace Text.Ahead

variable {start : Nat} {text : List Char} {b n : Nat}

/-- Comparing with a position ahead is the same in bytes and in characters. -/
theorem le_iff (h : Ahead start text b n) {k : Nat} (hk : k ≤ text.length) :
    b ≤ start + byteOffset text k ↔ n ≤ k :=
  h k hk

theorem le_start_iff (h : Ahead start text b n) : b ≤ start ↔ n = 0 := by
  have hiff := h.le_iff (Nat.zero_le _)
  rw [byteOffset_zero, Nat.add_zero] at hiff
  omega

/-- The same byte, seen from behind a front part of the text. -/
theorem behind {front : List Char} (h : Ahead start (front ++ text) b n) :
    Ahead (start + byteLength front) text b (n - front.length) := by
  intro k hk
  have hiff := h.le_iff (k := k + front.length) (by rw [List.length_append]; omega)
  rw [byteOffset_append, Nat.add_comm (byteOffset _ _), ← Nat.add_assoc] at hiff
  rw [hiff]
  omega

/-- The byte before which there are `n` characters. -/
theorem of_le (start : Nat) (h : n ≤ text.length) : Ahead start text (start + byteOffset text n) n := by
  intro k hk
  have hiff := byteOffset_le_iff h hk
  omega

theorem of_length (front text : List Char) (start : Nat) :
    Ahead start (front ++ text) (start + byteLength front) front.length := by
  have hoffset : byteOffset (front ++ text) front.length = byteLength front := by
    rw [byteOffset, List.take_left' rfl]
  have h : front.length ≤ (front ++ text).length := by simp
  rw [← hoffset]
  exact of_le start h

/-- Every byte is reached somewhere, also one that cuts a character. -/
theorem exists_ahead (start : Nat) (text : List Char) (b : Nat) : ∃ n, Ahead start text b n := by
  induction text generalizing start with
  | nil =>
    refine ⟨if b ≤ start then 0 else 1, fun k hk => ?_⟩
    obtain rfl := Nat.le_zero.mp hk
    rw [byteOffset_zero]
    split <;> omega
  | cons c text ih =>
    obtain ⟨n, hn⟩ := ih (start + c.utf8Size)
    refine ⟨if b ≤ start then 0 else n + 1, fun k hk => ?_⟩
    cases k with
    | zero =>
      rw [byteOffset_zero]
      split <;> omega
    | succ k =>
      have hiff := hn k (Nat.le_of_succ_le_succ hk)
      have hoffset : byteOffset (c :: text) (k + 1) = c.utf8Size + byteOffset text k := by
        simp [byteOffset]
      rw [hoffset]
      split <;> omega

end Text.Ahead

namespace Scope

/-- Segments are absorbed as their pieces are; `last` is the piece in front of them. -/
theorem absorb_layOut (start : Nat) (front : List Piece) (last : Piece) (ps : List Piece)
    {need n : Nat} (h : Text.Ahead (start + Text.byteLength (spell (front ++ [last]))) (spell ps) need n) :
    absorb (layOut start (front ++ last :: ps)) need (front ++ [last]).length
      (start + Text.byteLength (spell (front ++ [last]))) =
      pure ((front ++ [last]).length + (Piece.absorb n last.isGreedy ps).2.1,
        start + Text.byteLength (spell (front ++ [last])) +
          Text.byteLength (Piece.absorb n last.isGreedy ps).1) := by
  induction ps generalizing front last n with
  | nil =>
    rw [absorb, if_neg (by simp)]
    rfl
  | cons p ps ih =>
    have hbefore : minus (front ++ [last]).length 1 = pure front.length := by
      rw [List.length_append, List.length_singleton, Nat.add_comm, minus_add]
    have hlast := segment_layOut start front last (p :: ps)
    have hp := segment_layOut start (front ++ [last]) p ps
    rw [← List.append_cons] at hp
    have hneed : start + Text.byteLength (spell (front ++ [last])) < need ↔ 0 < n := by
      have hiff := h.le_start_iff
      omega
    have htaken : (0 < n ∨ (p.isFree && !last.isGreedy) = true) →
        absorb (layOut start (front ++ last :: p :: ps)) need ((front ++ [last]).length + 1)
          (start + Text.byteLength (spell (front ++ [last])) + Text.byteLength p.text) = 
        pure ((front ++ [last]).length + (Piece.absorb n last.isGreedy (p :: ps)).2.1,
          start + Text.byteLength (spell (front ++ [last])) +
            Text.byteLength (Piece.absorb n last.isGreedy (p :: ps)).1) := by
      intro hcond
      have hbehind : Text.Ahead (start + Text.byteLength (spell (front ++ [last] ++ [p]))) (spell ps)
          need (n - p.text.length) := by
        have hp := Text.Ahead.behind h
        rwa [Nat.add_assoc, ← Text.byteLength_append, ← Piece.spell_snoc] at hp
      have hrest := ih (front ++ [last]) p hbehind
      have hstep : Piece.absorb n last.isGreedy (p :: ps) =
          (p.text ++ (Piece.absorb (n - p.text.length) p.isGreedy ps).1,
            (Piece.absorb (n - p.text.length) p.isGreedy ps).2.1 + 1,
            (Piece.absorb (n - p.text.length) p.isGreedy ps).2.2) := by
        rw [Piece.absorb, if_pos (by simpa using hcond)]
      rw [← List.append_cons, Piece.spell_snoc, Text.byteLength_append, ← Nat.add_assoc start,
        @List.length_append _ (front ++ [last]) [p], List.length_singleton] at hrest
      rw [hrest, hstep, Text.byteLength_append, Nat.add_assoc _ 1, Nat.add_comm 1]
      simp only [Nat.add_assoc]
    have hstays : ¬ (0 < n ∨ (p.isFree && !last.isGreedy) = true) →
        pure ((front ++ [last]).length, start + Text.byteLength (spell (front ++ [last]))) =
        (pure ((front ++ [last]).length + (Piece.absorb n last.isGreedy (p :: ps)).2.1,
          start + Text.byteLength (spell (front ++ [last])) +
            Text.byteLength (Piece.absorb n last.isGreedy (p :: ps)).1) : Checked (Nat × Nat)) := by
      intro hcond
      rw [Piece.absorb, if_neg (by simpa using hcond)]
      rfl
    rw [absorb, if_pos (by simp), hp, pure_bind, isText_ofPiece, hbefore]
    dsimp only
    by_cases hn : 0 < n
    · rw [if_pos (hneed.mpr hn), pure_bind, if_pos rfl, span_ofPiece]
      exact htaken (.inl hn)
    · rw [if_neg (mt hneed.mp hn)]
      cases hfree : p.isFree with
      | false => exact hstays (by simp [hn, hfree])
      | true =>
        rw [if_pos rfl, pure_bind, hlast, pure_bind, pure_bind, isGreedyToken_ofPiece]
        by_cases hg : (!last.isGreedy) = true
        · rw [if_pos hg, span_ofPiece]
          exact htaken (.inr (by simpa [hfree] using hg))
        · rw [if_neg hg]
          exact hstays (by simpa [hn, hfree] using hg)

/-- A match that begins in a free run absorbs at least that run. -/
theorem absorb_layOut_free (start : Nat) (front : List Piece) (free : List Char) (ps : List Piece)
    {need n : Nat} (hn : 0 < n)
    (h : Text.Ahead (start + Text.byteLength (spell front)) (spell (.free free :: ps)) need n) :
    absorb (layOut start (front ++ .free free :: ps)) need front.length
      (start + Text.byteLength (spell front)) =
      pure (front.length + (Piece.absorb n false (.free free :: ps)).2.1,
        start + Text.byteLength (spell front) +
          Text.byteLength (Piece.absorb n false (.free free :: ps)).1) := by
  have hneed : start + Text.byteLength (spell front) < need := by
    have hiff := h.le_start_iff
    omega
  have hspell : start + Text.byteLength (spell (front ++ [.free free])) =
      start + Text.byteLength (spell front) + Text.byteLength free := by
    rw [Piece.spell_snoc, Text.byteLength_append, Nat.add_assoc]
    rfl
  have hbehind : Text.Ahead (start + Text.byteLength (spell (front ++ [.free free]))) (spell ps) need
      (n - free.length) := by
    rw [hspell]
    exact Text.Ahead.behind h
  have hrest := absorb_layOut start front (.free free) ps hbehind
  rw [hspell, List.length_append, List.length_singleton] at hrest
  rw [absorb, if_pos (by simp), segment_layOut, pure_bind]
  dsimp only
  rw [if_pos hneed, pure_bind, if_pos rfl, span_ofPiece, Piece.text_free, hrest, Piece.absorb_free,
    Text.byteLength_append]
  simp only [Nat.add_assoc, Nat.add_comm 1]
  rfl

/-- The nodes of segments are those of their pieces. -/
theorem nodes_layOut (front back : List Char) (ps : List Piece) :
    nodes (front ++ spell ps ++ back) (layOut (Text.byteLength front) ps) =
      pure (Piece.toNodes PatternWith.nodesInside (Text.byteLength front) ps) := by
  induction ps generalizing front with
  | nil => rfl
  | cons p ps ih =>
    have htext : front ++ spell (p :: ps) ++ back = (front ++ p.text) ++ spell ps ++ back := by simp
    have hrest : nodes (front ++ spell (p :: ps) ++ back)
        (layOut (Text.byteLength front + Text.byteLength p.text) ps) =
        pure (Piece.toNodes PatternWith.nodesInside
          (Text.byteLength front + Text.byteLength p.text) ps) := by
      rw [htext, ← Text.byteLength_append]
      exact ih _
    have hpart : part (front ++ spell (p :: ps) ++ back)
        ⟨Text.byteLength front, Text.byteLength front + Text.byteLength p.text⟩ = pure p.text :=
      part_eq ⟨front, spell ps ++ back, by simp, rfl⟩
    rw [nodes] at hrest ⊢
    rw [layOut_cons, List.mapM_cons, hrest]
    cases p with
    | free t =>
      rw [Piece.text_free] at hpart
      simp only [ofPiece, hpart, pure_bind]
      rfl
    | claimed c => rfl

end Scope

end Highlight
