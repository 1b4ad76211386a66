import Highlight.Text.Span

/-!
# Parts of a text

A span of bytes need not lie between characters. `Text.IsPart` says that it does, and names the
text that stands there. A slice at such a span is that text, and parts of a part are parts of the
whole once their spans are shifted.
-/

namespace Highlight.Text

/-- `part` is the text at a span whose ends are character boundaries. -/
def IsPart (cs : List Char) (s : Span) (part : List Char) : Prop :=
  ∃ front back, cs = front ++ part ++ back ∧
    s = ⟨byteLength front, byteLength front + byteLength part⟩

theorem byteLength_pos {cs : List Char} (h : cs ≠ []) : 0 < byteLength cs := by
  cases cs with
  | nil => exact absurd rfl h
  | cons c cs => have := c.utf8Size_pos; simp only [byteLength_cons]; omega

theorem utf8ByteSize_ofList (cs : List Char) :
    (String.ofList cs).utf8ByteSize = byteLength cs := by
  induction cs with
  | nil => rfl
  | cons c cs ih =>
    rw [byteLength_cons, ← ih, ← List.singleton_append, String.ofList_append,
      String.utf8ByteSize_append, ← String.singleton_eq_ofList, String.utf8ByteSize_singleton]

theorem byteLength_toList (text : String) : byteLength text.toList = text.utf8ByteSize := by
  rw [← utf8ByteSize_ofList, String.ofList_toList]

@[simp] theorem byteOffset_zero (cs : List Char) : byteOffset cs 0 = 0 := by simp [byteOffset]

/-- The boundary behind the front of a text has as many characters before it as the front. -/
theorem charIndex_append (front back : List Char) :
    charIndex (front ++ back) (byteLength front) = front.length := by
  induction front with
  | nil => simp [charIndex]
  | cons c front ih =>
    have hc := c.utf8Size_pos
    obtain ⟨b, hb⟩ : ∃ b, c.utf8Size + byteLength front = b + 1 :=
      ⟨c.utf8Size + byteLength front - 1, by omega⟩
    simp only [List.cons_append, byteLength_cons, List.length_cons]
    rw [hb, charIndex, ← hb, Nat.add_sub_cancel_left, ih]

theorem IsPart.slice_eq {cs part : List Char} {s : Span} (h : IsPart cs s part) :
    slice cs s = part := by
  obtain ⟨front, back, rfl, rfl⟩ := h
  have hstart : charIndex (front ++ part ++ back) (byteLength front) = front.length := by
    rw [List.append_assoc]
    exact charIndex_append front (part ++ back)
  have hstop : charIndex (front ++ part ++ back) (byteLength front + byteLength part)
      = (front ++ part).length := by
    rw [← byteLength_append]
    exact charIndex_append (front ++ part) back
  rw [slice, hstart, hstop, List.take_left' rfl]
  simp

/-- A part ends as many bytes behind its beginning as it has. -/
theorem IsPart.eq_mk {cs part : List Char} {s : Span} (h : IsPart cs s part) :
    s = ⟨s.start, s.start + byteLength part⟩ := by
  obtain ⟨front, back, -, rfl⟩ := h
  rfl

/-- Two cuts of a text at the same byte are one cut. -/
theorem append_inj_byteLength {a b a' b' : List Char} (h : a ++ b = a' ++ b')
    (hlen : byteLength a = byteLength a') : a = a' ∧ b = b' := by
  have ha := charIndex_append a b
  have ha' := charIndex_append a' b'
  rw [h, hlen, ha'] at ha
  exact List.append_inj h ha.symm

/-- There is one text at a span. -/
theorem IsPart.unique {cs part part' : List Char} {s : Span} (h : IsPart cs s part)
    (h' : IsPart cs s part') : part = part' :=
  h.slice_eq.symm.trans h'.slice_eq

/-- Parts side by side are one part. -/
theorem IsPart.append {cs x y : List Char} {a b c : Nat} (hx : IsPart cs ⟨a, b⟩ x)
    (hy : IsPart cs ⟨b, c⟩ y) : IsPart cs ⟨a, c⟩ (x ++ y) := by
  obtain ⟨front, back, rfl, hx⟩ := hx
  obtain ⟨front', back', hcs, hy⟩ := hy
  simp only [Span.mk.injEq] at hx hy
  have hb : byteLength (front ++ x) = byteLength front' := by
    rw [byteLength_append]
    omega
  rw [List.append_assoc front'] at hcs
  obtain ⟨rfl, rfl⟩ := append_inj_byteLength hcs hb
  refine ⟨front, back', by simp, ?_⟩
  simp only [byteLength_append, Span.mk.injEq] at hy ⊢
  omega

/-- The ends of a part are character boundaries. -/
theorem IsPart.stop {cs part : List Char} {a b : Nat} (h : IsPart cs ⟨a, b⟩ part) :
    IsPart cs ⟨b, b⟩ [] := by
  obtain ⟨front, back, rfl, hs⟩ := h
  simp only [Span.mk.injEq] at hs
  refine ⟨front ++ part, back, by simp, ?_⟩
  simp only [byteLength_append, byteLength_nil, Span.mk.injEq]
  omega

theorem IsPart.start {cs part : List Char} {a b : Nat} (h : IsPart cs ⟨a, b⟩ part) :
    IsPart cs ⟨a, a⟩ [] := by
  obtain ⟨front, back, rfl, hs⟩ := h
  simp only [Span.mk.injEq] at hs
  exact ⟨front, part ++ back, by simp, by simp [hs.1]⟩

theorem isPart_all (cs : List Char) : IsPart cs ⟨0, byteLength cs⟩ cs :=
  ⟨[], [], by simp, by simp⟩

/-- A part of a part is a part of the whole. -/
theorem IsPart.trans {cs part inner : List Char} {s t : Span} (h : IsPart cs s part)
    (ht : IsPart part t inner) : IsPart cs (t.shift s.start) inner := by
  obtain ⟨front, back, rfl, rfl⟩ := h
  obtain ⟨lead, rest, rfl, rfl⟩ := ht
  refine ⟨front ++ lead, rest ++ back, by simp, ?_⟩
  simp only [Span.shift, byteLength_append, Span.mk.injEq]
  omega

/-- A part of the middle of a part is a part of the whole. -/
theorem IsPart.middle {cs : List Char} {s : Span} {a t b : List Char}
    (h : IsPart cs s (a ++ t ++ b)) :
    IsPart cs ⟨s.start + byteLength a, s.start + byteLength a + byteLength t⟩ t := by
  have hpart := h.trans ⟨a, b, rfl, rfl⟩
  simp only [Span.shift] at hpart
  rwa [Nat.add_comm, Nat.add_comm (byteLength a + byteLength t), ← Nat.add_assoc] at hpart

end Highlight.Text
