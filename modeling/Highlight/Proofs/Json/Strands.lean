import Highlight.Proofs.Json.Quoted
import Highlight.Proofs.Json.Syntax

/-!
# Texts as strings and the text between them

To the patterns for strings a text is a row of strands, each the text up to the next string and the
content of that string, and the text behind the last of them. A search goes on from candidate to
candidate: the last character in front of a string, from where the string itself may match, and the
last character in front of its closing quote, from where the text up to the next string may match
if it is taken for a string. `joins` says when the second kind of match is one for keys.
-/

namespace Highlight

theorem Text.lastOr_some_ne_none (c : Char) (cs : List Char) : lastOr (some c) cs ≠ none := by
  induction cs generalizing c with
  | nil => exact fun h => by cases h
  | cons d cs ih => exact ih d

namespace Json

/-- Text in which every quote is escaped. What comes first may be a quote. -/
def Quiet : List Char → Prop
  | c :: d :: cs => (d = '"' → c = '\\') ∧ Quiet (d :: cs)
  | _ => True

/-- Text between strings: it has neither quotes nor backslashes. -/
def Clean (g : List Char) : Prop := ∀ c ∈ g, c ≠ '"' ∧ c ≠ '\\'

theorem Clean.quiet {g : List Char} (hg : Clean g) (z : Char) : Quiet (z :: g) := by
  induction g generalizing z with
  | nil => trivial
  | cons c g ih =>
    refine ⟨fun hc => absurd hc (hg c (List.mem_cons_self ..)).1, ?_⟩
    exact ih (fun d hd => hg d (List.mem_cons_of_mem _ hd)) c

theorem Clean.getLast?_ne {g : List Char} (hg : Clean g) (u : List Char) :
    (u ++ '"' :: g).getLast? ≠ some '\\' := by
  intro h
  have hmem : '\\' ∈ '"' :: g := by
    rw [List.getLast?_append, List.getLast?_eq_some_getLast (List.cons_ne_nil _ _),
      Option.some_or] at h
    exact Option.some.inj h ▸ List.getLast_mem _
  rcases List.mem_cons.mp hmem with hquote | hmem
  · cases hquote
  · exact (hg _ hmem).2 rfl

theorem Content.quiet {c : List Char} (hc : Content c) (z : Char) : Quiet (z :: c) := by
  induction hc generalizing z with
  | nil => trivial
  | plain h _ ih => exact ⟨fun hquote => absurd hquote ((contains_plain _).mp h).1, ih _⟩
  | escape _ _ ih => exact ⟨fun hquote => absurd hquote (by decide), fun _ => rfl, ih _⟩

theorem Quiet.tail {c : Char} {cs : List Char} (h : Quiet (c :: cs)) : Quiet cs := by
  cases cs with
  | nil => trivial
  | cons d cs => exact h.2

/-- A search passes quiet text up to its last character. -/
theorem Seeks.searchFrom_quiet {p : Pattern} (hp : Seeks p) {front : List Char} {z : Char}
    (hquiet : Quiet (front ++ [z])) {before : Option Char}
    (hbefore : before = none → (front ++ [z]).head? ≠ some '"') (k : Nat) (back : List Char) :
    p.searchFrom k before (front ++ z :: back) =
      p.searchFrom (k + front.length) (Text.lastOr before front) (z :: back) := by
  induction front generalizing k before with
  | nil => rfl
  | cons c front ih =>
    have hhead : (front ++ z :: back).head? = (front ++ [z]).head? := by
      cases front <;> rfl
    have hnone : p.hitAt before (c :: (front ++ z :: back)) = none := by
      refine hp.hitAt_unopened (fun h => by simpa using hbefore h) fun hquote => ?_
      rw [hhead] at hquote
      cases front with
      | nil => exact hquiet.1 (Option.some.inj hquote)
      | cons d front => exact hquiet.1 (Option.some.inj hquote)
    have hrest := @ih hquiet.tail (some c) (fun h => by cases h) (k + 1)
    rw [List.cons_append, PatternWith.searchFrom_cons, hnone]
    dsimp only
    rw [hrest, List.length_cons, Nat.add_right_comm, Nat.add_assoc]
    rfl

@[simp] theorem length_quoted (content : List Char) :
    (quoted content).length = content.length + 2 := by
  simp [quoted]

theorem quoted_append (content tail : List Char) :
    quoted content ++ tail = '"' :: (content ++ '"' :: tail) := by
  rw [quoted, List.cons_append, List.append_assoc, List.singleton_append]

theorem cut_quoted (front content tail : List Char) :
    front ++ '"' :: (content ++ '"' :: tail) = front ++ (quoted content ++ tail) := by
  rw [quoted_append]

/-- A search gets as far as to the last character of `u`, behind which `back` stands. -/
def Reaches (p : Pattern) (before : Option Char) (u back : List Char) : Prop :=
  ∃ front z, u = front ++ [z] ∧ (Text.lastOr before front = none → z ≠ '"') ∧
    p.search before (u ++ back) =
      p.searchFrom front.length (Text.lastOr before front) (z :: back)

namespace Reaches

variable {p : Pattern} {before : Option Char} {u w back tail : List Char}

/-- A search gets to the end of quiet text, unless that begins with a quote. -/
theorem of_quiet (hp : Seeks p) (hu : Quiet u) (hne : u ≠ [])
    (hhead : before = none → u.head? ≠ some '"') (back : List Char) : Reaches p before u back := by
  obtain ⟨front, z, rfl⟩ : ∃ front z, u = front ++ [z] :=
    ⟨u.dropLast, u.getLast hne, (List.dropLast_concat_getLast hne).symm⟩
  refine ⟨front, z, rfl, ?_, ?_⟩
  · intro hlast hz
    cases front with
    | nil => exact hhead hlast (congrArg some hz)
    | cons c front => exact Text.lastOr_some_ne_none c front hlast
  · rw [PatternWith.search, List.append_assoc, List.singleton_append,
      hp.searchFrom_quiet hu hhead, Nat.zero_add]

/-- A search gets to the end of clean text. -/
theorem of_clean (hp : Seeks p) (hu : Clean u) (hne : u ≠ []) (before : Option Char)
    (back : List Char) : Reaches p before u back := by
  refine of_quiet hp (hu.quiet 'x').tail hne (fun _ h => ?_) back
  have hmem : '"' ∈ u := List.mem_of_mem_head? h
  exact (hu _ hmem).1 rfl

/-- Where there is no hit in front of a quote, the search goes on to the next candidate. -/
theorem step (hp : Seeks p) (h : Reaches p before u ('"' :: (w ++ back))) (hw : Quiet ('"' :: w))
    (hmiss : ∀ b z, u.getLast? = some z → (b = none → z ≠ '"') →
      p.hitAt b (z :: '"' :: (w ++ back)) = none) : Reaches p before (u ++ '"' :: w) back := by
  obtain ⟨front, z, rfl, hz, hsearch⟩ := h
  have hnone := hmiss _ z (by simp) hz
  obtain ⟨mid, y, hsplit⟩ : ∃ mid y, '"' :: w = mid ++ [y] :=
    ⟨_, _, (List.dropLast_concat_getLast (List.cons_ne_nil _ _)).symm⟩
  have hquiet : Quiet (mid ++ [y]) := hsplit ▸ hw
  have hmid := @Seeks.searchFrom_quiet p hp mid y hquiet (some z) (fun h => by cases h)
    (front.length + 1) back
  have hback : '"' :: (w ++ back) = mid ++ y :: back := by
    rw [← List.cons_append, hsplit, List.append_assoc, List.singleton_append]
  have hlast : Text.lastOr before (front ++ z :: mid) = Text.lastOr (some z) mid := by
    rw [Text.lastOr_append]
    rfl
  refine ⟨front ++ z :: mid, y, by rw [hsplit]; simp, ?_, ?_⟩
  · intro h
    rw [hlast] at h
    exact absurd h (Text.lastOr_some_ne_none z mid)
  · rw [List.append_assoc, List.cons_append, hsearch, PatternWith.searchFrom_cons, hnone]
    dsimp only
    rw [hback, hmid, hlast, List.length_append, List.length_cons, Nat.add_right_comm, Nat.add_assoc]

/-- A search that has got to the end finds nothing. -/
theorem search_eq_none (hp : Seeks p) (h : Reaches p before u []) : p.search before u = none := by
  obtain ⟨front, z, rfl, hz, hsearch⟩ := h
  rw [List.append_nil] at hsearch
  rw [hsearch, PatternWith.searchFrom_cons, hp.hitAt_unopened hz (fun h => by cases h)]
  dsimp only
  rw [PatternWith.searchFrom_nil, hp.hitAt_nil]
  rfl

/-- A search finds the hit in front of a quote. -/
theorem search_eq_some (h : Reaches p before u back) {n : Nat}
    (hhit : ∀ b z, u.getLast? = some z → (b = none → z ≠ '"') →
      ∃ hit, p.hitAt b (z :: back) = some hit ∧ hit.token = ⟨1, n + 1⟩) :
    ∃ hit, p.search before (u ++ back) = some hit ∧ hit.token = ⟨u.length, u.length + n⟩ := by
  obtain ⟨front, z, rfl, hz, hsearch⟩ := h
  obtain ⟨hit, hhere, htoken⟩ := hhit _ z (by simp) hz
  refine ⟨hit.shift front.length, ?_, ?_⟩
  · rw [hsearch, PatternWith.searchFrom_cons, hhere]
  · simp only [Hit.shift, htoken, Span.shift, List.length_append, List.length_singleton,
      Span.mk.injEq]
    omega

/-- No hit begins far in front of where a search has got. -/
theorem le_start (h : Reaches p before u back) {hit : Hit}
    (hs : p.search before (u ++ back) = some hit) : u.length ≤ hit.token.start + 1 := by
  obtain ⟨front, z, rfl, hz, hsearch⟩ := h
  rw [hsearch, ← Nat.zero_add front.length, PatternWith.searchFrom_add] at hs
  obtain ⟨h₀, -, rfl⟩ := Option.map_eq_some_iff.mp hs
  rw [List.length_append, List.length_singleton, Hit.shift]
  dsimp only [Span.shift]
  omega

/-- A string is found from where the search has got in front of it. -/
theorem string_search (h : Reaches string before u ('"' :: (w ++ '"' :: tail)))
    (hlast : u.getLast? ≠ some '\\') (hw : Content w) :
    ∃ hit, string.search before (u ++ '"' :: (w ++ '"' :: tail)) = some hit ∧
      hit.token = ⟨u.length, u.length + (quoted w).length⟩ := by
  refine h.search_eq_some fun b z hz hb => ?_
  have hne : z ≠ '\\' := fun he => hlast (he ▸ hz)
  rw [length_quoted]
  exact string_hitAt hne hb hw tail

/-- The same for a string that a colon follows. -/
theorem property_search (h : Reaches property before u ('"' :: (w ++ '"' :: tail)))
    (hlast : u.getLast? ≠ some '\\') (hw : Content w) (htail : colonAhead tail = true) :
    ∃ hit, property.search before (u ++ '"' :: (w ++ '"' :: tail)) = some hit ∧
      hit.token = ⟨u.length, u.length + (quoted w).length⟩ := by
  refine h.search_eq_some fun b z hz hb => ?_
  have hne : z ≠ '\\' := fun he => hlast (he ▸ hz)
  rw [length_quoted]
  exact property_hitAt hne hb hw htail

/-- A string that no colon follows is passed over. -/
theorem over_string (h : Reaches property before u ('"' :: (w ++ '"' :: tail))) (hw : Content w)
    (htail : colonAhead tail = false) : Reaches property before (u ++ '"' :: w) ('"' :: tail) :=
  h.step seeks_property (hw.quiet '"') fun _ _ _ hb => property_hitAt_none hb hw htail

/-- Text between strings is passed over if there is a line break in it. -/
theorem over_break (h : Reaches property before u ('"' :: (w ++ tail))) (hw : Clean w)
    (hbreak : tail = [] ∨ ∃ c ∈ w, c = '\r' ∨ c = '\n') :
    Reaches property before (u ++ '"' :: w) tail :=
  h.step seeks_property (hw.quiet '"') fun _ _ _ hb => seeks_property.hitAt_open hb hw hbreak

/-- Text behind an escaped quote is passed over. -/
theorem over_escaped (h : Reaches property before u ('"' :: (w ++ tail))) (hw : Clean w)
    (hlast : u.getLast? = some '\\') : Reaches property before (u ++ '"' :: w) tail := by
  refine h.step seeks_property (hw.quiet '"') fun b z hz hb => seeks_property.hitAt_unopened hb ?_
  exact fun _ => Option.some.inj (hz.symm.trans hlast)

end Reaches

/-- A string of a text, and the text in front of it. -/
structure Strand where
  gap : List Char
  content : List Char

/-- A strand of a text that the patterns can take apart. -/
structure Strand.Sound (s : Strand) : Prop where
  gap : Clean s.gap
  gap_ne : s.gap ≠ []
  content : Content s.content

/-- The text of strands, and the text behind them. -/
def weave (last : List Char) : List Strand → List Char
  | [] => last
  | s :: rest => s.gap ++ '"' :: (s.content ++ '"' :: weave last rest)

def breaks (g : List Char) : Bool := g.any fun c => c == '\r' || c == '\n'

/-- Whether the text up to the next string, taken for a string, would be a key. It follows `u` and
the closing quote of a string. -/
def joins (u : List Char) : List Strand → Bool
  | [] => false
  | t :: _ => u.getLast? != some '\\' && !breaks t.gap && colonAhead t.content

theorem colonAhead_append (c tail : List Char) : colonAhead (c ++ '"' :: tail) = colonAhead c := by
  induction c with
  | nil => rfl
  | cons d c ih => rw [List.cons_append, colonAhead, colonAhead, ih]

theorem exists_break {g : List Char} (h : breaks g = true) : ∃ c ∈ g, c = '\r' ∨ c = '\n' := by
  simpa [breaks] using h

/-- Clean text in one line may be taken for the content of a string. -/
theorem Clean.content {g : List Char} (hg : Clean g) (h : breaks g = false) : Content g := by
  induction g with
  | nil => exact .nil
  | cons c g ih =>
    obtain ⟨hquote, hbackslash⟩ := hg c (List.mem_cons_self ..)
    rw [breaks, List.any_cons, Bool.or_eq_false_iff] at h
    obtain ⟨hc, hrest⟩ := h
    have hline : c ≠ '\r' ∧ c ≠ '\n' := by simpa using hc
    exact .plain ((contains_plain c).mpr ⟨hquote, hbackslash, hline⟩)
      (ih (fun d hd => hg d (List.mem_cons_of_mem _ hd)) hrest)

section Joins

variable {before : Option Char} {u tail : List Char} {t : Strand} {rest : List Strand}

/-- The text up to the next string is passed over unless it would be a key. -/
theorem Reaches.over_gap (ht : t.Sound) (hjoins : joins u (t :: rest) = false)
    (h : Reaches property before u ('"' :: (t.gap ++ '"' :: (t.content ++ '"' :: tail)))) :
    Reaches property before (u ++ '"' :: t.gap) ('"' :: (t.content ++ '"' :: tail)) := by
  rw [joins, Bool.and_eq_false_iff, Bool.and_eq_false_iff] at hjoins
  rcases hjoins with (hescaped | hbreaks) | hcolon
  · exact h.over_escaped ht.gap (by simpa using hescaped)
  · exact h.over_break ht.gap (.inr (exists_break (by simpa using hbreaks)))
  · by_cases hbreaks : breaks t.gap = true
    · exact h.over_break ht.gap (.inr (exists_break hbreaks))
    · exact h.over_string (ht.gap.content (by simpa using hbreaks))
        (by rwa [colonAhead_append])

/-- The text up to the next string is found if it would be a key. -/
theorem Reaches.gap_search (ht : t.Sound) (hjoins : joins u (t :: rest) = true)
    (h : Reaches property before u ('"' :: (t.gap ++ '"' :: (t.content ++ '"' :: tail)))) :
    ∃ hit, property.search before (u ++ '"' :: (t.gap ++ '"' :: (t.content ++ '"' :: tail))) = some hit ∧
      hit.token = ⟨u.length, u.length + (quoted t.gap).length⟩ := by
  rw [joins, Bool.and_eq_true, Bool.and_eq_true] at hjoins
  obtain ⟨⟨hescaped, hbreaks⟩, hcolon⟩ := hjoins
  exact h.property_search (by simpa using hescaped) (ht.gap.content (by simpa using hbreaks))
    (by rwa [colonAhead_append])

/-- What would be joined to a key begins with white space or a colon. -/
theorem content_ne_of_joins (hjoins : joins u (t :: rest) = true) : t.content ≠ [] := by
  rw [joins, Bool.and_eq_true] at hjoins
  intro h
  rw [h] at hjoins
  cases hjoins.2

end Joins

/-- What comes before the last string does not matter. -/
theorem joins_append {w v : List Char} (hv : v ≠ []) (rest : List Strand) :
    joins (w ++ v) rest = joins v rest := by
  cases rest with
  | nil => rfl
  | cons t rest =>
    rw [joins, joins, List.getLast?_append, List.getLast?_eq_some_getLast hv, Option.some_or]

theorem joins_quote (w c : List Char) (rest : List Strand) :
    joins (w ++ '"' :: c) rest = joins c rest := by
  rw [joins_append (List.cons_ne_nil _ _)]
  cases c with
  | nil => cases rest <;> rfl
  | cons d c => exact @joins_append ['"'] (d :: c) (List.cons_ne_nil _ _) rest

end Json

end Highlight
