import Highlight.Proofs.Division.Claims
import Highlight.Proofs.Json.Strands

/-!
# The first pass over a document

The rule for keys goes over the text before any other, so it divides a run on its own after each
claim. Where it claims the text between two strings, it goes on inside the second of them. `aligned`
gives the pieces from the end of a string on, and `within` those from inside a string on, or from
any text that the search has passed. `sweep_keys` says that these are what the pass makes.
-/

namespace Highlight.Json

open Piece

/-- A string claimed as a key. -/
def key (content : List Char) : Piece := .claimed ⟨"property", property, quoted content⟩

mutual

/-- The pieces from `u` on, which stands in front of the closing quote of a string. -/
def within (last : List Char) : (u : List Char) → List Strand → List Piece
  | u, [] => [.free (u ++ '"' :: last)]
  | u, t :: rest =>
    if joins u (t :: rest) then .free u :: key t.gap :: within last t.content rest
    else if colonAhead (weave last rest) then
      .free (u ++ '"' :: t.gap) :: key t.content :: aligned last rest
    else within last (u ++ '"' :: (t.gap ++ '"' :: t.content)) rest

/-- The pieces from the end of a string on. -/
def aligned (last : List Char) : List Strand → List Piece
  | [] => ofFree last
  | s :: rest =>
    if colonAhead (weave last rest) then .free s.gap :: key s.content :: aligned last rest
    else within last (s.gap ++ '"' :: s.content) rest

end

/-- The pieces from the end of a string on, where the next string is no key yet. -/
def exposed (last : List Char) : List Strand → List Piece
  | [] => ofFree last
  | s :: rest => within last (s.gap ++ '"' :: s.content) rest

section Shape

variable {last : List Char}

theorem text_key (content : List Char) : (key content).text = quoted content := rfl

theorem spell_pieces (row : List Strand) :
    (∀ u, spell (within last u row) = u ++ '"' :: weave last row) ∧
      spell (aligned last row) = weave last row := by
  induction row with
  | nil =>
    refine ⟨fun u => ?_, ?_⟩
    · rw [within, spell_cons, spell_nil, text_free, List.append_nil]
      rfl
    · rw [aligned, spell_ofFree]
      rfl
  | cons t row ih =>
    have hwithin : ∀ u, spell (within last u (t :: row)) = u ++ '"' :: weave last (t :: row) := by
      intro u
      rw [within, weave]
      split
      · rw [spell_cons, spell_cons, text_free, text_key, ih.1, quoted_append]
      · split
        · rw [spell_cons, spell_cons, text_free, text_key, ih.2, quoted_append]
          simp only [List.append_assoc, List.cons_append]
        · rw [ih.1]
          simp only [List.append_assoc, List.cons_append]
    refine ⟨hwithin, ?_⟩
    rw [aligned, weave]
    split
    · rw [spell_cons, spell_cons, text_free, text_key, ih.2, quoted_append]
    · rw [ih.1]
      simp only [List.append_assoc, List.cons_append]

theorem spell_within (last u : List Char) (row : List Strand) :
    spell (within last u row) = u ++ '"' :: weave last row := (spell_pieces row).1 u

/-- Text in front of the string joins the free run that comes first. -/
theorem within_append (w : List Char) {v : List Char} (hv : v ≠ []) (row : List Strand) :
    within last (w ++ v) row = joinFree w (within last v row) := by
  by_cases hw : w = []
  · rw [hw]
    rfl
  · induction row generalizing v with
    | nil => rw [within, within, joinFree_free hw, List.append_assoc]
    | cons t row ih =>
      rw [within, within, joins_append hv]
      split
      · rw [joinFree_free hw]
      · split
        · rw [joinFree_free hw, List.append_assoc]
        · rw [List.append_assoc, ih (by simp)]

/-- A free run comes first, at least as long as the text passed, and a claim behind it. -/
theorem exists_within_eq (last v : List Char) (row : List Strand) :
    ∃ y tail, within last v row = .free y :: tail ∧ v.length ≤ y.length ∧
      beginsFree tail = false := by
  induction row generalizing v with
  | nil => exact ⟨v ++ '"' :: last, [], by rw [within], by simp, rfl⟩
  | cons t row ih =>
    rw [within]
    split
    · exact ⟨v, _, rfl, Nat.le_refl _, rfl⟩
    · split
      · exact ⟨_, _, rfl, by simp, rfl⟩
      · obtain ⟨y, tail, heq, hle, htail⟩ := ih (v ++ '"' :: (t.gap ++ '"' :: t.content))
        rw [List.length_append] at hle
        exact ⟨y, tail, heq, by omega, htail⟩

/-- Where nothing is joined, the free run goes on behind the string with what comes next. -/
theorem within_eq_of_not_joins (last u : List Char) {row : List Strand} (hrow : ∀ s ∈ row, s.Sound)
    (h : joins u row = false) :
    ∃ x tail, within last u row = .free (u ++ '"' :: x) :: tail ∧ beginsFree tail = false ∧
      joinFree x tail = aligned last row := by
  cases row with
  | nil => exact ⟨last, [], by rw [within], rfl, by rw [joinFree_nil_eq, aligned]⟩
  | cons t row =>
    rw [within, aligned, if_neg (by simp [h])]
    split
    · have hgap := (hrow t (List.mem_cons_self ..)).gap_ne
      exact ⟨t.gap, _, rfl, rfl, joinFree_claimed hgap _ _⟩
    · have hv : t.gap ++ '"' :: t.content ≠ [] := by simp
      obtain ⟨y, tail, heq, hle, htail⟩ := exists_within_eq last (t.gap ++ '"' :: t.content) row
      have hy : y ≠ [] := by
        rintro rfl
        exact hv (List.length_eq_zero_iff.mp (Nat.le_zero.mp hle))
      refine ⟨y, tail, ?_, htail, ?_⟩
      · rw [show u ++ '"' :: (t.gap ++ '"' :: t.content) = (u ++ ['"']) ++ (t.gap ++ '"' :: t.content)
          by simp, within_append _ hv, heq, joinFree_free (by simp), List.append_assoc,
          List.singleton_append]
      · rw [joinFree_of_parted htail, ofFree_of_ne hy, heq]
        rfl

end Shape

section Sweep

variable {last : List Char} {rescan : Nat → Nat → Option Char → List Piece → List Piece}

/-- A string that a colon follows is found from the end of the string before. -/
theorem property_search_first {s : Strand} (hs : s.Sound) {tail : List Char}
    (htail : colonAhead tail = true) (before : Option Char) :
    ∃ hit, property.search before (s.gap ++ '"' :: (s.content ++ '"' :: tail)) = some hit ∧
      hit.token = ⟨s.gap.length, s.gap.length + (quoted s.content).length⟩ := by
  have hreach := Reaches.of_clean seeks_property hs.gap hs.gap_ne before
    ('"' :: (s.content ++ '"' :: tail))
  refine hreach.property_search (fun h => ?_) hs.content htail
  exact (hs.gap _ (List.mem_of_getLast? h)).2 rfl

/-- A pass for strings finds none in the text behind the last one. -/
theorem sweep_last {kind : String} {p : Pattern} (hp : Seeks p) (hlast : Clean last) (fuel : Nat)
    (before : Option Char) :
    sweep rescan kind p fuel none before (ofFree last) = ofFree last := by
  by_cases hne : last = []
  · rw [hne]
    exact sweep_nil
  · have hreach := Reaches.of_clean hp hlast hne none []
    rw [ofFree_of_ne hne]
    cases fuel with
    | zero => rfl
    | succ fuel => rw [sweep_alone_none (.inr rfl) (hreach.search_eq_none hp), sweep_nil]

/-- A pass over a single run claims the string that it finds first, and goes on behind it. -/
theorem sweep_quoted {kind : String} {p : Pattern} {u content tail : List Char} {hit : Hit}
    (hu : u ≠ []) (hsearch : p.search none (u ++ '"' :: (content ++ '"' :: tail)) = some hit)
    (htoken : hit.token = ⟨u.length, u.length + (quoted content).length⟩) (fuel : Nat)
    (before : Option Char) :
    sweep rescan kind p (fuel + 1) none before [.free (u ++ '"' :: (content ++ '"' :: tail))] =
      .free u :: .claimed ⟨kind, p, quoted content⟩ ::
        sweep rescan kind p fuel none (Text.lastOr before (quoted content)) (ofFree tail) := by
  rw [sweep_alone_some (.inr rfl) hsearch (cut_quoted _ _ _) htoken, joinFree_nil_eq,
    ofFree_of_ne hu]
  rfl

/-- The pass over what is left of a document: from the end of a string on, and from inside one, or
from any text that the search has passed. -/
structure SweepsKeys (rescan : Nat → Nat → Option Char → List Piece → List Piece)
    (last : List Char) (row : List Strand) : Prop where
  fromEnd : ∀ fuel before, (weave last row).length ≤ fuel →
    sweep rescan "property" property fuel none before (ofFree (weave last row)) = aligned last row
  fromInside : ∀ fuel before u, u ≠ [] → (u ++ '"' :: weave last row).length ≤ fuel →
    Reaches property none u ('"' :: weave last row) →
    sweep rescan "property" property fuel none before [.free (u ++ '"' :: weave last row)] =
      within last u row

namespace SweepsKeys

variable {row : List Strand} {t : Strand} {u : List Char} {fuel : Nat}

/-- Behind the last string there is no key. -/
theorem nil (hlast : Clean last) : SweepsKeys rescan last [] := by
  refine ⟨fun fuel before _ => sweep_last seeks_property hlast fuel before, ?_⟩
  intro fuel before u _ hfuel hreach
  rw [List.length_append, List.length_cons] at hfuel
  obtain ⟨fuel, rfl⟩ : ∃ n, fuel = n + 1 := ⟨fuel - 1, by omega⟩
  rw [weave] at hreach ⊢
  have hover := @Reaches.over_break none u last [] (by rwa [List.append_nil]) hlast (.inl rfl)
  rw [within, sweep_alone_none (.inr rfl) (hover.search_eq_none seeks_property), sweep_nil]

/-- Between two strings: the next one is a key if a colon follows it, and is passed otherwise. -/
theorem cons_fromEnd (h : SweepsKeys rescan last row) (ht : t.Sound) (before : Option Char)
    (hfuel : (weave last (t :: row)).length ≤ fuel) :
    sweep rescan "property" property fuel none before (ofFree (weave last (t :: row))) =
      aligned last (t :: row) := by
  rw [weave] at hfuel ⊢
  rw [aligned, ofFree_of_ne (by simp)]
  split
  · next hkey =>
    obtain ⟨hit, hsearch, htoken⟩ := property_search_first ht hkey none
    rw [List.length_append, List.length_cons, List.length_append, List.length_cons] at hfuel
    obtain ⟨fuel, rfl⟩ : ∃ n, fuel = n + 1 := ⟨fuel - 1, by omega⟩
    rw [sweep_quoted ht.gap_ne hsearch htoken, h.fromEnd _ _ (by omega)]
    rfl
  · next hkey =>
    have hreach := Reaches.of_clean seeks_property ht.gap ht.gap_ne none
      ('"' :: (t.content ++ '"' :: weave last row))
    have hover := hreach.over_string ht.content (by simpa using hkey)
    have htext : t.gap ++ '"' :: (t.content ++ '"' :: weave last row) =
        (t.gap ++ '"' :: t.content) ++ '"' :: weave last row := by simp
    rw [htext] at hfuel ⊢
    exact h.fromInside _ _ _ (by simp) hfuel hover

/-- Inside a string, the text up to the next one is claimed if the next one begins with a colon. -/
theorem joins_fromInside (h : SweepsKeys rescan last row) (ht : t.Sound) (before : Option Char)
    (hu : u ≠ []) (hjoins : joins u (t :: row) = true)
    (hfuel : (u ++ '"' :: weave last (t :: row)).length ≤ fuel)
    (hreach : Reaches property none u ('"' :: weave last (t :: row))) :
    sweep rescan "property" property fuel none before [.free (u ++ '"' :: weave last (t :: row))] =
      .free u :: key t.gap :: within last t.content row := by
  rw [weave] at hfuel hreach ⊢
  obtain ⟨hit, hsearch, htoken⟩ := hreach.gap_search ht hjoins
  have hcontent := content_ne_of_joins hjoins
  have hnext : Reaches property none t.content ('"' :: weave last row) :=
    Reaches.of_quiet seeks_property (ht.content.quiet 'x').tail hcontent
      (fun _ => ht.content.head?_ne) _
  simp only [List.length_append, List.length_cons] at hfuel
  obtain ⟨fuel, rfl⟩ : ∃ n, fuel = n + 1 := ⟨fuel - 1, by omega⟩
  have hlen : (t.content ++ '"' :: weave last row).length ≤ fuel := by
    rw [List.length_append, List.length_cons]
    omega
  have hne : t.content ++ '"' :: weave last row ≠ [] := by simp
  rw [sweep_quoted hu hsearch htoken, ofFree_of_ne hne, h.fromInside _ _ _ hcontent hlen hnext]
  rfl

/-- Inside a string whose end does not open a key, the pass goes on to the next string. -/
theorem over_fromInside (h : SweepsKeys rescan last row) (ht : t.Sound) (before : Option Char)
    (hjoins : joins u (t :: row) = false)
    (hfuel : (u ++ '"' :: weave last (t :: row)).length ≤ fuel)
    (hreach : Reaches property none u ('"' :: weave last (t :: row))) :
    sweep rescan "property" property fuel none before [.free (u ++ '"' :: weave last (t :: row))] =
      if colonAhead (weave last row) then
        .free (u ++ '"' :: t.gap) :: key t.content :: aligned last row
      else within last (u ++ '"' :: (t.gap ++ '"' :: t.content)) row := by
  rw [weave] at hfuel hreach ⊢
  have hover := hreach.over_gap ht hjoins
  split
  · next hkey =>
    obtain ⟨hit, hsearch, htoken⟩ :=
      hover.property_search (ht.gap.getLast?_ne u) ht.content hkey
    have htext : u ++ '"' :: (t.gap ++ '"' :: (t.content ++ '"' :: weave last row)) =
        (u ++ '"' :: t.gap) ++ '"' :: (t.content ++ '"' :: weave last row) := by simp
    simp only [List.length_append, List.length_cons] at hfuel
    obtain ⟨fuel, rfl⟩ : ∃ n, fuel = n + 1 := ⟨fuel - 1, by omega⟩
    rw [htext, sweep_quoted (by simp) hsearch htoken, h.fromEnd _ _ (by omega)]
    rfl
  · next hkey =>
    have hnext := hover.over_string ht.content (by simpa using hkey)
    have htext : u ++ '"' :: (t.gap ++ '"' :: (t.content ++ '"' :: weave last row)) =
        (u ++ '"' :: (t.gap ++ '"' :: t.content)) ++ '"' :: weave last row := by simp
    have hu' : (u ++ '"' :: t.gap) ++ '"' :: t.content =
        u ++ '"' :: (t.gap ++ '"' :: t.content) := by simp
    rw [hu'] at hnext
    rw [htext] at hfuel ⊢
    exact h.fromInside _ _ _ (by simp) hfuel hnext

theorem cons (h : SweepsKeys rescan last row) (ht : t.Sound) : SweepsKeys rescan last (t :: row) := by
  refine ⟨fun fuel before hfuel => h.cons_fromEnd ht before hfuel, ?_⟩
  intro fuel before u hu hfuel hreach
  rw [within]
  split
  · next hjoins => exact h.joins_fromInside ht before hu hjoins hfuel hreach
  · next hjoins => exact h.over_fromInside ht before (by simpa using hjoins) hfuel hreach

end SweepsKeys

/-- The pass for keys makes the pieces that `aligned` and `within` give. -/
theorem sweep_keys (row : List Strand) (hrow : ∀ s ∈ row, s.Sound) (hlast : Clean last) :
    SweepsKeys rescan last row := by
  induction row with
  | nil => exact .nil hlast
  | cons t row ih =>
    exact (ih fun s hs => hrow s (List.mem_cons_of_mem _ hs)).cons (hrow t (List.mem_cons_self ..))

end Sweep

end Highlight.Json
