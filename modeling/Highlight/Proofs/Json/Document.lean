import Highlight.Proofs.Json.Rows

/-!
# What becomes of a document

The rules for strings make strands of a document, the rule for comments finds nothing to do, and the
later rules claim the other lexemes. So the pieces of a document are its lexemes, but some keys may
have become strings: `relabel` says which, and `divide_document` that these are the pieces.
-/

namespace Highlight

/-- Where no leading context is cut off, a token begins where its match begins. -/
theorem PatternWith.hitAt_start {Inner : Type} {p : PatternWith Inner} (hp : p.lookbehind = none)
    {before : Option Char} {text : List Char} {h : Hit} (hh : p.hitAt before text = some h) :
    h.token.start = 0 := by
  rw [hitAt] at hh
  split at hh
  · dsimp only at hh
    split at hh
    · cases hh
      rw [tokenSpan, hp]
      rfl
    · cases hh
  · cases hh

namespace Json

open Piece

/-- Whether the text up to the next string would be a key, if it were taken for a string behind the
content `c`. -/
def joined (c : List Char) (row : List Lexeme) : Bool := joins c (strands [] row)

/-- The lexemes as which the lexemes of a document are claimed. -/
def relabel : Mode → List Lexeme → List Lexeme
  | _, [] => []
  | m, .key c :: row =>
    (if m.typesKey true then .key c else .string c) :: relabel (m.next true (joined c row)) row
  | m, .string c :: row => .string c :: relabel (m.next false (joined c row)) row
  | m, l :: row => l :: relabel m row

section Relabel

variable {l : Lexeme} {row front : List Lexeme} {m : Mode}

theorem relabel_other (hl : l.content? = none) : relabel m (l :: row) = l :: relabel m row := by
  cases l with
  | key c => cases hl
  | string c => cases hl
  | _ => rw [relabel] <;> simp

theorem stringless_nil : Stringless [] := by simp [Stringless]

theorem claim_key (c : List Char) :
    (Lexeme.key c).claim kinds = some ⟨"property", property, quoted c⟩ := rfl

theorem claim_string (c : List Char) :
    (Lexeme.string c).claim kinds = some ⟨"string", string, quoted c⟩ := rfl

theorem replaceRuns_gap (name : String) (hfront : Stringless front) (hrow : Regular front) :
    replaceRuns (Grammar.mk name otherRules).divide (ofFree (spellRow front)) = cover kinds front := by
  have hdivide := divide_spellRow name hrow hfront
  by_cases ht : spellRow front = []
  · rw [ht] at hdivide ⊢
    have hspell := (Grammar.mk name otherRules).spell_divide []
    have hsolid := (Grammar.mk name otherRules).solid_divide []
    rw [← hdivide]
    cases hps : (Grammar.mk name otherRules).divide [] with
    | nil => rfl
    | cons q ps =>
      rw [hps] at hspell hsolid
      have hpos := length_spell_pos hsolid (List.cons_ne_nil _ _)
      rw [hspell] at hpos
      cases hpos
  · rw [replaceRuns_ofFree ht, hdivide]

/-- The later rules turn the strands of a row into lexemes. -/
theorem replaceRuns_typed (name : String) (hfront : Stringless front)
    (hrow : Regular (front ++ row)) (m : Mode) :
    replaceRuns (Grammar.mk name otherRules).divide
        (typed (rear (spellRow front) row) m (strands (spellRow front) row)) =
      cover kinds (front ++ relabel m row) := by
  -- `front` is what has come since the last string, and grows until there is another one
  induction row generalizing front m with
  | nil =>
    rw [relabel, List.append_nil]
    exact replaceRuns_gap name hfront (hrow.cut hfront)
  | cons l row ih =>
    cases hcontent : l.content? with
    | none =>
      have hnext : Stringless (front ++ [l]) :=
        List.forall_mem_append.mpr ⟨hfront, by simpa using hcontent⟩
      have hspell : spellRow front ++ l.text = spellRow (front ++ [l]) := by
        rw [spellRow_append, spellRow_cons]
        simp [spellRow]
      rw [strands_other hcontent, rear_other hcontent, hspell, relabel_other hcontent,
        ih hnext (by rwa [List.append_assoc]), List.append_assoc]
      rfl
    | some c =>
      have hregular := hrow.of_append
      have hrest := hregular.tail
      have htail : ∀ m, replaceRuns (Grammar.mk name otherRules).divide
          (typed (rear [] row) m (strands [] row)) = cover kinds (relabel m row) :=
        fun m => ih stringless_nil hrest m
      have hgap := replaceRuns_gap name hfront (hrow.cut hfront)
      rw [strands_string hcontent, rear_string hcontent, typed, weave_strands, List.nil_append,
        replaceRuns_append, hgap]
      cases hregular with
      | cons hvalid hnext _ =>
        cases l with
        | key d =>
          cases hcontent
          rw [colonAhead_of_next hrest hnext, relabel]
          cases hkey : m.typesKey true with
          | true =>
            rw [if_pos rfl, if_pos rfl, cover_append_claim (claim_key c)]
            exact congrArg (fun ps => _ ++ key c :: ps) (htail _)
          | false =>
            rw [if_neg Bool.false_ne_true, if_neg Bool.false_ne_true,
              cover_append_claim (claim_string c)]
            exact congrArg (fun ps => _ ++ value c :: ps) (htail _)
        | string d =>
          cases hcontent
          have hvalue : m.typesKey false = false := by rw [Mode.typesKey, Bool.and_false]
          rw [colonAhead_of_ends hrest hnext, relabel, cover_append_claim (claim_string c), hvalue]
          exact congrArg (fun ps => _ ++ value c :: ps) (htail _)
        | _ => cases hcontent

end Relabel

section Document

variable {row : List Lexeme}

/-- A token without leading context begins with a character that its pattern asks for. -/
theorem AsksFor.beginsWith {p : Pattern} {sets : List CharSet} (h : AsksFor p.regex.program sets)
    (hbehind : p.lookbehind = none) : BeginsWith p fun c => sets.any fun s => s.contains c := by
  intro before lead d back hit hs hlead
  obtain ⟨front, back', h₀, hcut, hfirst, rfl⟩ := PatternWith.search_eq_some hs
  have hstart : h₀.token.start = 0 := PatternWith.hitAt_start hbehind hfirst.here
  have hlen : front.length = lead.length := by
    simp only [Hit.shift, Span.shift, hstart, Nat.zero_add] at hlead
    exact hlead
  obtain ⟨-, rfl⟩ := List.append_inj hcut.symm hlen
  cases hd : sets.any fun s => s.contains d with
  | true => exact hd
  | false =>
    have hrefuses : Refuses p.regex.program (d :: back).head? := by
      refine h.refuses fun c hc s hs => ?_
      cases hc
      simpa using List.any_eq_false.mp hd s hs
    have hhere := hfirst.here
    rw [hrefuses.hitAt] at hhere
    cases hhere

/-- A value that begins with a string is that string. -/
theorem Derives.lone_or_next (h : Derives .value row) :
    (∃ c, row = [.string c] ∧ IsString c) ∨
      ∀ rest l, next (row ++ rest) = some l → l.content? = none := by
  cases h with
  | @string c hc => exact .inl ⟨c, rfl, hc⟩
  | null => exact .inr fun rest l hl => by cases hl; rfl
  | boolean b => exact .inr fun rest l hl => by cases hl; rfl
  | number ht => exact .inr fun rest l hl => by cases hl; rfl
  | emptyArray hl hr | array hl _ hr | emptyObject hl hr | object hl _ hr =>
    obtain ⟨-, -⟩ := hl
    exact .inr fun rest l hl => by cases hl; rfl

/-- Characters of free text after the passes for strings stand between strings. -/
theorem forall_free_typed {P : Char → Prop} {last : List Char} {strands : List Strand} {m : Mode}
    (hlast : ∀ d ∈ last, P d) (hstrands : ∀ s ∈ strands, ∀ d ∈ s.gap, P d) :
    ∀ t, .free t ∈ typed last m strands → ∀ d ∈ t, P d := by
  have hof : ∀ g t : List Char, .free t ∈ ofFree g → t = g := by
    intro g t ht
    rw [ofFree] at ht
    split at ht
    · cases ht
    · simpa using ht
  induction strands generalizing m with
  | nil =>
    intro t ht
    rw [typed] at ht
    rw [hof last t ht]
    exact hlast
  | cons s strands ih =>
    obtain ⟨hs, hstrands⟩ := List.forall_mem_cons.mp hstrands
    intro t ht
    rw [typed, List.mem_append, List.mem_cons] at ht
    rcases ht with ht | ht | ht
    · rw [hof s.gap t ht]
      exact hs
    · split at ht <;> cases ht
    · exact ih hstrands t ht

/-- Both passes for strings over a document. -/
theorem sweep_document (h : Document row) :
    sweep rescanKeys "string" string (spellRow row).length none none
      (sweep (rescanWith []) "property" property (spellRow row).length none none
        (ofFree (spellRow row))) = typed (rear [] row) .settled (strands [] row) := by
  have hregular := h.regular
  have hvalid := hregular.valid
  obtain ⟨hgap, hrear⟩ := bare_gap hvalid
  have hclean : Clean (rear [] row) := fun d hd => ⟨(hrear d hd).1, (hrear d hd).2.1⟩
  have hcleanGap : ∀ s ∈ strands [] row, Clean s.gap :=
    fun s hs d hd => ⟨(hgap s hs d hd).1, (hgap s hs d hd).2.1⟩
  have hcontent : ∀ s ∈ strands [] row, Content s.content := strand_content hvalid
  have hweave : weave (rear [] row) (strands [] row) = spellRow row := weave_strands [] row
  rw [← hweave]
  by_cases hne : ∀ s ∈ strands [] row, s.gap ≠ []
  · exact sweep_twice (fun s hs => ⟨hcleanGap s hs, hne s hs, hcontent s hs⟩) hclean (Nat.le_refl _)
  · -- a string without text in front of it is the only lexeme that is no white space
    obtain ⟨ha, hvalue, hb⟩ := h
    next a b value =>
    rcases hvalue.lone_or_next with ⟨c, rfl, hc⟩ | hnext
    · have hstrands : strands [] (.blank a :: ([.string c] ++ [.blank b])) = [⟨a, c⟩] := rfl
      have ha : a = [] := by
        rw [hstrands] at hne
        simpa using hne
      have hblank : ∀ d ∈ b, isBlank d = true := fun d hd => (white_facts (hb d hd)).1
      subst ha
      exact sweep_twice_lone hc.content hclean hblank (Nat.le_refl _)
    · exact absurd (forall_gap_ne hregular (.inr (hnext [.blank b]))) hne

/-- The rules for strings and comments make strands of a document. -/
theorem divide_strings (name : String) (h : Document row) :
    (Grammar.mk name stringRules).divide (spellRow row) =
      typed (rear [] row) .settled (strands [] row) := by
  have hdivide : (Grammar.mk name stringRules).divide (spellRow row) =
      sweep (rescanWith [⟨"string", [string]⟩, ⟨"property", [property]⟩]) "comment" comment
        (spellRow row).length none none
        (sweep rescanKeys "string" string (spellRow row).length none none
          (sweep (rescanWith []) "property" property (spellRow row).length none none
            (ofFree (spellRow row)))) := rfl
  obtain ⟨hgap, hrear⟩ := bare_gap h.regular.valid
  have hbegins := asks_comment.beginsWith rfl
  rw [hdivide, sweep_document h]
  refine sweep_idle hbegins _ _ _ _ fun t ht d hd => ?_
  have hbare := forall_free_typed hrear hgap t ht d hd
  have hslash : (CharSet.singleton '/').contains d = false := by
    rw [Bool.eq_false_iff, ne_eq, contains_singleton]
    exact hbare.2.2
  simpa using hslash

/-- The pieces of a document are its lexemes, but some keys may have become strings. -/
theorem divide_document (h : Document row) :
    grammar.divide (spellRow row) = cover kinds (relabel .settled row) := by
  have hothers : Unassuming otherRules := by
    intro rule hrule p hp
    obtain ⟨q, hpatterns, hs⟩ := spotters_otherRules rule (List.mem_reverse.mpr hrule)
    rw [hpatterns, List.mem_singleton] at hp
    rw [hp]
    exact hs.greedy
  have happend := Grammar.divide_append "json" "strings" "others" stringRules otherRules hothers
    (spellRow row)
  have htyped := replaceRuns_typed "others" stringless_nil h.regular .settled
  rw [show grammar = .mk "json" (stringRules ++ otherRules) from rfl, happend,
    divide_strings "strings" h]
  exact htyped

end Document

end Json

end Highlight
