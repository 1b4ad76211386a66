import Highlight.Proofs.Json.Document
import Highlight.Proofs.Token.Nodes

/-!
# The tokens of a document

The grammar `json` divides a valid text into its lexemes, with one exception. Where a string value
is joined to a key behind it, and that key to another key behind it, the second key becomes a string:
its text is set free in the course of a rescan that ends before it, and the rule for keys has had
its turn. `misled` says whether there is such a place, and `builtin_lexed_iff` that nothing else can
go wrong.
-/

namespace Highlight.Json

open Piece

/-- Whether the next string is a key. -/
def keyNext : List Lexeme → Bool
  | [] => false
  | .key _ :: _ => true
  | .string _ :: _ => false
  | _ :: row => keyNext row

/-- Whether the next string is a key that is joined to another key. -/
def chained : List Lexeme → Bool
  | [] => false
  | .key c :: row => joined c row && keyNext row
  | .string _ :: _ => false
  | _ :: row => chained row

/-- Whether somewhere a string value is joined to a key, and that key to another key. -/
def misled : List Lexeme → Bool
  | [] => false
  | .string c :: row => joined c row && chained row || misled row
  | _ :: row => misled row

section Relabel

variable {l : Lexeme} {row : List Lexeme}

theorem keyNext_other (hl : l.content? = none) : keyNext (l :: row) = keyNext row := by
  cases l <;> first | rfl | cases hl

theorem chained_other (hl : l.content? = none) : chained (l :: row) = chained row := by
  cases l <;> first | rfl | cases hl

theorem misled_other (hl : l.content? = none) : misled (l :: row) = misled row := by
  cases l <;> first | rfl | cases hl

/-- Which keys become strings, in the three ways in which the text ahead may have been left. -/
theorem relabel_eq_iff_all (row : List Lexeme) :
    (relabel .settled row = row ↔ misled row = false) ∧
    (relabel .rescanned row = row ↔ chained row = false ∧ misled row = false) ∧
    (relabel .missed row = row ↔ keyNext row = false ∧ misled row = false) := by
  induction row with
  | nil => simp [relabel, misled, chained, keyNext]
  | cons l row ih =>
    obtain ⟨hsettled, hrescanned, hmissed⟩ := ih
    cases hl : l.content? with
    | none =>
      simp only [relabel_other hl, keyNext_other hl, chained_other hl, misled_other hl,
        List.cons_inj_right, hsettled, hrescanned, hmissed, and_self]
    | some c =>
      cases l with
      -- what a string leaves behind depends on whether it is joined to the next one
      | key c =>
        simp only [relabel, Mode.typesKey, Mode.next, keyNext, chained, misled]
        cases joined c row <;> simp [hsettled, hmissed]
      | string c =>
        simp only [relabel, Mode.typesKey, Mode.next, keyNext, chained, misled]
        cases joined c row <;> simp [hsettled, hrescanned]
      | _ => cases hl

/-- All keys stay keys exactly if there is no place at which one becomes a string. -/
theorem relabel_eq_iff (row : List Lexeme) : relabel .settled row = row ↔ misled row = false :=
  (relabel_eq_iff_all row).1

end Relabel

/-- The tokens that the lexemes of a row should be, from byte offset `start` on. -/
def lexemeRanges : (start : Nat) → List Lexeme → List StyledRange
  | _, [] => []
  | start, l :: row =>
    let stop := start + Text.byteLength l.text
    match l.rule with
    | some (kind, p) => ⟨⟨start, stop⟩, kind, p.altKind, 0⟩ :: lexemeRanges stop row
    | none => lexemeRanges stop row

/-- The nodes of a text are the lexemes of a row: these are the tokens, at the top of the tree and
nowhere else, and all other text is white space. -/
structure Lexed (nodes : List Node) (row : List Lexeme) : Prop where
  tokens : Node.flatten nodes = lexemeRanges 0 row
  white : ∀ n ∈ nodes, n.isToken = false → ∀ c ∈ n.text.toList, isWhite c = true

section Nodes

variable {inside : Pattern → Nat → List Char → List Node} {l : Lexeme} {row : List Lexeme}

theorem rule_inside {kind : String} {p : Pattern} (h : l.rule = some (kind, p)) :
    p.inside = none := by
  cases l <;> cases h <;> rfl

/-- Free text in front of pieces adds no token. -/
theorem flatten_joinFree (start : Nat) (t : List Char) (ps : List Piece) :
    Node.flattenFrom 0 (toNodes inside start (joinFree t ps)) =
      Node.flattenFrom 0 (toNodes inside (start + Text.byteLength t) ps) := by
  by_cases ht : t = []
  · rw [ht]
    rfl
  · cases ps with
    | nil => rw [joinFree_nil ht]; rfl
    | cons p ps =>
      cases p with
      | free u =>
        rw [joinFree_free ht, toNodes, toNodes, Text.byteLength_append, Nat.add_assoc]
        rfl
      | claimed c =>
        rw [joinFree_claimed ht]
        rfl

/-- The tokens of covered lexemes. -/
theorem flatten_cover (start : Nat) (row : List Lexeme) :
    Node.flattenFrom 0 (toNodes PatternWith.nodesInside start (cover kinds row)) =
      lexemeRanges start row := by
  induction row generalizing start with
  | nil => rfl
  | cons l row ih =>
    cases hrule : l.rule with
    | none =>
      have hclaim : l.claim kinds = none := by rw [Lexeme.claim, hrule]
      rw [cover_free hclaim, flatten_joinFree, ih, lexemeRanges, hrule]
    | some r =>
      obtain ⟨kind, p⟩ := r
      have hmem : kind ∈ kinds := by
        cases l <;> cases hrule <;> decide
      have hclaim : l.claim kinds = some ⟨kind, p, l.text⟩ := by
        rw [Lexeme.claim, hrule]
        exact if_pos hmem
      rw [cover_claim hclaim, toNodes, Node.flattenFrom, Node.ranges, ih, lexemeRanges, hrule]
      have hinside : PatternWith.nodesInside p start l.text = [] := by
        rw [PatternWith.nodesInside, rule_inside hrule]
      rw [hinside]
      rfl

/-- Free text that is joined to pieces is white if both are. -/
theorem white_of_mem_joinFree {u : List Char} {ps : List Piece} (hu : ∀ c ∈ u, isWhite c = true)
    (hps : ∀ t, .free t ∈ ps → ∀ c ∈ t, isWhite c = true) :
    ∀ t, .free t ∈ joinFree u ps → ∀ c ∈ t, isWhite c = true := by
  by_cases hne : u = []
  · rw [hne]
    exact hps
  · intro t ht
    cases ps with
    | nil =>
      rw [joinFree_nil hne, List.mem_singleton] at ht
      cases ht
      exact hu
    | cons p ps =>
      cases p with
      | free v =>
        rw [joinFree_free hne] at ht
        rcases List.mem_cons.mp ht with ht | ht
        · cases ht
          exact List.forall_mem_append.mpr ⟨hu, hps v (List.mem_cons_self ..)⟩
        · exact hps t (List.mem_cons_of_mem _ ht)
      | claimed c =>
        rw [joinFree_claimed hne] at ht
        rcases List.mem_cons.mp ht with ht | ht
        · cases ht
          exact hu
        · exact hps t ht

/-- White space is all that is left between covered lexemes. -/
theorem white_of_mem_cover (hrow : ∀ l ∈ row, l.Valid) :
    ∀ t, .free t ∈ cover kinds row → ∀ c ∈ t, isWhite c = true := by
  induction row with
  | nil => exact fun t ht => by cases ht
  | cons l row ih =>
    obtain ⟨hl, hrow⟩ := List.forall_mem_cons.mp hrow
    cases hclaim : l.claim kinds with
    | some c =>
      rw [cover_claim hclaim]
      intro t ht
      rcases List.mem_cons.mp ht with ht | ht
      · cases ht
      · exact ih hrow t ht
    | none =>
      have hwhite : ∀ c ∈ l.text, isWhite c = true := by
        cases l with
        | blank t => exact hl
        | _ => cases hclaim
      rw [cover_free hclaim]
      exact white_of_mem_joinFree hwhite (ih hrow)

/-- A key that has become a string is another token. -/
theorem lexemeRanges_relabel (m : Mode) (start : Nat) (row : List Lexeme) :
    lexemeRanges start (relabel m row) = lexemeRanges start row ↔ relabel m row = row := by
  refine ⟨fun h => ?_, fun h => by rw [h]⟩
  induction row generalizing m start with
  | nil => rw [relabel]
  | cons l row ih =>
    cases hl : l.content? with
    | none =>
      rw [relabel_other hl] at h ⊢
      rw [lexemeRanges, lexemeRanges] at h
      cases hrule : l.rule with
      | none =>
        rw [hrule] at h
        rw [ih m _ h]
      | some r =>
        rw [hrule] at h
        rw [ih m _ (List.cons.inj h).2]
    | some c =>
      cases l with
      | key c =>
        rw [relabel] at h ⊢
        cases hkey : m.typesKey true with
        | true =>
          rw [hkey, if_pos rfl] at h
          rw [if_pos rfl, ih _ _ (List.cons.inj h).2]
        | false =>
          rw [hkey, if_neg Bool.false_ne_true] at h
          have hkind : "string" = "property" := congrArg StyledRange.kind (List.cons.inj h).1
          exact absurd hkind (by decide)
      | string c =>
        rw [relabel] at h ⊢
        rw [ih _ _ (List.cons.inj h).2]
      | _ => cases hl

end Nodes

section Tokenize

variable {row : List Lexeme} {text : String}

theorem relabel_valid (m : Mode) (hrow : ∀ l ∈ row, l.Valid) : ∀ l ∈ relabel m row, l.Valid := by
  induction row generalizing m with
  | nil => exact hrow
  | cons l row ih =>
    obtain ⟨hl, hrest⟩ := List.forall_mem_cons.mp hrow
    cases hcontent : l.content? with
    | none =>
      rw [relabel_other hcontent]
      exact List.forall_mem_cons.mpr ⟨hl, ih m hrest⟩
    | some c =>
      cases l with
      | key c =>
        rw [relabel]
        refine List.forall_mem_cons.mpr ⟨?_, ih _ hrest⟩
        split
        · exact hl
        · exact hl
      | string c =>
        rw [relabel]
        exact List.forall_mem_cons.mpr ⟨hl, ih _ hrest⟩
      | _ => cases hcontent

/-- The tokens of a document are its lexemes exactly if no key becomes a string. -/
theorem lexed_iff (h : Document row) (htext : text.toList = spellRow row) :
    Lexed (grammar.tokenize text) row ↔ misled row = false := by
  have htokenize : grammar.tokenize text =
      toNodes PatternWith.nodesInside 0 (cover kinds (relabel .settled row)) := by
    rw [Grammar.tokenize, htext, Grammar.nodesAt_eq, divide_document h]
  rw [← relabel_eq_iff, ← lexemeRanges_relabel .settled 0, ← flatten_cover, ← htokenize]
  refine ⟨fun h => h.tokens, fun htokens => ⟨htokens, ?_⟩⟩
  intro n hn hrun
  rw [htokenize] at hn
  obtain ⟨i, hi⟩ := List.mem_iff_getElem?.mp hn
  obtain ⟨a, q, b, hps, -, rfl⟩ := exists_of_toNodes hi
  cases q with
  | claimed c => cases hrun
  | free t =>
    have hwhite := white_of_mem_cover (relabel_valid .settled h.regular.valid) t (by rw [hps]; simp)
    rw [toNode, Node.text, String.toList_ofList]
    exact hwhite

end Tokenize

/-- The grammar `json` divides a valid text into its lexemes, exactly if there is no place in it at
which a key becomes a string. -/
theorem builtin_lexed_iff {g : Grammar} (hg : Builtin.json = .ok g) {row : List Lexeme}
    (h : Document row) {text : String} (htext : text.toList = spellRow row) :
    Lexed (g.tokenize text) row ↔ misled row = false := by
  rw [builtin_json] at hg
  cases hg
  exact lexed_iff h htext

/-- A lexeme without white space on its sides. -/
def bare (l : Lexeme) : List Lexeme := [.blank [], l, .blank []]

theorem padded_bare (l : Lexeme) : Padded l (bare l) :=
  .mk (fun _ h => by cases h) (fun _ h => by cases h)

/-- An object with one member: its key looks like a comment, and its value is an array. -/
def member : List Lexeme :=
  .blank [] :: (bare (.sign '\x7b') ++ (.key ['/', '/'] :: (bare .colon ++
    (bare (.sign '[') ++ ((([.string [':']] ++ (bare (.sign ',') ++ [.boolean true]))) ++
      bare (.sign ']')))) ++ bare (.sign '\x7d')) ++ [.blank ['\n']])

theorem document_member : Document member := by
  have hslash : IsString ['/', '/'] :=
    .unescaped (by decide) (by decide) (by decide) (.unescaped (by decide) (by decide) (by decide) .nil)
  have hcolon : IsString [':'] := .unescaped (by decide) (by decide) (by decide) .nil
  have helements : Derives .elements ([.string [':']] ++ (bare (.sign ',') ++ [.boolean true])) :=
    .elements (.string hcolon) (padded_bare _) (.element (.boolean true))
  have harray := Derives.array (padded_bare _) helements (padded_bare _)
  have hmember := Derives.member hslash (padded_bare _) harray
  exact .mk (by simp) (.object (padded_bare _) hmember (padded_bare _)) (by simp [isWhite])

theorem lexed_member :
    Builtin.json = .ok grammar ∧ Document member ∧
      "\x7b\"//\":[\":\",true]\x7d\n".toList = spellRow member ∧
      Lexed (grammar.tokenize "\x7b\"//\":[\":\",true]\x7d\n") member := by
  have htext : "\x7b\"//\":[\":\",true]\x7d\n".toList = spellRow member := by decide
  have hmisled : misled member = false := by decide
  exact ⟨builtin_json, document_member, htext,
    (builtin_lexed_iff builtin_json document_member htext).mpr hmisled⟩

/-- Behind an empty string, two objects one within the other, each with a colon for a key. -/
def nested : List Lexeme :=
  .blank [] :: (bare (.sign '[') ++ (([.string []] ++ (bare (.sign ',') ++ (bare (.sign '\x7b') ++
    ((.key [':'] :: (bare .colon ++ (bare (.sign '[') ++ ((bare (.sign '\x7b') ++
      ((.key [':'] :: (bare .colon ++ [.number ['0']])) ++ bare (.sign '\x7d'))) ++
        bare (.sign ']'))))) ++ bare (.sign '\x7d'))))) ++ bare (.sign ']')) ++ [.blank []])

theorem document_nested : Document nested := by
  have hcolon : IsString [':'] := .unescaped (by decide) (by decide) (by decide) .nil
  have hzero : IsNumber ['0'] := .mk (.inl rfl) .zero .none .none
  have hinner := Derives.member hcolon (padded_bare .colon) (.number hzero)
  have hobject := Derives.object (padded_bare _) hinner (padded_bare _)
  have harray := Derives.array (padded_bare _) (.element hobject) (padded_bare _)
  have houter := Derives.member hcolon (padded_bare .colon) harray
  have hobject' := Derives.object (padded_bare _) houter (padded_bare _)
  have helements := Derives.elements (.string .nil) (padded_bare _) (.element hobject')
  exact .mk (by simp) (.array (padded_bare _) helements (padded_bare _)) (by simp)

/-- Not every valid text is divided into its lexemes. -/
theorem not_forall_lexed : ¬ ∀ (g : Grammar) (row : List Lexeme) (text : String),
    Builtin.json = .ok g → Document row → text.toList = spellRow row →
      Lexed (g.tokenize text) row := by
  intro h
  have htext : "[\"\",\x7b\":\":[\x7b\":\":0\x7d]\x7d]".toList = spellRow nested := by decide
  have hmisled := (lexed_iff document_nested htext).mp (h _ _ _ builtin_json document_nested htext)
  exact absurd hmisled (by decide)

end Highlight.Json
