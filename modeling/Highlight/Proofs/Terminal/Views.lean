import Highlight.Terminal.Views
import Highlight.Proofs.Text.Lines
import Highlight.Proofs.Token.Walk

/-!
# The plain views show the tree

The two views can be read back: where no name has a line feed in it, each line of the one says what range a
token has, and each line of the other which node stands there and how deep. So the walk, the ranges and the
two views all tell of the same tokens in the same order, for any tree.
-/

namespace Highlight

namespace Text

theorem hexDigit_ne {n : Nat} (h : n < 16) : '\n' ≠ hexDigit n := by
  have hall : ∀ n < 16, '\n' ≠ hexDigit n := by decide
  exact hall n h

theorem not_mem_hexDigits (places n : Nat) : '\n' ∉ hexDigits places n := by
  induction places generalizing n with
  | zero =>
    rw [hexDigits, List.mem_singleton]
    exact hexDigit_ne (Nat.mod_lt _ (by decide))
  | succ places ih =>
    rw [hexDigits]
    split
    · next hsmall =>
      rw [List.mem_singleton]
      exact hexDigit_ne hsmall
    · rw [List.mem_append, List.mem_singleton]
      rintro (hmem | heq)
      · exact ih _ hmem
      · exact hexDigit_ne (Nat.mod_lt _ (by decide)) heq

theorem not_mem_quoteChar (c : Char) : '\n' ∉ quoteChar c := by
  rw [quoteChar.eq_def]
  split
  case h_7 c _ _ _ hc _ _ =>
    split
    · simp [not_mem_hexDigits]
    · rw [List.mem_singleton]
      exact fun heq => hc heq.symm
  all_goals decide

/-- A quoted text stands on one line, whatever the text is. -/
theorem not_mem_quote (s : String) : '\n' ∉ (quote s).toList := by
  rw [quote, String.toList_ofList]
  simp [not_mem_quoteChar]

end Text

/-- Lines with a line end each are the lines of a text with nothing behind the last line end. -/
theorem isLines_unlines {lines : List String} (h : ∀ line ∈ lines, '\n' ∉ line.toList) :
    Text.IsLines (unlines lines).toList (lines.map (·.toList) ++ [[]]) := by
  refine ⟨by simp, ?_, ?_⟩
  · induction lines with
    | nil => rfl
    | cons line lines ih =>
      have hne : lines.map (·.toList) ++ [[]] ≠ [] := by simp
      have hrest := ih fun l hl => h l (List.mem_cons_of_mem _ hl)
      rw [unlines, String.toList_join] at hrest ⊢
      rw [List.map_cons, List.cons_append, List.intercalate_cons_of_ne_nil hne, hrest, List.map_cons,
        List.flatMap_cons, String.toList_append]
      rfl
  · intro cs hcs
    rcases List.mem_append.mp hcs with hcs | hcs
    · obtain ⟨line, hline, rfl⟩ := List.mem_map.mp hcs
      exact h line hline
    · rw [List.mem_singleton.mp hcs]
      exact List.not_mem_nil

/-- The number whose digits a text begins with, and the text behind them. -/
def readNumber (cs : List Char) : Nat × List Char :=
  (Nat.ofDigitChars 10 (cs.takeWhile Char.isDigit) 0, cs.dropWhile Char.isDigit)

theorem isDigit_of_mem_number {n : Nat} {c : Char} (h : c ∈ (toString n).toList) : c.isDigit = true := by
  rw [show (toString n).toList = Nat.toDigits 10 n from Nat.toList_repr] at h
  exact Nat.isDigit_of_mem_toDigits (by decide) (by decide) h

theorem not_mem_number {c : Char} (hc : c.isDigit = false) (n : Nat) : c ∉ (toString n).toList := by
  intro hmem
  rw [isDigit_of_mem_number hmem] at hc
  cases hc

theorem readNumber_append (n : Nat) {c : Char} (hc : c.isDigit = false) (cs : List Char) :
    readNumber ((toString n).toList ++ c :: cs) = (n, c :: cs) := by
  have hall : ∀ d ∈ (toString n).toList, d.isDigit = true := fun _ => isDigit_of_mem_number
  have hnot : ¬ c.isDigit = true := by simp [hc]
  have hvalue : Nat.ofDigitChars 10 (toString n).toList 0 = n := by
    rw [show (toString n).toList = Nat.toDigits 10 n from Nat.toList_repr, Nat.ofDigitChars_ten_toDigits]
  rw [readNumber, List.takeWhile_append_of_pos hall, List.dropWhile_append_of_pos hall,
    List.takeWhile_cons_of_neg hnot, List.dropWhile_cons_of_neg hnot, List.append_nil, hvalue]

/-- What a line says of a token: where it begins and ends, its depth and its style class. -/
def readRange? (line : List Char) : Option (Span × Nat × String) :=
  match readNumber line with
  | (start, '\t' :: cs) =>
    match readNumber cs with
    | (stop, '\t' :: cs) =>
      match readNumber cs with
      | (depth, '\t' :: cs) => some (⟨start, stop⟩, depth, String.ofList cs)
      | _ => none
    | _ => none
  | _ => none

theorem StyledRange.toList_line (r : StyledRange) :
    r.line.toList = (toString r.span.start).toList ++ '\t' :: ((toString r.span.stop).toList ++
      '\t' :: ((toString r.depth).toList ++ '\t' :: r.styleClass.toList)) := by
  simp [line]

theorem readRange?_line (r : StyledRange) : readRange? r.line.toList = some (r.span, r.depth, r.styleClass) := by
  have htab : ('\t' : Char).isDigit = false := by decide
  rw [r.toList_line]
  simp only [readRange?, readNumber_append _ htab, String.ofList_toList]

/-- Blanks are told apart from what stands behind them. -/
theorem blanks_append (n : Nat) {c : Char} (hc : c ≠ ' ') (cs : List Char) :
    (List.replicate n ' ' ++ c :: cs).takeWhile (· == ' ') = List.replicate n ' ' ∧
      (List.replicate n ' ' ++ c :: cs).dropWhile (· == ' ') = c :: cs := by
  induction n with
  | zero => simp [hc]
  | succ n ih => simpa [List.replicate_succ] using ih

/-- What a line says of a node: how many blanks it stands behind, where it begins and ends, and what it is. -/
def readNode? (line : List Char) : Option (Nat × Span × String) :=
  match readNumber (line.dropWhile (· == ' ')) with
  | (start, '.' :: '.' :: cs) =>
    match readNumber cs with
    | (stop, ' ' :: cs) => some ((line.takeWhile (· == ' ')).length, ⟨start, stop⟩, String.ofList cs)
    | _ => none
  | _ => none

namespace Node

/-- What stands for a node behind its span: the names of a token, and the text unless there are nodes inside. -/
def caption : Node → String
  | run _ text => Text.quote text
  | token kind altKind _ text [] => label kind altKind ++ " " ++ Text.quote text
  | token kind altKind _ _ (_ :: _) => label kind altKind

def treeLine (depth : Nat) (node : Node) : String :=
  indent depth ++ node.span.text ++ " " ++ node.caption

/-- There is one line for each node, in pre-order. -/
theorem treeLinesOf_eq : ∀ (depth : Nat) (nodes : List Node),
    treeLinesOf depth nodes = (preorderOf depth nodes).map fun p => p.2.treeLine p.1
  | _, [] => rfl
  | depth, run span text :: nodes => by
    rw [treeLinesOf, treeLines, preorderOf, preorder, treeLinesOf_eq depth nodes]
    rfl
  | depth, token kind altKind span text [] :: nodes => by
    rw [treeLinesOf, treeLines, preorderOf, preorder, treeLinesOf_eq depth nodes, preorderOf]
    simp [treeLine, caption, Node.span, String.append_assoc]
  | depth, token kind altKind span text (child :: children) :: nodes => by
    have hinside := treeLinesOf_eq (depth + 1) (child :: children)
    rw [treeLinesOf] at hinside
    rw [treeLinesOf, treeLines, preorderOf, preorder, treeLinesOf_eq depth nodes, hinside]
    simp [treeLine, caption, Node.span]

theorem readNode?_treeLine (depth : Nat) (node : Node) :
    readNode? (node.treeLine depth).toList = some (2 * depth, node.span, node.caption) := by
  have hline : (node.treeLine depth).toList = List.replicate (2 * depth) ' ' ++
      ((toString node.span.start).toList ++ '.' :: '.' ::
        ((toString node.span.stop).toList ++ ' ' :: node.caption.toList)) := by
    simp [treeLine, indent, Span.text]
  -- the span begins with a digit, so the blanks in front are those of the indentation
  obtain ⟨digit, digits, hdigits⟩ : ∃ digit digits, (toString node.span.start).toList = digit :: digits :=
    List.exists_cons_of_ne_nil (by simp)
  have hdigit : digit ≠ ' ' := by
    rintro rfl
    refine not_mem_number (c := ' ') (by decide) node.span.start ?_
    rw [hdigits]
    exact List.mem_cons_self
  obtain ⟨htake, hdrop⟩ := blanks_append (2 * depth) hdigit (digits ++ '.' :: '.' ::
    ((toString node.span.stop).toList ++ ' ' :: node.caption.toList))
  rw [← List.cons_append, ← hdigits, ← hline] at htake hdrop
  have hpoint : ('.' : Char).isDigit = false := by decide
  have hblank : (' ' : Char).isDigit = false := by decide
  rw [readNode?, hdrop, htake]
  simp only [readNumber_append _ hpoint, readNumber_append _ hblank, List.length_replicate, String.ofList_toList]

/-- No kind of a token and no other kind has a line feed in it. -/
def NamesOnLine (nodes : List Node) : Prop :=
  ∀ r ∈ flatten nodes, '\n' ∉ r.kind.toList ∧ ∀ altKind, r.altKind = some altKind → '\n' ∉ altKind.toList

theorem not_mem_label {kind : String} {altKind : Option String} (hkind : '\n' ∉ kind.toList)
    (halt : ∀ other, altKind = some other → '\n' ∉ other.toList) : '\n' ∉ (label kind altKind).toList := by
  cases altKind with
  | none => exact hkind
  | some other => simp [label, hkind, halt other rfl]

/-- What stands for a node is on one line, if its names are. -/
theorem not_mem_caption {nodes : List Node} (h : NamesOnLine nodes) {depth : Nat} {node : Node}
    (hnode : (depth, node) ∈ preorderOf 0 nodes) : '\n' ∉ node.caption.toList := by
  cases node with
  | run span text => exact Text.not_mem_quote text
  | token kind altKind span text children =>
    have hrange : ⟨span, kind, altKind, depth⟩ ∈ flatten nodes := by
      rw [flatten_eq]
      exact List.mem_filterMap.mpr ⟨_, hnode, rfl⟩
    obtain ⟨hkind, halt⟩ := h _ hrange
    have hlabel := not_mem_label hkind halt
    cases children with
    | nil => simp [caption, hlabel, Text.not_mem_quote]
    | cons child children => exact hlabel

theorem not_mem_treeLine {nodes : List Node} (h : NamesOnLine nodes) {depth : Nat} {node : Node}
    (hnode : (depth, node) ∈ preorderOf 0 nodes) : '\n' ∉ (node.treeLine depth).toList := by
  have hnumber : ∀ n : Nat, '\n' ∉ (toString n).toList := not_mem_number (by decide)
  have hcaption := not_mem_caption h hnode
  have hindent : '\n' ∉ (indent depth).toList := by simp [indent]
  have hspan : '\n' ∉ node.span.text.toList := by
    rw [Span.text, String.toList_append, String.toList_append, List.mem_append, List.mem_append]
    rintro ((hstart | hpoints) | hstop)
    · exact hnumber _ hstart
    · exact absurd hpoints (by decide)
    · exact hnumber _ hstop
  simp [treeLine, hindent, hspan, hcaption]

theorem not_mem_line {nodes : List Node} (h : NamesOnLine nodes) {r : StyledRange} (hr : r ∈ flatten nodes) :
    '\n' ∉ r.line.toList := by
  have hnumber : ∀ n : Nat, '\n' ∉ (toString n).toList := not_mem_number (by decide)
  have hclass : '\n' ∉ r.styleClass.toList := by
    obtain ⟨hkind, halt⟩ := h r hr
    rw [StyledRange.styleClass, Highlight.styleClass]
    cases hother : r.altKind with
    | none => exact hkind
    | some other => exact halt other hother
  rw [r.toList_line]
  simp only [List.mem_append, List.mem_cons, hnumber, hclass, or_false, false_or]
  decide

/-- All views of a tree tell of the same tokens. The lines of the tree view are those of the nodes in pre-order,
and those of the tokens among them have the spans and depths of the ranges. -/
structure ViewsAgree (nodes : List Node) : Prop where
  walked : (Walk.start nodes).Yields (walk nodes)
  ranged : List.Forall₂ HasRange (walk nodes) (flatten nodes)
  placed : flatten nodes = (preorderOf 0 nodes).filterMap fun p => p.2.rangeAt? p.1
  rangesRead : NamesOnLine nodes → ∃ lines, Text.IsLines (rangesText nodes).toList (lines ++ [[]]) ∧
    List.Forall₂ (fun line r => readRange? line = some (r.span, r.depth, r.styleClass)) lines (flatten nodes)
  treeRead : NamesOnLine nodes → ∃ lines, Text.IsLines (treeText nodes).toList (lines ++ [[]]) ∧
    List.Forall₂ (fun line p => readNode? line = some (2 * p.1, p.2.span, p.2.caption)) lines
      (preorderOf 0 nodes)

theorem viewsAgree (nodes : List Node) : ViewsAgree nodes := by
  refine ⟨yields_walk nodes, ?_, flatten_eq nodes, ?_, ?_⟩
  · rw [walk_eq]
    exact forall₂_tokens nodes
  · intro h
    refine ⟨_, isLines_unlines ?_, ?_⟩
    · rw [List.forall_mem_map]
      exact fun r hr => not_mem_line h hr
    · rw [List.map_map, List.forall₂_map_left_iff, List.forall₂_same]
      exact fun r _ => readRange?_line r
  · intro h
    rw [treeText, treeLinesOf_eq]
    refine ⟨_, isLines_unlines ?_, ?_⟩
    · rw [List.forall_mem_map]
      exact fun p hp => not_mem_treeLine h hp
    · rw [List.map_map, List.forall₂_map_left_iff, List.forall₂_same]
      exact fun p _ => readNode?_treeLine p.1 p.2

/-- A token with a run and another token inside, and behind it a run that is a line feed. -/
def quotedLine : List Node :=
  [token "string" none ⟨0, 3⟩ "'\\n" [run ⟨0, 1⟩ "'", token "escape" (some "char") ⟨1, 3⟩ "\\n" []],
    run ⟨3, 4⟩ "\n"]

/-- There are four lines for its four nodes. -/
theorem viewsAgree_quotedLine :
    NamesOnLine quotedLine ∧ ∃ lines, Text.IsLines (treeText quotedLine).toList (lines ++ [[]]) ∧
      lines.length = 4 := by
  have hnames : NamesOnLine quotedLine := by
    have hranges : flatten quotedLine = [⟨⟨0, 3⟩, "string", none, 0⟩, ⟨⟨1, 3⟩, "escape", some "char", 1⟩] := rfl
    rw [NamesOnLine, hranges]
    simp
  obtain ⟨lines, hlines, hread⟩ := (viewsAgree quotedLine).treeRead hnames
  exact ⟨hnames, lines, hlines, hread.length_eq⟩

end Node

end Highlight
