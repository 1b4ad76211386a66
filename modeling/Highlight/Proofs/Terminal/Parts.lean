import Highlight.Terminal.Paint
import Highlight.Proofs.Token.Tiling

/-!
# The parts of a painted text

Painting goes through a tree of nodes and writes its innermost parts; the text of a token with nodes
inside is never written itself. Since the nodes inside a token spell the token's text, the parts
spell the text of the whole tree, in whatever styles they are.
-/

namespace Highlight

/-- The style of a token, where what stands around it has the style `around`. -/
def Theme.styleWithin (t : Theme) (around : Style) (kind : String) (altKind : Option String) : Style :=
  if (t.styleFor kind altKind).isPlain then around else t.styleFor kind altKind

theorem Theme.styleFor_unstyled {t : Theme} (h : ∀ name s, t.get? name = some s → s = .plain)
    (kind : String) (altKind : Option String) : t.styleFor kind altKind = .plain := by
  rw [styleFor]
  cases hfound : (altKind.bind t.get?).or (t.get? kind) with
  | none => rfl
  | some s =>
    rcases Option.or_eq_some_iff.mp hfound with hown | ⟨-, hkind⟩
    · obtain ⟨name, -, hname⟩ := Option.bind_eq_some_iff.mp hown
      exact h name s hname
    · exact h kind s hkind

namespace Node

theorem concat_cons (n : Node) (ns : List Node) : concat (n :: ns) = n.text ++ concat ns := by
  rw [concat, List.map_cons, String.join_cons]
  rfl

variable {theme : Theme} {around : Style} {kind text : String} {altKind : Option String} {s : Span}
  {children ns : List Node}

theorem styledPartsOf_run :
    styledPartsOf theme around (.run s text :: ns) = (around, text) :: styledPartsOf theme around ns :=
  rfl

theorem styledPartsOf_leaf :
    styledPartsOf theme around (.token kind altKind s text [] :: ns) =
      (theme.styleWithin around kind altKind, text) :: styledPartsOf theme around ns :=
  rfl

theorem styledPartsOf_token (hne : children ≠ []) :
    styledPartsOf theme around (.token kind altKind s text children :: ns) =
      styledPartsOf theme (theme.styleWithin around kind altKind) children ++
        styledPartsOf theme around ns := by
  cases children with
  | nil => exact absurd rfl hne
  | cons child children => rfl

/-- The parts of nodes that tile spell the text of the nodes. -/
theorem join_styledPartsOf {whole : List Char} (theme : Theme) :
    ∀ (around : Style) (start stop : Nat) (ns : List Node), TilesThrough whole start stop ns →
      String.join ((styledPartsOf theme around ns).map Prod.snd) = concat ns
  | _, _, _, [], _ => rfl
  | around, _, stop, .run s text :: ns, h => by
    have hrest := join_styledPartsOf theme around s.stop stop ns h.tail
    rw [styledPartsOf_run, List.map_cons, String.join_cons, hrest, concat_cons]
    rfl
  | around, _, stop, .token kind altKind s text children :: ns, h => by
    have hrest := join_styledPartsOf theme around s.stop stop ns h.tail
    rw [concat_cons]
    by_cases hnil : children = []
    · rw [hnil, styledPartsOf_leaf, List.map_cons, String.join_cons, hrest]
      rfl
    · have hinner := join_styledPartsOf theme (theme.styleWithin around kind altKind) s.start s.stop
        children (h.inside hnil)
      have htext : concat children = text := (h.filled hnil).2
      rw [styledPartsOf_token hnil, List.map_append, String.join_append, hinner, hrest, htext]
      rfl

/-- A theme without any style leaves all parts in the style around them. -/
theorem styledPartsOf_unstyled (htheme : ∀ name s, theme.get? name = some s → s = .plain) :
    ∀ (around : Style) (ns : List Node), ∀ p ∈ styledPartsOf theme around ns, p.1 = around
  | _, [], p, hp => by cases hp
  | around, .run s text :: ns, p, hp => by
    rw [styledPartsOf_run] at hp
    rcases List.mem_cons.mp hp with rfl | hp
    · rfl
    · exact styledPartsOf_unstyled htheme around ns p hp
  | around, .token kind altKind s text children :: ns, p, hp => by
    have hwithin : theme.styleWithin around kind altKind = around := by
      rw [Theme.styleWithin, Theme.styleFor_unstyled htheme]
      rfl
    by_cases hnil : children = []
    · rw [hnil, styledPartsOf_leaf, hwithin] at hp
      rcases List.mem_cons.mp hp with rfl | hp
      · rfl
      · exact styledPartsOf_unstyled htheme around ns p hp
    · rw [styledPartsOf_token hnil, hwithin] at hp
      rcases List.mem_append.mp hp with hp | hp
      · exact styledPartsOf_unstyled htheme around children p hp
      · exact styledPartsOf_unstyled htheme around ns p hp

end Node

theorem Grammar.join_styledParts (g : Grammar) (theme : Theme) (text : String) :
    String.join ((Node.styledPartsOf theme .plain (g.tokenize text)).map Prod.snd) = text := by
  rw [Node.join_styledPartsOf theme .plain 0 _ _ (g.tilesThrough_tokenize text),
    g.concat_tokenize]

end Highlight
