import Highlight.Division.Piece

/-!
# Dividing a text by a grammar

Rules are applied in order of priority, each pattern in one sweep over the pieces. A sweep claims
matches in free text. A greedy pattern may also claim text across tokens: these are dissolved,
and the text that this sets free behind the new token is at once offered again to all rules of
higher priority, up to the end of what was dissolved.

Everything works on the pieces ahead. What a sweep has left behind it never sees again, so
nothing behind a new token can change. Limits count characters from the first piece ahead; a
limit that has been reached is zero. The fuel of a sweep bounds its steps by the characters
ahead, since each step leaves at least one behind.
-/

namespace Highlight

/-- One sweep of a pattern over the pieces ahead. Only matches that begin before `limit` are
claimed. `rescan` offers text behind a new token to the rules of higher priority: it is given
fuel, a limit, the character before the text, and the pieces. -/
def sweep (rescan : Nat → Nat → Option Char → List Piece → List Piece) (kind : String)
    (p : Pattern) : (fuel : Nat) → (limit : Option Nat) → (before : Option Char) →
    List Piece → List Piece
  | 0, _, _, pieces => pieces
  | _ + 1, _, _, [] => []
  | fuel + 1, limit, before, .claimed c :: rest =>
    .claimed c :: sweep rescan kind p fuel (limit.map (· - c.text.length))
      (Text.lastOr before c.text) rest
  | fuel + 1, limit, before, .free run :: rest =>
    if limit == some 0 then .free run :: rest
    else
      match Target.ofRun p before run rest with
      | .nowhere => .free run :: rest
      | .behind passed rest =>
        let text := Piece.spell passed
        passed ++ sweep rescan kind p fuel (limit.map (· - text.length))
          (Text.lastOr before text) rest
      | .claim c =>
        if limit.any (· ≤ c.offset) then .free run :: rest
        else
          let last := Text.lastOr before c.token
          let ahead := if c.dissolves then rescan fuel c.after.length last c.ahead else c.ahead
          c.lead ++ .claimed ⟨kind, p, c.token⟩ ::
            sweep rescan kind p fuel (limit.map (· - (c.offset + c.token.length))) last ahead

/-- Apply rules to the pieces ahead. The rules are given with the lowest priority first. -/
def applyRules : (rules : List Rule) → (fuel : Nat) → (limit : Option Nat) →
    (before : Option Char) → List Piece → List Piece
  | [], _, _, _, pieces => pieces
  | rule :: earlier, fuel, limit, before, pieces =>
    let rescan (fuel limit : Nat) := applyRules earlier fuel (some limit)
    rule.patterns.foldl (fun pieces p => sweep rescan rule.name p fuel limit before pieces)
      (applyRules earlier fuel limit before pieces)

/-- The pieces into which a grammar divides a text. -/
def Grammar.divide (g : Grammar) (text : List Char) : List Piece :=
  applyRules g.rules.reverse text.length none none (Piece.ofFree text)

end Highlight
