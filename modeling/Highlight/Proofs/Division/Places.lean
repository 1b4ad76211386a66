import Highlight.Proofs.Division.Spelling
import Highlight.Proofs.Division.Stages

/-!
# Where a stage stands in the text

A stage holds only the pieces ahead. What is behind it is a front part of the text, and all that a
stage knows of that part is its last character. Each step keeps this, so a run that is visited
anywhere in the course of applying rules is a run of the text that is being divided.
-/

namespace Highlight

open Piece (spell spell_append spell_cons text_claimed)

theorem sweepAll_keeps (earlier : List Rule) (kind : String) (patterns : List Pattern) (fuel : Nat)
    (limit : Option Nat) (before : Option Char) :
    Keeps (sweepAll earlier kind patterns fuel limit before) := by
  have hrescan : ∀ fuel limit before, Keeps (rescanWith earlier fuel limit before) :=
    fun fuel limit => applyRules_keeps earlier fuel (some limit)
  apply foldl_passes Keeps.id fun _ _ => Keeps.comp
  intro p _
  exact ⟨sweep_spell hrescan fuel limit before, sweep_solid hrescan fuel limit before⟩

namespace Stage

/-- The character in front of the pieces. -/
def before : Stage → Option Char
  | rules _ _ _ before _ => before
  | sweep _ _ _ _ _ before _ => before

def pieces : Stage → List Piece
  | rules _ _ _ _ pieces => pieces
  | sweep _ _ _ _ _ _ pieces => pieces

/-- The stage stands behind `front` in `text`. -/
structure Behind (text front : List Char) (s : Stage) : Prop where
  text_eq : text = front ++ spell s.pieces
  before_eq : s.before = Text.lastOr none front

variable {text front : List Char} {s t : Stage}

/-- A step goes on behind text that the pieces have spelled. -/
theorem Behind.pass (h : s.Behind text front) {passed : List Char}
    (hspell : spell s.pieces = passed ++ spell t.pieces)
    (hbefore : t.before = Text.lastOr s.before passed) : t.Behind text (front ++ passed) := by
  constructor
  · rw [h.text_eq, hspell, List.append_assoc]
  · rw [hbefore, h.before_eq, Text.lastOr_append]

/-- A step that stays where it is. -/
theorem Behind.stay (h : s.Behind text front) (hspell : spell t.pieces = spell s.pieces)
    (hbefore : t.before = s.before) : t.Behind text front := by
  constructor
  · rw [h.text_eq, hspell]
  · rw [hbefore, h.before_eq]

/-- A step behind a new token. -/
theorem Behind.claim {p : Pattern} {run : List Char} {rest : List Piece} {c : Claim}
    (h : s.Behind text front) (hs : s.pieces = .free run :: rest)
    (htarget : Target.ofRun p s.before run rest = .claim c)
    (hspell : spell t.pieces = c.after ++ spell c.rest)
    (hbefore : t.before = Text.lastOr s.before c.token) :
    t.Behind text (front ++ (spell c.lead ++ c.token)) := by
  obtain ⟨hit, free, region, -, hps, hc, -, -⟩ := Target.ofRun_claim htarget
  apply h.pass
  · rw [hs, hspell, hc.spell_eq hps]
  · rw [hbefore, Text.lastOr_append]
    exact Text.lastOr_of_ne _ _ hc.token_ne

theorem Leads.exists_behind (hst : Leads s t) (h : s.Behind text front) :
    ∃ front', t.Behind text front' := by
  cases hst with
  | earlier => exact ⟨front, h.stay rfl rfl⟩
  | @pattern rule earlier fuel limit before pieces done todo p hsplit =>
    have hrules := (applyRules_keeps earlier fuel limit before).spell pieces
    have hdone := (sweepAll_keeps earlier rule.name done fuel limit before).spell
      (applyRules earlier fuel limit before pieces)
    exact ⟨front, h.stay (hdone.trans hrules) rfl⟩
  | @token earlier kind p fuel limit before c rest =>
    exact ⟨front ++ c.text, h.pass rfl rfl⟩
  | @behind earlier kind p fuel limit before run rest passed rest' hlimit htarget =>
    have hcut := congrArg spell (Target.ofRun_behind_cut htarget).1
    exact ⟨front ++ spell passed, h.pass (hcut.trans (spell_append passed rest')) rfl⟩
  | @claim earlier kind p fuel limit before run rest c htarget hlimit =>
    have hrescan : ∀ fuel limit before, Keeps (rescanWith earlier fuel limit before) :=
      fun fuel limit => applyRules_keeps earlier fuel (some limit)
    exact ⟨_, h.claim rfl htarget (Claim.spell_aheadOf hrescan c fuel before) rfl⟩
  | @rescan earlier kind p fuel limit before run rest c htarget hlimit hdissolves =>
    exact ⟨_, h.claim rfl htarget c.spell_ahead rfl⟩

theorem Reaches.exists_behind (hst : Reaches s t) (h : s.Behind text front) :
    ∃ front', t.Behind text front' := by
  induction hst generalizing front with
  | refl s => exact ⟨front, h⟩
  | next hleads _ ih =>
    obtain ⟨front', h'⟩ := hleads.exists_behind h
    exact ih h'

end Stage

/-- The stage at which a text begins to be divided stands at its beginning. -/
theorem Stage.behind_start (rules : List Rule) (fuel : Nat) (limit : Option Nat) (text : List Char) :
    (Stage.rules rules fuel limit none (Piece.ofFree text)).Behind text [] := by
  constructor
  · exact (Piece.spell_ofFree text).symm
  · rfl

end Highlight
