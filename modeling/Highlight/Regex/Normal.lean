import Highlight.Regex.Expr

/-!
# Expressions in normal form

Expressions are put together by the functions of this module, which keep them simple. Sequences
and choices nest to the right only, the empty text has no place in a sequence, and texts side by
side are one text. A set with a single member is a text, and a choice among sets or among single
characters is a set. What all branches of a choice begin with comes before the choice.
-/

namespace Highlight.Regex.Expr

/-- The expression for one character of a set. -/
def ofSet (s : CharSet) : Expr :=
  match s.singleton? with
  | some c => literal [c]
  | none => set s

/-- The parts of a sequence; an expression that is no sequence is its only part. -/
def parts : Expr → List Expr
  | cat a b => a :: b.parts
  | empty => []
  | e => [e]

/-- The branches of a choice; an expression that is no choice is its only branch. -/
def branches : Expr → List Expr
  | alt a b => a :: b.branches
  | e => [e]

def joinTexts : List Expr → List Expr
  | [] => []
  | literal text :: rest =>
    match joinTexts rest with
    | literal text' :: rest => literal (text ++ text') :: rest
    | rest => literal text :: rest
  | e :: rest => e :: joinTexts rest

def chain : List Expr → Expr
  | [] => empty
  | [e] => e
  | e :: es => cat e (chain es)

def sequence (es : List Expr) : Expr := chain (joinTexts (es.flatMap parts))

def char? : Expr → Option Char
  | literal [c] => some c
  | _ => none

def set? : Expr → Option CharSet
  | set s => some s
  | _ => none

def sequence? : Expr → Option (List Expr)
  | cat a b => some (a :: b.parts)
  | _ => none

def commonPrefix : List Expr → List Expr → List Expr
  | a :: as, b :: bs => if a = b then a :: commonPrefix as bs else []
  | _, _ => []

/-- The branches one after another, the first one preferred. -/
def alternatives : List Expr → Expr
  | [] => set CharSet.empty
  | [e] => e
  | e :: es => alt e (alternatives es)

/-- The choice among a list of branches, none of which is a choice itself. Branches that are
single characters all, or sets all, make a set. -/
def chooseAmong (es : List Expr) : Expr :=
  match es with
  | [e] => e
  | es =>
    match es.mapM char? with
    | some cs => ofSet (CharSet.ofList cs)
    | none =>
      match es.mapM set? with
      | some sets => ofSet (sets.foldl CharSet.union CharSet.empty)
      | none => alternatives es

/-- What all of the branches begin with, if all of them are sequences. -/
def sharedPrefix (es : List Expr) : List Expr :=
  match es.mapM sequence? with
  | some (first :: rest) => rest.foldl commonPrefix first
  | _ => []

/-- The ordered choice among a list of expressions. -/
def choice (es : List Expr) : Expr :=
  let es := es.flatMap branches
  match es, sharedPrefix es with
  | [e], _ => e
  | es, [] => chooseAmong es
  | es, shared =>
    let rests := es.map fun e => chain (e.parts.drop shared.length)
    sequence (shared ++ [chooseAmong (rests.flatMap branches)])

/-- Repeat an expression. Repeating nothing but the empty text once is enough, and what is
repeated no times at all disappears, the groups in it too. -/
def repeated (min : Nat) (max : Option Nat) (greedy : Bool) (e : Expr) : Expr :=
  let once := e.onlyEmpty
  let min := if once then Nat.min min 1 else min
  let max := if once then some (Nat.min (max.getD 1) 1) else max
  if max == some 0 && min == 0 then empty
  else if min == 1 && max == some 1 then e
  else rep min max greedy e

end Highlight.Regex.Expr
