import Highlight.Regex.Footprint.Layout

/-!
# The size of a choice among texts

A choice among nothing but texts is laid down as a tree: texts that begin alike share their
beginning. A text that ends within the tree ends the sharing there: texts behind it in the order
of preference are kept apart from those before it.
-/

namespace Highlight.Regex

/-- Cut a list behind each empty text. There is one part more than empty texts, and no part holds
one. -/
def cutAtEnds : List (List Nat) → List (List (List Nat))
  | [] => [[]]
  | [] :: texts => [] :: cutAtEnds texts
  | text :: texts =>
    match cutAtEnds texts with
    | [] => [[text]]
    | part :: parts => (text :: part) :: parts

/-- The first bytes of texts, each one once. -/
def firstBytes (texts : List (List Nat)) : List Nat := (texts.filterMap List.head?).eraseDups

/-- What the texts that begin with a byte go on with. -/
def behind (byte : Nat) (texts : List (List Nat)) : List (List Nat) :=
  texts.filterMap fun text => if text.head? = some byte then some text.tail else none

/-- The states of the tree for some texts, the state where all of them end put aside. The fuel
bounds the length of the texts. -/
def treeSize : (fuel : Nat) → List (List Nat) → Layout
  | 0, _ => {}
  | fuel + 1, texts =>
    if texts.all List.isEmpty then {}
    else
      -- Texts that end before any other goes on end the same way.
      let texts := match texts with
        | [] :: rest => [] :: rest.dropWhile List.isEmpty
        | texts => texts
      let parts := cutAtEnds texts
      let filled := parts.filter fun part => !part.isEmpty
      let branches := filled.length + (parts.length - 1)
      let own : Layout := if branches == 1 then {} else ⟨1, Layout.branchBytes * branches⟩
      filled.foldl (fun l part =>
        let bytes := firstBytes part
        let held := if bytes.length == 1 then 0 else Layout.transitionBytes * bytes.length
        bytes.foldl (fun l byte =>
          let below := treeSize fuel (behind byte part)
          l.add below.states below.payload) (l.add 1 held)) own

/-- The layout of a choice among texts, given by their bytes. -/
def textsSize (texts : List (List Nat)) : Layout :=
  (treeSize (texts.foldl (fun n text => max n text.length) 0 + 1) texts).add 1 0

end Highlight.Regex
