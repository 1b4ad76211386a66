import Highlight.Style.Basic
import Highlight.Token.Basic

/-!
# Themes

A theme gives styles to token classes. A class that is set again gets the later style. A token
has the style of its other kind if the theme knows that, else the style of its kind, else none.
-/

namespace Highlight

/-- Styles by token class; of several entries for a class the first one counts. -/
structure Theme where
  entries : List (String × Style)
  deriving Repr, DecidableEq, Inhabited

namespace Theme

def empty : Theme := ⟨[]⟩

def set (t : Theme) (styleClass : String) (s : Style) : Theme := ⟨(styleClass, s) :: t.entries⟩

def get? (t : Theme) (styleClass : String) : Option Style := t.entries.lookup styleClass

def styleFor (t : Theme) (kind : String) (altKind : Option String) : Style :=
  ((altKind.bind t.get?).or (t.get? kind)).getD Style.plain

/-- The style of a token that has been taken out of its tree. -/
def styleForRange (t : Theme) (r : StyledRange) : Style := t.styleFor r.kind r.altKind

def standard : Theme where
  entries := [
    ("comment", { fg := .brightBlack, italic := true }),
    ("string", { fg := .green }),
    ("char", { fg := .green }),
    ("number", { fg := .cyan }),
    ("boolean", { fg := .brightRed }),
    ("null", { fg := .brightRed }),
    ("keyword", { fg := .magenta, bold := true }),
    ("important", { fg := .brightMagenta, bold := true }),
    ("atrule", { fg := .yellow }),
    ("property", { fg := .blue }),
    ("class-name", { fg := .yellow, bold := true }),
    ("tag", { fg := .brightBlue }),
    ("operator", { fg := .brightWhite }),
    ("escape", { fg := .brightYellow }),
    ("punctuation", {})]

end Theme

end Highlight
