import Highlight.Error
import Highlight.Files.Path
import Highlight.Style.Theme

/-!
# Configuration

A configuration file holds one setting on a line, a key and a value around the first `=`. Blank
lines, lines that begin with `#` and lines without `=` do not count, nor do letter case in keys
and blanks around keys and values. Of several lines with one key the last one counts.
-/

namespace Highlight

/-- Settings by key, no key twice. -/
abbrev Settings := List (String × String)

namespace Settings

/-- Set a key, in place of what was set before. -/
def set (s : Settings) (key value : String) : Settings :=
  (s.filter fun (k, _) => k != key) ++ [(key, value)]

/-- The key and the value on a line, if the line holds a setting. -/
def ofLine? (line : List Char) : Option (String × String) :=
  let line := Text.trim line
  if line.head? == some '#' then none
  else
    (Text.splitFirst? '=' line).map fun (key, value) =>
      (Text.lowercase (String.ofList (Text.trim key)), String.ofList (Text.trim value))

/-- The settings that count in the text of a file. -/
def parse (text : String) : Settings :=
  (Text.splitAll '\n' text.toList).foldl
    (fun s line =>
      match ofLine? line with
      | some (key, value) => s.set key value
      | none => s)
    []

end Settings

structure Config where
  /-- Whether styles are shown. -/
  color : Bool := true
  /-- The directory of further grammar tables. -/
  grammarDir : Option String := none
  /-- The grammar to use where none is named or found. -/
  defaultGrammar : Option String := none
  /-- Styles by class, which go before those of the standard theme; no class twice. -/
  styles : List (String × Style) := []
  deriving Repr, DecidableEq, Inhabited

namespace Config

/-- Whether a value switches something on. -/
def isOn (value : String) : Bool := ["true", "yes", "on", "1"].contains (Text.lowercase value)

/-- The class that a key sets the style of. -/
def styleClass? (key : String) : Option String :=
  match key.toList with
  | 's' :: 't' :: 'y' :: 'l' :: 'e' :: '.' :: name => some (String.ofList name)
  | _ => none

def apply (home : Option String) (c : Config) (key value : String) : Except Error Config :=
  match key with
  | "color" => .ok { c with color := isOn value }
  | "grammar-dir" => .ok { c with grammarDir := some (Path.expandHome home value) }
  | "default-grammar" => .ok { c with defaultGrammar := some (Text.lowercase value) }
  | key =>
    match styleClass? key with
    | none => .error (.unknownSetting key)
    | some name =>
      match Style.parse? value with
      | some s => .ok { c with styles := c.styles ++ [(name, s)] }
      | none => .error (.invalidStyle value name)

def applyAll (home : Option String) : Config → Settings → Except Error Config
  | c, [] => .ok c
  | c, (key, value) :: rest =>
    match c.apply home key value with
    | .ok c => applyAll home c rest
    | .error e => .error e

def parse (home : Option String) (text : String) : Except Error Config :=
  applyAll home {} (Settings.parse text)

/-- The standard theme, with the configured styles in place of its own. -/
def theme (c : Config) : Theme := c.styles.foldl (fun t (name, s) => t.set name s) Theme.standard

end Config

end Highlight
