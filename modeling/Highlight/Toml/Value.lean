/-!
# Values of a TOML document

The kinds of value that a document holds. A grammar table is made of strings, booleans, arrays and
tables; the other kinds are kept as they are spelled, since nothing asks for their meaning.
-/

namespace Highlight.Toml

/-- A value. The entries of a table are in the order of the document, and no key comes twice. -/
inductive Value where
  | string (s : String)
  | boolean (b : Bool)
  /-- A number, a date or a time. -/
  | scalar (spelling : String)
  | array (items : List Value)
  | table (entries : List (String × Value))
  deriving Repr, Inhabited

namespace Value

def string? : Value → Option String
  | string s => some s
  | _ => none

def boolean? : Value → Option Bool
  | boolean b => some b
  | _ => none

def array? : Value → Option (List Value)
  | array items => some items
  | _ => none

end Value

inductive Fault where
  /-- Something is spelled wrong. -/
  | malformed
  /-- A key or a table is defined twice, or as two different things. -/
  | redefined
  /-- Values stand inside each other too deep, or a key has too many parts. -/
  | tooDeep
  deriving Repr, DecidableEq, Inhabited

end Highlight.Toml
