import Highlight.Command.Arguments
import Highlight.Config.Load
import Highlight.Registry.Directory
import Highlight.Terminal.Paint
import Highlight.Terminal.Views

/-!
# Running the program

A run reads the configuration, then the grammars, and then shows what was asked for: the list of
grammars, or a text divided by one of them. The grammar is the one that was named, or else the
one for the file's extension, or else the configured one. Nothing is written before everything is
read, so a run writes either its whole output or an error.
-/

namespace Highlight.Command

/-- How a run ends. -/
structure Outcome where
  /-- Zero if all went well, one if the program gave up, two if the arguments were not
  understood. -/
  code : Nat
  output : String
  errors : String
  deriving Repr, DecidableEq

namespace Outcome

def success (output : String) : Outcome := ⟨0, output, ""⟩

def failure (e : Error) : Outcome := ⟨1, "", s!"Error: {e.message}\n"⟩

/-- The arguments were not understood. -/
def misused (e : UsageError) : Outcome :=
  ⟨2, "", s!"error: {e.message}\n\nUsage: {programName} [OPTIONS] [FILE]\n\n"
    ++ "For more information, try '--help'.\n"⟩

end Outcome

/-- The names of the grammars, one on a line, with their further names behind them. -/
def listing (r : Registry) : String :=
  unlines <| r.names.map fun name =>
    match r.aliasesOf name with
    | [] => name
    | names => name ++ " (" ++ ", ".intercalate names ++ ")"

/-- What the text is called in an error. -/
def sourceName (o : Options) : String := o.file.getD "<stdin>"

def namedGrammar (r : Registry) (name : String) : Except Error Grammar :=
  match r.get? name with
  | some g => .ok g
  | none => .error (.unknownLanguage name)

def chooseGrammar (r : Registry) (c : Config) (o : Options) : Except Error Grammar :=
  match o.grammar with
  | some name => namedGrammar r name
  | none =>
    match o.file.bind r.detect? with
    | some g => .ok g
    | none =>
      match c.defaultGrammar with
      | some name => namedGrammar r name
      | none => .error (.unknownLanguage (sourceName o))

def view (o : Options) (c : Config) (terminal : Bool) (nodes : List Node) : String :=
  if o.tree then Node.treeText nodes
  else if o.ranges then Node.rangesText nodes
  else Paint.nodes c.theme (c.color && !o.noColor && terminal) nodes

variable {m : Type → Type} [Monad m]

def configuration (host : Host m) (o : Options) : m (Except Error Config) := do
  match o.config with
  | some path => Config.loadFrom host path
  | none => return .ok (← Config.load host)

/-- Grammars to begin with, and those in the configured directory. -/
def grammarsOver (start : Except GrammarError Registry) (host : Host m) (c : Config) :
    m (Except Error Registry) := do
  match start, c.grammarDir with
  | .error e, _ => return .error (.grammar e)
  | .ok r, none => return .ok r
  | .ok r, some dir =>
    match ← r.loadDirectory host dir with
    | .ok (r, _) => return .ok r
    | .error e => return .error (.file e)

/-- The grammars that are built in, and those in the configured directory. -/
def grammars (host : Host m) (c : Config) : m (Except Error Registry) :=
  grammarsOver Registry.standard host c

def sourceText (host : Host m) (o : Options) : m (Except Error String) := do
  match ← (match o.file with | some path => host.readText path | none => host.readInput) with
  | .ok text => return .ok text
  | .error e => return .error (.file e)

/-- The output of a run, or the first thing that made it give up. -/
def output (host : Host m) (o : Options) : ExceptT Error m String := do
  let config ← ExceptT.mk (configuration host o)
  let registry ← ExceptT.mk (grammars host config)
  if o.list then return listing registry
  let g ← ExceptT.mk (pure (chooseGrammar registry config o))
  let text ← ExceptT.mk (sourceText host o)
  return view o config host.terminal (g.tokenize text)

def run (host : Host m) (args : List String) : m Outcome := do
  match read args with
  | .error e => return .misused e
  | .ok .version => return .success s!"{programName} {programVersion}\n"
  | .ok .help => return .success helpText
  | .ok (.run o) =>
    match ← (output host o).run with
    | .ok text => return .success text
    | .error e => return .failure e

end Highlight.Command
