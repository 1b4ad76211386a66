/-!
# Arguments of the command line

Options are taken from left to right. An option is given at most once, an option that takes a
value has it in the same argument or in the next one, and at most one argument names a file.
Behind `--` every argument is a name. Asking for the version or for help ends the reading, so
that what comes behind it does not count.
-/

namespace Highlight.Command

def programName : String := "codestyle"

def programVersion : String := "0.1.0"

def helpText : String :=
  "\n".intercalate [
    "Grammar-driven syntax highlighting for the terminal",
    "",
    "Usage: " ++ programName ++ " [OPTIONS] [FILE]",
    "",
    "Arguments:",
    "  [FILE]  File to highlight (stdin when omitted)",
    "",
    "Options:",
    "  -g, --grammar <GRAMMAR>  Grammar name or alias (detected from the file extension by default)",
    "      --tree               Print the token tree instead of highlighted text",
    "      --ranges             Print one line per token: start, end, depth and style class",
    "      --list               List the available grammars and exit",
    "      --no-color           Disable colored output",
    "      --config <PATH>      Read settings from this file instead of ~/.codestyle.conf",
    "  -h, --help               Print help",
    "  -V, --version            Print version",
    ""]

/-- What the command line asks for. -/
structure Options where
  /-- The name of the grammar to use. -/
  grammar : Option String := none
  /-- Show the token tree. -/
  tree : Bool := false
  /-- Show the ranges of the tokens. -/
  ranges : Bool := false
  /-- List the grammars. -/
  list : Bool := false
  noColor : Bool := false
  /-- The configuration file to use. -/
  config : Option String := none
  /-- The file to show; the standard input if there is none. -/
  file : Option String := none
  deriving Repr, DecidableEq, Inhabited

inductive UsageError where
  | unknownOption (name : String)
  | missingValue (name : String)
  | unexpectedValue (name : String)
  | emptyValue (name : String)
  | repeated (name : String)
  | unexpectedArgument (value : String)
  | conflict (first second : String)
  deriving Repr, DecidableEq, Inhabited

def UsageError.message : UsageError → String
  | unknownOption name => s!"unexpected argument '{name}' found"
  | missingValue name => s!"a value is required for '{name}' but none was supplied"
  | unexpectedValue name => s!"unexpected value for '{name}' found; no more were expected"
  | emptyValue name => s!"a value is required for '{name}' but none was supplied"
  | repeated name => s!"the argument '{name}' cannot be used multiple times"
  | unexpectedArgument value => s!"unexpected argument '{value}' found"
  | conflict first second => s!"the argument '{first}' cannot be used with '{second}'"

inductive Request where
  | run (o : Options)
  | version
  | help
  deriving Repr, DecidableEq

/-- An option, in its two kinds. -/
inductive Switch where
  | tree
  | ranges
  | list
  | noColor
  | version
  | help
  deriving Repr, DecidableEq

inductive Setting where
  | grammar
  | config
  deriving Repr, DecidableEq

def longOption? : String → Option (Switch ⊕ Setting)
  | "tree" => some (.inl .tree)
  | "ranges" => some (.inl .ranges)
  | "list" => some (.inl .list)
  | "no-color" => some (.inl .noColor)
  | "version" => some (.inl .version)
  | "help" => some (.inl .help)
  | "grammar" => some (.inr .grammar)
  | "config" => some (.inr .config)
  | _ => none

def shortOption? : Char → Option (Switch ⊕ Setting)
  | 'g' => some (.inr .grammar)
  | 'V' => some (.inl .version)
  | 'h' => some (.inl .help)
  | _ => none

/-- How far the reading of arguments has come. -/
inductive Progress where
  /-- Ready for the next argument. -/
  | ready (o : Options)
  /-- The next argument has to be the value of an option, which was given by `name`. -/
  | waiting (o : Options) (name : String) (s : Setting)
  /-- The arguments that are left do not count. -/
  | done (r : Request)
  deriving Repr, DecidableEq

def Options.turnOn (o : Options) (name : String) : Switch → Except UsageError Progress
  | .tree => if o.tree then .error (.repeated name) else .ok (.ready { o with tree := true })
  | .ranges => if o.ranges then .error (.repeated name) else .ok (.ready { o with ranges := true })
  | .list => if o.list then .error (.repeated name) else .ok (.ready { o with list := true })
  | .noColor =>
    if o.noColor then .error (.repeated name) else .ok (.ready { o with noColor := true })
  | .version => .ok (.done .version)
  | .help => .ok (.done .help)

/-- Take an option with its value. Only a grammar may have the empty name. -/
def Options.set (o : Options) (name value : String) : Setting → Except UsageError Options
  | .grammar =>
    if o.grammar.isSome then .error (.repeated name)
    else .ok { o with grammar := some value }
  | .config =>
    if o.config.isSome then .error (.repeated name)
    else if value == "" then .error (.emptyValue name)
    else .ok { o with config := some value }

def Options.setFile (o : Options) (value : String) : Except UsageError Options :=
  if o.file.isSome then .error (.unexpectedArgument value)
  else if value == "" then .error (.emptyValue "[FILE]")
  else .ok { o with file := some value }

def Options.setFiles : Options → List String → Except UsageError Options
  | o, [] => .ok o
  | o, value :: rest =>
    match o.setFile value with
    | .ok o => o.setFiles rest
    | .error e => .error e

/-- Whether an argument is an option, and so no value. A hyphen alone is a value. -/
def isOption (arg : String) : Bool :=
  match arg.toList with
  | '-' :: _ :: _ => true
  | _ => false

inductive Argument where
  /-- An option by its long name, with what follows a `=`. -/
  | long (name : String) (value : Option String)
  /-- Options by their short names. -/
  | short (letters : List Char)
  /-- The mark behind which all arguments are names. -/
  | separator
  | value (text : String)
  deriving Repr, DecidableEq

def Argument.ofText (arg : String) : Argument :=
  match arg.toList with
  | ['-', '-'] => .separator
  | '-' :: '-' :: rest =>
    let isName (c : Char) := c != '='
    let name := String.ofList (rest.takeWhile isName)
    match rest.dropWhile isName with
    | _ :: given => .long name (some (String.ofList given))
    | [] => .long name none
  | '-' :: c :: letters => .short (c :: letters)
  | _ => .value arg

/-- Take options by their short names. The first one that takes a value takes the other letters
as its value, without a `=` in front of them. -/
def Options.takeShort (o : Options) : List Char → Except UsageError Progress
  | [] => .ok (.ready o)
  | c :: letters =>
    let name := String.ofList ['-', c]
    match shortOption? c with
    | none => .error (.unknownOption name)
    | some (.inr setting) =>
      match letters with
      | [] => .ok (.waiting o name setting)
      | '=' :: value => (o.set name (String.ofList value) setting).map .ready
      | value => (o.set name (String.ofList value) setting).map .ready
    | some (.inl switch) =>
      match o.turnOn name switch with
      | .ok (.ready o) => o.takeShort letters
      | other => other

def Options.takeLong (o : Options) (name : String) (value : Option String) :
    Except UsageError Progress :=
  let given := "--" ++ name
  match longOption? name, value with
  | none, _ => .error (.unknownOption given)
  | some (.inl switch), none => o.turnOn given switch
  | some (.inl _), some _ => .error (.unexpectedValue given)
  | some (.inr setting), some value => (o.set given value setting).map .ready
  | some (.inr setting), none => .ok (.waiting o given setting)

/-- Options that go together, as a request. -/
def Options.check (o : Options) : Except UsageError Request :=
  if o.tree && o.ranges then .error (.conflict "--tree" "--ranges")
  else if o.tree && o.list then .error (.conflict "--tree" "--list")
  else if o.ranges && o.list then .error (.conflict "--ranges" "--list")
  else .ok (.run o)

/-- Read the arguments that are left. -/
def readFrom : Progress → List String → Except UsageError Request
  | .done r, _ => .ok r
  | .ready o, [] => o.check
  | .waiting _ name _, [] => .error (.missingValue name)
  | .waiting o name setting, arg :: rest =>
    if isOption arg then .error (.missingValue name)
    else
      match o.set name arg setting with
      | .ok o => readFrom (.ready o) rest
      | .error e => .error e
  | .ready o, arg :: rest =>
    match Argument.ofText arg with
    | .separator => do (← o.setFiles rest).check
    | .value text => do readFrom (.ready (← o.setFile text)) rest
    | .short letters => do readFrom (← o.takeShort letters) rest
    | .long name value => do readFrom (← o.takeLong name value) rest

/-- What the arguments ask for. -/
def read (args : List String) : Except UsageError Request := readFrom (.ready {}) args

end Highlight.Command
