import Highlight.Session

/-!
# The command line

`Request.ofArguments` reads the arguments of the command, and `Request.answer` does what they ask for.
-/

namespace Highlight

/-- What the arguments ask for. -/
structure Options where
  path : Option String := none
  language : Option String := none
  grammar : Option String := none
  format : Option String := none
  config : Option String := none
  maxTokens : Option Nat := none
  check : Option String := none
  listsLanguages : Bool := false
  printsNavigation : Bool := false
deriving Repr, DecidableEq, Inhabited

/-- Why arguments cannot be understood. -/
inductive UsageError where
  | unknownOption (name : String)
  | repeatedOption (name : String)
  | missingValue (name : String)
  | unexpectedValue (name : String)
  | badValue (name value : String)
  | tooManyPaths
  | missingPath
deriving Repr, DecidableEq, Inhabited

def UsageError.message : UsageError → String
  | unknownOption name => s!"there is no option {name}"
  | repeatedOption name => s!"the option {name} is given twice"
  | missingValue name => s!"the option {name} needs a value"
  | unexpectedValue name => s!"the option {name} takes no value"
  | badValue name value => s!"{value} is no value for {name}"
  | tooManyPaths => "more than one path is given"
  | missingPath => "no path is given"

/-- Options that take a value. -/
inductive ValueOption where
  | language
  | grammar
  | format
  | config
  | maxTokens
  | check
deriving Repr, DecidableEq, Inhabited

/-- Options that take no value. -/
inductive Flag where
  | listLanguages
  | nav
  | help
  | version
deriving Repr, DecidableEq, Inhabited

/-- An option by its name. -/
inductive OptionName where
  | value (o : ValueOption)
  | flag (f : Flag)
deriving Repr, DecidableEq, Inhabited

def longOptions : List (String × OptionName) :=
  [("language", .value .language), ("grammar", .value .grammar), ("format", .value .format),
    ("config", .value .config), ("max-tokens", .value .maxTokens), ("check", .value .check),
    ("list-languages", .flag .listLanguages), ("nav", .flag .nav), ("help", .flag .help), ("version", .flag .version)]

def shortOptions : List (Char × OptionName) :=
  [('l', .value .language), ('g', .value .grammar), ('f', .value .format), ('c', .value .config),
    ('h', .flag .help), ('V', .flag .version)]

/-- A request: to say something about the command itself, or to do what the options say. -/
inductive Request where
  | help
  | version
  | options (o : Options)
deriving Repr, DecidableEq, Inhabited

/-- Limits on the number of tokens are below this. -/
def maxTokensBound : Nat := UInt32.size

/-- A limit on the number of tokens: decimal digits after an optional sign. Only zero may be negative. -/
def readLimit? (s : String) : Option Nat :=
  let (isNegative, ds) := Decimal.readSign s.toList
  let n := Nat.ofDigitChars 10 ds 0
  if ds.isEmpty || !ds.all Char.isDigit || maxTokensBound ≤ n || (isNegative && n ≠ 0) then none else some n

/-- A path, which may not be empty. -/
def readPath (name value : String) : Except UsageError String :=
  if value.isEmpty then .error (.badValue name value) else .ok value

namespace Options

/-- Sets an option that is not set yet. -/
def setOnce {α : Type} (name : String) (old : Option α) (new : α) : Except UsageError (Option α) :=
  if old.isSome then .error (.repeatedOption name) else .ok (some new)

/-- Sets an option to a value. -/
def setValue (o : Options) (value : String) : ValueOption → Except UsageError Options
  | .language => do return { o with language := ← setOnce "--language" o.language value }
  | .grammar => do return { o with grammar := ← setOnce "--grammar" o.grammar (← readPath "--grammar" value) }
  | .format => do return { o with format := ← setOnce "--format" o.format value }
  | .config => do return { o with config := ← setOnce "--config" o.config (← readPath "--config" value) }
  | .maxTokens => match readLimit? value with
    | some n => do return { o with maxTokens := ← setOnce "--max-tokens" o.maxTokens n }
    | none => .error (.badValue "--max-tokens" value)
  | .check => do return { o with check := ← setOnce "--check" o.check (← readPath "--check" value) }

/-- Sets the path. -/
def setPath (o : Options) (path : String) : Except UsageError Options := do
  if o.path.isSome then throw .tooManyPaths
  return { o with path := some (← readPath "the path" path) }

end Options

/-- What an argument does: it sets options, it waits for a value, or it ends the reading. -/
inductive Reading where
  | go (o : Options)
  | wait (o : Options) (name : ValueOption)
  | done (r : Request)
deriving Repr, DecidableEq

/-- Sets an option without a value. -/
def readFlag (o : Options) : Flag → Except UsageError Reading
  | .listLanguages =>
    if o.listsLanguages then .error (.repeatedOption "--list-languages")
    else .ok (.go { o with listsLanguages := true })
  | .nav =>
    if o.printsNavigation then .error (.repeatedOption "--nav") else .ok (.go { o with printsNavigation := true })
  | .help => .ok (.done .help)
  | .version => .ok (.done .version)

/-- Reads an option by its long name, with a value after an equals sign. -/
def readLong (o : Options) (argument : List Char) : Except UsageError Reading :=
  let (name, value) := argument.span (· != '=')
  let name := String.ofList name
  match longOptions.lookup name, value with
  | none, _ => .error (.unknownOption name)
  | some (.value v), [] => .ok (.wait o v)
  | some (.value v), _ :: value => do return .go (← o.setValue (String.ofList value) v)
  | some (.flag f), [] => readFlag o f
  | some (.flag _), _ => .error (.unexpectedValue name)

/-- Reads options by their letters. The rest after one that takes a value is its value, with or without an equals
sign. -/
def readShort (o : Options) : List Char → Except UsageError Reading
  | [] => .ok (.go o)
  | c :: cs => match shortOptions.lookup c with
    | none => .error (.unknownOption (String.singleton c))
    | some (.value v) => match cs with
      | [] => .ok (.wait o v)
      | '=' :: value => do return .go (← o.setValue (String.ofList value) v)
      | value => do return .go (← o.setValue (String.ofList value) v)
    | some (.flag f) => do
      match ← readFlag o f with
      | .go o => readShort o cs
      | other => return other

/-- Reads one argument that is not the value of an option. -/
def readArgument (o : Options) (argument : String) : Except UsageError Reading :=
  match argument.toList with
  | '-' :: '-' :: name => readLong o name
  | '-' :: c :: cs => readShort o (c :: cs)
  | _ => do return .go (← o.setPath argument)

/-- The request of options that have been read; a path is needed unless something else is asked for. -/
def Options.request (o : Options) : Except UsageError Request :=
  if o.path.isNone && o.check.isNone && !o.listsLanguages && !o.printsNavigation then .error .missingPath
  else .ok (.options o)

/-- Whether an argument can be the value of an option. -/
def isValue (argument : String) : Bool :=
  match argument.toList with
  | '-' :: _ :: _ => false
  | _ => true

/-- Reads arguments one after the other; `waiting` is the option whose value comes next. After two hyphens all
arguments are paths. -/
def readArguments (o : Options) (waiting : Option ValueOption) : List String → Except UsageError Request
  | [] => match waiting with
    | some _ => .error (.missingValue "at the end")
    | none => o.request
  | argument :: arguments =>
    match waiting with
    | some name =>
      if isValue argument then do readArguments (← o.setValue argument name) none arguments
      else .error (.missingValue argument)
    | none =>
      if argument == "--" then do (← arguments.foldlM Options.setPath o).request
      else match readArgument o argument with
        | .error e => .error e
        | .ok (.go o) => readArguments o none arguments
        | .ok (.wait o name) => readArguments o (some name) arguments
        | .ok (.done r) => .ok r

/-- The request that arguments make. -/
def Request.ofArguments (arguments : List String) : Except UsageError Request := readArguments {} none arguments

/-- What the command says when it is asked for its version. -/
def versionText : String := "tint 0.1.0\n"

/-- What the command says when it is asked for help. -/
def helpText : String :=
  "Usage: tint [OPTIONS] [path]\n\n" ++
  "  -l, --language <language>      Language to tokenize as\n" ++
  "  -g, --grammar <grammar>        Grammar file to tokenize with\n" ++
  "  -f, --format <format>          Output format: simple or json\n" ++
  "  -c, --config <config>          Configuration file layered over the defaults\n" ++
  "      --max-tokens <max-tokens>  Stop after this many tokens (0 = unlimited)\n" ++
  "      --list-languages           List registered languages\n" ++
  "      --check <GRAMMAR>          Validate a grammar file and exit\n" ++
  "      --nav                      Print the configured site navigation\n"

/-- The layers of settings that options ask for. -/
def Options.layers (o : Options) : List Layer :=
  (o.config.map fun path => Layer.file path true).toList ++
  (o.format.map fun format => Layer.override "highlight.format" (.text format)).toList ++
  (o.maxTokens.map fun n => Layer.override "highlight.max_tokens" (.int n)).toList

/-- The list of a session's languages. -/
def Session.languageList (s : Session) : String :=
  "Available languages:\n\n" ++ String.join (s.registry.languages.map fun name => s!"  {name}\n")

section

variable {m : Type → Type} [Monad m]

/-- Registers the grammar file that options ask for, under the language that is asked for or else under its own name.
Gives the language to use as well. -/
def Options.registerGrammar (read : ReadFile m) (o : Options) (s : Session) :
    m (Except SessionError (Session × Option String)) := do
  match o.grammar with
  | none => return .ok (s, o.language)
  | some grammar =>
    let name := o.language.getD ((FilePath.stem? grammar).getD "grammar")
    match ← s.registerFile read name grammar with
    | (.ok (), s) => return .ok (s, some name)
    | (.error e, _) => return .error e

/-- The report of the file that options ask for. -/
def Options.report (read : ReadFile m) (o : Options) (s : Session) (path : String) :
    m (Except SessionError String) := do
  match ← o.registerGrammar read s with
  | .error e => return .error e
  | .ok (s, language) => match s.defaultFormat with
    | .error e => return .error e
    | .ok format =>
      return (← s.highlightFile read path language format).map fun report =>
        if format = .json then report ++ "\n" else report

/-- Does what options ask for, and gives what is to be printed. -/
def Options.answer (read : ReadFile m) (o : Options) : m (Except SessionError String) := do
  match o.check with
  | some grammar => return (← Session.checkGrammar read grammar).map (· ++ "\n")
  | none => match ← Settings.load read o.layers with
    | .error e => return .error (.settings e)
    | .ok settings => match ← Session.start read settings with
      | .error e => return .error e
      | .ok s =>
        if o.listsLanguages then return .ok s.languageList
        else if o.printsNavigation then return .ok s.navigation
        else match o.path with
          | some path => o.report read s path
          | none => return .ok ""

/-- Does what a request asks for. -/
def Request.answer (read : ReadFile m) : Request → m (Except SessionError String)
  | .help => return .ok helpText
  | .version => return .ok versionText
  | .options o => o.answer read

end

end Highlight
