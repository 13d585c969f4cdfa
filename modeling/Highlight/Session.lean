import Highlight.Grammar.Load
import Highlight.Registry
import Highlight.Settings.Load
import Highlight.Token.Report

/-!
# Sessions

A session holds settings and the languages they name. Everything that the command line does is a function on sessions.
-/

namespace Highlight

/-- Why a session cannot do what it was asked to. -/
inductive SessionError where
  | settings (error : SettingsError)
  /-- A grammar that was to be registered under a name cannot be loaded. -/
  | grammar (name : String) (error : LoadError)
  | load (error : LoadError)
  | unknownLanguage (language : String)
  | unknownFormat (name : String)
  | unreadable (path : String) (fault : FileFault)
  /-- The tokens are not those of the text. -/
  | outOfRange
deriving Repr, DecidableEq, Inhabited

def SessionError.message : SessionError → Message
  | settings error => { text := "configuration error: ", detail := some error.detail }
  | grammar name error => error.message.after s!"failed to load grammar `{name}`: "
  | load error => error.message
  | unknownLanguage language => { text := Registry.notFoundMessage language }
  | unknownFormat name => { text := ReportFormat.unknownMessage name }
  | unreadable path fault => { text := s!"failed to read {path}: {fault.reason}" }
  | outOfRange => { text := "a token is not part of the text" }

/-- The notation that the extension of a path stands for. -/
def SourceFormat.ofPath? (path : String) : Option SourceFormat :=
  match (FilePath.extension? path).map fun e => String.ofList (e.toList.map Char.toLower) with
  | some "yaml" => some .yaml
  | some "yml" => some .yaml
  | some "json" => some .json
  | _ => none

section

variable {m : Type → Type} [Monad m]

/-- Loads the grammar in a file. -/
def Grammar.loadFile (read : ReadFile m) (path : String) : m (Except LoadError Grammar) := do
  match SourceFormat.ofPath? path with
  | none => return .error (.unsupportedExtension path)
  | some format => match ← read path with
    | .error fault => return .error (.io path fault.reason)
    | .ok source => return format.grammar source

structure Session where
  settings : Settings
  registry : Registry
deriving Inhabited

namespace Session

/-- Loads a grammar file and registers it under a name. The second part of the result is the session then. -/
def registerFile (read : ReadFile m) (s : Session) (name path : String) : m (Except SessionError Unit × Session) := do
  match ← Grammar.loadFile read path with
  | .ok g => return (.ok (), { s with registry := s.registry.register name g })
  | .error e => return (.error (.grammar name e), s)

/-- Registers grammar files in order; the first that fails ends it. -/
def registerAll (read : ReadFile m) (s : Session) : List GrammarSource → m (Except SessionError Session)
  | [] => return .ok s
  | source :: sources => do
    match ← s.registerFile read source.name source.path with
    | (.ok (), s) => s.registerAll read sources
    | (.error e, _) => return .error e

/-- A session with the bundled languages and those that the settings name. -/
def start (read : ReadFile m) (settings : Settings) : m (Except SessionError Session) :=
  registerAll read { settings, registry := Registry.bundled } settings.highlight.grammars

/-- The language of a file: the one that is asked for, else one with the name of the extension, else the default. -/
def languageFor (s : Session) (path : String) (asked : Option String) : String :=
  asked.getD (((FilePath.extension? path).filter s.registry.contains).getD s.settings.highlight.defaultLanguage)

/-- The tokens of a text, up to the limit of the settings. -/
def tokenize (s : Session) (source language : String) : Except SessionError (List Token) :=
  match s.registry.run? source language with
  | none => .error (.unknownLanguage language)
  | some run => match s.settings.highlight.tokenLimit with
    | some limit => .ok (run.take limit).1
    | none => .ok run.rest.1

/-- The report of the tokens of a text. -/
def highlight (s : Session) (source language : String) (format : ReportFormat) : Except SessionError String := do
  let tokens ← s.tokenize source language
  match format.render? source tokens with
  | some report => return report
  | none => throw .outOfRange

/-- The report of the tokens of a file. -/
def highlightFile (read : ReadFile m) (s : Session) (path : String) (asked : Option String) (format : ReportFormat) :
    m (Except SessionError String) := do
  match ← read path with
  | .error fault => return .error (.unreadable path fault)
  | .ok source => return s.highlight source (s.languageFor path asked) format

/-- The format with a name. -/
def formatNamed (name : String) : Except SessionError ReportFormat :=
  match ReportFormat.ofName? name with
  | some format => .ok format
  | none => .error (.unknownFormat name)

/-- The format that the settings name. -/
def defaultFormat (s : Session) : Except SessionError ReportFormat := formatNamed s.settings.highlight.format

/-- The summary of the grammar in a file. -/
def checkGrammar (read : ReadFile m) (path : String) : m (Except SessionError String) := do
  match ← Grammar.loadFile read path with
  | .ok g => return .ok g.summary
  | .error e => return .error (.load e)

/-- The outline of the site's navigation. -/
def navigation (s : Session) : String := s.settings.site.navigation

end Session

end

end Highlight
