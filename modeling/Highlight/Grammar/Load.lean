import Highlight.Grammar.Build
import Highlight.Grammar.JsonForm
import Highlight.Grammar.YamlForm

/-!
# Loading grammars

A grammar is loaded from a text in one of the notations for definitions, or from a file whose extension tells the
notation.
-/

namespace Highlight

/-- A notation for grammar definitions. -/
inductive SourceFormat where
  | yaml
  | json
deriving Repr, DecidableEq, Inhabited

def SourceFormat.name : SourceFormat → String
  | yaml => "yaml"
  | json => "json"

/-- Why no grammar was loaded. -/
inductive LoadError where
  | io (path reason : String)
  | yaml (detail : String)
  | json (detail : String)
  | unsupportedExtension (path : String)
  | grammar (error : GrammarError)
deriving Repr, DecidableEq, Inhabited

def LoadError.message : LoadError → Message
  | io path reason => { text := s!"failed to read {path}: {reason}" }
  | yaml detail => { text := "invalid YAML grammar: ", detail := some detail }
  | json detail => { text := "invalid JSON grammar: ", detail := some detail }
  | unsupportedExtension path =>
    { text := s!"unsupported grammar file {path} (expected .yaml, .yml or .json)" }
  | grammar error => error.message

/-- The definition that a text writes. -/
def SourceFormat.definition (source : String) : SourceFormat → Except LoadError GrammarDefinition
  | .json => match Json.parse source with
    | .error e => .error (.json e.message)
    | .ok v => match GrammarDefinition.ofJson? v with
      | some d => .ok d
      | none => .error (.json "the value is no grammar definition")
  | .yaml => match Yaml.parse source with
    | .error e => .error (.yaml e.message)
    | .ok root => match GrammarDefinition.ofNode? root with
      | some d => .ok d
      | none => .error (.yaml "the document is no grammar definition")

/-- The grammar that a text writes. -/
def SourceFormat.grammar (source : String) (format : SourceFormat) : Except LoadError Grammar := do
  let d ← format.definition source
  match d.build with
  | .ok g => return g
  | .error e => throw (.grammar e)

end Highlight
