import Highlight.Json.Printer
import Highlight.Token

/-!
# Reports

Two ways to write a list of tokens: a line for each, with the text it covers, or a JSON array.
-/

namespace Highlight

/-- How a list of tokens is written. -/
inductive ReportFormat where
  | simple
  | json
deriving Repr, DecidableEq, Inhabited

namespace ReportFormat

def all : List ReportFormat := [simple, json]

def name : ReportFormat → String
  | simple => "simple"
  | json => "json"

def ofName? (name : String) : Option ReportFormat := all.find? (·.name == name)

/-- What is said about a name that no format has. -/
def unknownMessage (name : String) : String := s!"unknown format `{name}` (available: simple, json)"

end ReportFormat

/-- The token as a JSON object. -/
def Token.toJson (t : Token) : Json :=
  .obj [("start", .nat t.start), ("end", .nat t.stop), ("kind", .str t.kind.name),
    ("scopes", .arr (t.scopes.scopes.map .str))]

/-- One line for each token; there is none if a token covers no part of the source. -/
def simpleReport? (source : String) (tokens : List Token) : Option String :=
  (tokens.mapM fun t : Token => t.line? source).map fun lines => String.join (lines.map (· ++ "\n"))

/-- A JSON array of the tokens. -/
def jsonReport (tokens : List Token) : String := (Json.arr (tokens.map Token.toJson)).pretty

/-- The report of the tokens of a source. -/
def ReportFormat.render? (format : ReportFormat) (source : String) (tokens : List Token) : Option String :=
  match format with
  | .simple => simpleReport? source tokens
  | .json => some (jsonReport tokens)

end Highlight
