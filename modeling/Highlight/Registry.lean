import Highlight.Language.Bundled
import Highlight.Tokenizer.Run

/-!
# Registry

Grammars by the names of their languages.
-/

namespace Highlight

/-- Grammars by the names of their languages. -/
structure Registry where
  grammars : Table String Grammar := Table.empty
deriving Inhabited

namespace Registry

def empty : Registry := {}

/-- Registers a grammar under a name; the one that had the name is replaced. -/
def register (r : Registry) (name : String) (g : Grammar) : Registry := { grammars := r.grammars.insert name g }

/-- The registry of the bundled languages. -/
def bundled : Registry := bundledGrammars.foldl (fun r (name, g) => r.register name g) empty

def get? (r : Registry) (name : String) : Option Grammar := r.grammars.get? name

def contains (r : Registry) (name : String) : Bool := r.grammars.contains name

/-- The names of the languages, in ascending order. -/
def languages (r : Registry) : List String := r.grammars.keys

/-- What is said about a language that has no grammar. -/
def notFoundMessage (language : String) : String := s!"no grammar registered for language `{language}`"

/-- A run over a text with the grammar of a language. -/
def run? (r : Registry) (source language : String) : Option Run := (r.get? language).map fun g => Run.start g source

end Registry

end Highlight
