/-!
# TOML values

A table keeps its entries in the order in which they were written; no key occurs twice.
-/

namespace Highlight

/-- A TOML value. -/
inductive Toml where
  | text (s : String)
  | int (n : Int)
  | real (x : Float)
  | bool (b : Bool)
  /-- A date, a time or both, by its uniform text. -/
  | moment (s : String)
  | array (items : List Toml)
  | table (entries : List (String × Toml))
deriving Repr, Inhabited

namespace Toml

/-- Why a text is no TOML document. -/
inductive ReadError where
  | unexpectedEnd
  | unexpectedCharacter (c : Char)
  | badKey
  | badString
  | badEscape
  /-- Neither a number nor a truth value nor a date. -/
  | badScalar (s : String)
  | outOfRange (s : String)
  | duplicateKey (key : String)
  /-- A part of a key is not a table. -/
  | notTable (key : String)
  | tooDeep
deriving Repr, DecidableEq, Inhabited

def ReadError.message : ReadError → String
  | unexpectedEnd => "the text ends inside a value"
  | unexpectedCharacter c => s!"the character {c} is not expected"
  | badKey => "a key is not valid"
  | badString => "a string is not valid"
  | badEscape => "a string holds an unknown escape"
  | badScalar s => s!"{s} is no value"
  | outOfRange s => s!"{s} is out of range"
  | duplicateKey key => s!"the key {key} is given twice"
  | notTable key => s!"{key} is not a table"
  | tooDeep => "the value is nested too deeply"

end Toml

end Highlight
