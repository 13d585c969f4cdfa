import Highlight.Decimal.Shortest
import Highlight.Toml.Basic
import Highlight.Unicode.Case

/-!
# Values of settings

Settings are read from several places, so their values are kept as they were written until the whole is known. Only then
is a value taken as the truth value, the number or the text that is wanted; a value of another kind may stand for it.
-/

namespace Highlight

/-- A value of a setting. -/
inductive Setting where
  | nil
  | bool (b : Bool)
  | int (n : Int)
  | real (x : Float)
  | text (s : String)
  | list (items : List Setting)
  | table (entries : List (String × Setting))
deriving Repr, Inhabited

/-- Why settings cannot be read. -/
inductive SettingsError where
  /-- The name of a setting is no key path. -/
  | keyPath (key : String)
  | syntaxError (detail : String)
  /-- A value is of a kind that cannot stand for what is wanted. -/
  | wrongKind (wanted : String)
  /-- A value has not the structure that is wanted, or a field is missing. -/
  | wrongShape (detail : String)
  | unreadable (path : String)
  /-- An index from the end of a list is not in it, or a list would be too long. -/
  | noSuchIndex (index : Int)
deriving Repr, DecidableEq, Inhabited

/-- What is wrong with the settings. -/
def SettingsError.detail : SettingsError → String
  | keyPath key => s!"{key} is no name of a setting"
  | syntaxError detail => detail
  | wrongKind wanted => s!"a value is not {wanted}"
  | wrongShape detail => detail
  | unreadable path => s!"there is no configuration file {path}"
  | noSuchIndex index => s!"a list has no item {index}"

mutual

/-- The setting that a TOML value gives. -/
def Toml.toSetting : Toml → Setting
  | .text s => .text s
  | .int n => .int n
  | .real x => .real x
  | .bool b => .bool b
  | .moment s => .text s
  | .array items => .list (settingItems items)
  | .table entries => .table (settingEntries entries)

def settingItems : List Toml → List Setting
  | [] => []
  | v :: vs => v.toSetting :: settingItems vs

def settingEntries : List (String × Toml) → List (String × Setting)
  | [] => []
  | (key, v) :: es => (key, v.toSetting) :: settingEntries es

end

namespace Setting

/-- The entries of a table; other values have none. -/
def entries : Setting → List (String × Setting)
  | table es => es
  | _ => []

/-- The items of a list; other values have none. -/
def items : Setting → List Setting
  | list vs => vs
  | _ => []

/-- Words for yes and no. -/
def word? (s : String) : Option Bool :=
  if ["true", "on", "yes"].contains s then some true
  else if ["false", "off", "no"].contains s then some false
  else none

/-- The truth value that a value stands for: numbers other than zero are true. -/
def toBool : Setting → Except SettingsError Bool
  | bool b => .ok b
  | int n => .ok (n != 0)
  | real x => .ok (x != 0)
  | text s =>
    let s := Unicode.lowercaseString s
    match (word? s).or (if s == "1" then some true else if s == "0" then some false else none) with
    | some b => .ok b
    | none => .error (.wrongKind "a truth value")
  | _ => .error (.wrongKind "a truth value")

/-- The natural number that a value stands for. -/
def toCount : Setting → Except SettingsError Nat
  | bool b => .ok (if b then 1 else 0)
  | int n => if 0 ≤ n then .ok n.toNat else .error (.wrongKind "a natural number")
  | real x => .ok (floatToNat x)
  | text s =>
    match ((word? (Unicode.lowercaseString s)).map fun b => if b then 1 else 0).or (parseUInt64? s.toList) with
    | some n => .ok n
    | none => .error (.wrongKind "a natural number")
  | _ => .error (.wrongKind "a natural number")

/-- The text that a value stands for. -/
def toText : Setting → Except SettingsError String
  | bool b => .ok (if b then "true" else "false")
  | int n => .ok (toString n)
  | real x => .ok (floatText x)
  | text s => .ok s
  | _ => .error (.wrongKind "a text")

end Setting

end Highlight
