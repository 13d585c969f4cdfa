import Highlight.Json.Basic

/-!
# Authored data

The common form of what the notations for grammars can express: scalars with their types, lists, and tables whose keys
may be any data and may repeat.
-/

namespace Highlight

/-- A piece of authored data. -/
inductive Datum where
  | null
  | bool (b : Bool)
  | nat (n : Nat)
  /-- An integer written with a minus sign, by its magnitude. -/
  | negative (n : Nat)
  /-- Any other number. -/
  | real
  | text (s : String)
  | list (items : List Datum)
  | table (entries : List (Datum × Datum))
deriving Repr, Inhabited

mutual

/-- A JSON value as data. -/
def Json.toDatum : Json → Datum
  | .null => .null
  | .bool b => .bool b
  | .int n => if n < 0 then .negative n.natAbs else .nat n.toNat
  | .real _ _ _ => .real
  | .str s => .text s
  | .arr items => .list (datumItems items)
  | .obj members => .table (datumMembers members)

def datumItems : List Json → List Datum
  | [] => []
  | v :: vs => v.toDatum :: datumItems vs

def datumMembers : List (String × Json) → List (Datum × Datum)
  | [] => []
  | (name, v) :: ms => (.text name, v.toDatum) :: datumMembers ms

end

end Highlight
