/-!
# JSON values

Members of an object keep their order, and a name may occur more than once: what that means is for the reader of the
value to decide.
-/

namespace Highlight

/-- A JSON value. -/
inductive Json where
  | null
  | bool (b : Bool)
  /-- A number without fraction and exponent. -/
  | int (n : Int)
  /-- A number with a fraction or an exponent: the digits, times a power of ten. -/
  | real (negative : Bool) (digits : Nat) (exponent : Int)
  | str (s : String)
  | arr (items : List Json)
  | obj (members : List (String × Json))
deriving Repr, Inhabited

namespace Json

/-- The first member with the given name. -/
def get? (name : String) : Json → Option Json
  | obj members => (members.find? (·.1 == name)).map (·.2)
  | _ => none

def nat (n : Nat) : Json := int n

end Json

end Highlight
