import Highlight.Settings.Value
import Highlight.Text.Basic

/-!
# Key paths

A key path names a place inside of settings: names of entries and, in brackets, places in lists, where a negative number
counts from the end.
-/

namespace Highlight

/-- One step into a value. -/
inductive KeyStep where
  | entry (name : String)
  | item (index : Int)
deriving Repr, DecidableEq, Inhabited

/-- A place inside of a table: the name of an entry, and steps into it. -/
structure KeyPath where
  name : String
  steps : List KeyStep
deriving Repr, DecidableEq, Inhabited

namespace KeyPath

/-- Characters of names: letters and digits, blanks, underscores and hyphens. -/
def isNameChar (c : Char) : Bool := c.isAlphanum || c == ' ' || c == '_' || c == '-'

/-- Reads a name. -/
def readName? (cs : List Char) : Option (String × List Char) :=
  let (name, rest) := cs.span isNameChar
  if name.isEmpty then none else some (String.ofList name, rest)

/-- Reads an index of 64 bits, with blanks around it. -/
def readIndex? (cs : List Char) : Option (Int × List Char) :=
  let cs := cs.dropWhile isBlank
  let (isNegative, cs) := if cs.head? == some '-' then (true, cs.drop 1) else (false, cs)
  let (digits, rest) := cs.span Char.isDigit
  let n : Int := Nat.ofDigitChars 10 digits 0
  let index := if isNegative then -n else n
  if digits.isEmpty || index < Int64.minValue.toInt || Int64.maxValue.toInt < index then none
  else some (index, rest.dropWhile isBlank)

/-- Reads steps to the end of the text; each takes at least one character. -/
def readSteps? : Nat → List Char → Option (List KeyStep)
  | _, [] => some []
  | 0, _ => none
  | fuel + 1, '.' :: cs => do
    let (name, rest) ← readName? cs
    return .entry name :: (← readSteps? fuel rest)
  | fuel + 1, '[' :: cs => do
    let (index, rest) ← readIndex? cs
    match rest with
    | ']' :: rest => return .item index :: (← readSteps? fuel rest)
    | _ => none
  | _, _ => none

/-- The path that a text writes. -/
def ofString? (s : String) : Option KeyPath := do
  let (name, rest) ← readName? s.toList
  return { name, steps := ← readSteps? rest.length rest }

end KeyPath

end Highlight
