import Highlight.Json.Basic
import Highlight.Unicode.CharSet

/-!
# Reading JSON

`Json.parse` reads a whole text as one value. The reader works on characters; the number of characters bounds its
recursion, and `maxNesting` bounds how deep arrays and objects may be nested.
-/

namespace Highlight.Json

/-- Why a text is no JSON value. -/
inductive ReadError where
  | unexpectedEnd
  | unexpectedCharacter (c : Char)
  | badNumber
  | badEscape
  | tooDeep
  | trailingCharacters
deriving Repr, DecidableEq, Inhabited

def ReadError.message : ReadError → String
  | unexpectedEnd => "the text ends inside a value"
  | unexpectedCharacter c => s!"the character {c} is not expected"
  | badNumber => "a number is not valid"
  | badEscape => "a string is not valid"
  | tooDeep => "the value is nested too deeply"
  | trailingCharacters => "something follows the value"

def isBlank (c : Char) : Bool := c == ' ' || c == '\n' || c == '\t' || c == '\r'

def skipBlanks (cs : List Char) : List Char := cs.dropWhile isBlank

/-- One unit of a string: a character, or a number that stands for a character or for half of one. -/
inductive StringUnit where
  | char (c : Char)
  | code (n : Nat)
deriving Repr, DecidableEq

/-- The character that a one-letter escape stands for. -/
def escapedChar? : Char → Option Char
  | '"' => some '"'
  | '\\' => some '\\'
  | '/' => some '/'
  | 'b' => some '\x08'
  | 'f' => some '\x0c'
  | 'n' => some '\n'
  | 'r' => some '\r'
  | 't' => some '\t'
  | _ => none

/-- The value of four hexadecimal digits. -/
def hex4? (a b c d : Char) : Option Nat := do
  return ((← hexDigit? a) * 16 + (← hexDigit? b)) * 256 + (← hexDigit? c) * 16 + (← hexDigit? d)

/-- The units of a string after its opening quote, and what follows the closing quote. -/
def scanString : List Char → Except ReadError (List StringUnit × List Char)
  | [] => .error .unexpectedEnd
  | '"' :: rest => .ok ([], rest)
  | '\\' :: 'u' :: a :: b :: c :: d :: rest => do
    match hex4? a b c d with
    | some n =>
      let (units, rest) ← scanString rest
      return (.code n :: units, rest)
    | none => throw .badEscape
  | '\\' :: e :: rest => do
    match escapedChar? e with
    | some c =>
      let (units, rest) ← scanString rest
      return (.char c :: units, rest)
    | none => throw .badEscape
  | '\\' :: [] => .error .unexpectedEnd
  | c :: rest => do
    if c.toNat < 0x20 then throw (.unexpectedCharacter c)
    let (units, rest) ← scanString rest
    return (.char c :: units, rest)

/-- The characters of the units; two halves that stand together make one character. -/
def joinUnits : List StringUnit → Option (List Char)
  | [] => some []
  | .char c :: us => (joinUnits us).map (c :: ·)
  | .code n :: us =>
    if n.isValidChar then (joinUnits us).map (Char.ofNat n :: ·)
    else match us with
      | .code m :: us =>
        if n < 0xdc00 && 0xdc00 ≤ m && m < 0xe000 then
          (joinUnits us).map (Char.ofNat (0x10000 + (n - 0xd800) * 0x400 + (m - 0xdc00)) :: ·)
        else none
      | _ => none

/-- A string after its opening quote. -/
def readString (cs : List Char) : Except ReadError (String × List Char) := do
  let (units, rest) ← scanString cs
  match joinUnits units with
  | some s => return (String.ofList s, rest)
  | none => throw .badEscape

/-- Digits, of which there must be some. -/
def readDigits (cs : List Char) : Except ReadError (List Char × List Char) :=
  let (digits, rest) := cs.span Char.isDigit
  if digits.isEmpty then .error .badNumber else .ok (digits, rest)

/-- Whether a minus stands in front, and what follows it. -/
def takeMinus : List Char → Bool × List Char
  | '-' :: cs => (true, cs)
  | cs => (false, cs)

/-- The same where a plus may stand in front as well. -/
def takeSign : List Char → Bool × List Char
  | '+' :: cs => (false, cs)
  | cs => takeMinus cs

/-- The digits after a point, if there is one. -/
def readFraction : List Char → Except ReadError (Option (List Char) × List Char)
  | '.' :: cs => do
    let (digits, rest) ← readDigits cs
    return (some digits, rest)
  | cs => .ok (none, cs)

/-- The number after an `e`, if there is one; it may have a sign. -/
def readExponent : List Char → Except ReadError (Option Int × List Char)
  | [] => .ok (none, [])
  | e :: cs =>
    if e == 'e' || e == 'E' then do
      let (negative, cs) := takeSign cs
      let (digits, rest) ← readDigits cs
      let n := Nat.ofDigitChars 10 digits 0
      return (some (if negative then -(n : Int) else n), rest)
    else .ok (none, e :: cs)

/-- The value of a number. Without fraction and exponent it is an integer, unless it is a negative zero. -/
def ofNumber (negative : Bool) (whole : List Char) (fraction : Option (List Char)) (exponent : Option Int) : Json :=
  let digits := Nat.ofDigitChars 10 (whole ++ fraction.getD []) 0
  if fraction.isNone && exponent.isNone then
    if negative then (if digits = 0 then .real true 0 0 else .int (-digits)) else .int digits
  else .real negative digits (exponent.getD 0 - (fraction.getD []).length)

/-- A number. Only zero itself may start with a zero. -/
def readNumber (cs : List Char) : Except ReadError (Json × List Char) := do
  let (negative, cs) := takeMinus cs
  let (whole, cs) ← readDigits cs
  if whole.head? == some '0' && whole.length > 1 then .error .badNumber
  else do
    let (fraction, cs) ← readFraction cs
    let (exponent, cs) ← readExponent cs
    return (ofNumber negative whole fraction exponent, cs)

/-- How deep arrays and objects may be nested. -/
def maxNesting : Nat := 127

mutual

/-- A value, with blanks in front of it; `depth` more levels may be opened. -/
def readValue (depth : Nat) : Nat → List Char → Except ReadError (Json × List Char)
  | 0, _ => .error .unexpectedEnd
  | fuel + 1, cs =>
    match skipBlanks cs with
    | [] => .error .unexpectedEnd
    | 'n' :: 'u' :: 'l' :: 'l' :: rest => .ok (.null, rest)
    | 't' :: 'r' :: 'u' :: 'e' :: rest => .ok (.bool true, rest)
    | 'f' :: 'a' :: 'l' :: 's' :: 'e' :: rest => .ok (.bool false, rest)
    | '"' :: rest => do
      let (s, rest) ← readString rest
      return (.str s, rest)
    | '[' :: rest =>
      match depth with
      | 0 => .error .tooDeep
      | depth + 1 =>
        match skipBlanks rest with
        | ']' :: rest => .ok (.arr [], rest)
        | rest => do
          let (items, rest) ← readItems depth fuel rest
          return (.arr items, rest)
    | '\x7b' :: rest =>
      match depth with
      | 0 => .error .tooDeep
      | depth + 1 =>
        match skipBlanks rest with
        | '\x7d' :: rest => .ok (.obj [], rest)
        | rest => do
          let (members, rest) ← readMembers depth fuel rest
          return (.obj members, rest)
    | c :: rest =>
      if c == '-' || c.isDigit then readNumber (c :: rest) else .error (.unexpectedCharacter c)

/-- The items of an array that is not empty, up to its closing bracket. -/
def readItems (depth : Nat) : Nat → List Char → Except ReadError (List Json × List Char)
  | 0, _ => .error .unexpectedEnd
  | fuel + 1, cs => do
    let (item, rest) ← readValue depth fuel cs
    match skipBlanks rest with
    | ',' :: rest =>
      let (items, rest) ← readItems depth fuel rest
      return (item :: items, rest)
    | ']' :: rest => return ([item], rest)
    | c :: _ => throw (.unexpectedCharacter c)
    | [] => throw .unexpectedEnd

/-- The members of an object that is not empty, up to its closing brace. -/
def readMembers (depth : Nat) : Nat → List Char → Except ReadError (List (String × Json) × List Char)
  | 0, _ => .error .unexpectedEnd
  | fuel + 1, cs => do
    match skipBlanks cs with
    | '"' :: rest =>
      let (name, rest) ← readString rest
      match skipBlanks rest with
      | ':' :: rest =>
        let (value, rest) ← readValue depth fuel rest
        match skipBlanks rest with
        | ',' :: rest =>
          let (members, rest) ← readMembers depth fuel rest
          return ((name, value) :: members, rest)
        | '\x7d' :: rest => return ([(name, value)], rest)
        | c :: _ => throw (.unexpectedCharacter c)
        | [] => throw .unexpectedEnd
      | c :: _ => throw (.unexpectedCharacter c)
      | [] => throw .unexpectedEnd
    | c :: _ => throw (.unexpectedCharacter c)
    | [] => throw .unexpectedEnd

end

/-- Reads characters as one value with a bound on its nesting; only blanks may follow. -/
def parseChars (nesting : Nat) (cs : List Char) : Except ReadError Json := do
  let (value, rest) ← readValue nesting (cs.length + 1) cs
  if (skipBlanks rest).isEmpty then return value else throw .trailingCharacters

/-- Reads a text as one value. -/
def parse (s : String) : Except ReadError Json := parseChars maxNesting s.toList

end Highlight.Json
