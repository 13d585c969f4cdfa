import Highlight.Json.Basic
import Highlight.Text.Quoted

/-!
# Writing JSON

`Json.compact` writes a value on one line without blanks; `Json.pretty` writes each item and member on a line of its
own, indented by two blanks a level, with empty arrays and objects closed at once.
-/

namespace Highlight.Json

/-- A control character by its number, in four digits. -/
def controlEscape (n : Nat) : List Char :=
  ['\\', 'u', '0', '0', if n < 16 then '0' else '1'] ++ hexDigits (n % 16)

/-- How a character is written inside a string. -/
def escapeChar (c : Char) : List Char :=
  if c == '"' then ['\\', '"']
  else if c == '\\' then ['\\', '\\']
  else if c == '\x08' then ['\\', 'b']
  else if c == '\x0c' then ['\\', 'f']
  else if c == '\n' then ['\\', 'n']
  else if c == '\r' then ['\\', 'r']
  else if c == '\t' then ['\\', 't']
  else if c.toNat < 0x20 then controlEscape c.toNat
  else [c]

def writeString (s : String) : List Char :=
  '"' :: (s.toList.flatMap escapeChar ++ ['"'])

def writeInt (n : Int) : List Char :=
  if n < 0 then '-' :: Nat.toDigits 10 n.natAbs else Nat.toDigits 10 n.natAbs

/-- Digits and a power of ten. -/
def writeReal (negative : Bool) (digits : Nat) (exponent : Int) : List Char :=
  (if negative then ['-'] else []) ++ Nat.toDigits 10 digits ++ 'e' :: writeInt exponent

mutual

/-- The value on one line. -/
def compactChars : Json → List Char
  | null => ['n', 'u', 'l', 'l']
  | bool true => ['t', 'r', 'u', 'e']
  | bool false => ['f', 'a', 'l', 's', 'e']
  | int n => writeInt n
  | real negative digits exponent => writeReal negative digits exponent
  | str s => writeString s
  | arr [] => ['[', ']']
  | arr (item :: items) => '[' :: (compactChars item ++ compactItems items)
  | obj [] => ['\x7b', '\x7d']
  | obj ((name, value) :: members) =>
    '\x7b' :: (writeString name ++ ':' :: (compactChars value ++ compactMembers members))

def compactItems : List Json → List Char
  | [] => [']']
  | item :: items => ',' :: (compactChars item ++ compactItems items)

def compactMembers : List (String × Json) → List Char
  | [] => ['\x7d']
  | (name, value) :: members =>
    ',' :: (writeString name ++ ':' :: (compactChars value ++ compactMembers members))

end

/-- A new line at a level of indentation. -/
def newLine (level : Nat) : List Char := '\n' :: List.replicate (2 * level) ' '

mutual

/-- The value over several lines, at a level of indentation. -/
def prettyChars (level : Nat) : Json → List Char
  | null => ['n', 'u', 'l', 'l']
  | bool true => ['t', 'r', 'u', 'e']
  | bool false => ['f', 'a', 'l', 's', 'e']
  | int n => writeInt n
  | real negative digits exponent => writeReal negative digits exponent
  | str s => writeString s
  | arr [] => ['[', ']']
  | arr (item :: items) =>
    '[' :: (newLine (level + 1) ++ prettyChars (level + 1) item ++ prettyItems level items)
  | obj [] => ['\x7b', '\x7d']
  | obj ((name, value) :: members) =>
    '\x7b' :: (newLine (level + 1) ++ writeString name ++ ':' :: ' ' :: prettyChars (level + 1) value ++
      prettyMembers level members)

def prettyItems (level : Nat) : List Json → List Char
  | [] => newLine level ++ [']']
  | item :: items => ',' :: (newLine (level + 1) ++ prettyChars (level + 1) item ++ prettyItems level items)

def prettyMembers (level : Nat) : List (String × Json) → List Char
  | [] => newLine level ++ ['\x7d']
  | (name, value) :: members =>
    ',' :: (newLine (level + 1) ++ writeString name ++ ':' :: ' ' :: prettyChars (level + 1) value ++
      prettyMembers level members)

end

def compact (v : Json) : String := String.ofList (compactChars v)

def pretty (v : Json) : String := String.ofList (prettyChars 0 v)

end Highlight.Json
