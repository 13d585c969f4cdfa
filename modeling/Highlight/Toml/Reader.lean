import Highlight.Toml.Document
import Highlight.Toml.Scalar

/-!
# Reading TOML

`Toml.parse` reads a document: lines with a key and its value, and headers that say in which table the lines after them
belong. The reader works on characters; the number of characters bounds its recursion.
-/

namespace Highlight.Toml

/-- Arrays and tables inside of each other, and parts of a key, are fewer than this. -/
def nestingBound : Nat := 80

/-! ## Keys -/

def isBareKeyChar (c : Char) : Bool := c.isAlphanum || c == '-' || c == '_'

/-- Reads one part of a key. -/
def readKeyPart (cs : List Char) : Except ReadError (String × List Char) :=
  match cs with
  | '"' :: cs => readBasic .text [] cs
  | '\'' :: cs => readLiteral [] cs
  | _ =>
    let (key, rest) := cs.span isBareKeyChar
    if key.isEmpty then .error .badKey else .ok (String.ofList key, rest)

/-- Reads the parts of a key, with blanks around them. -/
def readKeyParts : Nat → List Char → Except ReadError (List String × List Char)
  | 0, _ => .error .unexpectedEnd
  | fuel + 1, cs => do
    let (part, rest) ← readKeyPart (skipBlanks cs)
    match skipBlanks rest with
    | '.' :: rest =>
      let (parts, rest) ← readKeyParts fuel rest
      return (part :: parts, rest)
    | rest => return ([part], rest)

/-- A key: the parts before the last one, and the last one. -/
structure Key where
  path : List String
  last : String

/-- Reads a key. -/
def readKey (cs : List Char) : Except ReadError (Key × List Char) := do
  let (parts, rest) ← readKeyParts (cs.length + 1) cs
  if nestingBound ≤ parts.length then throw .tooDeep
  match parts.getLast? with
  | some last => return ({ path := parts.dropLast, last }, rest)
  | none => throw .badKey

/-! ## White space -/

/-- Reads a line break. -/
def newline? : List Char → Option (List Char)
  | '\n' :: cs => some cs
  | '\r' :: '\n' :: cs => some cs
  | _ => none

/-- Leaves out blanks and a comment. -/
def skipComment (cs : List Char) : List Char :=
  match skipBlanks cs with
  | '#' :: cs => cs.dropWhile isPrintable
  | cs => cs

/-- Leaves out blanks, comments and line breaks. -/
def skipLines : Nat → List Char → List Char
  | 0, cs => cs
  | fuel + 1, cs =>
    let rest := skipComment cs
    match newline? rest with
    | some rest => skipLines fuel rest
    | none => rest

/-- Reads the end of a line: blanks and a comment before the break or the end of the text. -/
def readLineEnd (cs : List Char) : Except ReadError (List Char) :=
  match skipComment cs with
  | [] => .ok []
  | c :: cs => match newline? (c :: cs) with
    | some rest => .ok rest
    | none => .error (.unexpectedCharacter c)

/-! ## Values -/

mutual

/-- Reads a value; `depth` more levels may be opened. -/
def readValue (depth : Nat) : Nat → List Char → Except ReadError (Toml × List Char)
  | 0, _ => .error .unexpectedEnd
  | fuel + 1, cs =>
    match cs with
    | [] => .error .unexpectedEnd
    | '[' :: rest => match depth with
      | 0 => .error .tooDeep
      | depth + 1 => do
        let (items, rest) ← readItems depth fuel rest
        return (.array items, rest)
    | '\x7b' :: rest => match depth with
      | 0 => .error .tooDeep
      | depth + 1 => do
        match skipBlanks rest with
        | '\x7d' :: rest => return (.table [], rest)
        | rest =>
          let (entries, rest) ← readMembers depth fuel [] rest
          return (.table (finishEntries entries), rest)
    | c :: rest =>
      if c == '"' || c == '\'' then do
        let (s, rest) ← readString (c :: rest)
        return (.text s, rest)
      else readScalar (c :: rest)

/-- The items of an array, up to its closing bracket. -/
def readItems (depth : Nat) : Nat → List Char → Except ReadError (List Toml × List Char)
  | 0, _ => .error .unexpectedEnd
  | fuel + 1, cs =>
    match skipLines cs.length cs with
    | ']' :: rest => .ok ([], rest)
    | cs => do
      let (item, rest) ← readValue depth fuel cs
      match skipLines rest.length rest with
      | ',' :: rest =>
        let (items, rest) ← readItems depth fuel rest
        return (item :: items, rest)
      | ']' :: rest => return ([item], rest)
      | c :: _ => throw (.unexpectedCharacter c)
      | [] => throw .unexpectedEnd

/-- The members of a table on one line, up to its closing brace. -/
def readMembers (depth : Nat) : Nat → Entries → List Char → Except ReadError (Entries × List Char)
  | 0, _, _ => .error .unexpectedEnd
  | fuel + 1, entries, cs => do
    let (key, rest) ← readKey cs
    match rest with
    | '=' :: rest =>
      let (value, rest) ← readValue depth fuel (skipBlanks rest)
      let entries ← addValue key.last value key.path entries
      match skipBlanks rest with
      | ',' :: rest => readMembers depth fuel entries rest
      | '\x7d' :: rest => return (entries, rest)
      | c :: _ => throw (.unexpectedCharacter c)
      | [] => throw .unexpectedEnd
    | c :: _ => throw (.unexpectedCharacter c)
    | [] => throw .unexpectedEnd

end

/-! ## Documents -/

/-- What has been read of a document: its tables, and the header of the table that is open. -/
structure Progress where
  entries : Entries := []
  header : List String := []

/-- Reads a line with a key and its value. -/
def readPair (p : Progress) (cs : List Char) : Except ReadError (Progress × List Char) := do
  let (key, rest) ← readKey cs
  match rest with
  | '=' :: rest =>
    let (value, rest) ← readValue (nestingBound - 1) (rest.length + 1) (skipBlanks rest)
    let rest ← readLineEnd rest
    return ({ p with entries := ← changeTable (addValue key.last value key.path) p.header p.entries }, rest)
  | c :: _ => throw (.unexpectedCharacter c)
  | [] => throw .unexpectedEnd

/-- Reads a header after its first bracket. -/
def readHeader (p : Progress) (cs : List Char) : Except ReadError (Progress × List Char) := do
  match cs with
  | '[' :: cs =>
    let (key, rest) ← readKey cs
    match rest with
    | ']' :: ']' :: rest =>
      let entries ← changeTable (startListTable key.last) key.path p.entries
      return ({ entries, header := key.path ++ [key.last] }, ← readLineEnd rest)
    | _ => throw .badKey
  | _ =>
    let (key, rest) ← readKey cs
    match rest with
    | ']' :: rest =>
      let entries ← changeTable (startTable key.last) key.path p.entries
      return ({ entries, header := key.path ++ [key.last] }, ← readLineEnd rest)
    | _ => throw .badKey

/-- Reads the lines of a document; every line takes at least one character. -/
def readLines : Nat → Progress → List Char → Except ReadError Entries
  | fuel, p, cs =>
    match skipBlanks cs with
    | [] => .ok p.entries
    | c :: cs => match fuel with
      | 0 => .error .unexpectedEnd
      | fuel + 1 => do
        if c == '#' || (newline? (c :: cs)).isSome then readLines fuel p (← readLineEnd (c :: cs))
        else
          let (p, rest) ← if c == '[' then readHeader p cs else readPair p (c :: cs)
          readLines fuel p rest

/-- The entries of the document that a text writes. A byte order mark may come first. -/
def parse (source : String) : Except ReadError (List (String × Toml)) := do
  let cs := match source.toList with
    | '\ufeff' :: cs => cs
    | cs => cs
  return finishEntries (← readLines cs.length {} cs)

end Highlight.Toml
