import Highlight.Unicode.CharSet
import Highlight.Yaml.Glyph
import Highlight.Yaml.Token

/-!
# Tags, anchors and directives

How the properties of a node and the directives of a document are read. A tag is a sequence of octets; one that is
written as an escape appears in the text of the tag as the character with its number.
-/

namespace Highlight.Yaml

/-- Characters of a tag; a verbatim tag may hold some of the flow indicators too. -/
def isTagChar (isVerbatim : Bool) (c : Char) : Bool :=
  isNameChar c || ";/?:@&=+$.%!~*'()".toList.contains c || (isVerbatim && ",[]".toList.contains c)

/-- How many octets follow the first one of a character. -/
def octetsAfter? (octet : Nat) : Option Nat :=
  if octet < 0x80 then some 0
  else if octet < 0xc0 then none
  else if octet < 0xe0 then some 1
  else if octet < 0xf0 then some 2
  else if octet < 0xf8 then some 3
  else none

/-- Reads the characters of a tag. While `missing` octets of an escaped character are to come, only escapes may
follow. -/
def readTagChars (isVerbatim : Bool) (missing : Nat) (text : List Char) :
    List Glyph → Except ReadError (List Char × List Glyph)
  | [] => if missing = 0 then .ok (text.reverse, []) else .error .badTag
  | [g] =>
    if missing = 0 && g.char != '%' then
      if isTagChar isVerbatim g.char then .ok ((g.char :: text).reverse, []) else .ok (text.reverse, [g])
    else .error .badTag
  | [g, g'] =>
    if missing = 0 && g.char != '%' then
      if isTagChar isVerbatim g.char then readTagChars isVerbatim 0 (g.char :: text) [g']
      else .ok (text.reverse, [g, g'])
    else .error .badTag
  | g :: a :: b :: gs =>
    if g.char == '%' then
      match hexDigit? a.char, hexDigit? b.char with
      | some x, some y =>
        let octet := 16 * x + y
        if 0 < missing then
          if 0x80 ≤ octet && octet < 0xc0 then readTagChars isVerbatim (missing - 1) (Char.ofNat octet :: text) gs
          else .error .badTag
        else match octetsAfter? octet with
          | some n => readTagChars isVerbatim n (Char.ofNat octet :: text) gs
          | none => .error .badTag
      | _, _ => .error .badTag
    else if 0 < missing then .error .badTag
    else if isTagChar isVerbatim g.char then readTagChars isVerbatim 0 (g.char :: text) (a :: b :: gs)
    else .ok (text.reverse, g :: a :: b :: gs)

/-- Reads a handle after its first mark: name characters, and a closing mark if there is one. -/
def readTagHandle (gs : List Glyph) : List Char × List Glyph :=
  let (name, rest) := spanChars isNameChar gs
  if startsWith rest '!' then ('!' :: name ++ ['!'], rest.drop 1) else ('!' :: name, rest)

/-- Reads a tag after its first mark: verbatim, with a handle, or plain. -/
def readTag (inFlow : Bool) (gs : List Glyph) : Except ReadError (TagName × List Glyph) := do
  let (name, rest) ←
    if startsWith gs '<' then do
      let (text, rest) ← readTagChars true 0 [] (gs.drop 1)
      if text.isEmpty || !startsWith rest '>' then throw .badTag
      pure ({ handle := "", suffix := String.ofList text : TagName }, rest.drop 1)
    else do
      let (handle, rest) := readTagHandle gs
      if 1 < handle.length && handle.getLast? == some '!' then
        let (suffix, rest) ← readTagChars false 0 [] rest
        if suffix.isEmpty then throw .badTag
        pure ({ handle := String.ofList handle, suffix := String.ofList suffix : TagName }, rest)
      else
        let (suffix, rest) ← readTagChars false 0 (handle.drop 1).reverse rest
        if suffix.isEmpty then pure ({ handle := "", suffix := "!" : TagName }, rest)
        else pure ({ handle := "!", suffix := String.ofList suffix : TagName }, rest)
  if gapAt rest 0 || (inFlow && startsWith rest ',') then return (name, rest) else throw .badTag

/-- Reads the name of an anchor or an alias. -/
def readAnchor (gs : List Glyph) : Except ReadError (String × List Glyph) :=
  let (name, rest) := spanChars isNameChar gs
  let isClosed := gapAt rest 0 || (charAt? rest 0).any (fun c => "?:,]\x7d%@".toList.contains c || c == '\x60')
  if !name.isEmpty && isClosed then .ok (String.ofList name, rest) else .error .badAnchor

/-- Reads a number of at most nine digits. -/
def readVersionNumber (gs : List Glyph) : Except ReadError (Nat × List Glyph) :=
  let (digits, rest) := spanChars Char.isDigit gs
  if digits.isEmpty || 9 < digits.length then .error .badDirective
  else .ok (Nat.ofDigitChars 10 digits 0, rest)

/-- Reads what a directive says after its name. -/
def readDirectiveValue (name : String) (gs : List Glyph) : Except ReadError (Token × List Glyph) := do
  let gs := skipBlanks gs
  if name == "YAML" then
    let (major, gs) ← readVersionNumber gs
    if !startsWith gs '.' then throw .badDirective
    let (minor, gs) ← readVersionNumber (gs.drop 1)
    return (.versionDirective major minor, gs)
  else if name == "TAG" then
    if !startsWith gs '!' then throw .badDirective
    let (handle, gs) := readTagHandle (gs.drop 1)
    if 1 < handle.length && handle.getLast? != some '!' then throw .badDirective
    if !(charAt? gs 0).any isBlank then throw .badDirective
    let (start, gs) ← readTagChars true 0 [] (skipBlanks gs)
    if start.isEmpty || !gapAt gs 0 then throw .badDirective
    return (.tagDirective (String.ofList handle) (String.ofList start), gs)
  else throw .badDirective

/-- Reads a directive after its first mark, with the line it stands on. -/
def readDirective (gs : List Glyph) : Except ReadError (Token × List Glyph) := do
  let (name, rest) := spanChars isNameChar gs
  if name.isEmpty || !gapAt rest 0 then throw .badDirective
  let (token, rest) ← readDirectiveValue (String.ofList name) rest
  let rest := skipComment (skipBlanks rest)
  if breakOrEndAt rest 0 then return (token, skipBreak rest) else throw .badDirective

end Highlight.Yaml
