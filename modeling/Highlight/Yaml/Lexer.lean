import Highlight.Yaml.Scalar
import Highlight.Yaml.Tag

/-!
# From characters to tokens

`tokens` cuts a text into tokens. Two things about a token are only known later. A scalar or flow collection is a key if
a colon follows it on its line; the place where it started is remembered, and the tokens for the key are put there when
the colon is found. A block ends when a later line is indented less; the stack of indentations tells how many end.
-/

namespace Highlight.Yaml

/-- A place where a key may have started. -/
structure KeyStart where
  /-- How many tokens come before it. -/
  token : Nat
  /-- Whether something must be a key because it stands at the indentation of the entries of a table. -/
  isRequired : Bool
  glyph : Glyph
deriving Repr, Inhabited

/-- The longest key whose colon is still found, in characters. -/
def longestKey : Nat := 1024

/-- The state between two tokens. -/
structure Lexer where
  rest : List Glyph
  tokens : Array Token := #[]
  /-- The columns of the open blocks, innermost first. -/
  indents : List Nat := []
  /-- Where a key may have started, in the innermost flow collection or else in the block. -/
  keyStart : Option KeyStart := none
  /-- The same outside each open flow collection, innermost first. -/
  outerStarts : List (Option KeyStart) := []
  /-- Whether a key may start here. -/
  allowsKey : Bool := true

namespace Lexer

def inFlow (s : Lexer) : Bool := !s.outerStarts.isEmpty

/-- The least column of what is inside the innermost block. -/
def innerColumn (s : Lexer) : Nat := match s.indents with
  | [] => 0
  | column :: _ => column + 1

def push (s : Lexer) (t : Token) : Lexer := { s with tokens := s.tokens.push t }

/-- Leaves out blanks, comments and empty lines. Tabs count as blanks where no key may start. -/
def skipGap (inFlow allowsKey inComment : Bool) : List Glyph → Bool × List Glyph
  | [] => (allowsKey, [])
  | g :: gs =>
    if isBreak g.char then skipGap inFlow (allowsKey || !inFlow) false gs
    else if inComment then skipGap inFlow allowsKey true gs
    else if g.char == ' ' || (g.char == '\t' && (inFlow || !allowsKey)) || (g.char == byteOrderMark && g.column = 0)
      then skipGap inFlow allowsKey false gs
    else if g.char == '#' then skipGap inFlow allowsKey true gs
    else (allowsKey, g :: gs)

/-- The start of a key, unless what follows is too far from it. -/
def liveStart (g : Glyph) : Option KeyStart → Except ReadError (Option KeyStart)
  | none => .ok none
  | some k =>
    if k.glyph.line < g.line || k.glyph.index + longestKey < g.index then
      if k.isRequired then .error .keyWithoutValue else .ok none
    else .ok (some k)

/-- Forgets keys that have been waiting for their colon too long. -/
def dropStale (s : Lexer) (g : Glyph) : Except ReadError Lexer := do
  return { s with keyStart := ← liveStart g s.keyStart, outerStarts := ← s.outerStarts.mapM (liveStart g) }

/-- Forgets that a key may have started. -/
def dropKey (s : Lexer) : Except ReadError Lexer :=
  if s.keyStart.any (·.isRequired) then .error .keyWithoutValue else .ok { s with keyStart := none }

/-- Remembers that a key may start here. -/
def saveKey (s : Lexer) (g : Glyph) : Except ReadError Lexer :=
  if s.allowsKey then do
    let s ← s.dropKey
    let isRequired := !s.inFlow && s.indents.head? == some g.column
    return { s with keyStart := some { token := s.tokens.size, isRequired, glyph := g } }
  else .ok s

/-- Closes blocks; outside of flow collections, `isClosed` says which. -/
def closeBlocks (s : Lexer) (isClosed : Nat → Bool) : Lexer :=
  if s.inFlow then s
  else
    let (closed, indents) := s.indents.span isClosed
    { s with tokens := s.tokens ++ (closed.map fun _ => Token.blockEnd).toArray, indents }

/-- Opens a block at a column, with its token at the given place, unless one is open there. -/
def openBlock (s : Lexer) (column place : Nat) (t : Token) : Lexer :=
  if s.inFlow || column < s.innerColumn then s
  else { s with tokens := s.tokens.insertIdxIfInBounds place t, indents := column :: s.indents }

/-- A directive or the mark of a document, which close everything. -/
def documentToken (s : Lexer) (t : Token) (rest : List Glyph) : Except ReadError Lexer := do
  let s ← (s.closeBlocks fun _ => true).dropKey
  return { s.push t with allowsKey := false, rest }

def flowStart (s : Lexer) (g : Glyph) (t : Token) (rest : List Glyph) : Except ReadError Lexer := do
  let s ← s.saveKey g
  return { s.push t with outerStarts := s.keyStart :: s.outerStarts, keyStart := none, allowsKey := true, rest }

def flowEnd (s : Lexer) (t : Token) (rest : List Glyph) : Except ReadError Lexer := do
  let s ← s.dropKey
  let s := s.push t
  match s.outerStarts with
  | start :: outerStarts => return { s with keyStart := start, outerStarts, allowsKey := false, rest }
  | [] => return { s with allowsKey := false, rest }

def flowEntry (s : Lexer) (rest : List Glyph) : Except ReadError Lexer := do
  let s ← s.dropKey
  return { s.push .flowEntry with allowsKey := true, rest }

/-- An entry of a block list; in a flow collection it is an error, but found later. -/
def blockEntry (s : Lexer) (g : Glyph) (rest : List Glyph) : Except ReadError Lexer := do
  if !s.inFlow && !s.allowsKey then throw .misplacedEntry
  let s ← (s.openBlock g.column s.tokens.size .blockListStart).dropKey
  return { s.push .blockEntry with allowsKey := true, rest }

/-- A key that is marked as such. -/
def markedKey (s : Lexer) (g : Glyph) (rest : List Glyph) : Except ReadError Lexer := do
  if !s.inFlow && !s.allowsKey then throw .misplacedEntry
  let s ← (s.openBlock g.column s.tokens.size .blockTableStart).dropKey
  return { s.push .key with allowsKey := !s.inFlow, rest }

/-- The colon before a value. If a key may have started, it did. -/
def value (s : Lexer) (g : Glyph) (rest : List Glyph) : Except ReadError Lexer :=
  match s.keyStart with
  | some k =>
    let s := { s with tokens := s.tokens.insertIdxIfInBounds k.token .key }
    let s := s.openBlock k.glyph.column k.token .blockTableStart
    .ok { s.push .value with keyStart := none, allowsKey := false, rest }
  | none => do
    if !s.inFlow && !s.allowsKey then throw .misplacedEntry
    let s := s.openBlock g.column s.tokens.size .blockTableStart
    return { s.push .value with allowsKey := !s.inFlow, rest }

/-- A token that may be part of a key. -/
def keyPart (s : Lexer) (g : Glyph) (t : Token) (rest : List Glyph) : Except ReadError Lexer := do
  let s ← s.saveKey g
  return { s.push t with allowsKey := false, rest }

def blockScalar (s : Lexer) (folds : Bool) (rest : List Glyph) : Except ReadError Lexer := do
  let s ← s.dropKey
  let (header, rest) ← readBlockHeader rest
  let base := s.indents.head?.getD 0
  let (text, rest) ← readBlock folds header.chomping s.innerColumn { indent := header.increment.map (base + ·) } rest
  return { s.push (.scalar false text) with allowsKey := true, rest }

def plainScalar (s : Lexer) (g : Glyph) : Except ReadError Lexer := do
  let plain ← readPlain s.inFlow s.innerColumn Gap.none [] s.rest
  let s ← s.keyPart g (.scalar true plain.text) plain.rest
  return { s with allowsKey := plain.gap.isBroken }

/-- Characters that a plain scalar does not start with. -/
def isIndicator (c : Char) : Bool :=
  "-?:,[]\x7b\x7d#&*!|>'\"%@".toList.contains c || c == '\x60'

/-- Whether a plain scalar starts here. -/
def startsPlain (s : Lexer) (c : Char) (rest : List Glyph) : Bool :=
  !(isBlank c || isIndicator c) || (c == '-' && !(charAt? rest 0).any isBlank) ||
    (!s.inFlow && (c == '?' || c == ':') && !gapAt rest 0)

/-- Reads the token that starts with the given character. -/
def readToken (s : Lexer) (g : Glyph) (rest : List Glyph) : Except ReadError Lexer :=
  let isMark := s.inFlow || gapAt rest 0
  match g.char, documentMark? (g :: rest) with
  | _, some '-' => s.documentToken .documentStart (rest.drop 2)
  | _, some _ => s.documentToken .documentEnd (rest.drop 2)
  | '[', _ => s.flowStart g .flowListStart rest
  | '\x7b', _ => s.flowStart g .flowTableStart rest
  | ']', _ => s.flowEnd .flowListEnd rest
  | '\x7d', _ => s.flowEnd .flowTableEnd rest
  | ',', _ => s.flowEntry rest
  | '*', _ => do
    let (name, rest) ← readAnchor rest
    s.keyPart g (.alias name) rest
  | '&', _ => do
    let (name, rest) ← readAnchor rest
    s.keyPart g (.anchor name) rest
  | '!', _ => do
    let (name, rest) ← readTag s.inFlow rest
    s.keyPart g (.tag name) rest
  | '\'', _ => do
    let (text, rest) ← readSingleQuoted Gap.none [] rest
    s.keyPart g (.scalar false text) rest
  | '"', _ => do
    let (text, rest) ← readDoubleQuoted .text Gap.none [] rest
    s.keyPart g (.scalar false text) rest
  | c, _ =>
    if c == '%' && g.column = 0 then do
      let (t, rest) ← readDirective rest
      s.documentToken t rest
    else if c == '-' && gapAt rest 0 then s.blockEntry g rest
    else if c == '?' && isMark then s.markedKey g rest
    else if c == ':' && isMark then s.value g rest
    else if (c == '|' || c == '>') && !s.inFlow then s.blockScalar (c == '>') rest
    else if s.startsPlain c rest then s.plainScalar g
    else .error (.unexpectedCharacter c)

/-- Reads tokens to the end of the text; every token takes at least one character, so `fuel` is the length of it. -/
def run : Nat → Lexer → Except ReadError (Array Token)
  | fuel, s =>
    let (allowsKey, rest) := skipGap s.inFlow s.allowsKey false s.rest
    match rest with
    | [] => do
      let s ← (s.closeBlocks fun _ => true).dropKey
      return s.tokens
    | g :: gs => match fuel with
      | 0 => .error .unexpectedEnd
      | fuel + 1 => do
        let s ← { s with allowsKey, rest }.dropStale g
        let s ← (s.closeBlocks (g.column < ·)).readToken g gs
        run fuel s

end Lexer

/-- The tokens of a text. -/
def tokens (source : String) : Except ReadError (Array Token) :=
  let cs := source.toList
  match cs.find? fun c => !isAllowed c with
  | some c => .error (.unexpectedCharacter c)
  | none =>
    let gs := glyphs cs
    Lexer.run gs.length { rest := gs }

end Highlight.Yaml
