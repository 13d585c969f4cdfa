import Highlight.Unicode.CharSet
import Highlight.Yaml.Glyph
import Highlight.Yaml.Token

/-!
# Scalars

How plain, quoted and block scalars are read. A scalar over several lines is folded: one break between two words becomes
a blank, and of several the first is dropped. Each reader takes the characters from its start and returns the text and
what follows.
-/

namespace Highlight.Yaml

/-- What lies between two words of a scalar. Characters are held last to first. -/
inductive Gap where
  /-- Blanks on one line. -/
  | blanks (cs : List Char)
  /-- Breaks, and blanks that do not count. There is no first break if it was escaped. -/
  | breaks (first : Option Char) (more : List Char)
deriving Repr, DecidableEq, Inhabited

namespace Gap

def none : Gap := blanks []

/-- Whether there was a break. -/
def isBroken : Gap → Bool
  | blanks _ => false
  | breaks _ _ => true

def addBlank (c : Char) : Gap → Gap
  | blanks cs => blanks (c :: cs)
  | breaks first more => breaks first more

def addBreak (c : Char) : Gap → Gap
  | blanks _ => breaks (some c) []
  | breaks first more => breaks first (c :: more)

/-- The text of the gap, last character first. -/
def folded : Gap → List Char
  | blanks cs => cs
  | breaks (some '\n') [] => [' ']
  | breaks (some '\n') more => more
  | breaks (some c) more => more ++ [c]
  | breaks Option.none more => more

end Gap

/-- Characters that structure the flow of a list or table. -/
def isFlowIndicator (c : Char) : Bool := c == ',' || c == '[' || c == ']' || c == '\x7b' || c == '\x7d'

/-- A text read, the gap after it, and what follows. -/
structure PlainScalar where
  text : String
  gap : Gap
  rest : List Glyph

/-- Reads a plain scalar. `least` is the least column at which it may go on after a break; `text` holds the characters
so far, last to first. -/
def readPlain (inFlow : Bool) (least : Nat) (gap : Gap) (text : List Char) :
    List Glyph → Except ReadError PlainScalar
  | [] => .ok { text := String.ofList text.reverse, gap, rest := [] }
  | g :: gs =>
    if isBreak g.char then readPlain inFlow least (gap.addBreak g.char) text gs
    else if isBlank g.char then
      if gap.isBroken && g.column < least && g.char == '\t' then .error .tabIndentation
      else readPlain inFlow least (gap.addBlank g.char) text gs
    else
      let isWordStart := text.isEmpty || gap != Gap.none
      let ends := isWordStart && ((!inFlow && gap.isBroken && g.column < least) ||
        (documentMark? (g :: gs)).isSome || g.char == '#')
      let stop : PlainScalar := { text := String.ofList text.reverse, gap, rest := g :: gs }
      if ends then .ok stop
      else if inFlow && g.char == ':' && (charAt? gs 0).any (fun c => isFlowIndicator c || c == '?') then
        .error (.unexpectedCharacter ':')
      else if (g.char == ':' && gapAt gs 0) || (inFlow && isFlowIndicator g.char) then .ok stop
      else readPlain inFlow least Gap.none (g.char :: (gap.folded ++ text)) gs

/-- What an escape in a double-quoted scalar stands for: a character, or a number of hexadecimal digits that follow. -/
inductive Escape where
  | char (c : Char)
  | code (digits : Nat)
deriving Repr, DecidableEq

def escape? : Char → Option Escape
  | '0' => some (.char '\x00')
  | 'a' => some (.char '\x07')
  | 'b' => some (.char '\x08')
  | 't' => some (.char '\t')
  | '\t' => some (.char '\t')
  | 'n' => some (.char '\n')
  | 'v' => some (.char '\x0b')
  | 'f' => some (.char '\x0c')
  | 'r' => some (.char '\r')
  | 'e' => some (.char '\x1b')
  | ' ' => some (.char ' ')
  | '"' => some (.char '"')
  | '/' => some (.char '/')
  | '\\' => some (.char '\\')
  | 'N' => some (.char '\u0085')
  | '_' => some (.char '\u00a0')
  | 'L' => some (.char '\u2028')
  | 'P' => some (.char '\u2029')
  | 'x' => some (.code 2)
  | 'u' => some (.code 4)
  | 'U' => some (.code 8)
  | _ => none

/-- Where the reader of a double-quoted scalar is. -/
inductive QuotedState where
  | text
  /-- After a backslash. -/
  | escape
  /-- Inside a character code: digits still to come, and the number so far. -/
  | code (digits : Nat) (value : Nat)
deriving Repr, DecidableEq

/-- Reads a single-quoted scalar after its opening quote. A quote inside is written twice. -/
def readSingleQuoted (gap : Gap) (text : List Char) : List Glyph → Except ReadError (String × List Glyph)
  | [] => .error .unexpectedEnd
  | [g] =>
    if g.char == '\'' then .ok (String.ofList (gap.folded ++ text).reverse, []) else .error .unexpectedEnd
  | g :: g' :: gs =>
    if isBreak g.char then readSingleQuoted (gap.addBreak g.char) text (g' :: gs)
    else if isBlank g.char then readSingleQuoted (gap.addBlank g.char) text (g' :: gs)
    else if (documentMark? (g :: g' :: gs)).isSome then .error .documentMarkInScalar
    else if g.char == '\'' then
      if g'.char == '\'' then readSingleQuoted Gap.none ('\'' :: (gap.folded ++ text)) gs
      else .ok (String.ofList (gap.folded ++ text).reverse, g' :: gs)
    else readSingleQuoted Gap.none (g.char :: (gap.folded ++ text)) (g' :: gs)

/-- Reads a double-quoted scalar after its opening quote. -/
def readDoubleQuoted (state : QuotedState) (gap : Gap) (text : List Char) :
    List Glyph → Except ReadError (String × List Glyph)
  | [] => .error .unexpectedEnd
  | g :: gs =>
    match state with
    | .text =>
      if isBreak g.char then readDoubleQuoted .text (gap.addBreak g.char) text gs
      else if isBlank g.char then readDoubleQuoted .text (gap.addBlank g.char) text gs
      else if (documentMark? (g :: gs)).isSome then .error .documentMarkInScalar
      else if g.char == '"' then .ok (String.ofList (gap.folded ++ text).reverse, gs)
      else if g.char == '\\' then readDoubleQuoted .escape Gap.none (gap.folded ++ text) gs
      else readDoubleQuoted .text Gap.none (g.char :: (gap.folded ++ text)) gs
    | .escape =>
      if isBreak g.char then readDoubleQuoted .text (.breaks Option.none []) text gs
      else match escape? g.char with
        | some (.char c) => readDoubleQuoted .text Gap.none (c :: text) gs
        | some (.code digits) => readDoubleQuoted (.code digits 0) Gap.none text gs
        | none => .error .badEscape
    | .code digits value =>
      match hexDigit? g.char with
      | none => .error .badEscape
      | some d =>
        let value := 16 * value + d
        if 1 < digits then readDoubleQuoted (.code (digits - 1) value) Gap.none text gs
        else if value.isValidChar then readDoubleQuoted .text Gap.none (Char.ofNat value :: text) gs
        else .error .badEscape

/-- What happens to the breaks at the end of a block scalar. -/
inductive Chomping where
  | strip
  /-- One break is kept. -/
  | clip
  | keep
deriving Repr, DecidableEq, Inhabited

/-- The header of a block scalar: how its end is treated, and its indentation relative to its parent, if given. -/
structure BlockHeader where
  chomping : Chomping := .clip
  increment : Option Nat := none

def chomping? : Char → Option Chomping
  | '-' => some .strip
  | '+' => some .keep
  | _ => none

/-- The digit of an indentation, which is not zero. -/
def increment? (c : Char) : Option Nat :=
  if '1' ≤ c && c ≤ '9' then some (c.toNat - '0'.toNat) else none

/-- Reads the marks of a header, in either order. -/
def readBlockMarks (gs : List Glyph) : BlockHeader × List Glyph :=
  match gs with
  | [] => ({}, [])
  | a :: rest => match chomping? a.char, increment? a.char with
    | some c, _ => match (charAt? rest 0).bind increment? with
      | some i => ({ chomping := c, increment := some i }, rest.drop 1)
      | none => ({ chomping := c }, rest)
    | none, some i => match (charAt? rest 0).bind chomping? with
      | some c => ({ chomping := c, increment := some i }, rest.drop 1)
      | none => ({ increment := some i }, rest)
    | none, none => ({}, gs)

/-- Reads the line of a block scalar after its indicator. -/
def readBlockHeader (gs : List Glyph) : Except ReadError (BlockHeader × List Glyph) :=
  let (header, rest) := readBlockMarks gs
  let rest := skipComment (skipBlanks rest)
  if breakOrEndAt rest 0 then .ok (header, skipBreak rest) else .error .badBlockHeader

/-- Where the reader of a block scalar is. Characters are held last to first. -/
structure BlockState where
  /-- The indentation of the scalar, once it is known. -/
  indent : Option Nat
  /-- The largest indentation of the empty lines before it is known. -/
  widest : Nat := 0
  /-- Whether the reader is inside a line, after its indentation. -/
  inLine : Bool := false
  /-- Whether the line before started with a blank. -/
  wasIndented : Bool := false
  /-- The break after the line before. -/
  leading : List Char := []
  /-- Breaks of empty lines since then. -/
  trailing : List Char := []
  text : List Char := []

/-- The text once the scalar has ended. -/
def BlockState.finish (s : BlockState) (chomping : Chomping) : String :=
  let text := match chomping with
    | .strip => s.text
    | .clip => s.leading ++ s.text
    | .keep => s.trailing ++ (s.leading ++ s.text)
  String.ofList text.reverse

/-- The state at the first character of a line that is not empty. Two lines of a folded scalar that both start with a
word are joined by a blank. -/
def BlockState.startLine (s : BlockState) (folds : Bool) (c : Char) : BlockState :=
  let joint :=
    if folds && s.leading == ['\n'] && !s.wasIndented && !isBlank c then
      if s.trailing.isEmpty then [' '] else []
    else s.leading
  { s with
    inLine := true, wasIndented := isBlank c, leading := [], trailing := []
    text := c :: (s.trailing ++ (joint ++ s.text)) }

/-- Reads a block scalar after its header. `least` is the least indentation it may have. -/
def readBlock (folds : Bool) (chomping : Chomping) (least : Nat) (s : BlockState) :
    List Glyph → Except ReadError (String × List Glyph)
  | [] => .ok (s.finish chomping, [])
  | g :: gs =>
    if s.inLine then
      if isBreak g.char then readBlock folds chomping least { s with inLine := false, leading := [g.char] } gs
      else readBlock folds chomping least { s with text := g.char :: s.text } gs
    else
      let isIndentation := s.indent.all (g.column < ·)
      if isIndentation && g.char == ' ' then readBlock folds chomping least s gs
      else if isIndentation && g.char == '\t' then .error .tabIndentation
      else
        let widest := max s.widest g.column
        if isBreak g.char then readBlock folds chomping least { s with widest, trailing := g.char :: s.trailing } gs
        else
          let indent := s.indent.getD (max widest (max least 1))
          if g.column = indent then
            readBlock folds chomping least ({ s with indent := some indent }.startLine folds g.char) gs
          else .ok (s.finish chomping, g :: gs)

end Highlight.Yaml
