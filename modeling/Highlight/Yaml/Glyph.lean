import Highlight.Text.Basic

/-!
# Characters with their places

The layout of a YAML text carries meaning, so the characters are read together with their places. Line breaks are made
uniform first: a carriage return, alone or before a line feed, and a next-line character count as one line feed. The
line and paragraph separators are breaks too, but stay what they are.
-/

namespace Highlight.Yaml

/-- A character with its place: how many characters, and how many breaks, come before it, and how many characters come
before it on its line. -/
structure Glyph where
  char : Char
  index : Nat
  line : Nat
  column : Nat
deriving Repr, DecidableEq, Inhabited

/-- Whether a character may occur in a text at all. -/
def isAllowed (c : Char) : Bool :=
  let n := c.toNat
  n = 0x9 || n = 0xa || n = 0xd || (0x20 ≤ n && n ≤ 0x7e) || n = 0x85 || (0xa0 ≤ n && n ≤ 0xfffd) || 0x10000 ≤ n

/-- A byte order mark, which may start a line. -/
def byteOrderMark : Char := '\ufeff'

def isBreak (c : Char) : Bool := c == '\n' || c == '\u2028' || c == '\u2029'

/-- The characters of names: letters, digits, hyphens and underscores. -/
def isNameChar (c : Char) : Bool := c.isAlphanum || c == '-' || c == '_'

/-- Makes line breaks uniform. -/
def uniformBreaks : List Char → List Char
  | [] => []
  | '\r' :: '\n' :: cs => '\n' :: uniformBreaks cs
  | c :: cs => (if c == '\r' || c == '\u0085' then '\n' else c) :: uniformBreaks cs

/-- The characters with their places, from a place on. -/
def glyphsFrom (index line column : Nat) : List Char → List Glyph
  | [] => []
  | c :: cs =>
    { char := c, index, line, column } ::
      if isBreak c then glyphsFrom (index + 1) (line + 1) 0 cs else glyphsFrom (index + 1) line (column + 1) cs

/-- The characters of a text with their places. -/
def glyphs (cs : List Char) : List Glyph := glyphsFrom 0 0 0 (uniformBreaks cs)

/-- The character `n` places on, if the text goes so far. -/
def charAt? (gs : List Glyph) (n : Nat) : Option Char := (gs[n]?).map (·.char)

/-- Whether the text starts with the given character. -/
def startsWith (gs : List Glyph) (c : Char) : Bool := gs.head?.any (·.char == c)

/-- Whether a break or the end of the text is `n` places on. -/
def breakOrEndAt (gs : List Glyph) (n : Nat) : Bool := (charAt? gs n).all isBreak

/-- Whether a blank, a break or the end of the text is `n` places on. -/
def gapAt (gs : List Glyph) (n : Nat) : Bool := (charAt? gs n).all fun c => isBlank c || isBreak c

/-- The characters up to the first that does not satisfy the condition, and what follows them. -/
def spanChars (p : Char → Bool) (gs : List Glyph) : List Char × List Glyph :=
  let (taken, rest) := gs.span fun g => p g.char
  (taken.map (·.char), rest)

def skipBlanks (gs : List Glyph) : List Glyph := gs.dropWhile fun g => isBlank g.char

/-- Leaves out a comment, if one starts here, up to its break. -/
def skipComment (gs : List Glyph) : List Glyph :=
  if startsWith gs '#' then gs.dropWhile fun g => !isBreak g.char else gs

/-- Leaves out one break, if there is one here. -/
def skipBreak : List Glyph → List Glyph
  | [] => []
  | g :: gs => if isBreak g.char then gs else g :: gs

/-- The line that separates documents, or ends one: three equal marks at the start of a line, then a gap. -/
def documentMark? (gs : List Glyph) : Option Char :=
  match gs with
  | a :: b :: c :: rest =>
    if a.column = 0 && (a.char == '-' || a.char == '.') && b.char == a.char && c.char == a.char && gapAt rest 0 then
      some a.char
    else none
  | _ => none

end Highlight.Yaml
