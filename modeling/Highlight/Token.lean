import Highlight.Scope
import Highlight.Text.Basic
import Highlight.Text.Quoted

/-!
# Tokens

A token is a span of a text, in bytes, with what produced it and the scopes that apply to it.
-/

namespace Highlight

/-- What produced a token. -/
inductive TokenKind where
  /-- A match of a match rule. -/
  | matched
  /-- The match that opens a region. -/
  | opening
  /-- The match that closes a region. -/
  | closing
  /-- A group of the match before it. -/
  | capture
  /-- A character that no rule matched. -/
  | fallback
deriving Repr, DecidableEq, Inhabited

namespace TokenKind

def all : List TokenKind := [matched, opening, closing, capture, fallback]

/-- The name in reports. -/
def name : TokenKind → String
  | matched => "match"
  | opening => "begin"
  | closing => "end"
  | capture => "capture"
  | fallback => "fallback"

/-- The name in messages. -/
def title : TokenKind → String
  | matched => "Match"
  | opening => "Begin"
  | closing => "End"
  | capture => "Capture"
  | fallback => "Fallback"

def ofName? (name : String) : Option TokenKind := all.find? (·.name == name)

/-- Primary tokens partition the text; captures lie inside of them. -/
def isPrimary (k : TokenKind) : Bool := k != capture

end TokenKind

/-- The bytes from `start` to `stop` of some text, with their scopes. -/
structure Token where
  start : Nat
  stop : Nat
  kind : TokenKind
  scopes : ScopePath
deriving Repr, DecidableEq, Inhabited

namespace Token

def isEmpty (t : Token) : Bool := t.start == t.stop

def isPrimary (t : Token) : Bool := t.kind.isPrimary

/-- The number of bytes, if the span does not run backwards. -/
def length? (t : Token) : Option Nat := if t.start ≤ t.stop then some (t.stop - t.start) else none

/-- The part of the source that the token covers, if there is such a part. -/
def text? (t : Token) (source : String) : Option String :=
  (byteSlice? source.toList t.start t.stop).map String.ofList

/-- Quoted texts between brackets, separated by commas. -/
def quoteList (names : List String) : String :=
  "[" ++ String.intercalate ", " (names.map quoteString) ++ "]"

/-- All fields of the token, for messages. -/
def describe (t : Token) : String :=
  s!"Token \x7b start: {t.start}, end: {t.stop}, kind: {t.kind.title}, scopes: ScopePath(" ++
    quoteList t.scopes.scopes ++ ") \x7d"

/-- The token on one line: span, kind, scopes and quoted text. -/
def line? (t : Token) (source : String) : Option String :=
  (t.text? source).map fun text =>
    s!"{t.start}..{t.stop} {t.kind.name} {t.scopes.display} " ++ quoteString text

end Token

end Highlight
