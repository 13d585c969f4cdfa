import Highlight.Text.Basic
import Highlight.Toml.Basic
import Highlight.Toml.Moment
import Highlight.Unicode.CharSet

/-!
# Scalars of TOML

Strings in their four forms, and the values that are written without quotes: truth values, numbers, dates and times.
-/

namespace Highlight.Toml

def skipBlanks (cs : List Char) : List Char := cs.dropWhile isBlank

/-- Characters of comments and strings: all but control characters. -/
def isPrintable (c : Char) : Bool := c == '\t' || (' ' ≤ c && c ≠ '\x7f')

/-! ## Strings -/

/-- What an escape stands for: a character, or a number of hexadecimal digits that follow. -/
inductive Escape where
  | char (c : Char)
  | code (digits : Nat)
deriving Repr, DecidableEq

def escape? : Char → Option Escape
  | 'b' => some (.char '\x08')
  | 'f' => some (.char '\x0c')
  | 'n' => some (.char '\n')
  | 'r' => some (.char '\r')
  | 't' => some (.char '\t')
  | '\\' => some (.char '\\')
  | '"' => some (.char '"')
  | 'u' => some (.code 4)
  | 'U' => some (.code 8)
  | _ => none

/-- Where the reader of a string with escapes is. -/
inductive StringState where
  | text
  | escape
  /-- Inside a character code: digits still to come, and the number so far. -/
  | code (digits : Nat) (value : Nat)
  /-- After a backslash and blanks that must be followed by a line break. -/
  | lineEnd
  /-- After a backslash at the end of a line: white space does not count. -/
  | gap
deriving Repr, DecidableEq

/-- Reads the characters of a code. -/
def codeStep (digits value : Nat) (c : Char) : Except ReadError (StringState × List Char) :=
  match hexDigit? c with
  | none => .error .badEscape
  | some d =>
    let value := 16 * value + d
    if 1 < digits then .ok (.code (digits - 1) value, [])
    else if value.isValidChar then .ok (.text, [Char.ofNat value])
    else .error .badEscape

/-- Reads a string on one line after its opening quote. `text` holds the characters so far, last to first. -/
def readBasic (state : StringState) (text : List Char) : List Char → Except ReadError (String × List Char)
  | [] => .error .unexpectedEnd
  | c :: cs =>
    match state with
    | .escape => match escape? c with
      | some (.char e) => readBasic .text (e :: text) cs
      | some (.code digits) => readBasic (.code digits 0) text cs
      | none => .error .badEscape
    | .code digits value => do
      let (state, more) ← codeStep digits value c
      readBasic state (more ++ text) cs
    | _ =>
      if c == '"' then .ok (String.ofList text.reverse, cs)
      else if c == '\\' then readBasic .escape text cs
      else if isPrintable c then readBasic .text (c :: text) cs
      else .error .badString

/-- Reads a literal string on one line after its opening quote. -/
def readLiteral (text : List Char) : List Char → Except ReadError (String × List Char)
  | [] => .error .unexpectedEnd
  | c :: cs =>
    if c == '\'' then .ok (String.ofList text.reverse, cs)
    else if isPrintable c then readLiteral (c :: text) cs
    else .error .badString

/-- How a string over several lines ends at a run of quotes: the first quotes belong to it, the next three close it. -/
def closeQuotes (quote : Char) (text : List Char) (cs : List Char) : String × List Char :=
  let run := (cs.takeWhile (· == quote)).length
  let inside := min (run - 3) 2
  (String.ofList (List.replicate inside quote ++ text).reverse, cs.drop (inside + 3))

/-- Reads a string over several lines after its opening quotes. -/
def readMultiBasic (state : StringState) (text : List Char) : List Char → Except ReadError (String × List Char)
  | [] => .error .unexpectedEnd
  | '\r' :: '\n' :: cs => match state with
    | .text => readMultiBasic .text ('\n' :: text) cs
    | .code _ _ => .error .badEscape
    | _ => readMultiBasic .gap text cs
  | c :: cs =>
    match state with
    | .escape => match escape? c with
      | some (.char e) => readMultiBasic .text (e :: text) cs
      | some (.code digits) => readMultiBasic (.code digits 0) text cs
      | none =>
        if c == '\n' then readMultiBasic .gap text cs
        else if isBlank c then readMultiBasic .lineEnd text cs
        else .error .badEscape
    | .code digits value => do
      let (state, more) ← codeStep digits value c
      readMultiBasic state (more ++ text) cs
    | .lineEnd =>
      if c == '\n' then readMultiBasic .gap text cs
      else if isBlank c then readMultiBasic .lineEnd text cs
      else .error .badEscape
    | state =>
      if state == .gap && (isBlank c || c == '\n') then readMultiBasic .gap text cs
      else if c == '"' && cs.take 2 == ['"', '"'] then .ok (closeQuotes '"' text (c :: cs))
      else if c == '\\' then readMultiBasic .escape text cs
      else if isPrintable c || c == '\n' then readMultiBasic .text (c :: text) cs
      else .error .badString

/-- Reads a literal string over several lines after its opening quotes. -/
def readMultiLiteral (text : List Char) : List Char → Except ReadError (String × List Char)
  | [] => .error .unexpectedEnd
  | '\r' :: '\n' :: cs => readMultiLiteral ('\n' :: text) cs
  | c :: cs =>
    if c == '\'' && cs.take 2 == ['\'', '\''] then .ok (closeQuotes '\'' text (c :: cs))
    else if isPrintable c || c == '\n' then readMultiLiteral (c :: text) cs
    else .error .badString

/-- A line break right after the opening quotes does not count. -/
def skipFirstBreak : List Char → List Char
  | '\n' :: cs => cs
  | '\r' :: '\n' :: cs => cs
  | cs => cs

/-- Reads a string in any of its forms, from its opening quote. -/
def readString : List Char → Except ReadError (String × List Char)
  | '"' :: '"' :: '"' :: cs => readMultiBasic .text [] (skipFirstBreak cs)
  | '\'' :: '\'' :: '\'' :: cs => readMultiLiteral [] (skipFirstBreak cs)
  | '"' :: cs => readBasic .text [] cs
  | '\'' :: cs => readLiteral [] cs
  | _ => .error .badString

/-! ## Numbers -/

/-- Digits, with single underscores between them left out. -/
def digitRun? (isDigit : Char → Bool) : List Char → Option (List Char)
  | [] => none
  | [d] => if isDigit d then some [d] else none
  | d :: '_' :: ds => if isDigit d then (digitRun? isDigit ds).map (d :: ·) else none
  | d :: d' :: ds => if isDigit d then (digitRun? isDigit (d' :: ds)).map (d :: ·) else none

/-- The digits of a whole number in decimal; only zero itself starts with a zero. -/
def wholeDigits? (cs : List Char) : Option (List Char) := do
  let ds ← digitRun? Char.isDigit cs
  if cs.head? == some '0' && 1 < cs.length then none else some ds

/-- The number that digits write in a base up to 16. -/
def inBase? (base : Nat) (cs : List Char) : Option Nat := do
  let ds ← digitRun? (fun c => (hexDigit? c).any (· < base)) cs
  return ds.foldl (fun n c => base * n + (hexDigit? c).getD 0) 0

/-- An integer; the other bases have no sign. -/
def integer? (cs : List Char) : Option Int :=
  match cs with
  | '0' :: 'x' :: ds => (inBase? 16 ds).map Int.ofNat
  | '0' :: 'o' :: ds => (inBase? 8 ds).map Int.ofNat
  | '0' :: 'b' :: ds => (inBase? 2 ds).map Int.ofNat
  | _ =>
    let (isNegative, ds) := Decimal.readSign cs
    (wholeDigits? ds).map fun ds =>
      if isNegative then -(Nat.ofDigitChars 10 ds 0 : Int) else Nat.ofDigitChars 10 ds 0

/-- A number with a fraction, an exponent or both. -/
def decimal? (cs : List Char) : Option Decimal := do
  let (isNegative, cs) := Decimal.readSign cs
  let (body, exponent) := cs.span fun c => c != 'e' && c != 'E'
  let (whole, fraction) := body.span (· != '.')
  if fraction.isEmpty && exponent.isEmpty then none
  let whole ← wholeDigits? whole
  let fraction ← if fraction.isEmpty then some [] else digitRun? Char.isDigit (fraction.drop 1)
  let shift : Int ←
    if exponent.isEmpty then some 0
    else
      let (isSmall, ds) := Decimal.readSign (exponent.drop 1)
      (digitRun? Char.isDigit ds).map fun ds =>
        if isSmall then -(Nat.ofDigitChars 10 ds 0 : Int) else Nat.ofDigitChars 10 ds 0
  return { isNegative, digits := Nat.ofDigitChars 10 (whole ++ fraction) 0, exponent := shift - fraction.length }

/-- A number without a finite value, after an optional sign. -/
def special? (cs : List Char) : Option Float :=
  let (isNegative, name) := Decimal.readSign cs
  if name == ['i', 'n', 'f'] then some (if isNegative then -(1.0 / 0.0) else 1.0 / 0.0)
  else if name == ['n', 'a', 'n'] then some (0.0 / 0.0)
  else none

/-- Characters of values without quotes. -/
def isScalarChar (c : Char) : Bool := c.isAlphanum || c == '_' || c == '+' || c == '-' || c == '.' || c == ':'

/-- The value that a word without quotes writes. -/
def scalar (word : List Char) : Except ReadError Toml :=
  let s := String.ofList word
  if s == "true" then .ok (.bool true)
  else if s == "false" then .ok (.bool false)
  else match readMoment? word, special? word, decimal? word, integer? word with
    | some m, _, _, _ => .ok (.moment m)
    | none, some x, _, _ => .ok (.real x)
    | none, none, some d, _ =>
      let x := d.toFloat
      if x.isInf && !d.isNegative then .error (.outOfRange s) else .ok (.real x)
    | none, none, none, some n =>
      if Int64.minValue.toInt ≤ n && n ≤ Int64.maxValue.toInt then .ok (.int n) else .error (.outOfRange s)
    | none, none, none, none => .error (.badScalar s)

/-- Reads a value without quotes. A date may be followed by a blank and a time. -/
def readScalar (cs : List Char) : Except ReadError (Toml × List Char) := do
  let (word, rest) := cs.span isScalarChar
  match readDate? word, rest with
  | some (_, []), ' ' :: d :: rest' =>
    if d.isDigit then
      let (time, rest') := (d :: rest').span isScalarChar
      return (← scalar (word ++ ' ' :: time), rest')
    else return (← scalar word, rest)
  | _, _ => return (← scalar word, rest)

end Highlight.Toml
