/-!
# Decimal numbers

A number written with digits, a fraction and a power of ten, and the floating-point number nearest to it.
-/

namespace Highlight

/-- The number written by decimal digits after an optional plus sign, if it fits in 64 bits. -/
def parseUInt64? (cs : List Char) : Option Nat :=
  let digits := match cs with
    | '+' :: ds => ds
    | ds => ds
  if digits.isEmpty || !digits.all Char.isDigit then none
  else
    let n := Nat.ofDigitChars 10 digits 0
    if n < UInt64.size then some n else none

/-- The number with the given digits, times a power of ten. -/
structure Decimal where
  isNegative : Bool := false
  digits : Nat
  exponent : Int
deriving Repr, DecidableEq, Inhabited

namespace Decimal

/-- A sign in front of digits. -/
def readSign : List Char → Bool × List Char
  | '-' :: cs => (true, cs)
  | '+' :: cs => (false, cs)
  | cs => (false, cs)

/-- The number that digits with an optional fraction and an optional exponent write. A sign may come first, and one of
the two sides of the point may be empty. -/
def parse? (cs : List Char) : Option Decimal := do
  let (isNegative, cs) := readSign cs
  let (whole, cs) := cs.span Char.isDigit
  let (fraction, cs) := match cs with
    | '.' :: cs => cs.span Char.isDigit
    | cs => ([], cs)
  if whole.isEmpty && fraction.isEmpty then none
  let digits := Nat.ofDigitChars 10 (whole ++ fraction) 0
  let scale : Int := fraction.length
  match cs with
  | [] => return { isNegative, digits, exponent := -scale }
  | e :: cs =>
    if e != 'e' && e != 'E' then none
    let (isSmall, ds) := readSign cs
    if ds.isEmpty || !ds.all Char.isDigit then none
    let shift : Int := Nat.ofDigitChars 10 ds 0
    return { isNegative, digits, exponent := (if isSmall then -shift else shift) - scale }

/-- How many decimal digits a number has. -/
def width (n : Nat) : Nat := (Nat.toDigits 10 n).length

/-- The nearest floating-point number; numbers that are too large become infinite, those that are too small zero. -/
def toFloat (d : Decimal) : Float :=
  let place : Int := width d.digits + d.exponent
  let size : Float :=
    if d.digits = 0 || place < -400 then 0
    else if 400 < place then 1.0 / 0.0
    else if d.exponent < 0 then Float.ofScientific d.digits true d.exponent.natAbs
    else Float.ofScientific d.digits false d.exponent.toNat
  if d.isNegative then -size else size

end Decimal

end Highlight
