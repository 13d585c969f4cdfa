import Highlight.Decimal

/-!
# The fewest digits

A floating-point number stands for all reals that are nearer to it than to its neighbours. It is written with the fewest
digits of a decimal among them; of two such decimals the nearer one is taken, and the larger one if both are equally
near. The digits are written without an exponent.
-/

namespace Highlight

/-- A finite magnitude: a significand times a power of two. -/
structure Binary where
  significand : Nat
  exponent : Int
  /-- Whether the number below is half as far away as the number above. -/
  isNarrowBelow : Bool
deriving Repr, DecidableEq, Inhabited

namespace Binary

/-- The magnitude of a finite floating-point number. -/
def ofFloat (x : Float) : Binary :=
  let bits := x.toBits
  let e := ((bits >>> 52) &&& 0x7ff).toNat
  let f := (bits &&& 0xfffffffffffff).toNat
  if e = 0 then { significand := f, exponent := -1074, isNarrowBelow := false }
  else { significand := 0x10000000000000 + f, exponent := (e : Int) - 1075, isNarrowBelow := f = 0 && 1 < e }

/-- The magnitude over a power of ten, as a fraction of natural numbers. -/
def ratio (b : Binary) (power : Int) : Nat × Nat :=
  (b.significand * Nat.pow 2 b.exponent.toNat * Nat.pow 10 (-power).toNat,
    Nat.pow 2 (-b.exponent).toNat * Nat.pow 10 power.toNat)

/-- The nearest integer, away from zero if there are two. -/
def round (b : Binary) : Nat :=
  let (n, d) := b.ratio 0
  (2 * n + d) / (2 * d)

/-- How `digits * 10 ^ power` compares with a quarter of `quarters` units in the last place. -/
def compareQuarters (b : Binary) (digits : Nat) (power : Int) (quarters : Nat) : Ordering :=
  let e := b.exponent - 2
  compare (digits * Nat.pow 10 power.toNat * Nat.pow 2 (-e).toNat)
    (quarters * Nat.pow 2 e.toNat * Nat.pow 10 (-power).toNat)

/-- Whether a decimal is nearest to this number; the ends of the interval belong to it if the significand is even. -/
def isNearest (b : Binary) (digits : Nat) (power : Int) : Bool :=
  let isClosed := b.significand % 2 = 0
  let low := b.compareQuarters digits power (4 * b.significand - if b.isNarrowBelow then 1 else 2)
  let high := b.compareQuarters digits power (4 * b.significand + 2)
  (low == .gt || (isClosed && low == .eq)) && (high == .lt || (isClosed && high == .eq))

/-- The nearest of the decimals on the grid of a power of ten that are nearest to this number. -/
def onGrid? (b : Binary) (power : Int) : Option Decimal :=
  let (n, d) := b.ratio power
  let below := n / d
  match b.isNearest below power, b.isNearest (below + 1) power with
  | true, true => some { digits := if 2 * n < (2 * below + 1) * d then below else below + 1, exponent := power }
  | true, false => some { digits := below, exponent := power }
  | false, true => some { digits := below + 1, exponent := power }
  | false, false => none

/-- The number of decimal places before the first digit that is not zero, counting up from `places`. -/
def leadingZeros (b : Binary) : Nat → Nat → Nat
  | 0, places => places
  | fuel + 1, places =>
    let (n, d) := b.ratio (-(places + 1 : Int))
    if n < d then leadingZeros b fuel (places + 1) else places

/-- The place of the first digit: the number is below this power of ten and not below the one before. -/
def magnitude (b : Binary) : Int :=
  let (n, d) := b.ratio 0
  if n < d then -(b.leadingZeros 400 0 : Int) else Decimal.width (n / d)

/-- The decimal with the fewest digits. Seventeen are enough for every number. -/
def shortest (b : Binary) : Decimal :=
  let top := b.magnitude
  let found := (List.range 17).findSome? fun n : Nat => b.onGrid? (top - (n + 1 : Nat))
  found.getD
    { digits := b.significand * Nat.pow 2 b.exponent.toNat * Nat.pow 5 (-b.exponent).toNat
      exponent := min b.exponent 0 }

end Binary

namespace Decimal

/-- The digits with zeros at the end left out; there are `fuel` of them at most. -/
def stripZeros (digits : Nat) (exponent : Int) : Nat → Nat × Int
  | 0 => (digits, exponent)
  | fuel + 1 =>
    if digits % 10 = 0 && digits ≠ 0 then stripZeros (digits / 10) (exponent + 1) fuel else (digits, exponent)

/-- The decimal without an exponent. -/
def positional (d : Decimal) : String :=
  let (digits, exponent) := stripZeros d.digits d.exponent (width d.digits)
  let ds := Nat.toDigits 10 digits
  let places := (-exponent).toNat
  let body :=
    if 0 ≤ exponent then ds ++ List.replicate exponent.toNat '0'
    else if places < ds.length then ds.take (ds.length - places) ++ '.' :: ds.drop (ds.length - places)
    else '0' :: '.' :: (List.replicate (places - ds.length) '0' ++ ds)
  String.ofList (if d.isNegative then '-' :: body else body)

end Decimal

/-- Whether the sign of a floating-point number is negative. -/
def isNegativeFloat (x : Float) : Bool := x.toBits >>> 63 == 1

/-- The text of a floating-point number. -/
def floatText (x : Float) : String :=
  if x.isNaN then "NaN"
  else if x.isInf then if isNegativeFloat x then "-inf" else "inf"
  else if x == 0 then if isNegativeFloat x then "-0" else "0"
  else { (Binary.ofFloat x).shortest with isNegative := isNegativeFloat x }.positional

/-- The nearest natural number below 2^64; numbers outside of the range go to its ends, and no number to zero. -/
def floatToNat (x : Float) : Nat :=
  if x.isNaN || isNegativeFloat x then 0
  else if x.isInf then UInt64.size - 1
  else min (Binary.ofFloat x).round (UInt64.size - 1)

end Highlight
