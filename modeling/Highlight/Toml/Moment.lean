import Highlight.Decimal

/-!
# Dates and times

Dates, times of day and both together, with an optional offset. The uniform text has a capital letter between date and
time and no zeros at the end of a fraction; a fraction is cut after nine digits.
-/

namespace Highlight.Toml

/-- A number of exactly the given width, within bounds, and what follows. -/
def fixedNumber? (width low high : Nat) (cs : List Char) : Option (Nat × List Char) :=
  let ds := cs.take width
  let n := Nat.ofDigitChars 10 ds 0
  if ds.length = width && ds.all Char.isDigit && low ≤ n && n ≤ high then some (n, cs.drop width) else none

/-- The rest of a text after the given character. -/
def after? (c : Char) : List Char → Option (List Char)
  | c' :: cs => if c' == c then some cs else none
  | [] => none

def isLeapYear (year : Nat) : Bool := year % 4 = 0 && (year % 100 ≠ 0 || year % 400 = 0)

def daysInMonth (year month : Nat) : Nat :=
  if month = 2 then if isLeapYear year then 29 else 28
  else if [4, 6, 9, 11].contains month then 30
  else 31

/-- A number in decimal, with zeros in front up to a width. -/
def padded (width n : Nat) : String :=
  let ds := Nat.toDigits 10 n
  String.ofList (List.replicate (width - ds.length) '0' ++ ds)

/-- A date, as its uniform text. -/
def readDate? (cs : List Char) : Option (String × List Char) := do
  let (year, cs) ← fixedNumber? 4 0 9999 cs
  let (month, cs) ← fixedNumber? 2 1 12 (← after? '-' cs)
  let (day, cs) ← fixedNumber? 2 1 (daysInMonth year month) (← after? '-' cs)
  return (s!"{padded 4 year}-{padded 2 month}-{padded 2 day}", cs)

/-- The fraction of a second, as its uniform text. -/
def readFraction? (cs : List Char) : Option (String × List Char) :=
  match cs with
  | '.' :: cs =>
    let (ds, cs) := cs.span Char.isDigit
    let kept := ((ds.take 9).reverse.dropWhile (· == '0')).reverse
    if ds.isEmpty then none else some (if kept.isEmpty then "" else String.ofList ('.' :: kept), cs)
  | cs => some ("", cs)

/-- A time of day, as its uniform text. -/
def readTime? (cs : List Char) : Option (String × List Char) := do
  let (hour, cs) ← fixedNumber? 2 0 23 cs
  let (minute, cs) ← fixedNumber? 2 0 59 (← after? ':' cs)
  let (second, cs) ← fixedNumber? 2 0 60 (← after? ':' cs)
  let (fraction, cs) ← readFraction? cs
  return (s!"{padded 2 hour}:{padded 2 minute}:{padded 2 second}{fraction}", cs)

/-- An offset, as its uniform text. One of no minutes is written with a plus sign. -/
def readOffset? : List Char → Option (String × List Char)
  | [] => some ("", [])
  | c :: cs => do
    if c == 'Z' || c == 'z' then return ("Z", cs)
    if c != '+' && c != '-' then none
    let (hours, cs) ← fixedNumber? 2 0 23 cs
    let (minutes, cs) ← fixedNumber? 2 0 59 (← after? ':' cs)
    let sign := if c == '-' && 0 < 60 * hours + minutes then "-" else "+"
    return (s!"{sign}{padded 2 hours}:{padded 2 minutes}", cs)

/-- The uniform text of a date, a time, or a date and a time with an optional offset. -/
def readMoment? (cs : List Char) : Option String :=
  match readDate? cs with
  | some (date, []) => some date
  | some (date, c :: cs) => do
    if c != 'T' && c != 't' && c != ' ' then none
    let (time, cs) ← readTime? cs
    let (offset, cs) ← readOffset? cs
    if cs.isEmpty then return s!"{date}T{time}{offset}" else none
  | none => match readTime? cs with
    | some (time, []) => some time
    | _ => none

end Highlight.Toml
