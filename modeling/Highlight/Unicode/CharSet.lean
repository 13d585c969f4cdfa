/-!
# Sets of characters

A set of characters is a list of code point ranges in ascending order, no two of which overlap or touch. The set
operations walk the lists once. Code points that are no characters (the surrogates) may lie inside a range; they are
never members, because a `Char` is never one of them.
-/

namespace Highlight

/-- The code points from `lo` to `hi`, both included. -/
structure CharRange where
  lo : Nat
  hi : Nat
deriving Repr, DecidableEq, Inhabited

/-- A set of characters as ascending ranges. -/
structure CharSet where
  ranges : List CharRange
deriving Repr, DecidableEq, Inhabited

namespace CharSet

/-- Whether the code point lies in one of the ascending ranges. -/
def memRanges (c : Nat) : List CharRange → Bool
  | [] => false
  | r :: rs => if c < r.lo then false else if c ≤ r.hi then true else memRanges c rs

/-- Whether the character is in the set. -/
def contains (s : CharSet) (c : Char) : Bool :=
  memRanges c.toNat s.ranges

/-- The set without members. -/
def empty : CharSet := ⟨[]⟩

/-- The members from `lo` to `hi`. -/
def ofRange (lo hi : Nat) : CharSet :=
  if hi < lo then empty else ⟨[⟨lo, hi⟩]⟩

/-- The set with one member. -/
def singleton (c : Char) : CharSet := ⟨[⟨c.toNat, c.toNat⟩]⟩

def isEmpty (s : CharSet) : Bool := s.ranges.isEmpty

/-- Whether the set has exactly one member. -/
def isSingleton (s : CharSet) : Bool :=
  match s.ranges with
  | [r] => r.lo == r.hi
  | _ => false

/-- Puts a range in front of ascending ranges that start no earlier, joining those it overlaps or touches. -/
def joinFront (r : CharRange) : List CharRange → List CharRange
  | [] => [r]
  | s :: rs => if s.lo ≤ r.hi + 1 then joinFront ⟨r.lo, max r.hi s.hi⟩ rs else r :: s :: rs

/-- Joins ranges that ascend by their lower ends. -/
def joinAll (rs : List CharRange) : List CharRange :=
  rs.foldr joinFront []

/-- The set of all members of the given ranges, which may stand in any order. -/
def ofRanges (rs : List CharRange) : CharSet :=
  ⟨joinAll (rs.mergeSort fun a b => a.lo ≤ b.lo)⟩

/-- Merges two lists of ranges that ascend by their lower ends. The recursion is structural, on one list inside of the
other, so that sets can be evaluated in proofs. -/
def mergeRanges : List CharRange → List CharRange → List CharRange
  | [], ss => ss
  | r :: rs, ss => insert r (mergeRanges rs) ss
where
  insert (r : CharRange) (rest : List CharRange → List CharRange) : List CharRange → List CharRange
    | [] => r :: rest []
    | s :: ss => if r.lo ≤ s.lo then r :: rest (s :: ss) else s :: insert r rest ss

/-- The members of either set. -/
def union (s t : CharSet) : CharSet :=
  ⟨joinAll (mergeRanges s.ranges t.ranges)⟩

/-- The greatest code point. -/
def maxCode : Nat := 0x10ffff

/-- The code points that no character has. -/
def surrogates : CharSet := ⟨[⟨0xd800, 0xdfff⟩]⟩

/-- The ranges between the given ascending ranges, from `next` on. -/
def gaps (next : Nat) : List CharRange → List CharRange
  | [] => if next ≤ maxCode then [⟨next, maxCode⟩] else []
  | r :: rs => if next < r.lo then ⟨next, r.lo - 1⟩ :: gaps (r.hi + 1) rs else gaps (r.hi + 1) rs

/-- The characters that are not in the set. -/
def compl (s : CharSet) : CharSet :=
  ⟨gaps 0 (s.union surrogates).ranges⟩

/-- The members of both sets. -/
def inter (s t : CharSet) : CharSet :=
  (s.compl.union t.compl).compl

/-- The members of the first set that are not in the second. -/
def diff (s t : CharSet) : CharSet :=
  (s.compl.union t).compl

/-- The members of exactly one of the sets. -/
def symmDiff (s t : CharSet) : CharSet :=
  (s.diff t).union (t.diff s)

/-- The members of any of the sets. -/
def unions (ss : List CharSet) : CharSet :=
  ss.foldr union empty

/-- All characters. -/
def full : CharSet := compl empty

end CharSet

/-- The value of a hexadecimal digit. -/
def hexDigit? (c : Char) : Option Nat :=
  if '0' ≤ c ∧ c ≤ '9' then some (c.toNat - '0'.toNat)
  else if 'a' ≤ c ∧ c ≤ 'f' then some (c.toNat - 'a'.toNat + 10)
  else if 'A' ≤ c ∧ c ≤ 'F' then some (c.toNat - 'A'.toNat + 10)
  else none

/-- The number that the hexadecimal digits write; other characters are skipped. -/
def hexValue (cs : List Char) : Nat :=
  cs.foldl (fun n c => match hexDigit? c with | some d => 16 * n + d | none => n) 0

/-- Reads ranges such as `41-5a aa b5`: ranges in hexadecimal, separated by blanks. The digits since the last separator
stand in `digits`, and the lower end of an unfinished range in `lo`. -/
def CharSet.readRanges (digits : List Char) (lo : Option Nat) : List Char → List CharRange
  | [] => if digits.isEmpty then [] else [done digits lo]
  | c :: cs =>
    if c == ' ' then done digits lo :: readRanges [] none cs
    else if c == '-' then readRanges [] (some (hexValue digits.reverse)) cs
    else readRanges (c :: digits) lo cs
where
  done (digits : List Char) (lo : Option Nat) : CharRange :=
    let hi := hexValue digits.reverse
    ⟨lo.getD hi, hi⟩

/-- The set written as ascending hexadecimal ranges. -/
def CharSet.ofTable (s : String) : CharSet :=
  ⟨CharSet.readRanges [] none s.toList⟩

/-- The set written as ascending hexadecimal ranges over several lines. -/
def CharSet.ofLines (lines : List String) : CharSet :=
  ⟨lines.flatMap fun s => CharSet.readRanges [] none s.toList⟩

end Highlight
