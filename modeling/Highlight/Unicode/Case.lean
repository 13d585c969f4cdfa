import Highlight.Unicode.CaseFoldTable
import Highlight.Unicode.LowercaseTable
import Highlight.Unicode.Property

/-!
# Case

Two maps on text: closing a set of characters under simple case folding (`CharSet.foldCase`), and writing a string in
lower case (`Unicode.lowercaseString`), where a capital sigma at the end of a word becomes a final sigma.
-/

namespace Highlight.Unicode

/-- Splits at the first place where `p` holds, dropping that element; nothing follows if there is none. -/
def cutAt (p : Char → Bool) (cs : List Char) : List Char × Option (List Char) :=
  match cs.span fun c => !p c with
  | (front, _ :: rest) => (front, some rest)
  | (front, []) => (front, none)

/-- The pairs of an item `a-b/s>c` or `a>c`. -/
def itemPairs (item : String) : List (Nat × Nat) :=
  let (source, target) := cutAt (· == '>') item.toList
  let (range, step) := cutAt (· == '/') source
  let (first, last) := cutAt (· == '-') range
  let step := max 1 (hexValue (step.getD []))
  let lo := hexValue first
  let hi := hexValue (last.getD first)
  let image := hexValue (target.getD [])
  (List.range ((hi - lo) / step + 1)).map fun i => (lo + i * step, image + i * step)

/-- The items of several lines. -/
def items (lines : List String) : List String := lines.flatMap fun line => line.splitOn " "

/-- The sets of code points that simple case folding identifies. -/
def foldOrbits : List (List Nat) :=
  ((items caseFoldPairs).flatMap fun item => (itemPairs item).map fun p => [p.1, p.2]) ++
    (items caseFoldOrbits).map fun item => (item.splitOn ",").map fun n => hexValue n.toList

/-- The code points that differ from `c` at most in case, if there are any besides `c` itself. -/
def orbit? (c : Char) : Option (List Nat) :=
  foldOrbits.find? (·.contains c.toNat)

/-- The characters with a lower case of their own, with that lower case. -/
def lowercasePairList : List (Nat × Nat) :=
  (items lowercasePairs).flatMap itemPairs

/-- The lower case of a character out of context. One capital letter becomes a letter and a combining dot. -/
def lowercaseChar (c : Char) : List Char :=
  if c.toNat < 128 then [c.toLower]
  else if c.toNat == 0x130 then ['i', Char.ofNat 0x307]
  else match lowercasePairList.find? (·.1 == c.toNat) with
    | some (_, low) => [Char.ofNat low]
    | none => [c]

def casedChars : CharSet := CharSet.unions [lowercase, uppercase, category "Lt"]

def caseIgnorable : CharSet := (categories ["Mn", "Me", "Cf", "Lm", "Sk"]).union midWord

/-- Whether the first character that is not ignored for case is a cased one. -/
def meetsCased (cs : List Char) : Bool :=
  match cs.dropWhile caseIgnorable.contains with
  | c :: _ => casedChars.contains c
  | [] => false

/-- Lower case of a text whose part before stands reversed in `before`. -/
def lowercaseAfter (before : List Char) : List Char → List Char
  | [] => []
  | c :: cs =>
    let low :=
      if c.toNat == 0x3a3 then
        if meetsCased before && !meetsCased cs then [Char.ofNat 0x3c2] else [Char.ofNat 0x3c3]
      else lowercaseChar c
    low ++ lowercaseAfter (c :: before) cs

def lowercaseString (s : String) : String :=
  String.ofList (lowercaseAfter [] s.toList)

end Highlight.Unicode

namespace Highlight.CharSet

/-- Adds the characters that differ from a member only in case. -/
def foldCase (s : CharSet) : CharSet :=
  let touched := Unicode.foldOrbits.filter fun orbit => orbit.any fun c => memRanges c s.ranges
  ofRanges (s.ranges ++ touched.flatMap fun orbit => orbit.map fun c => ⟨c, c⟩)

/-- Adds the other case of the members that are letters from A to Z. -/
def foldAsciiCase (s : CharSet) : CharSet :=
  let letters := (List.range 26).filter fun i =>
    memRanges ('A'.toNat + i) s.ranges || memRanges ('a'.toNat + i) s.ranges
  ofRanges (s.ranges ++ letters.flatMap fun i =>
    [⟨'A'.toNat + i, 'A'.toNat + i⟩, ⟨'a'.toNat + i, 'a'.toNat + i⟩])

end Highlight.CharSet
