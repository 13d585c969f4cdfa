import Highlight.Pattern.Expr
import Std.Data.HashMap

/-!
# The footprint of a pattern

Patterns are bounded in size: what counts is the memory of two automata over the bytes of the UTF-8 form, one that reads
forwards and one that reads backwards. A repetition multiplies the footprint of its body, so a short pattern can be too
large. The numbers are `stateSize` for a state, `edgeSize` for each byte range out of it and `branchSize` for each of
its alternatives.
-/

namespace Highlight.Pattern

def stateSize : Nat := 32

def edgeSize : Nat := 8

def branchSize : Nat := 4

/-- Every automaton of a pattern must fit in this many bytes. -/
def maxFootprint : Nat := 10 * 1024 * 1024

/-- The bytes of a code point that takes `n + 1` bytes, lead byte first. -/
def encodeBytes (n code : Nat) : List Nat :=
  let tail := (List.range n).reverse.map fun i => 0x80 + code / Nat.pow 64 i % 64
  let lead := if n = 0 then code else if n = 1 then 0xc0 + code / 64 else if n = 2 then 0xe0 + code / (64 * 64)
    else 0xf0 + code / (64 * 64 * 64)
  lead :: tail

/-- Splits the code points from `lo` to `hi`, all of `n + 1` bytes, so that in each part the bytes range independently.
The part of the code below `64 ^ i` is looked at next. -/
def splitAligned (n : Nat) : Nat → Nat → Nat → Nat → List (List (Nat × Nat))
  | 0, _, _, _ => []
  | fuel + 1, i, lo, hi =>
    if hi < lo then []
    else if n < i then [(encodeBytes n lo).zip (encodeBytes n hi)]
    else
      let m := Nat.pow 64 i
      if lo / m = hi / m then splitAligned n fuel (i + 1) lo hi
      else if lo % m ≠ 0 then
        let cut := lo / m * m + m - 1
        splitAligned n fuel i lo cut ++ splitAligned n fuel i (cut + 1) hi
      else if hi % m ≠ m - 1 then
        let cut := hi / m * m
        splitAligned n fuel i lo (cut - 1) ++ splitAligned n fuel i cut hi
      else splitAligned n fuel (i + 1) lo hi

/-- The byte sequences of the code points from `lo` to `hi`. -/
def byteSequences (lo hi : Nat) : List (List (Nat × Nat)) :=
  [(0, 0, 0x7f), (1, 0x80, 0x7ff), (2, 0x800, 0xd7ff), (2, 0xe000, 0xffff), (3, 0x10000, 0x10ffff)].flatMap
    fun (n, first, last) => splitAligned n 64 1 (max lo first) (min hi last)

/-- The states of a shared automaton: each is known by its outgoing edges. -/
abbrev StateTable := Std.HashMap (List (Nat × Nat × Nat)) Nat

/-- Groups sequences that start with the same byte range. -/
def groupByFirst : List (List (Nat × Nat)) → List ((Nat × Nat) × List (List (Nat × Nat)))
  | [] => []
  | [] :: rest => groupByFirst rest
  | (b :: bs) :: rest => match groupByFirst rest with
    | (b', group) :: groups => if b = b' then (b, bs :: group) :: groups else (b, [bs]) :: (b', group) :: groups
    | [] => [(b, [bs])]

/-- Adds the states of an automaton for the sequences, sharing equal ones, and returns the number of the first. -/
def shareStates : Nat → List (List (Nat × Nat)) → StateTable → Nat × StateTable
  | 0, _, table => (0, table)
  | depth + 1, seqs, table =>
    let groups := groupByFirst seqs
    if groups.isEmpty then (0, table)
    else
      let (edges, table) := groups.foldl (fun (edges, table) (b, group) =>
        let (target, table) := shareStates depth group table
        ((b.1, b.2, target) :: edges, table)) (([] : List (Nat × Nat × Nat)), table)
      match table[edges]? with
      | some n => (n, table)
      | none => (table.size + 1, table.insert edges (table.size + 1))

/-- The size of the forward automaton of a set. -/
def forwardSize (seqs : List (List (Nat × Nat))) : Nat :=
  (shareStates 5 seqs {}).2.fold (fun n edges _ => n + stateSize + edgeSize * edges.length) stateSize

/-- How many beginnings of the sequences differ. -/
def countPrefixes : Nat → List (List (Nat × Nat)) → Nat
  | 0, _ => 0
  | depth + 1, seqs => (groupByFirst seqs).foldl (fun n g => n + 1 + countPrefixes depth g.2) 0

/-- The size of the backward automaton of a set. -/
def backwardSize (seqs : List (List (Nat × Nat))) : Nat :=
  2 * stateSize + branchSize * seqs.length + stateSize * countPrefixes 5 seqs

/-- The two directions in which the bytes of a text are read. -/
inductive Direction where
  | forward
  | backward
deriving Repr, DecidableEq, Inhabited

/-- The size of the automaton of a set. -/
def setSize (d : Direction) (s : CharSet) : Nat :=
  match s.ranges with
  | [r] => if r.lo = r.hi then stateSize * (Char.ofNat r.lo).utf8Size else general s
  | _ => general s
where
  general (s : CharSet) : Nat :=
    if s.ranges.all (·.hi < 128) then 2 * stateSize + edgeSize * s.ranges.length
    else
      let seqs := s.ranges.flatMap fun r => byteSequences r.lo r.hi
      match d with
      | .forward => forwardSize seqs
      | .backward => backwardSize seqs

/-- A quick bound from above on `setSize`. -/
def setBound (s : CharSet) : Nat :=
  if s.ranges.all (·.hi < 128) then 4 * stateSize + edgeSize * s.ranges.length
  else 2 * stateSize + 28 * (stateSize + edgeSize + branchSize) * (s.ranges.length + 1)

/-! ## Alternatives -/

def total (sizes : List Nat) : Nat := sizes.foldl (· + ·) 0

/-- The word that an expression stands for, if it is one character after the other. -/
def Expr.word? : Expr → Option (List Char)
  | .set ⟨[r]⟩ => if r.lo = r.hi then some [Char.ofNat r.lo] else none
  | .seq a b => do return (← a.word?) ++ (← b.word?)
  | _ => none

/-- The bytes of the alternatives in reading order, if all of them are words. -/
def Expr.words? (d : Direction) (e : Expr) : Option (List (List UInt8)) :=
  (e.branches.mapM word?).map fun words => words.map fun cs =>
    let bytes := cs.flatMap String.utf8EncodeChar
    match d with
    | .forward => bytes
    | .backward => bytes.reverse

/-- A word that ends before any other goes on is noted once. -/
def dropRepeatedEnds : List (List UInt8) → List (List UInt8)
  | [] :: [] :: words => dropRepeatedEnds ([] :: words)
  | words => words

/-- What follows each first byte of the words. -/
def groupByByte (words : List (List UInt8)) : List (List (List UInt8)) :=
  (words.filterMap List.head?).eraseDups.map fun b =>
    words.filterMap fun
      | b' :: bytes => if b' = b then some bytes else none
      | [] => none

/-- The size of the part of a trie that reads the words. A state is shared by the words that begin with the same bytes,
but not across a word that ends there, because that one is to be preferred to those after it. -/
def trieSize : Nat → List (List UInt8) → Nat
  | 0, _ => 0
  | depth + 1, words =>
    if words.all List.isEmpty then 0
    else
      let runs := (dropRepeatedEnds words).splitOnP List.isEmpty
      let sizes := (runs.filter fun run => !run.isEmpty).map fun run =>
        let below := groupByByte run
        let edges := if below.length = 1 then 0 else edgeSize * below.length
        branchSize + stateSize + edges + total (below.map (trieSize depth))
      stateSize + branchSize * (runs.length - 1) + total sizes

/-- The size of an expression from those of its alternatives: words share a trie with one state at its end; other
alternatives have a state to choose from them and a state where they meet again. -/
def Expr.joinBranches (d : Direction) (e : Expr) : List Nat → Nat
  | [size] => size
  | sizes => match e.words? d with
    | some words => stateSize + trieSize (words.flatten.length + 1) words
    | none => 2 * stateSize + branchSize * sizes.length + total sizes

/-! ## Whole patterns -/

/-- The states that note where a group begins and ends; only the automaton that reads forwards has them. -/
def groupSize : Direction → Nat
  | .forward => 2 * stateSize
  | .backward => 0

/-- The size of a repetition from that of its body. -/
def repeatedSize (least : Nat) (most : Option Nat) (consuming : Bool) (body : Nat) : Nat :=
  -- A state that chooses between the body and what follows.
  let choice := stateSize + 2 * branchSize
  match most, least with
  | some 1, 0 => choice + body + stateSize
  | some most, least =>
    if least = most then least * body
    else (if least = 0 then stateSize else least * body) + stateSize + (most - least) * (choice + body)
  | none, 0 => if consuming then choice + body else 2 * choice + body + stateSize
  | none, least => least * body + choice

/-- The sizes of the alternatives of an expression, from the sizes of its sets. -/
def Expr.branchSizes (d : Direction) (size : CharSet → Nat) : Expr → List Nat
  | .alt a b => a.branchSizes d size ++ b.branchSizes d size
  | .empty | .assertion _ => [stateSize]
  | .set s => [size s]
  | .seq a b => [a.joinBranches d (a.branchSizes d size) + b.joinBranches d (b.branchSizes d size)]
  | .group _ e => [groupSize d + e.joinBranches d (e.branchSizes d size)]
  | .repetition least most _ e => [repeatedSize least most e.consumes (e.joinBranches d (e.branchSizes d size))]

/-- Whether a match can only start, or for the backward direction end, where the text does. -/
def Expr.isAnchored (d : Direction) : Expr → Bool
  | .assertion a => a == match d with
    | .forward => .textStart
    | .backward => .textEnd
  | .seq a b => match d with
    | .forward => a.isAnchored d || (a.onlyEmpty && b.isAnchored d)
    | .backward => b.isAnchored d || (b.onlyEmpty && a.isAnchored d)
  | .alt a b => a.isAnchored d && b.isAnchored d
  | .group _ e => e.isAnchored d
  | .repetition least _ _ e => least != 0 && e.isAnchored d
  | .empty | .set _ => false

/-- The size of an automaton of a pattern. It first skips bytes, unless the pattern is anchored, then reads the
expression as a group, and then accepts. -/
def Expr.footprint (d : Direction) (size : CharSet → Nat) (e : Expr) : Nat :=
  let skip := if e.isAnchored d then stateSize else repeatedSize 0 none true (2 * stateSize + edgeSize)
  skip + groupSize d + e.joinBranches d (e.branchSizes d size) + stateSize

/-- Whether both automata of an expression stay within the bound. -/
def Expr.fits (e : Expr) : Bool :=
  [Direction.forward, .backward].all fun d =>
    e.footprint d setBound ≤ maxFootprint || e.footprint d (setSize d) ≤ maxFootprint

end Highlight.Pattern
