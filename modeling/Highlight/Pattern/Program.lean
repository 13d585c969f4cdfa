import Highlight.Pattern.Expr

/-!
# Pattern programs

A program is a graph of nodes. A node tests the next character or the position, opens or closes a group, or tries two
ways in order. `Expr.compile` builds the graph from the back: it gets the node to go on to and returns the node to start
from.
-/

namespace Highlight.Pattern

/-- One node of a program; `next` is the node to go on to. -/
inductive Node where
  | char (s : CharSet) (next : Nat)
  | assertion (a : Assertion) (next : Nat)
  /-- Tries `first`, and `second` where that leads to no match. -/
  | split (first second : Nat)
  | openGroup (next : Nat)
  | closeGroup (index : Nat) (next : Nat)
  | accept
deriving Repr, DecidableEq, Inhabited

/-- Nodes by their numbers. -/
abbrev Nodes := Array Node

/-- Adds a node and returns its number. -/
def Nodes.add (p : Nodes) (n : Node) : Nodes × Nat :=
  let number := p.size
  (p.push n, number)

/-- Tries to go on in `body` before leaving to `exit` if greedy, and the other way round if not. -/
def loopNode (greedy : Bool) (body exit : Nat) : Node :=
  if greedy then .split body exit else .split exit body

/-- A part of a program: adds nodes that go on to a given node, and returns the node to start from. -/
abbrev Fragment := Nat → Nodes → Nodes × Nat

namespace Fragment

/-- The fragment `n` times in a row. -/
def times (f : Fragment) : Nat → Fragment
  | 0 => fun next p => (p, next)
  | n + 1 => fun next p =>
    let (p, entry) := f next p
    times f n entry p

/-- Up to `n` times; every time can leave straight to `exit`. -/
def upTo (f : Fragment) (greedy : Bool) (exit : Nat) : Nat → Fragment
  | 0 => fun next p => (p, next)
  | n + 1 => fun next p =>
    let (p, entry) := f next p
    let (p, entry) := p.add (loopNode greedy entry exit)
    upTo f greedy exit n entry p

/-- The fragment once and then again and again. The result is the entry and the node that decides to go on. -/
def onceOrMore (f : Fragment) (greedy : Bool) (next : Nat) (p : Nodes) : Nodes × Nat × Nat :=
  let (p, loop) := p.add .accept
  let (p, entry) := f loop p
  (p.setIfInBounds loop (loopNode greedy entry next), entry, loop)

/-- Any number of times. A body that may match nothing must not be entered again from its own loop node without a
choice to skip it, so the first entry has a choice node of its own. -/
def anyNumber (f : Fragment) (greedy consuming : Bool) : Fragment := fun next p =>
  let (p, entry, loop) := onceOrMore f greedy next p
  if consuming then (p, loop) else p.add (loopNode greedy entry next)

end Fragment

/-- The fragment of an expression. -/
def Expr.compile : Expr → Fragment
  | .empty => fun next p => (p, next)
  | .set s => fun next p => p.add (.char s next)
  | .assertion a => fun next p => p.add (.assertion a next)
  | .seq a b => fun next p =>
    let (p, middle) := b.compile next p
    a.compile middle p
  | .alt a b => fun next p =>
    let (p, second) := b.compile next p
    let (p, first) := a.compile next p
    p.add (.split first second)
  | .group index e => fun next p =>
    let (p, close) := p.add (.closeGroup index next)
    let (p, body) := e.compile close p
    p.add (.openGroup body)
  | .repetition least most greedy e => fun next p =>
    match most, least with
    | some most, least =>
      let (p, entry) := Fragment.upTo e.compile greedy next (most - least) next p
      Fragment.times e.compile least entry p
    | none, 0 => Fragment.anyNumber e.compile greedy e.consumes next p
    | none, least + 1 =>
      let (p, entry, _) := Fragment.onceOrMore e.compile greedy next p
      Fragment.times e.compile least entry p

/-- A graph with the node where matching starts. -/
structure Program where
  nodes : Nodes
  entry : Nat
deriving Repr, Inhabited

/-- The program of a whole pattern: the expression, then acceptance. -/
def Program.ofExpr (e : Expr) : Program :=
  let (p, accept) := Nodes.add #[] .accept
  let (p, entry) := e.compile accept p
  { nodes := p, entry }

end Highlight.Pattern
