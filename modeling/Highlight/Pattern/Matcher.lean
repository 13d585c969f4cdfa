import Highlight.Pattern.Program
import Highlight.Text.Basic
import Highlight.Unicode.Property

/-!
# Matching

A program runs on a text as a list of threads in order of preference. At each position the threads are followed through
all nodes that consume nothing (`follow`), no node twice, so that of two ways to a node only the preferred one is kept;
then the next character moves those that accept it (`step`). When a thread accepts, the less preferred ones are dropped
and the others may still replace its match by a preferred one. A match found this way is the first in order of
preference among those that start at the position.
-/

namespace Highlight.Pattern

/-- The characters between two positions. -/
structure Span where
  start : Nat
  stop : Nat
deriving Repr, DecidableEq, Inhabited

def Span.isEmpty (s : Span) : Bool := s.stop ≤ s.start

/-- What the groups matched so far, by their index. -/
abbrev Groups := Array (Option Span)

/-- A place in the program, the starts of the groups that are open there, innermost first, and the closed groups. -/
structure Thread where
  node : Nat
  opened : List Nat
  groups : Groups
deriving Repr, Inhabited

/-- Whether a character belongs to a word. -/
def isWordChar (unicode : Bool) (c : Char) : Bool :=
  if unicode then Unicode.wordChars.contains c
  else c.isAlphanum || c == '_'

/-- Whether the assertion holds at a position with these neighbours. -/
def Assertion.holds (a : Assertion) (before after : Option Char) : Bool :=
  let word (unicode : Bool) (c : Option Char) : Bool := c.any (isWordChar unicode)
  match a with
  | .textStart => before.isNone
  | .textEnd => after.isNone
  | .lineStart => before.isNone || before == some '\n'
  | .lineEnd => after.isNone || after == some '\n'
  | .anyLineStart => before.isNone || before == some '\n' || (before == some '\r' && after != some '\n')
  | .anyLineEnd => after.isNone || after == some '\r' || (after == some '\n' && before != some '\r')
  | .wordBoundary u => word u before != word u after
  | .notWordBoundary u => word u before == word u after
  | .wordStart u => !word u before && word u after
  | .wordEnd u => word u before && !word u after
  | .wordStartHalf u => !word u before
  | .wordEndHalf u => !word u after

/-- Follows threads through the nodes that consume nothing. `seen` has a bit for every node met at this position; the
waiting threads arrive at the others in order of preference, and the threads that rest are collected in reverse. -/
def follow (prog : Program) (t : Text) (pos : Nat) :
    Nat → List Thread → Nat → List Thread → Nat × List Thread
  | 0, _, seen, resting => (seen, resting)
  | _ + 1, [], seen, resting => (seen, resting)
  | fuel + 1, th :: waiting, seen, resting =>
    if seen.testBit th.node then follow prog t pos fuel waiting seen resting
    else
      let seen := seen ||| (1 <<< th.node)
      match prog.nodes[th.node]? with
      | some (.char _ _) | some .accept => follow prog t pos fuel waiting seen (th :: resting)
      | some (.assertion a next) =>
        if a.holds (t.before? pos) (t.get? pos) then
          follow prog t pos fuel ({ th with node := next } :: waiting) seen resting
        else follow prog t pos fuel waiting seen resting
      | some (.split first second) =>
        follow prog t pos fuel ({ th with node := first } :: { th with node := second } :: waiting) seen resting
      | some (.openGroup next) =>
        follow prog t pos fuel ({ th with node := next, opened := pos :: th.opened } :: waiting) seen resting
      | some (.closeGroup index next) =>
        match th.opened with
        | start :: opened =>
          let groups := th.groups.setIfInBounds index (some ⟨start, pos⟩)
          follow prog t pos fuel ({ node := next, opened, groups } :: waiting) seen resting
        -- a group that is not open leaves no trace
        | [] => follow prog t pos fuel ({ th with node := next } :: waiting) seen resting
      | none => follow prog t pos fuel waiting seen resting

/-- Every node is met at most once and adds at most two waiting threads. -/
def followFuel (prog : Program) : Nat := 2 * prog.nodes.size + 2

/-- Moves the threads over a character. Those that arrive are followed at once, in order of preference. -/
def step (prog : Program) (t : Text) (pos : Nat) (c : Char) :
    List Thread → Nat → List Thread → List Thread
  | [], _, resting => resting.reverse
  | th :: threads, seen, resting =>
    match prog.nodes[th.node]? with
    | some (.char s next) =>
      if s.contains c then
        let (seen, resting) :=
          follow prog t (pos + 1) (followFuel prog) [{ th with node := next }] seen resting
        step prog t pos c threads seen resting
      else step prog t pos c threads seen resting
    | _ => step prog t pos c threads seen resting

/-- A match of the whole pattern with what its groups matched. -/
structure Match where
  span : Span
  groups : Groups
deriving Repr, Inhabited

/-- Whether the thread has arrived at the end of the program. -/
def Thread.accepts (prog : Program) (th : Thread) : Bool :=
  prog.nodes[th.node]? == some .accept

/-- Runs the threads from `pos` on, where `n` characters remain. `best` is the match of a less preferred thread. -/
def runThreads (prog : Program) (t : Text) (start : Nat) :
    Nat → Nat → List Thread → Option Match → Option Match
  | n, pos, threads, best =>
    let preferred := threads.takeWhile fun th => !th.accepts prog
    let best := match threads.find? fun th => th.accepts prog with
      | some th => some { span := ⟨start, pos⟩, groups := th.groups }
      | none => best
    if preferred.isEmpty then best
    else match n, t.get? pos with
      | n + 1, some c => runThreads prog t start n (pos + 1) (step prog t pos c preferred 0 []) best
      | _, _ => best

/-- The match that starts at a position. -/
def Program.matchAt (prog : Program) (groupCount : Nat) (t : Text) (pos : Nat) : Option Match :=
  let first : Thread := { node := prog.entry, opened := [], groups := Array.replicate (groupCount + 1) none }
  let threads := (follow prog t pos (followFuel prog) [first] 0 []).2.reverse
  runThreads prog t pos (t.length - pos) pos threads none

end Highlight.Pattern
