import Highlight.Pattern

/-!
# Looking ahead

Most patterns match at few places of a text. For each pattern the place of the next match is remembered together with
the place from which it was searched; while the cursor stays between the two, asking again costs nothing.
-/

namespace Highlight

/-- The first match of a pattern from a position on. -/
structure Lookahead where
  searchedFrom : Nat
  next : Option Nat
deriving Repr, DecidableEq, Inhabited

/-- Whether what is remembered answers the question at a position. -/
def Lookahead.covers (known : Lookahead) (pos : Nat) : Bool :=
  decide (known.searchedFrom ≤ pos) && known.next.all fun n => decide (pos ≤ n)

/-- What is remembered of each pattern, by its index. -/
abbrev LookaheadTable := Array (Option Lookahead)

namespace LookaheadTable

def empty (patternCount : Nat) : LookaheadTable := Array.replicate patternCount none

/-- What is remembered of a pattern, if it answers the question at a position. -/
def known? (table : LookaheadTable) (id pos : Nat) : Option Lookahead :=
  match table[id]? with
  | some (some known) => if known.covers pos then some known else none
  | _ => none

/-- The first match of a pattern from a position on, from memory or by a search that is then remembered. -/
def next (table : LookaheadTable) (id : Nat) (p : Pattern) (t : Text) (pos : Nat) : Option Nat × LookaheadTable :=
  match table.known? id pos with
  | some known => (known.next, table)
  | none =>
    let found := p.search? t pos
    (found, table.setIfInBounds id (some { searchedFrom := pos, next := found }))

/-- The match of a pattern that starts at a position. -/
def matchAt (table : LookaheadTable) (id : Nat) (p : Pattern) (t : Text) (pos : Nat) :
    Option Pattern.Match × LookaheadTable :=
  let (found, table) := table.next id p t pos
  (if found = some pos then p.matchAt? t pos else none, table)

end LookaheadTable

end Highlight
