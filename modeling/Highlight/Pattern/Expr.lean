import Highlight.Unicode.CharSet

/-!
# Pattern expressions

The meaning of a pattern once its flags and classes are resolved: sets of characters, assertions about a position,
sequences, ordered alternatives, groups and repetitions. The constructors `Expr.sequence`, `Expr.choice` and
`Expr.repeated` simplify as they build. `Expr.minLength` bounds the length of a match from below; a part that can never
match has no such bound, and neither has anything built around it.
-/

namespace Highlight.Pattern

/-- What is asserted about a position, by its neighbours alone. -/
inductive Assertion where
  | textStart
  | textEnd
  | lineStart
  | lineEnd
  /-- Line starts where a carriage return, a line feed, or both together end a line. -/
  | anyLineStart
  | anyLineEnd
  | wordBoundary (unicode : Bool)
  | notWordBoundary (unicode : Bool)
  | wordStart (unicode : Bool)
  | wordEnd (unicode : Bool)
  | wordStartHalf (unicode : Bool)
  | wordEndHalf (unicode : Bool)
deriving Repr, DecidableEq, Inhabited

/-- A resolved pattern. -/
inductive Expr where
  | empty
  | set (s : CharSet)
  | assertion (a : Assertion)
  | seq (first second : Expr)
  | alt (first second : Expr)
  | group (index : Nat) (body : Expr)
  | repetition (least : Nat) (most : Option Nat) (greedy : Bool) (body : Expr)
deriving Repr, DecidableEq, Inhabited

namespace Expr

/-- Whether every match is the empty one. -/
def onlyEmpty : Expr → Bool
  | empty | assertion _ => true
  | set _ => false
  | seq a b | alt a b => a.onlyEmpty && b.onlyEmpty
  | group _ e => e.onlyEmpty
  | repetition _ most _ e => most.isSome && e.onlyEmpty

/-- The least number of characters in a match, where every part can match. -/
def minLength : Expr → Option Nat
  | empty | assertion _ => some 0
  | set s => if s.isEmpty then none else some 1
  | seq a b => match a.minLength, b.minLength with
    | some m, some n => some (m + n)
    | _, _ => none
  | alt a b => match a.minLength, b.minLength with
    | some m, some n => some (min m n)
    | _, _ => none
  | group _ e => e.minLength
  | repetition least _ _ e => e.minLength.map (· * least)

/-- Whether every match is known to have at least one character. -/
def consumes (e : Expr) : Bool :=
  match e.minLength with
  | some (_ + 1) => true
  | _ => false

/-- The greatest index of a group. -/
def groupCount : Expr → Nat
  | empty | set _ | assertion _ => 0
  | seq a b | alt a b => max a.groupCount b.groupCount
  | group i e => max i e.groupCount
  | repetition _ _ _ e => e.groupCount

/-- One expression after the other. -/
def sequence : List Expr → Expr
  | [] => empty
  | [e] => e
  | empty :: es => sequence es
  | e :: es => match sequence es with
    | empty => e
    | rest => seq e rest

/-- The ordered alternatives of an expression. -/
def branches : Expr → List Expr
  | alt a b => a.branches ++ b.branches
  | e => [e]

/-- The set that an expression is, if it is one and has or has not exactly one member. -/
def asSet? (single : Bool) : Expr → Option CharSet
  | set s => if s.isSingleton == single then some s else none
  | _ => none

def foldAlt : List Expr → Expr
  | [] => set CharSet.empty
  | [e] => e
  | e :: es => alt e (foldAlt es)

/-- Ordered alternatives. Alternatives that are all single characters, or all proper sets, are one set. -/
def choice (es : List Expr) : Expr :=
  match es.flatMap branches with
  | [] => set CharSet.empty
  | [e] => e
  | es => match es.mapM (asSet? true), es.mapM (asSet? false) with
    | some ss, _ => set (CharSet.unions ss)
    | none, some ss => set (CharSet.unions ss)
    | none, none => foldAlt es

/-- Repeats an expression. What only matches the empty text is tried at most once, and no times at all is the empty
expression. -/
def repeated (least : Nat) (most : Option Nat) (greedy : Bool) (e : Expr) : Expr :=
  let least' := if e.onlyEmpty then min least 1 else least
  let most' := if e.onlyEmpty then some (min (most.getD 1) 1) else most
  if least' = 0 ∧ most' = some 0 then empty
  else if least' = 1 ∧ most' = some 1 then e
  else repetition least' most' greedy e

end Expr

end Highlight.Pattern
