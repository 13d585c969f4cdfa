import Highlight.Pattern.Footprint
import Highlight.Pattern.Matcher
import Highlight.Pattern.Reader

/-!
# Patterns

A compiled pattern: its written form, the number of its groups, whether it is known to match the empty text, and the
program that runs it.
-/

namespace Highlight

/-- A compiled pattern. -/
structure Pattern where
  source : String
  groups : Nat
  canMatchEmpty : Bool
  program : Pattern.Program
deriving Inhabited

namespace Pattern

/-- The pattern of an expression. -/
def ofExpr (source : String) (e : Expr) : Pattern :=
  { source, groups := e.groupCount, canMatchEmpty := e.minLength == some 0, program := Program.ofExpr e }

/-- Compiles the written form of a pattern. -/
def compile (source : String) : Except SyntaxError Pattern := do
  let e ← read source
  if e.fits then return ofExpr source e else throw .tooLarge

/-- The match that starts at a position. -/
def matchAt? (p : Pattern) (t : Text) (pos : Nat) : Option Match :=
  p.program.matchAt p.groups t pos

/-- The first of `n` positions from `pos` on at which a match starts. -/
def searchFrom (p : Pattern) (t : Text) : Nat → Nat → Option Nat
  | 0, _ => none
  | n + 1, pos => if (p.matchAt? t pos).isSome then some pos else searchFrom p t n (pos + 1)

/-- The first position from `pos` on at which a match starts; a match may start at the end of the text. -/
def search? (p : Pattern) (t : Text) (pos : Nat) : Option Nat :=
  p.searchFrom t (t.length + 1 - pos) pos

end Pattern

end Highlight
