/-!
# Scope paths

A scope is a dotted name such as `string.quoted.double`; what it means is up to the reader of the tokens. A scope path
lists the scopes that apply at some place, outermost first.
-/

namespace Highlight

/-- The scopes that apply at some place, outermost first. -/
structure ScopePath where
  scopes : List String := []
deriving Repr, DecidableEq, Inhabited

/-- Whether a scope is the selector or a dotted child of it: it is longer, starts with the selector, and has a dot as the
byte behind it. -/
def scopeMatches (selector scope : String) : Bool :=
  scope == selector ||
    (decide (selector.utf8ByteSize < scope.utf8ByteSize) && scope.startsWith selector &&
      scope.toUTF8[selector.utf8ByteSize]? == some '.'.toUInt8)

namespace ScopePath

/-- The path with one more scope inside. -/
def push (p : ScopePath) (scope : String) : ScopePath := ⟨p.scopes ++ [scope]⟩

/-- The path with one more scope inside, if there is one. -/
def extend (p : ScopePath) : Option String → ScopePath
  | some scope => p.push scope
  | none => p

/-- The most specific scope. -/
def innermost? (p : ScopePath) : Option String := p.scopes.getLast?

/-- Whether some scope on the path is the selector or a dotted child of it. -/
def hasScope (p : ScopePath) (selector : String) : Bool :=
  p.scopes.any (scopeMatches selector)

def length (p : ScopePath) : Nat := p.scopes.length

/-- The scopes between brackets, separated by commas. -/
def display (p : ScopePath) : String := "[" ++ String.intercalate ", " p.scopes ++ "]"

end ScopePath

end Highlight
