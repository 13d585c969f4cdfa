import Highlight.Pattern

/-!
# Grammars

The built form of a grammar. Rule sets, rules and patterns stand in three arrays and refer to each other by index, so
that rule sets may include one another in circles.
-/

namespace Highlight

/-- An entry of a list of rules: a rule, or a reference to a whole rule set. -/
inductive Item where
  | rule (id : Nat)
  | ruleSet (id : Nat)
deriving Repr, DecidableEq, Inhabited

/-- The scopes of groups, in order of the group's index. -/
abbrev Captures := List (Nat × String)

/-- A rule for the matches of a pattern. -/
structure MatchRule where
  pattern : Nat
  scope : Option String
  captures : Captures
deriving Repr, DecidableEq, Inhabited

/-- A rule for the region between two matches. The content scope applies between them. -/
structure RegionRule where
  opening : Nat
  closing : Nat
  scope : Option String
  contentScope : Option String
  openingCaptures : Captures
  closingCaptures : Captures
  children : List Item
deriving Repr, DecidableEq, Inhabited

inductive Rule where
  | single (rule : MatchRule)
  | region (rule : RegionRule)
deriving Repr, DecidableEq, Inhabited

/-- The pattern that decides whether the rule applies. -/
def Rule.entry : Rule → Nat
  | single r => r.pattern
  | region r => r.opening

/-- A named, ordered list of rules. -/
structure RuleSet where
  name : String
  items : List Item
deriving Repr, DecidableEq, Inhabited

/-- A grammar: rule sets by name, the rules and patterns in them, and the set to start from. -/
structure Grammar where
  name : String
  root : Nat
  sets : Array RuleSet
  rules : Array Rule
  patterns : Array Pattern
deriving Inhabited

namespace Grammar

/-- The entries of a rule set. -/
def itemsOf (g : Grammar) (set : Nat) : List Item :=
  match g.sets[set]? with
  | some s => s.items
  | none => []

/-- The index of the rule set with a name. -/
def setId? (g : Grammar) (name : String) : Option Nat := g.sets.findIdx? (·.name == name)

/-- The rule set with a name. -/
def ruleSet? (g : Grammar) (name : String) : Option RuleSet := (g.setId? name).bind (g.sets[·]?)

/-- The names of the rule sets, sorted. -/
def ruleSetNames (g : Grammar) : List String := (g.sets.toList.map (·.name)).mergeSort

/-- The name of the rule set to start from. -/
def rootName (g : Grammar) : String :=
  match g.sets[g.root]? with
  | some s => s.name
  | none => ""

/-- A line that says how large the grammar is. -/
def summary (g : Grammar) : String :=
  s!"grammar `{g.name}` is valid: {g.sets.size} rule sets, {g.rules.size} rules, {g.patterns.size} patterns"

end Grammar

end Highlight
