import Highlight.Table

/-!
# Grammar definitions

A grammar as its author writes it: named rule sets, each an ordered list of rules, and the name of the set to start
from. A rule is a reference to another set, a pattern, or a region between two patterns with rules of its own. The
functions on `RuleDefinition` build rules step by step; one that does not fit the kind of rule changes nothing. The
functions on `GrammarDefinition` add one rule set after the other.
-/

namespace Highlight

/-- Scopes of groups by the index of the group; the whole match is group 0. -/
abbrev CaptureScopes := Table Nat String

/-- A rule as authored. -/
inductive RuleDefinition where
  | reference (set : String)
  | single (pattern : String) (scope : Option String) (captures : CaptureScopes)
  | region (opening closing : String) (scope contentScope : Option String)
      (openingCaptures closingCaptures : CaptureScopes) (children : List RuleDefinition)
deriving Inhabited

namespace RuleDefinition

/-- A rule for the matches of a pattern. -/
def ofPattern (pattern : String) (scope : Option String) : RuleDefinition :=
  single pattern scope Table.empty

/-- A rule for the region between two patterns, without rules of its own. -/
def ofRegion (opening closing scope : String) : RuleDefinition :=
  region opening closing (some scope) none Table.empty Table.empty []

/-- Gives a group a scope; in a region, a group of the opening match. -/
def withCapture (group : Nat) (scope : String) : RuleDefinition → RuleDefinition
  | reference set => reference set
  | single p s captures => single p s (captures.insert group scope)
  | region o c s cs oc cc children => region o c s cs (oc.insert group scope) cc children

/-- Gives a group of the closing match of a region a scope. -/
def withClosingCapture (group : Nat) (scope : String) : RuleDefinition → RuleDefinition
  | region o c s cs oc cc children => region o c s cs oc (cc.insert group scope) children
  | rule => rule

/-- Sets the scope of what lies between the two matches of a region. -/
def withContentScope (scope : String) : RuleDefinition → RuleDefinition
  | region o c s _ oc cc children => region o c s (some scope) oc cc children
  | rule => rule

/-- Sets the rules inside a region. -/
def withChildren (rules : List RuleDefinition) : RuleDefinition → RuleDefinition
  | region o c s cs oc cc _ => region o c s cs oc cc rules
  | rule => rule

end RuleDefinition

/-- A grammar as authored. -/
structure GrammarDefinition where
  name : String
  root : String
  ruleSets : Table String (List RuleDefinition)
deriving Inhabited

namespace GrammarDefinition

/-- A definition that has no rule sets yet. -/
def ofRoot (name root : String) : GrammarDefinition := { name, root, ruleSets := Table.empty }

/-- Adds a rule set, or replaces the one with its name. -/
def withRuleSet (d : GrammarDefinition) (name : String) (rules : List RuleDefinition) : GrammarDefinition :=
  { d with ruleSets := d.ruleSets.insert name rules }

end GrammarDefinition

end Highlight
