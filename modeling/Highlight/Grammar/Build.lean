import Highlight.Grammar
import Highlight.Grammar.Definition
import Highlight.Grammar.Error

/-!
# Building grammars

`GrammarDefinition.build` gives indices to rule sets in order of their names, compiles the patterns and checks as it
goes: references must name a rule set, patterns must be readable, match and opening patterns must not match the empty
text, and captures must name groups that exist. A rule gets its index after the rules inside it, a pattern when it is read.
-/

namespace Highlight

/-- The rules and patterns made so far. -/
structure Draft where
  rules : Array Rule := #[]
  patterns : Array Pattern := #[]
deriving Inhabited

abbrev Build := StateT Draft (Except GrammarError)

/-- Where a definition is built: the names of all rule sets, and the set that is being built. -/
structure Site where
  names : List String
  current : String

namespace Build

/-- Compiles a pattern and gives it an index. Only a closing pattern may match the empty text. -/
def pattern (site : Site) (mayBeEmpty : Bool) (source : String) : Build Nat := do
  match Pattern.compile source with
  | .error e => throw (.invalidPattern site.current source (.unreadable e))
  | .ok p =>
    if p.canMatchEmpty && !mayBeEmpty then throw (.emptyPattern site.current source)
    let draft ← get
    set { draft with patterns := draft.patterns.push p }
    return draft.patterns.size

/-- The scopes of groups, all of which the pattern must have. -/
def captures (site : Site) (source : String) (id : Nat) (scopes : CaptureScopes) : Build Captures := do
  let available := match (← get).patterns[id]? with
    | some p => p.groups
    | none => 0
  match scopes.entries.find? fun e => decide (available < e.1) with
  | some (group, _) => throw (.invalidPattern site.current source (.missingGroup group available))
  | none => return scopes.entries

/-- Gives a rule an index. -/
def rule (r : Rule) : Build Item := do
  let draft ← get
  set { draft with rules := draft.rules.push r }
  return .rule draft.rules.size

mutual

/-- The entry for one rule. -/
def item (site : Site) : RuleDefinition → Build Item
  | .reference name =>
    match site.names.idxOf? name with
    | some id => return .ruleSet id
    | none => throw (.unresolvedReference site.current name)
  | .single source scope scopes => do
    let id ← pattern site false source
    rule (.single { pattern := id, scope, captures := ← captures site source id scopes })
  | .region opening closing scope contentScope openingScopes closingScopes children => do
    let openingId ← pattern site false opening
    let closingId ← pattern site true closing
    let openingCaptures ← captures site opening openingId openingScopes
    let closingCaptures ← captures site closing closingId closingScopes
    let children ← items site children
    rule (.region { opening := openingId, closing := closingId, scope, contentScope, openingCaptures, closingCaptures,
                    children })

/-- The entries for a list of rules. -/
def items (site : Site) : List RuleDefinition → Build (List Item)
  | [] => return []
  | r :: rs => do
    let first ← item site r
    return first :: (← items site rs)

end

/-- The rule sets, in order. -/
def ruleSets (names : List String) : List (String × List RuleDefinition) → Build (List RuleSet)
  | [] => return []
  | (name, rules) :: rest => do
    let built ← items { names, current := name } rules
    return { name, items := built } :: (← ruleSets names rest)

end Build

/-- Checks a definition and builds its grammar. -/
def GrammarDefinition.build (d : GrammarDefinition) : Except GrammarError Grammar := do
  let names := d.ruleSets.keys
  match names.idxOf? d.root with
  | none => throw (.unresolvedReference d.name d.root)
  | some root =>
    let (sets, draft) ← (Build.ruleSets names d.ruleSets.entries).run {}
    return { name := d.name, root, sets := sets.toArray, rules := draft.rules, patterns := draft.patterns }

/-- Builds a grammar from named rule sets. Of two with the same name the later one counts. -/
def Grammar.ofNamedRuleSets (name : String) (ruleSets : List (String × List RuleDefinition)) (root : String) :
    Except GrammarError Grammar :=
  GrammarDefinition.build { name, root, ruleSets := Table.ofList ruleSets }

/-- Builds a grammar that is named after its root. -/
def Grammar.ofRuleSets (ruleSets : List (String × List RuleDefinition)) (root : String) :
    Except GrammarError Grammar :=
  Grammar.ofNamedRuleSets root ruleSets root

end Highlight
