import Highlight.Grammar.Decode
import Highlight.Yaml.Resolve

/-!
# Definitions as YAML

A definition is a table of its name, its root and its rule sets. The names in it are taken as they are written, whatever
a plain scalar stands for elsewhere; the rules are read as data.
-/

namespace Highlight

open Yaml

/-- The parts of a definition found so far. -/
structure DefinitionParts where
  name : Option String := none
  root : Option String := none
  ruleSets : Option (Table String (List RuleDefinition)) := none

/-- Levels left inside a list of rules, which is inside the rule sets, which are inside the definition. -/
def ruleDepth : Nat := maxDepth - 3

/-- Reads the rules of a set. -/
def readRules (n : Node) : DocumentReader (List RuleDefinition) := do
  let data ← (← DocumentReader.items n).mapM (DocumentReader.datum ruleDepth)
  match ruleItems? data with
  | some rules => return rules
  | none => failure

/-- Reads the rule sets. Of two with the same name the later one counts. -/
def readRuleSets (n : Node) : DocumentReader (Table String (List RuleDefinition)) := do
  let sets ← (← DocumentReader.entries n).mapM fun (key, value) => do
    return (← DocumentReader.text key, ← readRules value)
  return Table.ofList sets

/-- Adds a part, which must not be there yet. -/
def DefinitionParts.add (parts : DefinitionParts) (key value : Node) : DocumentReader DefinitionParts := do
  match ← DocumentReader.text key with
  | "name" => if parts.name.isSome then failure else return { parts with name := some (← DocumentReader.text value) }
  | "root" => if parts.root.isSome then failure else return { parts with root := some (← DocumentReader.text value) }
  | "rule_sets" =>
    if parts.ruleSets.isSome then failure else return { parts with ruleSets := some (← readRuleSets value) }
  | _ => failure

/-- Reads a definition. -/
def readDefinition (root : Node) : DocumentReader GrammarDefinition := do
  let entries ← DocumentReader.entries root
  let parts ← entries.foldlM (fun (parts : DefinitionParts) (key, value) => parts.add key value) {}
  match parts with
  | { name := some name, root := some root, ruleSets := some ruleSets } => return { name, root, ruleSets }
  | _ => failure

/-- The definition that a node writes. -/
def GrammarDefinition.ofNode? (root : Node) : Option GrammarDefinition := DocumentReader.run readDefinition root

end Highlight
