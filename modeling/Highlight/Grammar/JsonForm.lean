import Highlight.Grammar.Decode
import Highlight.Json.Reader

/-!
# Definitions as JSON

`GrammarDefinition.toJson` writes a definition as a JSON value and `GrammarDefinition.ofJson?` reads one. Fields without
a value are left out. A definition, like a rule, may also be written as the list of its values.
-/

namespace Highlight

/-- Scopes of groups as an object; the indices are its names. -/
def CaptureScopes.toJson (scopes : CaptureScopes) : Json :=
  .obj (scopes.entries.map fun (group, scope) => (toString group, .str scope))

/-- A member for an optional text. -/
def textMember (name : String) : Option String → List (String × Json)
  | some s => [(name, .str s)]
  | none => []

/-- A member for scopes of groups, unless there are none. -/
def captureMember (name : String) (scopes : CaptureScopes) : List (String × Json) :=
  if scopes.isEmpty then [] else [(name, scopes.toJson)]

mutual

def RuleDefinition.toJson : RuleDefinition → Json
  | .reference set => .obj [("include", .str set)]
  | .single pattern scope captures =>
    .obj (("match", .str pattern) :: (textMember "scope" scope ++ captureMember "captures" captures))
  | .region opening closing scope contentScope openingCaptures closingCaptures children =>
    .obj (("begin", .str opening) :: ("end", .str closing) :: (textMember "scope" scope ++
      textMember "content_scope" contentScope ++ captureMember "begin_captures" openingCaptures ++
      captureMember "end_captures" closingCaptures ++
      (if children.isEmpty then [] else [("children", .arr (rulesToJson children))])))

def rulesToJson : List RuleDefinition → List Json
  | [] => []
  | r :: rs => r.toJson :: rulesToJson rs

end

def GrammarDefinition.toJson (d : GrammarDefinition) : Json :=
  .obj [("name", .str d.name), ("root", .str d.root),
    ("rule_sets", .obj (d.ruleSets.entries.map fun (name, rules) => (name, .arr (rulesToJson rules))))]

/-- The rule sets of an object. Of two with the same name the later one counts. -/
def ruleSetsOfJson? : Json → Option (Table String (List RuleDefinition))
  | .obj members => members.foldlM (fun sets (name, value) => do
      match value with
      | .arr items => return sets.insert name (← ruleItems? (datumItems items))
      | _ => none) Table.empty
  | _ => none

/-- The definition with the given values. -/
def definitionOfValues? : Json → Json → Json → Option GrammarDefinition
  | .str name, .str root, sets => do return { name, root, ruleSets := ← ruleSetsOfJson? sets }
  | _, _, _ => none

/-- The definition that a JSON value writes. -/
def GrammarDefinition.ofJson? (v : Json) : Option GrammarDefinition :=
  match v with
  | .arr [name, root, sets] => definitionOfValues? name root sets
  | .obj members =>
    if members.length = 3 then
      match v.get? "name", v.get? "root", v.get? "rule_sets" with
      | some name, some root, some sets => definitionOfValues? name root sets
      | _, _, _ => none
    else none
  | _ => none

end Highlight
