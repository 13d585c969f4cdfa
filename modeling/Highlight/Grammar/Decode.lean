import Highlight.Decimal
import Highlight.Grammar.Datum
import Highlight.Grammar.Definition
import Highlight.Unicode.Property

/-!
# Definitions from data

A rule is written as a table of its fields, or as a list of their values in order. Which kind of rule it is follows from
the fields: each kind is tried in turn, and a field that a kind does not know, a repeated field, a missing field without
a default or a value of the wrong type rules it out. A field may also be given by its number.
-/

namespace Highlight

/-- A value with what it is as a list of rules, if it is one. -/
structure FieldValue where
  datum : Datum
  rules : Option (List RuleDefinition)
deriving Inhabited

/-- The number of the field that a key names. -/
def fieldIndex? (names : List String) : Datum → Option Nat
  | .text s => names.idxOf? s
  | .nat n => if n < names.length then some n else none
  | _ => none

/-- The values of the fields, by number, of a table. -/
def tableFields? (names : List String) (entries : List (Datum × FieldValue)) : Option (List (Option FieldValue)) :=
  entries.foldlM (fun fields (key, value) => do
    let i ← fieldIndex? names key
    if (fields[i]?).join.isSome then none else some (fields.set i (some value)))
    (List.replicate names.length none)

/-- The values of the fields, by number, of a list; the last fields may be missing. -/
def listFields? (names : List String) (values : List FieldValue) : Option (List (Option FieldValue)) :=
  if values.length ≤ names.length then
    some (values.map some ++ List.replicate (names.length - values.length) none)
  else none

/-- The fields of a rule, as a table or as a list. -/
inductive RuleFields where
  | table (entries : List (Datum × FieldValue))
  | list (values : List FieldValue)

def RuleFields.get? (names : List String) : RuleFields → Option (List (Option FieldValue))
  | .table entries => tableFields? names entries
  | .list values => listFields? names values

/-- A text that must be there. -/
def requiredText? : Option FieldValue → Option String
  | some { datum := .text s, .. } => some s
  | _ => none

/-- A text that may be missing or null. -/
def optionalText? : Option FieldValue → Option (Option String)
  | none => some none
  | some { datum := .null, .. } => some none
  | some { datum := .text s, .. } => some (some s)
  | some _ => none

def trimBlanks (cs : List Char) : List Char :=
  let blank := Unicode.whiteSpace.contains
  ((cs.dropWhile blank).reverse.dropWhile blank).reverse

/-- The index of a group: a number, or a text that writes one, with white space around it. -/
def groupIndex? : Datum → Option Nat
  | .nat n => if n < UInt64.size then some n else none
  | .negative 0 => some 0
  | .text s => parseUInt64? (trimBlanks s.toList)
  | _ => none

/-- Scopes of groups. Of two for the same group the later one counts. -/
def captureScopes? : Option FieldValue → Option CaptureScopes
  | none => some Table.empty
  | some { datum := .table entries, .. } =>
    entries.foldlM (fun scopes (key, value) => do
      let group ← groupIndex? key
      match value with
      | .text scope => some (scopes.insert group scope)
      | _ => none) Table.empty
  | some _ => none

/-- Rules that may be missing. -/
def optionalRules? : Option FieldValue → Option (List RuleDefinition)
  | none => some []
  | some value => value.rules

def reference? (fields : RuleFields) : Option RuleDefinition := do
  match ← fields.get? ["include"] with
  | [name] => return .reference (← requiredText? name)
  | _ => none

def single? (fields : RuleFields) : Option RuleDefinition := do
  match ← fields.get? ["match", "scope", "captures"] with
  | [pattern, scope, captures] =>
    return .single (← requiredText? pattern) (← optionalText? scope) (← captureScopes? captures)
  | _ => none

def region? (fields : RuleFields) : Option RuleDefinition := do
  match ← fields.get? ["begin", "end", "scope", "content_scope", "begin_captures", "end_captures", "children"] with
  | [opening, closing, scope, contentScope, openingCaptures, closingCaptures, children] =>
    return .region (← requiredText? opening) (← requiredText? closing) (← optionalText? scope)
      (← optionalText? contentScope) (← captureScopes? openingCaptures) (← captureScopes? closingCaptures)
      (← optionalRules? children)
  | _ => none

/-- The rule with the given fields: a reference, a match or a region, whichever fits first. -/
def ruleOfFields? (fields : RuleFields) : Option RuleDefinition :=
  ((reference? fields).or (single? fields)).or (region? fields)

mutual

/-- The rule that the data writes. -/
def Datum.toRule? : Datum → Option RuleDefinition
  | .list items => ruleOfFields? (.list (fieldItems items))
  | .table entries => ruleOfFields? (.table (fieldEntries entries))
  | _ => none

/-- The list of rules that the data writes. -/
def Datum.toRules? : Datum → Option (List RuleDefinition)
  | .list items => ruleItems? items
  | _ => none

def ruleItems? : List Datum → Option (List RuleDefinition)
  | [] => some []
  | d :: ds => match d.toRule?, ruleItems? ds with
    | some r, some rs => some (r :: rs)
    | _, _ => none

def fieldItems : List Datum → List FieldValue
  | [] => []
  | d :: ds => { datum := d, rules := d.toRules? } :: fieldItems ds

def fieldEntries : List (Datum × Datum) → List (Datum × FieldValue)
  | [] => []
  | (k, d) :: es => (k, { datum := d, rules := d.toRules? }) :: fieldEntries es

end

end Highlight
