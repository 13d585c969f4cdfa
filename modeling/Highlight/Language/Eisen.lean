import Highlight.Grammar.Definition

/-!
# Eisen

A lexical grammar for the language Eisen. The order of the rules in each set is their precedence: rules for keywords
come before the rule for identifiers that would otherwise match them.
-/

namespace Highlight.Eisen

open RuleDefinition

/-- A rule for the matches of a pattern, in one scope. -/
def pattern (regex scope : String) : RuleDefinition := ofPattern regex (some (scope ++ ".eisen"))

/-- A keyword and the name it declares, each in its own scope. -/
def declaration (pattern keyword name : String) : RuleDefinition :=
  ((ofPattern pattern none).withCapture 1 (keyword ++ ".eisen")).withCapture 2 (name ++ ".eisen")

/-- A region whose two ends have scopes of their own. -/
def delimited (opening closing scope delimiter : String) : RuleDefinition :=
  ((ofRegion opening closing (scope ++ ".eisen")).withCapture 0 (delimiter ++ ".begin.eisen")).withClosingCapture 0
    (delimiter ++ ".end.eisen")

def comments : List RuleDefinition :=
  [delimited "/\\*" "\\*/" "comment.block" "punctuation.definition.comment",
    pattern "//[^\\n]*" "comment.line.double-slash"]

def declarations : List RuleDefinition :=
  [declaration "\\b(fn)\\s+([A-Za-z_]\\w*)" "storage.type.function" "entity.name.function",
    declaration "\\b(struct|interface|variant)\\s+([A-Za-z_]\\w*)" "storage.type" "entity.name.type",
    declaration "\\b(mod)\\s+([A-Za-z_]\\w*)" "storage.type.module" "entity.name.namespace",
    pattern "\\b(create|destroy)\\b" "entity.name.function.lifecycle",
    pattern "\\b(let|var|val|mut)\\b" "storage.modifier"]

def control : List RuleDefinition :=
  [pattern "\\b(if|else|while|return|impls|is|as)\\b" "keyword.control"]

def strings : List RuleDefinition :=
  [(delimited "\"" "\"" "string.quoted.double" "punctuation.definition.string").withChildren
    [pattern "\\\\." "constant.character.escape", pattern "%[a-z]" "constant.other.placeholder"]]

def literals : List RuleDefinition :=
  [pattern "\\b(true|false)\\b" "constant.language.boolean",
    pattern "\\bnil\\b" "constant.language.nil",
    pattern "\\b[0-9]+\\.[0-9]+\\b" "constant.numeric.float",
    pattern "\\b[0-9]+\\b" "constant.numeric.integer"]

def types : List RuleDefinition :=
  [pattern "\\b(int|flt|bool|str|void)\\b" "support.type.primitive"]

def operators : List RuleDefinition :=
  [pattern "->" "keyword.operator.arrow",
    pattern "\\b(and|or|not)\\b" "keyword.operator.logical",
    pattern "==|!=|<=|>=|\\+=|-=|\\*=|/=" "keyword.operator.comparison",
    pattern "[-+*/<>=!]" "keyword.operator"]

/-- The arguments of a call are expressions, which may themselves be calls. -/
def calls : List RuleDefinition :=
  [((((ofRegion "\\b([A-Za-z_]\\w*)\\s*(\\()" "\\)" "meta.function-call.eisen").withCapture 1
    "entity.name.function.eisen").withCapture 2 "punctuation.section.arguments.begin.eisen").withClosingCapture 0
    "punctuation.section.arguments.end.eisen").withChildren [reference "expression"]]

def expression : List RuleDefinition :=
  ["comments", "strings", "literals", "types", "operators", "calls"].map reference ++
    [pattern "\\bself\\b" "variable.language.self", pattern "\\b[A-Za-z_]\\w*" "variable.other"]

def definition : GrammarDefinition where
  name := "eisen"
  root := "source"
  ruleSets := Table.ofList
    [("source", ["comments", "declarations", "control", "expression"].map reference),
      ("comments", comments), ("declarations", declarations), ("control", control), ("expression", expression),
      ("strings", strings), ("literals", literals), ("types", types), ("operators", operators), ("calls", calls)]

end Highlight.Eisen
