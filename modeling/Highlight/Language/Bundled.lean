import Highlight.Grammar.Build
import Highlight.Language.Eisen

/-!
# Bundled languages

The languages that are known without loading a grammar.
-/

namespace Highlight

/-- The definitions of the bundled languages, by name. -/
def bundledDefinitions : List (String × GrammarDefinition) := [("eisen", Eisen.definition)]

/-- The grammars of the definitions that build, by name. -/
def buildAll (definitions : List (String × GrammarDefinition)) : List (String × Grammar) :=
  definitions.filterMap fun (name, d) => match d.build with
    | .ok g => some (name, g)
    | .error _ => none

/-- The grammars of the bundled languages, by name. -/
def bundledGrammars : List (String × Grammar) := buildAll bundledDefinitions

/-- **Every bundled definition builds.** -/
theorem exists_build_of_mem_bundled : ∀ d ∈ bundledDefinitions, ∃ g, d.2.build = .ok g := by
  -- The definitions are closed terms, so the kernel can compile their patterns and resolve their references.
  have hbuild : bundledDefinitions.all (fun d => d.2.build.isOk) = true := by decide +kernel
  intro d hd
  have hok := List.all_eq_true.1 hbuild d hd
  cases h : d.2.build with
  | ok g => exact ⟨g, rfl⟩
  | error fault =>
    rw [h] at hok
    cases hok

end Highlight
