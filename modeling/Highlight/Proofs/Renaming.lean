import Highlight.Proofs.Correspondence
import Highlight.Proofs.Validation

/-!
# Names of rule sets

The names of rule sets decide the order in which sets are built and so all indices of a grammar, and sets that no
reference leads to are built like all others. None of that shows in the tokens: they depend on the rules that can be
reached from the set to start from, with references followed and the names forgotten (`tokens_follow_references`).
-/

namespace Highlight

namespace RuleDefinition

mutual

/-- The rule with its references, also those inside of it, redirected. -/
def redirect (f : String → String) : RuleDefinition → RuleDefinition
  | .reference name => .reference (f name)
  | .single p s cs => .single p s cs
  | .region o c s cs oc cc children => .region o c s cs oc cc (redirectAll f children)

/-- The rules with their references redirected. -/
def redirectAll (f : String → String) : List RuleDefinition → List RuleDefinition
  | [] => []
  | r :: rs => r.redirect f :: redirectAll f rs

end

/-- Rules are alike with their references redirected to corresponding names. -/
theorem alike_redirectAll (d : GrammarDefinition) {N : String → String → Prop} {f : String → String} :
    ∀ rules : List RuleDefinition, (∀ name, .reference name ∈ flattenAll rules → N name (f name)) →
      RuleDefinition.Alike d id N rules (redirectAll f rules)
  | [], _ => by
    rw [redirectAll]
    exact .nil
  | .reference name :: rs, h => by
    simp only [redirectAll, redirect]
    exact .reference (h name (by simp [flattenAll, flatten]))
      (alike_redirectAll d rs fun n hn => h n (by simp [flattenAll, hn]))
  | .single p s cs :: rs, h => by
    simp only [redirectAll, redirect]
    exact .single (by simp) (by simp) (alike_redirectAll d rs fun n hn => h n (by simp [flattenAll, hn]))
  | .region o c s cs oc cc children :: rs, h => by
    simp only [redirectAll, redirect]
    exact .region (by simp) (by simp) (by simp) (by simp)
      (alike_redirectAll d children fun n hn => h n (by simp [flattenAll, flatten, hn]))
      (alike_redirectAll d rs fun n hn => h n (by simp [flattenAll, hn]))

end RuleDefinition

namespace GrammarDefinition

/-- The rules of a set, or rules inside of them, refer to another set. -/
def Uses (d : GrammarDefinition) (name name' : String) : Prop :=
  ∃ rules, d.ruleSets.get? name = some rules ∧ .reference name' ∈ RuleDefinition.flattenAll rules

/-- References lead to the set from the one to start from. -/
def Reachable (d : GrammarDefinition) (name : String) : Prop := Relation.ReflTransGen d.Uses d.root name

/-- Where references of a definition lead to that can be built, there is a set. -/
theorem Reachable.mem_keys {d : GrammarDefinition} {g : Grammar} (hbuild : d.build = .ok g) {name : String}
    (h : d.Reachable name) : name ∈ d.ruleSets.keys := by
  obtain ⟨hroot, hfaults⟩ := d.faults_eq_nil_iff.1 (d.build_eq_ok_iff.1 ⟨g, hbuild⟩)
  induction h with
  | refl => exact hroot
  | tail _ huses _ =>
    obtain ⟨rules, hget, hmem⟩ := huses
    have hnone := List.flatMap_eq_nil_iff.1 (hfaults _ rules hget) _ hmem
    simpa [RuleDefinition.ownFaults] using hnone

end GrammarDefinition

/-- **Names.** Two definitions agree on what can be reached if a function, one-to-one on the reachable sets of the
first, takes the set to start from to that of the second, and the rules of each reachable set, with their references
redirected, to the rules of the second. What they are built into has the same tokens, offsets and depths on every text,
whatever other sets there are and wherever the names put them. -/
theorem tokens_follow_references {d₁ d₂ : GrammarDefinition} {g₁ g₂ : Grammar} (h₁ : d₁.build = .ok g₁)
    (h₂ : d₂.build = .ok g₂) (f : String → String) (hroot : f d₁.root = d₂.root)
    (hinj : ∀ name name', d₁.Reachable name → d₁.Reachable name' → f name = f name' → name = name')
    (hrules : ∀ name rules, d₁.Reachable name → d₁.ruleSets.get? name = some rules →
      d₂.ruleSets.get? (f name) = some (RuleDefinition.redirectAll f rules)) :
    g₁.SameTokens g₂ := by
  have halike : d₁.Alike id d₂ fun name name' => d₁.Reachable name ∧ f name = name' := {
    root := ⟨.refl, hroot⟩
    rules := by
      rintro name _ rules ⟨hname, rfl⟩ hget
      refine ⟨_, hrules name rules hname hget, RuleDefinition.alike_redirectAll d₁ rules fun next hnext => ?_⟩
      exact ⟨.tail hname ⟨rules, hget, hnext⟩, rfl⟩
    left_unique := by
      rintro name₁ name₂ _ ⟨hname₁, rfl⟩ ⟨hname₂, hf⟩
      exact hinj name₁ name₂ hname₁ hname₂ hf.symm
    right_unique := by
      rintro name _ _ ⟨-, rfl⟩ ⟨-, rfl⟩
      rfl }
  exact halike.sameTokens h₁ h₂

/-- Brackets inside brackets, under names in another order, with a set between them that no reference leads to. -/
def GrammarDefinition.otherBrackets : GrammarDefinition where
  name := "other brackets"
  root := "all"
  ruleSets := Table.ofList [
    ("all", [.reference "all", .reference "nested", .ofPattern "x" (some "letter"), .reference "nested"]),
    ("marks", [.ofPattern "#" (some "mark"), .reference "all"]),
    ("nested", [((RuleDefinition.ofRegion "(\\()" "\\)|$" "round").withCapture 1 "mark").withChildren [
      .reference "all", (RuleDefinition.ofRegion "\\[" "\\]" "square").withChildren [.reference "nested"]]])]

theorem GrammarDefinition.build_otherBrackets : otherBrackets.build = .ok otherBrackets.built :=
  build_eq_ok_built (by decide +kernel)

/-- The set to start from is the second one here and the first one there. -/
theorem tokens_follow_references_brackets :
    let d₁ := GrammarDefinition.brackets
    let d₂ := GrammarDefinition.otherBrackets
    d₁.build = .ok .brackets ∧ d₂.build = .ok d₂.built ∧
      d₁.ruleSets.keys = ["groups", "main"] ∧ d₂.ruleSets.keys = ["all", "marks", "nested"] ∧
      Grammar.brackets.SameTokens d₂.built := by
  intro d₁ d₂
  let f : String → String := fun name => if name = "main" then "all" else "nested"
  have hkeys : d₁.ruleSets.keys = ["groups", "main"] := by decide +kernel
  have hnames : ∀ name, d₁.Reachable name → name = "groups" ∨ name = "main" := by
    intro name hname
    have hmem := hname.mem_keys GrammarDefinition.build_brackets
    rw [hkeys] at hmem
    simpa using hmem
  have hgroups : d₂.ruleSets.get? "nested" = (d₁.ruleSets.get? "groups").map (RuleDefinition.redirectAll f) := rfl
  have hmain : d₂.ruleSets.get? "all" = (d₁.ruleSets.get? "main").map (RuleDefinition.redirectAll f) := rfl
  refine ⟨GrammarDefinition.build_brackets, GrammarDefinition.build_otherBrackets, hkeys, by decide +kernel, ?_⟩
  refine tokens_follow_references GrammarDefinition.build_brackets GrammarDefinition.build_otherBrackets f rfl ?_ ?_
  · intro name name' hname hname' heq
    rcases hnames name hname with rfl | rfl <;> rcases hnames name' hname' with rfl | rfl <;> simp [f] at heq ⊢
  · intro name rules hname hget
    rcases hnames name hname with rfl | rfl
    · rw [hget] at hgroups
      exact hgroups
    · rw [hget] at hmain
      exact hmain

end Highlight
