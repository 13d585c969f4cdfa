import Highlight.Proofs.Builder
import Highlight.Proofs.Tables

/-!
# The first fault

A definition without faults is built, and of one with faults the first is reported
(`build_reports_first_fault`). The rule sets are checked in the order of the bytes of their names, whatever order they
were given in, and the last list of rules given for a name counts. A fault inside of regions, at any depth, names the rule
set that the outermost of them is written in.
-/

namespace Highlight

theorem ruleSet_of_mem_patternFaults {set source : String} {mayBeEmpty : Bool} {e : GrammarError}
    (h : e ∈ patternFaults set mayBeEmpty source) : e.ruleSet = set := by
  unfold patternFaults at h
  split at h
  · obtain rfl := List.mem_singleton.1 h
    rfl
  · split at h
    · obtain rfl := List.mem_singleton.1 h
      rfl
    · cases h

theorem ruleSet_of_mem_captureFaults {set source : String} {scopes : CaptureScopes} {e : GrammarError}
    (h : e ∈ captureFaults set source scopes) : e.ruleSet = set := by
  unfold captureFaults at h
  split at h
  · cases h
  · obtain ⟨entry, -, rfl⟩ := List.mem_map.1 h
    rfl

/-- The faults of a rule name the set that it was looked at in. -/
theorem RuleDefinition.ruleSet_of_mem_ownFaults {names : List String} {set : String} {e : GrammarError} :
    ∀ {r : RuleDefinition}, e ∈ r.ownFaults names set → e.ruleSet = set
  | .reference name, h => by
    simp only [ownFaults] at h
    split at h
    · cases h
    · obtain rfl := List.mem_singleton.1 h
      rfl
  | .single .., h => by
    simp only [ownFaults, List.mem_append] at h
    exact h.elim ruleSet_of_mem_patternFaults ruleSet_of_mem_captureFaults
  | .region .., h => by
    simp only [ownFaults, List.mem_append] at h
    rcases h with h | h | h | h
    · exact ruleSet_of_mem_patternFaults h
    · exact ruleSet_of_mem_patternFaults h
    · exact ruleSet_of_mem_captureFaults h
    · exact ruleSet_of_mem_captureFaults h

namespace GrammarDefinition

theorem build_eq_ok_iff (d : GrammarDefinition) : (∃ g, d.build = .ok g) ↔ d.faults = [] := by
  have houtcome := d.build_outcome
  cases hfaults : d.faults with
  | nil =>
    rw [hfaults] at houtcome
    obtain ⟨g, hbuild, -⟩ := houtcome
    exact ⟨fun _ => rfl, fun _ => ⟨g, hbuild⟩⟩
  | cons e es =>
    rw [hfaults] at houtcome
    simp [show d.build = .error e from houtcome]

theorem build_eq_error_iff (d : GrammarDefinition) (e : GrammarError) :
    d.build = .error e ↔ d.faults.head? = some e := by
  have houtcome := d.build_outcome
  cases hfaults : d.faults with
  | nil =>
    rw [hfaults] at houtcome
    obtain ⟨g, hbuild, -⟩ := houtcome
    simp [hbuild]
  | cons e' es =>
    rw [hfaults] at houtcome
    simp [show d.build = .error e' from houtcome]

/-- A definition has no faults if it has the set to start from and the rules of its sets have none. -/
theorem faults_eq_nil_iff (d : GrammarDefinition) : d.faults = [] ↔ d.root ∈ d.ruleSets.keys ∧
    ∀ name rules, d.ruleSets.get? name = some rules → RuleDefinition.faults d.ruleSets.keys name rules = [] := by
  simp only [faults, List.append_eq_nil_iff, List.flatMap_eq_nil_iff, ite_eq_left_iff, List.cons_ne_nil, imp_false,
    not_not, ← Table.mem_entries_iff, Prod.forall]

end GrammarDefinition

/-- **Validation** is exact and reports the first fault. The faults are listed by rule sets in the order of the bytes of
their names, of each name the rules that were given last, and each names the set that it is written in. -/
theorem build_reports_first_fault (name root : String) (sets : List (String × List RuleDefinition)) :
    let d : GrammarDefinition := { name, root, ruleSets := Table.ofList sets }
    ((∃ g, d.build = .ok g) ↔ d.faults = []) ∧
      (∀ e, d.build = .error e ↔ d.faults.head? = some e) ∧
      (d.ruleSets.keys.Pairwise fun a b => utf8 a < utf8 b) ∧
      (∀ set rules, (set, rules) ∈ d.ruleSets.entries ↔ sets.reverse.lookup set = some rules) ∧
      ∀ s ∈ d.ruleSets.entries, ∀ r ∈ RuleDefinition.flattenAll s.2, ∀ e ∈ r.ownFaults d.ruleSets.keys s.1,
        e.ruleSet = s.1 := by
  intro d
  refine ⟨d.build_eq_ok_iff, d.build_eq_error_iff, d.ruleSets.pairwise_utf8_lt, fun set rules => ?_,
    fun s _ r _ e he => RuleDefinition.ruleSet_of_mem_ownFaults he⟩
  rw [Table.mem_entries_iff, Table.get?_ofList]

-- The set `a` comes before `b`, although it was given later, and the fault of the region before those inside it.
example :
    let region := (RuleDefinition.ofRegion "<" ">" "s").withCapture 1 "t"
    let sets : List (String × List RuleDefinition) :=
      [("b", [.reference "d"]), ("a", []), ("a", [region.withChildren [.reference "c", .ofPattern "x*" none]])]
    GrammarDefinition.faults { name := "g", root := "a", ruleSets := Table.ofList sets } =
      [.invalidPattern "a" "<" (.missingGroup 1 0), .unresolvedReference "a" "c", .emptyPattern "a" "x*",
        .unresolvedReference "b" "d"] := by
  decide +kernel

end Highlight
