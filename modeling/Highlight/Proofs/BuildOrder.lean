import Highlight.Proofs.ReadBack

/-!
# The order of rule sets

A grammar is built from a table of rule sets, so nothing is left of the order in which they were given
(`build_ignores_order`).

* **Last rules** (`SameLast`): of the lists given for one name the last one counts. Lists of rule sets that agree on it
  fill the same table (`SameLast.ofList_eq`). They do so when one is the other with different names in another order
  (`sameLast_of_perm`), or without an entry that a later one replaces (`sameLast_of_replaced`).
* **Index** (`GrammarDefinition.Makes.setId?_eq`): a rule set is found under its name at the place that references to it
  were given.
-/

namespace Highlight

/-! ## Last rules -/

/-- The lists agree on the rules that were given last for each name. -/
def SameLast (sets sets' : List (String × List RuleDefinition)) : Prop :=
  ∀ name, sets.reverse.lookup name = sets'.reverse.lookup name

section SameLast

variable {sets sets' : List (String × List RuleDefinition)}

theorem SameLast.ofList_eq (h : SameLast sets sets') : Table.ofList sets' = Table.ofList sets := by
  refine Table.ext_get? fun name => ?_
  rw [Table.get?_ofList, Table.get?_ofList, h name]

theorem sameLast_of_perm (hperm : sets.Perm sets') (hnodup : (sets.map (·.1)).Nodup) : SameLast sets sets' := by
  intro name
  have hreverse : sets.reverse.Perm sets'.reverse :=
    sets.reverse_perm.trans (hperm.trans sets'.reverse_perm.symm)
  refine lookup_eq_of_perm hreverse ?_ name
  exact ((sets'.reverse_perm.trans hperm.symm).map _).nodup_iff.2 hnodup

/-- An entry counts for nothing if a later one has its name. -/
theorem sameLast_of_replaced {before after : List (String × List RuleDefinition)} {set : String}
    (rules : List RuleDefinition) (h : set ∈ after.map (·.1)) :
    SameLast (before ++ (set, rules) :: after) (before ++ after) := by
  intro name
  simp only [List.reverse_append, List.reverse_cons, List.append_assoc, List.lookup_append, List.singleton_append,
    List.lookup_cons]
  rcases eq_or_ne name set with rfl | hne
  · have hlater : (after.reverse.lookup name).isSome = true := by
      obtain ⟨e, he, rfl⟩ := List.mem_map.1 h
      rw [← Option.ne_none_iff_isSome]
      intro hnone
      simpa using List.lookup_eq_none_iff.1 hnone e (List.mem_reverse.2 he)
    obtain ⟨later, hlater⟩ := Option.isSome_iff_exists.1 hlater
    rw [hlater, Option.some_or, Option.some_or]
  · rw [beq_false_of_ne hne]

end SameLast

/-! ## Definitions that are filled step by step -/

theorem GrammarDefinition.foldl_withRuleSet (name root : String) (sets : List (String × List RuleDefinition)) :
    sets.foldl (fun d s => d.withRuleSet s.1 s.2) (ofRoot name root) =
      { name, root, ruleSets := Table.ofList sets } := by
  have hfold : ∀ d : GrammarDefinition, sets.foldl (fun d s => d.withRuleSet s.1 s.2) d =
      { d with ruleSets := sets.foldl (fun t s => t.insert s.1 s.2) d.ruleSets } := by
    induction sets with
    | nil =>
      intro d
      rfl
    | cons s sets ih =>
      intro d
      rw [List.foldl_cons, List.foldl_cons, ih]
      rfl
  exact hfold (ofRoot name root)

/-! ## Index -/

namespace GrammarDefinition

variable {d : GrammarDefinition} {g : Grammar}

/-- A rule set is found under its name where the builder placed it. -/
theorem Makes.setId?_eq (h : d.Makes g) (name : String) : g.setId? name = d.ruleSets.keys.idxOf? name := by
  have hlist : g.setId? name = g.sets.toList.findIdx? (·.name == name) := by
    rw [Grammar.setId?, ← List.findIdx?_toArray, Array.toArray_toList]
  rw [hlist, ← h.map_name, List.idxOf?, List.findIdx?_map]
  rfl

theorem idxOf?_keys_eq_some_iff (d : GrammarDefinition) {name : String} {i : Nat} :
    d.ruleSets.keys.idxOf? name = some i ↔ d.ruleSets.keys[i]? = some name := by
  refine ⟨getElem?_of_idxOf?, fun h => ?_⟩
  obtain ⟨hi, hname⟩ := List.getElem?_eq_some_iff.1 h
  obtain ⟨j, hj⟩ := Option.isSome_iff_exists.1 (List.isSome_idxOf?.2 (List.mem_of_getElem? h))
  obtain ⟨hj', hname'⟩ := List.getElem?_eq_some_iff.1 (getElem?_of_idxOf? hj)
  rw [hj, d.ruleSets.nodup_keys.getElem_inj_iff.1 (hname'.trans hname.symm)]

theorem Makes.setId?_eq_some_iff (h : d.Makes g) {name : String} {i : Nat} :
    g.setId? name = some i ↔ ∃ set, g.sets[i]? = some set ∧ set.name = name := by
  rw [h.setId?_eq, idxOf?_keys_eq_some_iff, ← h.map_name]
  simp

/-- Sorting the names changes nothing. -/
theorem Makes.ruleSetNames_eq (h : d.Makes g) : g.ruleSetNames = g.sets.toList.map (·.name) := by
  refine List.mergeSort_of_pairwise ?_
  rw [h.map_name]
  refine List.pairwise_map.2 (d.ruleSets.ascending.imp fun {a b} hlt => ?_)
  exact decide_eq_true (compare_lt_iff_lt.1 hlt).le

theorem Makes.ruleSet?_eq_some_iff (h : d.Makes g) {name : String} {set : RuleSet} :
    g.ruleSet? name = some set ↔ set ∈ g.sets ∧ set.name = name := by
  rw [Grammar.ruleSet?, Option.bind_eq_some_iff]
  constructor
  · rintro ⟨i, hi, hset⟩
    obtain ⟨set', hset', hname⟩ := h.setId?_eq_some_iff.1 hi
    obtain rfl := Option.some.inj (hset.symm.trans hset')
    exact ⟨Array.mem_of_getElem? hset, hname⟩
  · rintro ⟨hmem, hname⟩
    obtain ⟨i, hi⟩ := Array.getElem?_of_mem hmem
    exact ⟨i, h.setId?_eq_some_iff.2 ⟨set, hi, hname⟩, hi⟩

end GrammarDefinition

/-- **The order of rule sets** makes no difference. Lists that agree on the rules given last for each name are built
into the same grammar, with the same indices, or have the same first fault: so are those in another order, if the names
are different, and those without an entry that is replaced. A definition that is filled by the same entries is built
into it as well. In the grammar the names ascend by their bytes, and the index of a name, which is also the one that
references to it have, is the place of the set with that name. -/
theorem build_ignores_order (name root : String) (sets : List (String × List RuleDefinition)) :
    (∀ sets', SameLast sets sets' →
      Grammar.ofNamedRuleSets name sets' root = Grammar.ofNamedRuleSets name sets root) ∧
    (∀ sets', sets.Perm sets' → (sets.map (·.1)).Nodup →
      Grammar.ofNamedRuleSets name sets' root = Grammar.ofNamedRuleSets name sets root) ∧
    (∀ before set rules after, sets = before ++ (set, rules) :: after → set ∈ after.map (·.1) →
      Grammar.ofNamedRuleSets name (before ++ after) root = Grammar.ofNamedRuleSets name sets root) ∧
    (sets.foldl (fun d s => d.withRuleSet s.1 s.2) (GrammarDefinition.ofRoot name root)).build =
      Grammar.ofNamedRuleSets name sets root ∧
    ∀ g, Grammar.ofNamedRuleSets name sets root = .ok g →
      ((g.sets.toList.map (·.name)).Pairwise fun a b => utf8 a < utf8 b) ∧
      g.ruleSetNames = g.sets.toList.map (·.name) ∧
      (∀ set i, g.setId? set = some i ↔ ∃ s, g.sets[i]? = some s ∧ s.name = set) ∧
      (∀ set s, g.ruleSet? set = some s ↔ s ∈ g.sets ∧ s.name = set) ∧
      ∀ set, (Table.ofList sets).keys.idxOf? set = g.setId? set := by
  have hsame : ∀ sets', SameLast sets sets' →
      Grammar.ofNamedRuleSets name sets' root = Grammar.ofNamedRuleSets name sets root := by
    intro sets' h
    rw [Grammar.ofNamedRuleSets, Grammar.ofNamedRuleSets, h.ofList_eq]
  refine ⟨hsame, fun sets' hperm hnodup => hsame sets' (sameLast_of_perm hperm hnodup), ?_, ?_, ?_⟩
  · rintro before set rules after rfl hlater
    exact hsame _ (sameLast_of_replaced rules hlater)
  · rw [GrammarDefinition.foldl_withRuleSet, Grammar.ofNamedRuleSets]
  · intro g hbuild
    have hmakes := GrammarDefinition.makes_of_build hbuild
    refine ⟨?_, hmakes.ruleSetNames_eq, fun set i => hmakes.setId?_eq_some_iff,
      fun set s => hmakes.ruleSet?_eq_some_iff, fun set => (hmakes.setId?_eq set).symm⟩
    rw [hmakes.map_name]
    exact Table.pairwise_utf8_lt _

/-- Rule sets in two orders, in the first of which the set `é` is given twice. Its name comes last by its bytes. -/
theorem build_ignores_order_replaced :
    let main : String × List RuleDefinition := ("main", [.reference "é", .ofPattern "x" none])
    let late : String × List RuleDefinition := ("é", [.ofRegion "<" ">" "tag"])
    let sets := [("é", [.reference "nowhere"]), late, main]
    SameLast sets [main, late] ∧ [late, main].Perm [main, late] ∧
      Grammar.ofNamedRuleSets "g" [main, late] "main" = Grammar.ofNamedRuleSets "g" sets "main" ∧
      Grammar.ofNamedRuleSets "g" [main, late] "main" = Grammar.ofNamedRuleSets "g" [late, main] "main" ∧
      Grammar.ofNamedRuleSets "g" [late, main] "main" = Grammar.ofNamedRuleSets "g" sets "main" ∧
      ∃ g, Grammar.ofNamedRuleSets "g" sets "main" = .ok g ∧ g.rules.size = 2 ∧ g.setId? "é" = some 1 ∧
        ∃ s, g.sets[1]? = some s ∧ s.name = "é" := by
  intro main late sets
  obtain ⟨hsame, -, hreplaced, -, hbuilt⟩ := build_ignores_order "g" "main" sets
  obtain ⟨-, hperm, -⟩ := build_ignores_order "g" "main" [late, main]
  have hdrop : Grammar.ofNamedRuleSets "g" [late, main] "main" = Grammar.ofNamedRuleSets "g" sets "main" :=
    hreplaced [] "é" [.reference "nowhere"] [late, main] rfl (by decide)
  have hswap : [late, main].Perm [main, late] := .swap ..
  have hlast : SameLast sets [main, late] := by
    have hlate : SameLast ([] ++ ("é", [.reference "nowhere"]) :: [late, main]) ([] ++ [late, main]) :=
      sameLast_of_replaced _ (by decide)
    exact fun name => (hlate name).trans (sameLast_of_perm hswap (by decide) name)
  let d : GrammarDefinition := ⟨"g", "main", Table.ofList sets⟩
  have hok : Grammar.ofNamedRuleSets "g" sets "main" = .ok d.built :=
    GrammarDefinition.build_eq_ok_built (by decide +kernel)
  have hplace : d.built.setId? "é" = some 1 := by decide +kernel
  obtain ⟨-, -, hindex, -⟩ := hbuilt _ hok
  exact ⟨hlast, hswap, hsame _ hlast, hperm _ hswap (by decide), hdrop, _, hok, by decide +kernel, hplace,
    (hindex "é" 1).1 hplace⟩

end Highlight
