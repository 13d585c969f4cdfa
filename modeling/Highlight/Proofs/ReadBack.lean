import Highlight.Proofs.Spelling

/-!
# Reading a grammar back

Building takes a definition apart: the rules of all sets come into one array, each after the rules inside it, and the
patterns into another, in the order in which they are compiled. Nothing is lost on the way.

* **Entries** (`Grammar.readItems?`, `Grammar.Spells.readItems?_eq`): the rules that entries were built from can be put
  together again by following the indices. Rules inside a rule have smaller indices, so that comes to an end.
* **Sizes** (`Built.sizes`): building adds a rule for each rule that is no reference, one pattern for each match rule
  and two for each region.

So a grammar determines the definition it was built from (`definition_is_read_back`).
-/

namespace Highlight

/-! ## Reading back -/

namespace Grammar

/-- The rules that entries stand for, if all indices are in range. Of rules, those below `bound` are read, and of the
rules inside a rule those below the rule itself. -/
def readItems? (g : Grammar) : Nat → List Item → Option (List RuleDefinition)
  | _, [] => some []
  | bound, .ruleSet id :: items => do
    let set ← g.sets[id]?
    let rest ← readItems? g bound items
    return .reference set.name :: rest
  | bound, .rule id :: items =>
    if id < bound then
      match g.rules[id]? with
      | some (.single r) => do
        let pattern ← g.patterns[r.pattern]?
        let rest ← readItems? g bound items
        return .single pattern.source r.scope (Table.ofList r.captures) :: rest
      | some (.region r) => do
        let opening ← g.patterns[r.opening]?
        let closing ← g.patterns[r.closing]?
        let children ← readItems? g id r.children
        let rest ← readItems? g bound items
        return .region opening.source closing.source r.scope r.contentScope (Table.ofList r.openingCaptures)
          (Table.ofList r.closingCaptures) children :: rest
      | none => none
    else none
termination_by bound items => (bound, items.length)

/-- A rule set under its name, with the rules that its entries stand for. -/
def readSet? (g : Grammar) (set : RuleSet) : Option (String × List RuleDefinition) :=
  (g.readItems? g.rules.size set.items).map (set.name, ·)

/-- The definition that a grammar was built from, if all its indices are in range. -/
def readBack? (g : Grammar) : Option GrammarDefinition := do
  let root ← g.sets[g.root]?
  let ruleSets ← g.sets.toList.mapM g.readSet?
  return { name := g.name, root := root.name, ruleSets := Table.ofList ruleSets }

end Grammar

/-! ## Entries -/

theorem Pattern.source_of_compile {source : String} {p : Pattern} (h : compile source = .ok p) : p.source = source := by
  unfold compile at h
  cases hread : read source with
  | error e => simp [hread, bind, Except.bind] at h
  | ok e =>
    simp only [hread, bind, Except.bind] at h
    split at h
    · cases h
      rfl
    · cases h

theorem CaptureScopes.ofList_entries (scopes : CaptureScopes) : Table.ofList scopes.entries = scopes :=
  Table.ofList_of_perm (.refl _)

namespace Grammar

variable {g : Grammar} {names : List String}

/-- **Entries** are read back as the rules that they spell. -/
theorem Spells.readItems?_eq (hg : g.WellFormed) (hnames : g.sets.toList.map RuleSet.name = names) {items : List Item}
    {rs : List RuleDefinition} (h : g.Spells names items rs) :
    ∀ {bound : Nat}, (∀ id ∈ ruleIds items, id < bound) → g.readItems? bound items = some rs := by
  induction h with
  | nil => simp [readItems?]
  | @reference name id items rs hid _ ih =>
    intro bound hbound
    obtain ⟨set, hset, rfl⟩ : ∃ set, g.sets[id]? = some set ∧ set.name = name := by
      simpa [← hnames] using getElem?_of_idxOf? hid
    simp [readItems?, hset, ih hbound]
  | single hrule hp hcompile _ ih =>
    intro bound hbound
    simp only [ruleIds_rule, List.forall_mem_cons] at hbound
    simp [readItems?, hbound.1, hrule, hp, ih hbound.2, Pattern.source_of_compile hcompile,
      CaptureScopes.ofList_entries]
  | region hrule hp hcompilep hq hcompileq _ _ ihchildren ih =>
    intro bound hbound
    simp only [ruleIds_rule, List.forall_mem_cons] at hbound
    simp [readItems?, hbound.1, hrule, hp, hq, ihchildren (hg.fits _ _ hrule).rules, ih hbound.2,
      Pattern.source_of_compile hcompilep, Pattern.source_of_compile hcompileq, CaptureScopes.ofList_entries]

/-- Rule sets are read back as the named rules that they were built from. -/
theorem mapM_readSet? (hg : g.WellFormed) (hnames : g.sets.toList.map RuleSet.name = names) {sets : List RuleSet}
    {entries : List (String × List RuleDefinition)}
    (h : List.Forall₂ (fun e s => g.Spells names s.items e.2) entries sets) (hsets : sets ⊆ g.sets.toList)
    (hkeys : sets.map RuleSet.name = entries.map (·.1)) : sets.mapM g.readSet? = some entries := by
  induction h with
  | nil => rfl
  | @cons e set entries sets hspells _ ih =>
    obtain ⟨hmem, hrest⟩ := List.cons_subset.1 hsets
    obtain ⟨hname, hnames'⟩ := List.cons.inj hkeys
    have hlist : set.items ∈ g.lists := List.mem_append_left _ (List.mem_map_of_mem hmem)
    have hbound : ∀ id ∈ ruleIds set.items, id < g.rules.size := fun id hid =>
      List.mem_range.1 (hg.rules.subset (List.mem_flatMap.2 ⟨set.items, hlist, hid⟩))
    rw [List.mapM_cons, ih hrest hnames', readSet?, hspells.readItems?_eq hg hnames hbound, hname]
    rfl

end Grammar

namespace GrammarDefinition

variable {d : GrammarDefinition} {g : Grammar}

theorem Makes.map_name (h : d.Makes g) : g.sets.toList.map RuleSet.name = d.ruleSets.keys := h.sets.map_name

/-- The set to start from has the name that was given. -/
theorem Makes.root_name (h : d.Makes g) : ∃ set, g.sets[g.root]? = some set ∧ set.name = d.root := by
  simpa [← h.map_name] using getElem?_of_idxOf? h.root

/-- **A built grammar** is read back as the definition it was built from. -/
theorem Makes.readBack?_eq (h : d.Makes g) : g.readBack? = some d := by
  have hspells := Grammar.spells_of_builtSets h.sets ⟨fun _ _ hr => hr, fun _ _ hp => hp⟩
  have hsets := Grammar.mapM_readSet? h.wellFormed h.map_name hspells (List.Subset.refl _) h.map_name
  obtain ⟨root, hroot, hname⟩ := h.root_name
  have hentries : Table.ofList d.ruleSets.entries = d.ruleSets := Table.ofList_of_perm (.refl _)
  simp [Grammar.readBack?, hroot, hsets, h.name, hname, hentries]

end GrammarDefinition

/-! ## Sizes -/

namespace RuleDefinition

def isSingle : RuleDefinition → Bool
  | .single .. => true
  | _ => false

def isRegion : RuleDefinition → Bool
  | .region .. => true
  | _ => false

end RuleDefinition

namespace GrammarDefinition

/-- How many match rules the definition has, at any depth. -/
def singleCount (d : GrammarDefinition) : Nat := d.allRules.countP RuleDefinition.isSingle

/-- How many regions the definition has, at any depth. -/
def regionCount (d : GrammarDefinition) : Nat := d.allRules.countP RuleDefinition.isRegion

end GrammarDefinition

/-- **Building** adds a rule for each match rule and each region, one pattern for the former and two for the latter. -/
theorem Built.sizes {names : List String} {d d' : Draft} {rs : List RuleDefinition} {items : List Item}
    (h : Built names d rs items d') :
    let all := RuleDefinition.flattenAll rs
    d'.rules.size = d.rules.size + all.countP RuleDefinition.isSingle + all.countP RuleDefinition.isRegion ∧
      d'.patterns.size =
        d.patterns.size + all.countP RuleDefinition.isSingle + 2 * all.countP RuleDefinition.isRegion := by
  induction h with
  | nil => simp [RuleDefinition.flattenAll]
  | reference _ _ ih =>
    simpa [RuleDefinition.flattenAll, RuleDefinition.flatten, RuleDefinition.isSingle, RuleDefinition.isRegion] using ih
  | single _ _ _ ih =>
    simp only [RuleDefinition.flattenAll, RuleDefinition.flatten, RuleDefinition.isSingle, RuleDefinition.isRegion,
      List.countP_append, List.countP_cons, List.countP_nil, Draft.rules_withRule, Draft.rules_withPattern,
      Draft.patterns_withRule, Draft.patterns_withPattern, Array.size_push] at ih ⊢
    simp only [↓reduceIte, Bool.false_eq_true]
    omega
  | region _ _ _ _ _ _ ihchildren ih =>
    simp only [RuleDefinition.flattenAll, RuleDefinition.flatten, RuleDefinition.isSingle, RuleDefinition.isRegion,
      List.countP_append, List.countP_cons, Draft.rules_withRule, Draft.rules_withPattern, Draft.patterns_withRule,
      Draft.patterns_withPattern, Array.size_push] at ihchildren ih ⊢
    simp only [↓reduceIte, Bool.false_eq_true]
    omega

theorem BuiltSets.sizes {names : List String} {d d' : Draft} {entries : List (String × List RuleDefinition)}
    {sets : List RuleSet} (h : BuiltSets names d entries sets d') :
    let all := entries.flatMap fun s => RuleDefinition.flattenAll s.2
    d'.rules.size = d.rules.size + all.countP RuleDefinition.isSingle + all.countP RuleDefinition.isRegion ∧
      d'.patterns.size =
        d.patterns.size + all.countP RuleDefinition.isSingle + 2 * all.countP RuleDefinition.isRegion := by
  induction h with
  | nil => simp
  | cons hbuilt _ ih =>
    have hfirst := hbuilt.sizes
    simp only [List.flatMap_cons, List.countP_append] at hfirst ih ⊢
    omega

/-- **Building loses nothing.** The definition can be read back from the grammar that it is built into: its name, the
set to start from and, under their names, the rules of all sets. The grammar has a rule for each match rule and each
region at any depth, one pattern for the former and two for the latter. And no other definition is built into it. -/
theorem definition_is_read_back {d : GrammarDefinition} {g : Grammar} (h : d.build = .ok g) :
    g.readBack? = some d ∧ g.rootName = d.root ∧
      g.rules.size = d.singleCount + d.regionCount ∧ g.patterns.size = d.singleCount + 2 * d.regionCount ∧
      ∀ d' : GrammarDefinition, d'.build = .ok g → d' = d := by
  have hmakes := GrammarDefinition.makes_of_build h
  obtain ⟨hrules, hpatterns⟩ := hmakes.sets.sizes
  obtain ⟨root, hroot, hname⟩ := hmakes.root_name
  refine ⟨hmakes.readBack?_eq, ?_, ?_, ?_, fun d' h' => ?_⟩
  · simp [Grammar.rootName, hroot, hname]
  · simpa [GrammarDefinition.singleCount, GrammarDefinition.regionCount, GrammarDefinition.allRules] using hrules
  · simpa [GrammarDefinition.singleCount, GrammarDefinition.regionCount, GrammarDefinition.allRules] using hpatterns
  · have hread := (GrammarDefinition.makes_of_build h').readBack?_eq
    exact Option.some.inj (hread.symm.trans hmakes.readBack?_eq)

/-- Three rules and five patterns: a letter, and two kinds of brackets, one inside of the other. -/
theorem definition_is_read_back_brackets :
    let d := GrammarDefinition.brackets
    d.build = .ok .brackets ∧ Grammar.brackets.readBack? = some d ∧ d.singleCount = 1 ∧ d.regionCount = 2 ∧
      Grammar.brackets.rules.size = 3 ∧ Grammar.brackets.patterns.size = 5 := by
  intro d
  obtain ⟨hread, -, hrules, hpatterns, -⟩ := definition_is_read_back GrammarDefinition.build_brackets
  have hsingle : d.singleCount = 1 := by decide +kernel
  have hregion : d.regionCount = 2 := by decide +kernel
  rw [hsingle, hregion] at hrules hpatterns
  exact ⟨GrammarDefinition.build_brackets, hread, hsingle, hregion, hrules, hpatterns⟩

end Highlight
