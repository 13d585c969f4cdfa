import Highlight.Proofs.Builder

/-!
# The shape of built grammars

The arrays of a built grammar refer to each other only where there is something to refer to, and the rules inside rules
form trees (`Grammar.WellFormed`).

* **Rules by themselves** (`Rule.Fits`): a rule starts with a checked pattern, gives scopes to groups that its patterns
  have, and stands behind the rules inside it. Building only adds to the draft, and adds no other rules
  (`Built.extends_and_lt`).
* **Rules together** (`Built.ruleIds_perm`, `Built.patternIds_perm`): every rule stands in one list of entries, and every
  pattern in one rule. What is counted are the places where an index is used, before and after building.
-/

namespace Highlight

/-! ## Well-formed grammars -/

/-- The rules that stand in a list of entries themselves. -/
def ruleIds (items : List Item) : List Nat :=
  items.filterMap fun
    | .rule id => some id
    | .ruleSet _ => none

/-- The rule sets that a list of entries refers to. -/
def setIds (items : List Item) : List Nat :=
  items.filterMap fun
    | .rule _ => none
    | .ruleSet id => some id

@[simp] theorem ruleIds_nil : ruleIds [] = [] := rfl
@[simp] theorem ruleIds_rule (id : Nat) (items : List Item) : ruleIds (.rule id :: items) = id :: ruleIds items := rfl
@[simp] theorem ruleIds_ruleSet (id : Nat) (items : List Item) : ruleIds (.ruleSet id :: items) = ruleIds items := rfl
@[simp] theorem setIds_nil : setIds [] = [] := rfl
@[simp] theorem setIds_rule (id : Nat) (items : List Item) : setIds (.rule id :: items) = setIds items := rfl
@[simp] theorem setIds_ruleSet (id : Nat) (items : List Item) : setIds (.ruleSet id :: items) = id :: setIds items := rfl

namespace Rule

/-- The entries inside a rule. -/
def children : Rule → List Item
  | .single _ => []
  | .region r => r.children

/-- The patterns of a rule, each with the scopes of its groups. -/
def uses : Rule → List (Nat × Captures)
  | .single r => [(r.pattern, r.captures)]
  | .region r => [(r.opening, r.openingCaptures), (r.closing, r.closingCaptures)]

/-- The indices of the patterns of a rule. -/
def patternIds (rule : Rule) : List Nat := rule.uses.map (·.1)

/-- The rule with index `id` fits a grammar with so many rule sets and these patterns. -/
structure Fits (setCount : Nat) (patterns : Array Pattern) (id : Nat) (rule : Rule) : Prop where
  entry : ∃ source p, Pattern.compile source = .ok p ∧ p.canMatchEmpty = false ∧ patterns[rule.entry]? = some p
  uses : ∀ use ∈ rule.uses, ∃ p, patterns[use.1]? = some p ∧ (∀ c ∈ use.2, c.1 ≤ p.groups) ∧
    use.2.Pairwise fun a b => a.1 < b.1
  rules : ∀ child ∈ ruleIds rule.children, child < id
  sets : ∀ set ∈ setIds rule.children, set < setCount

end Rule

/-- All lists of entries of a grammar: those of the rule sets, and those inside the rules. -/
def Grammar.lists (g : Grammar) : List (List Item) := g.sets.toList.map RuleSet.items ++ g.rules.toList.map Rule.children

/-- The grammar refers only to what it has: the set to start from and the references are rule sets of it, every rule fits,
and every rule stands in exactly one list of entries, every pattern in exactly one place of one rule. -/
structure Grammar.WellFormed (g : Grammar) : Prop where
  root : g.root < g.sets.size
  references : ∀ items ∈ g.lists, ∀ set ∈ setIds items, set < g.sets.size
  fits : ∀ (id : Nat) (rule : Rule), g.rules[id]? = some rule → rule.Fits g.sets.size g.patterns id
  rules : (g.lists.flatMap ruleIds).Perm (List.range g.rules.size)
  patterns : (g.rules.toList.flatMap Rule.patternIds).Perm (List.range g.patterns.size)

/-! ## Rules by themselves -/

theorem Rule.Fits.mono {setCount id : Nat} {patterns patterns' : Array Pattern} {rule : Rule}
    (h : rule.Fits setCount patterns id)
    (hpatterns : ∀ (i : Nat) (p : Pattern), patterns[i]? = some p → patterns'[i]? = some p) :
    rule.Fits setCount patterns' id where
  entry := by
    obtain ⟨source, p, hcompile, hempty, hp⟩ := h.entry
    exact ⟨source, p, hcompile, hempty, hpatterns _ _ hp⟩
  uses use huse := by
    obtain ⟨p, hp, hgroups⟩ := h.uses use huse
    exact ⟨p, hpatterns _ _ hp, hgroups⟩
  rules := h.rules
  sets := h.sets

/-- A draft has the patterns and as many rules as an earlier one, and rules that are new fit it. -/
structure Draft.Extends (setCount : Nat) (d d' : Draft) : Prop where
  patterns : ∀ (id : Nat) (p : Pattern), d.patterns[id]? = some p → d'.patterns[id]? = some p
  size_le : d.rules.size ≤ d'.rules.size
  rules : ∀ (id : Nat) (rule : Rule), d'.rules[id]? = some rule →
    d.rules[id]? = some rule ∨ rule.Fits setCount d'.patterns id

namespace Draft.Extends

variable {setCount : Nat} {d d' d'' : Draft}

theorem refl (d : Draft) : Extends setCount d d := ⟨fun _ _ h => h, Nat.le_refl _, fun _ _ h => Or.inl h⟩

theorem trans (h : Extends setCount d d') (h' : Extends setCount d' d'') : Extends setCount d d'' where
  patterns id p hp := h'.patterns id p (h.patterns id p hp)
  size_le := Nat.le_trans h.size_le h'.size_le
  rules id rule hrule := by
    rcases h'.rules id rule hrule with hrule | hfits
    · rcases h.rules id rule hrule with hrule | hfits
      · exact Or.inl hrule
      · exact Or.inr (hfits.mono h'.patterns)
    · exact Or.inr hfits

theorem withPattern (d : Draft) (p : Pattern) : Extends setCount d (d.withPattern p) :=
  ⟨fun _ _ h => getElem?_push_of_eq_some h p, Nat.le_refl _, fun _ _ h => Or.inl h⟩

theorem withRule {rule : Rule} (h : rule.Fits setCount d.patterns d.rules.size) :
    Extends setCount d (d.withRule rule) where
  patterns _ _ hp := hp
  size_le := by simp
  rules id rule' hrule := by
    simp only [rules_withRule, Array.getElem?_push] at hrule
    split at hrule
    next hid =>
      cases hrule
      exact Or.inr (hid ▸ h)
    · exact Or.inl hrule

end Draft.Extends

/-- The scopes of groups stand in ascending order of the groups. -/
theorem CaptureScopes.pairwise_lt (scopes : CaptureScopes) : scopes.entries.Pairwise fun a b => a.1 < b.1 :=
  scopes.ascending.imp fun h => Nat.compare_eq_lt.1 h

namespace Built

variable {names : List String} {d d' : Draft} {rs : List RuleDefinition} {items : List Item}

theorem setIds_lt (h : Built names d rs items d') : ∀ set ∈ setIds items, set < names.length := by
  induction h with
  | nil => simp
  | reference hid _ ih =>
    simp only [setIds_ruleSet, List.forall_mem_cons]
    exact ⟨(List.findIdx?_eq_some_iff_getElem.1 hid).1, ih⟩
  | single _ _ _ ih => simpa using ih
  | region _ _ _ _ _ _ _ ih => simpa using ih

/-- **Building extends the draft** by rules that fit it, and the entries are rules of the new draft. -/
theorem extends_and_lt (h : Built names d rs items d') :
    Draft.Extends names.length d d' ∧ ∀ id ∈ ruleIds items, id < d'.rules.size := by
  induction h with
  | nil d => exact ⟨.refl d, by simp⟩
  | reference _ _ ih => simpa using ih
  | @single d d' source scope scopes p rs items hp hgroups _ ih =>
    have hfits : (Rule.single ⟨d.patterns.size, scope, scopes.entries⟩).Fits names.length
        (d.withPattern p).patterns (d.withPattern p).rules.size := by
      refine ⟨⟨source, p, hp.compile, hp.checked rfl, Array.getElem?_push_size⟩, ?_, by simp [Rule.children],
        by simp [Rule.children]⟩
      simp only [Rule.uses, List.forall_mem_singleton]
      exact ⟨p, Array.getElem?_push_size, hgroups, scopes.pairwise_lt⟩
    have hext := ((Draft.Extends.withPattern d p).trans (.withRule hfits)).trans ih.1
    refine ⟨hext, ?_⟩
    simp only [ruleIds_rule, List.forall_mem_cons]
    refine ⟨?_, ih.2⟩
    have := ih.1.size_le
    simp only [Draft.rules_withRule, Draft.rules_withPattern, Array.size_push] at this
    omega
  | @region d d₁ d' opening closing scope contentScope openingScopes closingScopes p q children rs inner items hp hq
      hopening hclosing hinner _ ihinner ih =>
    have hp₁ : d₁.patterns[d.patterns.size]? = some p :=
      ihinner.1.patterns _ _ (getElem?_push_of_eq_some Array.getElem?_push_size q)
    have hq₀ : ((d.withPattern p).withPattern q).patterns[(d.patterns.push p).size]? = some q := Array.getElem?_push_size
    rw [Array.size_push] at hq₀
    have hq₁ : d₁.patterns[d.patterns.size + 1]? = some q := ihinner.1.patterns _ _ hq₀
    have hfits : (Rule.region ⟨d.patterns.size, d.patterns.size + 1, scope, contentScope, openingScopes.entries,
        closingScopes.entries, inner⟩).Fits names.length d₁.patterns d₁.rules.size := by
      refine ⟨⟨opening, p, hp.compile, hp.checked rfl, hp₁⟩, ?_, ihinner.2, hinner.setIds_lt⟩
      simp only [Rule.uses, List.forall_mem_cons]
      exact ⟨⟨p, hp₁, hopening, openingScopes.pairwise_lt⟩, ⟨q, hq₁, hclosing, closingScopes.pairwise_lt⟩, by simp⟩
    have hpatterns : Draft.Extends names.length d ((d.withPattern p).withPattern q) :=
      .trans (.withPattern d p) (.withPattern _ q)
    refine ⟨((hpatterns.trans ihinner.1).trans (.withRule hfits)).trans ih.1, ?_⟩
    simp only [ruleIds_rule, List.forall_mem_cons]
    refine ⟨?_, ih.2⟩
    have := ih.1.size_le
    simp only [Draft.rules_withRule, Array.size_push] at this
    omega

end Built

/-! ## Rules together -/

namespace Draft

/-- The rules that stand inside rules. -/
def childIds (d : Draft) : List Nat := d.rules.toList.flatMap fun rule => ruleIds rule.children

/-- The patterns that stand in rules. -/
def patternIds (d : Draft) : List Nat := d.rules.toList.flatMap Rule.patternIds

@[simp] theorem childIds_withPattern (d : Draft) (p : Pattern) : (d.withPattern p).childIds = d.childIds := rfl
@[simp] theorem patternIds_withPattern (d : Draft) (p : Pattern) : (d.withPattern p).patternIds = d.patternIds := rfl

@[simp] theorem childIds_withRule (d : Draft) (rule : Rule) :
    (d.withRule rule).childIds = d.childIds ++ ruleIds rule.children := by
  simp [childIds]

@[simp] theorem patternIds_withRule (d : Draft) (rule : Rule) :
    (d.withRule rule).patternIds = d.patternIds ++ rule.patternIds := by
  simp [patternIds]

end Draft

namespace Built

variable {names : List String} {d d' : Draft} {rs : List RuleDefinition} {items : List Item}

/-- The places where rules stand, inside rules and in the entries that are built, grow by the rules that are new. -/
theorem ruleIds_perm (h : Built names d rs items d') :
    (d'.childIds ++ ruleIds items ++ List.range d.rules.size).Perm (d.childIds ++ List.range d'.rules.size) := by
  induction h with
  | nil d => simp
  | reference _ _ ih => exact ih
  | @single d d' source scope scopes p rs items _ _ _ ih =>
    rw [List.perm_iff_count] at ih ⊢
    intro id
    have := ih id
    simp only [Draft.childIds_withRule, Draft.childIds_withPattern, Draft.rules_withRule, Draft.rules_withPattern,
      Array.size_push, List.range_succ, Rule.children, ruleIds_nil, ruleIds_rule, List.count_append, List.count_cons,
      List.count_nil] at this ⊢
    omega
  | @region d d₁ d' opening closing scope contentScope openingScopes closingScopes p q children rs inner items _ _ _ _ _
      _ ihinner ih =>
    rw [List.perm_iff_count] at ihinner ih ⊢
    intro id
    have hinner := ihinner id
    have hrest := ih id
    simp only [Draft.childIds_withRule, Draft.childIds_withPattern, Draft.rules_withRule, Draft.rules_withPattern,
      Array.size_push, List.range_succ, Rule.children, ruleIds_rule, List.count_append, List.count_cons,
      List.count_nil] at hinner hrest ⊢
    omega

/-- The places where patterns stand grow by the patterns that are new. -/
theorem patternIds_perm (h : Built names d rs items d') :
    (d'.patternIds ++ List.range d.patterns.size).Perm (d.patternIds ++ List.range d'.patterns.size) := by
  induction h with
  | nil d => exact .refl _
  | reference _ _ ih => exact ih
  | single _ _ _ ih =>
    rw [List.perm_iff_count] at ih ⊢
    intro id
    have := ih id
    simp only [Draft.patternIds_withRule, Draft.patternIds_withPattern, Draft.patterns_withRule,
      Draft.patterns_withPattern, Array.size_push, List.range_succ, Rule.patternIds, Rule.uses, List.map_cons,
      List.map_nil, List.count_append, List.count_cons, List.count_nil] at this ⊢
    omega
  | region _ _ _ _ _ _ ihinner ih =>
    rw [List.perm_iff_count] at ihinner ih ⊢
    intro id
    have hinner := ihinner id
    have hrest := ih id
    simp only [Draft.patternIds_withRule, Draft.patternIds_withPattern, Draft.patterns_withRule,
      Draft.patterns_withPattern, Array.size_push, List.range_succ, Rule.patternIds, Rule.uses, List.map_cons,
      List.map_nil, List.count_append, List.count_cons, List.count_nil] at hinner hrest ⊢
    omega

end Built

/-! ## Built grammars -/

namespace BuiltSets

variable {names : List String} {d d' : Draft} {entries : List (String × List RuleDefinition)} {sets : List RuleSet}

theorem map_name (h : BuiltSets names d entries sets d') : sets.map RuleSet.name = entries.map (·.1) := by
  induction h with
  | nil => rfl
  | cons _ _ ih => simp [ih]

theorem extends_and_lt (h : BuiltSets names d entries sets d') :
    Draft.Extends names.length d d' ∧ ∀ s ∈ sets, ∀ set ∈ setIds s.items, set < names.length := by
  induction h with
  | nil d => exact ⟨.refl d, by simp⟩
  | cons hbuilt _ ih =>
    simp only [List.forall_mem_cons]
    exact ⟨hbuilt.extends_and_lt.1.trans ih.1, hbuilt.setIds_lt, ih.2⟩

theorem ruleIds_perm (h : BuiltSets names d entries sets d') :
    (d'.childIds ++ sets.flatMap (fun s => ruleIds s.items) ++ List.range d.rules.size).Perm
      (d.childIds ++ List.range d'.rules.size) := by
  induction h with
  | nil d => simp
  | cons hbuilt _ ih =>
    have hfirst := hbuilt.ruleIds_perm
    rw [List.perm_iff_count] at hfirst ih ⊢
    intro id
    have h₁ := hfirst id
    have h₂ := ih id
    simp only [List.count_append, List.flatMap_cons] at h₁ h₂ ⊢
    omega

theorem patternIds_perm (h : BuiltSets names d entries sets d') :
    (d'.patternIds ++ List.range d.patterns.size).Perm (d.patternIds ++ List.range d'.patterns.size) := by
  induction h with
  | nil d => exact .refl _
  | cons hbuilt _ ih =>
    have hfirst := hbuilt.patternIds_perm
    rw [List.perm_iff_count] at hfirst ih ⊢
    intro id
    have h₁ := hfirst id
    have h₂ := ih id
    simp only [List.count_append] at h₁ h₂ ⊢
    omega

end BuiltSets

namespace GrammarDefinition.Makes

variable {d : GrammarDefinition} {g : Grammar}

theorem size_sets (h : d.Makes g) : g.sets.size = d.ruleSets.keys.length := by
  have := congrArg List.length h.sets.map_name
  simpa [Table.keys] using this

/-- **A built grammar is well-formed.** -/
theorem wellFormed (h : d.Makes g) : g.WellFormed := by
  obtain ⟨hext, hlt⟩ := h.sets.extends_and_lt
  have hfits : ∀ (id : Nat) (rule : Rule), g.rules[id]? = some rule → rule.Fits g.sets.size g.patterns id := by
    intro id rule hrule
    rw [h.size_sets]
    rcases hext.rules id rule hrule with hnone | hfits
    · simp at hnone
    · exact hfits
  refine ⟨?_, ?_, hfits, ?_, ?_⟩
  · rw [h.size_sets]
    exact (List.findIdx?_eq_some_iff_getElem.1 h.root).1
  · intro items hitems
    simp only [Grammar.lists, List.mem_append, List.mem_map] at hitems
    rcases hitems with ⟨s, hs, rfl⟩ | ⟨rule, hrule, rfl⟩
    · rw [h.size_sets]
      exact hlt s hs
    · obtain ⟨id, hid⟩ := List.getElem?_of_mem hrule
      exact (hfits id rule (by simpa using hid)).sets
  · have hperm := h.sets.ruleIds_perm
    simp only [Draft.childIds, List.flatMap_nil, List.nil_append, Array.size_empty, List.range_zero, List.append_nil] at hperm
    simp only [Grammar.lists, List.flatMap_append, List.flatMap_map]
    exact List.perm_append_comm.trans hperm
  · simpa [Draft.patternIds] using h.sets.patternIds_perm

end GrammarDefinition.Makes

/-- The grammar that a definition is built into, where there is one. -/
def GrammarDefinition.built (d : GrammarDefinition) : Grammar :=
  match d.build with
  | .ok g => g
  | .error _ => default

theorem GrammarDefinition.build_eq_ok_built {d : GrammarDefinition} (h : d.build.toOption.isSome = true) :
    d.build = .ok d.built := by
  unfold built
  cases hbuild : d.build with
  | ok g => rfl
  | error e => simp [hbuild, Except.toOption] at h

/-- Brackets inside brackets. The two sets refer to each other in a circle, `main` also to itself and twice to the other. -/
def GrammarDefinition.brackets : GrammarDefinition where
  name := "brackets"
  root := "main"
  ruleSets := Table.ofList [
    ("main", [.reference "main", .reference "groups", .ofPattern "x" (some "letter"), .reference "groups"]),
    ("groups", [((RuleDefinition.ofRegion "(\\()" "\\)|$" "round").withCapture 1 "mark").withChildren [
      .reference "main", (RuleDefinition.ofRegion "\\[" "\\]" "square").withChildren [.reference "groups"]]])]

/-- The grammar of brackets inside brackets. -/
def Grammar.brackets : Grammar :=
  match GrammarDefinition.brackets.build with
  | .ok g => g
  | .error _ => default

theorem GrammarDefinition.build_brackets : brackets.build = .ok .brackets := build_eq_ok_built (by decide +kernel)

/-- Every rule of a built grammar starts with a compiled pattern that was not found to match the empty text. -/
theorem GrammarDefinition.entries_build {d : GrammarDefinition} {g : Grammar} (h : d.build = .ok g) :
    ∀ rule ∈ g.rules, ∃ source p, Pattern.compile source = .ok p ∧ p.canMatchEmpty = false ∧
      g.patterns[rule.entry]? = some p := by
  intro rule hrule
  obtain ⟨id, hid⟩ := Array.getElem?_of_mem hrule
  exact ((makes_of_build h).wellFormed.fits id rule hid).entry

end Highlight
