import Highlight.Proofs.Alike
import Highlight.Proofs.Spelling

/-!
# Definitions that correspond

Two definitions correspond if their rules do, set by set, where the names of rule sets may differ and a reference may be
written out (`GrammarDefinition.Alike`). What they are built into is alike then, whatever the indices are
(`GrammarDefinition.Alike.makes`), so the two grammars cut every text into the same tokens
(`GrammarDefinition.Alike.sameTokens`).
-/

namespace Highlight

/-- A rule set refers to another among its own rules; references inside of regions do not count. -/
def GrammarDefinition.Includes (d : GrammarDefinition) (name name' : String) : Prop :=
  ∃ rules, d.ruleSets.get? name = some rules ∧ .reference name' ∈ rules

/-- Two lists of rules are alike: rules in the same order with the same patterns and, up to a function on their names,
the same scopes. `N` says which names of rule sets correspond; and a set of `d` that does not include itself may be
written out where it is referred to. -/
inductive RuleDefinition.Alike (d : GrammarDefinition) (f : String → String) (N : String → String → Prop) :
    List RuleDefinition → List RuleDefinition → Prop
  | nil : Alike d f N [] []
  | reference {name name' : String} {rs rs' : List RuleDefinition} : N name name' → Alike d f N rs rs' →
      Alike d f N (.reference name :: rs) (.reference name' :: rs')
  | inlined {name : String} {rules body rs rs' : List RuleDefinition} : ¬ Relation.TransGen d.Includes name name →
      d.ruleSets.get? name = some rules → Alike d f N rules body → Alike d f N rs rs' →
      Alike d f N (.reference name :: rs) (body ++ rs')
  | single {source : String} {scope scope' : Option String} {scopes scopes' : CaptureScopes}
      {rs rs' : List RuleDefinition} : scope' = scope.map f → scopes'.entries = Captures.rename f scopes.entries →
      Alike d f N rs rs' → Alike d f N (.single source scope scopes :: rs) (.single source scope' scopes' :: rs')
  | region {opening closing : String} {scope scope' contentScope contentScope' : Option String}
      {openingScopes openingScopes' closingScopes closingScopes' : CaptureScopes}
      {children children' rs rs' : List RuleDefinition} : scope' = scope.map f → contentScope' = contentScope.map f →
      openingScopes'.entries = Captures.rename f openingScopes.entries →
      closingScopes'.entries = Captures.rename f closingScopes.entries →
      Alike d f N children children' → Alike d f N rs rs' →
      Alike d f N (.region opening closing scope contentScope openingScopes closingScopes children :: rs)
        (.region opening closing scope' contentScope' openingScopes' closingScopes' children' :: rs')

/-- Two definitions correspond: so do the names of the sets to start from, and the rules of sets whose names correspond
are alike. A name of one definition corresponds to at most one of the other. -/
structure GrammarDefinition.Alike (f : String → String) (d d' : GrammarDefinition) (N : String → String → Prop) :
    Prop where
  root : N d.root d'.root
  rules : ∀ {name name' rules}, N name name' → d.ruleSets.get? name = some rules →
    ∃ rules', d'.ruleSets.get? name' = some rules' ∧ RuleDefinition.Alike d f N rules rules'
  left_unique : ∀ {name₁ name₂ name'}, N name₁ name' → N name₂ name' → name₁ = name₂
  right_unique : ∀ {name name₁' name₂'}, N name name₁' → N name name₂' → name₁' = name₂'

namespace Grammar.Spells

variable {g : Grammar} {names : List String}

/-- The entries of two lists of rules, one after the other. -/
theorem of_append {rs' : List RuleDefinition} : ∀ {rs : List RuleDefinition} {items : List Item},
    g.Spells names items (rs ++ rs') →
      ∃ first second, items = first ++ second ∧ g.Spells names first rs ∧ g.Spells names second rs'
  | [], items, h => ⟨[], items, rfl, .nil, h⟩
  | r :: rs, items, h => by
    rw [List.cons_append] at h
    cases h with
    | reference hset hrest =>
      obtain ⟨first, second, rfl, hfirst, hsecond⟩ := of_append hrest
      exact ⟨_ :: first, second, rfl, .reference hset hfirst, hsecond⟩
    | single hrule hp hcompile hrest =>
      obtain ⟨first, second, rfl, hfirst, hsecond⟩ := of_append hrest
      exact ⟨_ :: first, second, rfl, .single hrule hp hcompile hfirst, hsecond⟩
    | region hrule hp hcompile hq hcompile' hchildren hrest =>
      obtain ⟨first, second, rfl, hfirst, hsecond⟩ := of_append hrest
      exact ⟨_ :: first, second, rfl, .region hrule hp hcompile hq hcompile' hchildren hfirst, hsecond⟩

/-- References among entries are references among the rules. -/
theorem exists_reference {items : List Item} {rs : List RuleDefinition} (h : g.Spells names items rs) {set : Nat}
    (hset : set ∈ setIds items) : ∃ name, .reference name ∈ rs ∧ names.idxOf? name = some set := by
  induction h with
  | nil => simp at hset
  | @reference name first items rs hfirst _ ih =>
    rcases List.mem_cons.1 (by simpa using hset) with rfl | hset
    · exact ⟨name, List.mem_cons_self, hfirst⟩
    · obtain ⟨name, hname, hidx⟩ := ih hset
      exact ⟨name, List.mem_cons_of_mem _ hname, hidx⟩
  | single _ _ _ _ ih =>
    obtain ⟨name, hname, hidx⟩ := ih (by simpa using hset)
    exact ⟨name, List.mem_cons_of_mem _ hname, hidx⟩
  | region _ _ _ _ _ _ _ _ ih =>
    obtain ⟨name, hname, hidx⟩ := ih (by simpa using hset)
    exact ⟨name, List.mem_cons_of_mem _ hname, hidx⟩

end Grammar.Spells

namespace GrammarDefinition

variable {d d' : GrammarDefinition} {g g' : Grammar} {f : String → String} {N : String → String → Prop}

/-- Where references of the grammar lead to, inclusions of the definition lead to. -/
theorem Makes.includes_of_refers (h : d.Makes g) {name : String} {set set' : Nat}
    (hset : d.ruleSets.keys.idxOf? name = some set) (hrefers : Relation.TransGen g.Refers set set') :
    ∃ name', d.ruleSets.keys.idxOf? name' = some set' ∧ Relation.TransGen d.Includes name name' := by
  have hone : ∀ {name set set'}, d.ruleSets.keys.idxOf? name = some set → g.Refers set set' →
      ∃ name', d.ruleSets.keys.idxOf? name' = some set' ∧ d.Includes name name' := by
    intro name set set' hset hrefers
    obtain ⟨rules, hrules⟩ := exists_rules hset
    obtain ⟨name', hname', hset'⟩ := (h.spells hset hrules).exists_reference hrefers
    exact ⟨name', hset', rules, hrules, hname'⟩
  induction hrefers with
  | single hrefers =>
    obtain ⟨name', hset', hincludes⟩ := hone hset hrefers
    exact ⟨name', hset', .single hincludes⟩
  | tail _ hrefers ih =>
    obtain ⟨between, hbetween, hincludes⟩ := ih
    obtain ⟨name', hset', hlast⟩ := hone hbetween hrefers
    exact ⟨name', hset', .tail hincludes hlast⟩

/-- A set that does not include itself is not referred to by itself. -/
theorem Makes.not_refers_self (h : d.Makes g) {name : String} {set : Nat}
    (hset : d.ruleSets.keys.idxOf? name = some set) (hincludes : ¬ Relation.TransGen d.Includes name name) :
    ¬ Relation.TransGen g.Refers set set := by
  intro hrefers
  obtain ⟨name', hset', hincludes'⟩ := h.includes_of_refers hset hrefers
  obtain rfl := idxOf?_inj hset hset'
  exact hincludes hincludes'

/-- Two indices are those of corresponding names. -/
def SameSet (d d' : GrammarDefinition) (N : String → String → Prop) (set set' : Nat) : Prop :=
  ∃ name name', N name name' ∧ d.ruleSets.keys.idxOf? name = some set ∧ d'.ruleSets.keys.idxOf? name' = some set'

/-- **Rules** that are alike are spelled by entries that are alike. -/
theorem alike_items (h : d.Makes g) {rs rs' : List RuleDefinition} (halike : RuleDefinition.Alike d f N rs rs')
    {items items' : List Item} (hitems : g.Spells d.ruleSets.keys items rs)
    (hitems' : g'.Spells d'.ruleSets.keys items' rs') : Items.Alike f g g' (SameSet d d' N) items items' := by
  induction halike generalizing items items' with
  | nil =>
    cases hitems
    cases hitems'
    exact .nil
  | reference hname _ ih =>
    cases hitems with
    | reference hset hrest =>
      cases hitems' with
      | reference hset' hrest' => exact .ruleSet ⟨_, _, hname, hset, hset'⟩ (ih hrest hrest')
  | inlined hincludes hrules _ _ ihbody ih =>
    cases hitems with
    | reference hset hrest =>
      obtain ⟨first, second, rfl, hfirst, hsecond⟩ := hitems'.of_append
      exact .inlined (h.not_refers_self hset hincludes) (ihbody (h.spells hset hrules) hfirst) (ih hrest hsecond)
  | single hscope hscopes _ ih =>
    cases hitems with
    | single hrule hp hcompile hrest =>
      cases hitems' with
      | single hrule' hp' hcompile' hrest' =>
        cases hcompile.symm.trans hcompile'
        exact .rule hrule hrule' (.single (hp'.trans hp.symm) hscope hscopes) .nil (ih hrest hrest')
  | region hscope hcontent hopening hclosing _ _ ihchildren ih =>
    cases hitems with
    | region hrule hp hcompilep hq hcompileq hchildren hrest =>
      cases hitems' with
      | region hrule' hp' hcompilep' hq' hcompileq' hchildren' hrest' =>
        cases hcompilep.symm.trans hcompilep'
        cases hcompileq.symm.trans hcompileq'
        exact .rule hrule hrule'
          (.region (hp'.trans hp.symm) (hq'.trans hq.symm) hscope hcontent hopening hclosing)
          (ihchildren hchildren hchildren') (ih hrest hrest')

/-- **Definitions** that correspond are built into grammars that are alike. -/
theorem Alike.makes (halike : d.Alike f d' N) (h : d.Makes g) (h' : d'.Makes g') : g.Alike f g' (SameSet d d' N) where
  root := ⟨d.root, d'.root, halike.root, h.root, h'.root⟩
  items := by
    rintro set set' ⟨name, name', hname, hset, hset'⟩
    obtain ⟨rules, hrules⟩ := exists_rules hset
    obtain ⟨rules', hrules', hsame⟩ := halike.rules hname hrules
    exact alike_items h hsame (h.spells hset hrules) (h'.spells hset' hrules')
  left_unique := by
    rintro set₁ set₂ set' ⟨name₁, name₁', hname₁, hset₁, hset₁'⟩ ⟨name₂, name₂', hname₂, hset₂, hset₂'⟩
    obtain rfl := idxOf?_inj hset₁' hset₂'
    obtain rfl := halike.left_unique hname₁ hname₂
    exact Option.some.inj (hset₁.symm.trans hset₂)
  right_unique := by
    rintro set set₁' set₂' ⟨name₁, name₁', hname₁, hset₁, hset₁'⟩ ⟨name₂, name₂', hname₂, hset₂, hset₂'⟩
    obtain rfl := idxOf?_inj hset₁ hset₂
    obtain rfl := halike.right_unique hname₁ hname₂
    exact Option.some.inj (hset₁'.symm.trans hset₂')

/-- Definitions that correspond, with the same scopes, are built into grammars with the same tokens. -/
theorem Alike.sameTokens (halike : d.Alike id d' N) (h : d.build = .ok g) (h' : d'.build = .ok g') : g.SameTokens g' :=
  .of_lockstep (halike.makes (makes_of_build h) (makes_of_build h')).lockstep

end GrammarDefinition

end Highlight
