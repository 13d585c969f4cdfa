import Highlight.Proofs.Shape
import Highlight.Proofs.Tables
import Mathlib.Data.List.Forall2

/-!
# Entries and the rules they were built from

`Grammar.Spells` reads the entries of a built grammar against authored rules, without the drafts on the way: a reference
is spelled by the index of its set, a rule by an index under which the grammar has the rule, with compiled patterns and
the same scopes, and with entries for the rules inside. Drafts only grow, so what a list of rules was built into at some
point still spells it in the grammar in the end (`Grammar.spells_of_built`), and every rule set of a built grammar
spells the rules of that name (`GrammarDefinition.Makes.spells`).
-/

namespace Highlight

/-- The grammar's entries spell the rules, where a reference is spelled by the position of its name among `names`. -/
inductive Grammar.Spells (g : Grammar) (names : List String) : List Item → List RuleDefinition → Prop
  | nil : Spells g names [] []
  | reference {name : String} {set : Nat} {items : List Item} {rs : List RuleDefinition} :
      names.idxOf? name = some set → Spells g names items rs →
      Spells g names (.ruleSet set :: items) (.reference name :: rs)
  | single {id pattern : Nat} {source : String} {p : Pattern} {scope : Option String} {scopes : CaptureScopes}
      {items : List Item} {rs : List RuleDefinition} :
      g.rules[id]? = some (.single ⟨pattern, scope, scopes.entries⟩) →
      g.patterns[pattern]? = some p → Pattern.compile source = .ok p → Spells g names items rs →
      Spells g names (.rule id :: items) (.single source scope scopes :: rs)
  | region {id opening closing : Nat} {openingSource closingSource : String} {p q : Pattern}
      {scope contentScope : Option String} {openingScopes closingScopes : CaptureScopes} {inner items : List Item}
      {children rs : List RuleDefinition} :
      g.rules[id]? = some (.region ⟨opening, closing, scope, contentScope, openingScopes.entries, closingScopes.entries,
        inner⟩) →
      g.patterns[opening]? = some p → Pattern.compile openingSource = .ok p →
      g.patterns[closing]? = some q → Pattern.compile closingSource = .ok q →
      Spells g names inner children → Spells g names items rs →
      Spells g names (.rule id :: items)
        (.region openingSource closingSource scope contentScope openingScopes closingScopes children :: rs)

/-- The rules and patterns of a draft are those of the grammar, as far as the draft has come. -/
structure Draft.PartOf (d : Draft) (g : Grammar) : Prop where
  rules : ∀ (id : Nat) (r : Rule), d.rules[id]? = some r → g.rules[id]? = some r
  patterns : ∀ (id : Nat) (p : Pattern), d.patterns[id]? = some p → g.patterns[id]? = some p

namespace Draft.PartOf

variable {d d' : Draft} {g : Grammar} {names : List String}

theorem of_withPattern {p : Pattern} (h : (d.withPattern p).PartOf g) :
    d.PartOf g ∧ g.patterns[d.patterns.size]? = some p :=
  ⟨⟨h.rules, fun id q hq => h.patterns id q (getElem?_push_of_eq_some hq p)⟩, h.patterns _ p Array.getElem?_push_size⟩

theorem of_withRule {r : Rule} (h : (d.withRule r).PartOf g) : d.PartOf g ∧ g.rules[d.rules.size]? = some r :=
  ⟨⟨fun id q hq => h.rules id q (getElem?_push_of_eq_some hq r), h.patterns⟩, h.rules _ r Array.getElem?_push_size⟩

/-- What is there before rules are built is there afterwards. -/
theorem of_built {rs : List RuleDefinition} {items : List Item} (hbuilt : Built names d rs items d')
    (h : d'.PartOf g) : d.PartOf g := by
  induction hbuilt with
  | nil => exact h
  | reference _ _ ih => exact ih h
  | single _ _ _ ih => exact (ih h).of_withRule.1.of_withPattern.1
  | region _ _ _ _ _ _ ihchildren ih => exact (ihchildren (ih h).of_withRule.1).of_withPattern.1.of_withPattern.1

theorem of_builtSets {entries : List (String × List RuleDefinition)} {sets : List RuleSet}
    (hbuilt : BuiltSets names d entries sets d') (h : d'.PartOf g) : d.PartOf g := by
  induction hbuilt with
  | nil => exact h
  | cons hfirst _ ih => exact of_built hfirst (ih h)

end Draft.PartOf

namespace Grammar

variable {g : Grammar} {names : List String} {d d' : Draft}

/-- **Rules** that are built into the grammar are spelled by their entries in it. -/
theorem spells_of_built {rs : List RuleDefinition} {items : List Item} (hbuilt : Built names d rs items d')
    (h : d'.PartOf g) : g.Spells names items rs := by
  induction hbuilt with
  | nil => exact .nil
  | reference hid _ ih => exact .reference hid (ih h)
  | single hp _ hrest ih =>
    obtain ⟨hpart, hrule⟩ := (Draft.PartOf.of_built hrest h).of_withRule
    exact .single hrule hpart.of_withPattern.2 hp.compile (ih h)
  | region hp hq _ _ hchildren hrest ihchildren ih =>
    obtain ⟨hpart, hrule⟩ := (Draft.PartOf.of_built hrest h).of_withRule
    obtain ⟨hopening, hclosing⟩ := (Draft.PartOf.of_built hchildren hpart).of_withPattern
    rw [Draft.patterns_withPattern, Array.size_push] at hclosing
    exact .region hrule hopening.of_withPattern.2 hp.compile hclosing hq.compile (ihchildren hpart) (ih h)

theorem spells_of_builtSets {entries : List (String × List RuleDefinition)} {sets : List RuleSet}
    (hbuilt : BuiltSets names d entries sets d') (h : d'.PartOf g) :
    List.Forall₂ (fun e s => g.Spells names s.items e.2) entries sets := by
  induction hbuilt with
  | nil => exact .nil
  | cons hfirst hrest ih => exact .cons (spells_of_built hfirst (Draft.PartOf.of_builtSets hrest h)) (ih h)

end Grammar

/-- A name stands where it is found. -/
theorem getElem?_of_idxOf? {names : List String} {name : String} {i : Nat} (h : names.idxOf? name = some i) :
    names[i]? = some name := by
  obtain ⟨hi, hname, -⟩ := List.idxOf?_eq_some_iff.1 h
  rw [List.getElem?_eq_getElem hi, hname]

theorem idxOf?_inj {names : List String} {name name' : String} {i : Nat} (h : names.idxOf? name = some i)
    (h' : names.idxOf? name' = some i) : name = name' :=
  Option.some.inj ((getElem?_of_idxOf? h).symm.trans (getElem?_of_idxOf? h'))

namespace GrammarDefinition

variable {d : GrammarDefinition} {g : Grammar} {name : String}

theorem exists_rules {set : Nat} (h : d.ruleSets.keys.idxOf? name = some set) :
    ∃ rules, d.ruleSets.get? name = some rules := by
  obtain ⟨⟨name, rules⟩, hmem, rfl⟩ := List.mem_map.1 (List.mem_of_getElem? (getElem?_of_idxOf? h))
  exact ⟨rules, d.ruleSets.mem_entries_iff.1 hmem⟩

/-- **Rule sets** of a built grammar spell the rules of that name. -/
theorem Makes.spells (h : d.Makes g) {set : Nat} {rules : List RuleDefinition}
    (hset : d.ruleSets.keys.idxOf? name = some set) (hrules : d.ruleSets.get? name = some rules) :
    g.Spells d.ruleSets.keys (g.itemsOf set) rules := by
  have hall := Grammar.spells_of_builtSets h.sets ⟨fun _ _ hr => hr, fun _ _ hp => hp⟩
  obtain ⟨⟨key, rules'⟩, hentry, rfl⟩ : ∃ e, d.ruleSets.entries[set]? = some e ∧ e.1 = name := by
    simpa [Table.keys] using getElem?_of_idxOf? hset
  obtain rfl : rules' = rules :=
    Option.some.inj ((d.ruleSets.mem_entries_iff.1 (List.mem_of_getElem? hentry)).symm.trans hrules)
  obtain ⟨hlt, hget⟩ := List.getElem?_eq_some_iff.1 hentry
  have hlt' : set < g.sets.toList.length := hall.length_eq ▸ hlt
  have hspells := hall.get hlt hlt'
  have hentry' : d.ruleSets.entries.get ⟨set, hlt⟩ = (key, rules') := hget
  have hitems : g.itemsOf set = (g.sets.toList.get ⟨set, hlt'⟩).items := by
    have hsize : set < g.sets.size := hlt'
    simp [Grammar.itemsOf, hsize]
  rw [hentry'] at hspells
  rw [hitems]
  exact hspells

end GrammarDefinition

end Highlight
