import Highlight.Grammar.Build

/-!
# What building does

* **Faults** (`GrammarDefinition.faults`): all faults of a definition, in the order in which they are looked for. A rule
  has faults of its own (`RuleDefinition.ownFaults`); the rules of a set are taken as they are written, a region before
  the rules inside it (`RuleDefinition.flatten`).
* **Drafts** (`Built`, `BuiltSets`): what is built from rules without faults, as a relation between the draft before and
  the draft after.
* **Steps** (`Build.Outcome`): a step of the builder stops with the first of its faults, or there is none and it leaves
  what the relation says. So does the builder as a whole (`GrammarDefinition.build_outcome`).

What is true of all built grammars follows from the relation by induction.
-/

namespace Highlight

/-! ## Faults -/

/-- The faults of a pattern: it cannot be read, or it may match the empty text where it must not. -/
def patternFaults (set : String) (mayBeEmpty : Bool) (source : String) : List GrammarError :=
  match Pattern.compile source with
  | .error e => [.invalidPattern set source (.unreadable e)]
  | .ok p => if p.canMatchEmpty && !mayBeEmpty then [.emptyPattern set source] else []

/-- The faults of the scopes for groups: groups that the pattern does not have. A pattern that cannot be read is at fault
itself, and its groups are not. -/
def captureFaults (set source : String) (scopes : CaptureScopes) : List GrammarError :=
  match Pattern.compile source with
  | .error _ => []
  | .ok p => (scopes.entries.filter fun e => decide (p.groups < e.1)).map fun e =>
      .invalidPattern set source (.missingGroup e.1 p.groups)

namespace RuleDefinition

/-- The faults of a rule in a set, apart from those of the rules inside it. -/
def ownFaults (names : List String) (set : String) : RuleDefinition → List GrammarError
  | .reference name => if name ∈ names then [] else [.unresolvedReference set name]
  | .single source _ scopes => patternFaults set false source ++ captureFaults set source scopes
  | .region opening closing _ _ openingScopes closingScopes _ =>
    patternFaults set false opening ++ (patternFaults set true closing ++
      (captureFaults set opening openingScopes ++ captureFaults set closing closingScopes))

mutual

/-- A rule, and then the rules inside it at any depth, as they are written. -/
def flatten : RuleDefinition → List RuleDefinition
  | .region o c s cs oc cc children => .region o c s cs oc cc children :: flattenAll children
  | .single p s cs => [.single p s cs]
  | .reference name => [.reference name]

/-- Rules and the rules inside them, as they are written. -/
def flattenAll : List RuleDefinition → List RuleDefinition
  | [] => []
  | r :: rs => r.flatten ++ flattenAll rs

end

/-- The faults of the rules of a set, with those inside of regions. -/
def faults (names : List String) (set : String) (rules : List RuleDefinition) : List GrammarError :=
  (flattenAll rules).flatMap (ownFaults names set)

theorem faults_cons (names : List String) (set : String) (r : RuleDefinition) (rs : List RuleDefinition) :
    faults names set (r :: rs) = r.flatten.flatMap (ownFaults names set) ++ faults names set rs := by
  simp [faults, flattenAll]

theorem faults_region (names : List String) (set : String) (o c : String) (s cs : Option String)
    (oc cc : CaptureScopes) (children : List RuleDefinition) :
    (region o c s cs oc cc children).flatten.flatMap (ownFaults names set) =
      ownFaults names set (.region o c s cs oc cc children) ++ faults names set children := by
  simp [faults, flatten]

end RuleDefinition

/-- All rules of a definition, at any depth. -/
def GrammarDefinition.allRules (d : GrammarDefinition) : List RuleDefinition :=
  d.ruleSets.entries.flatMap fun s => RuleDefinition.flattenAll s.2

/-- The faults of a definition: the set to start from is not defined, and then those of the rule sets, in order of their
names. -/
def GrammarDefinition.faults (d : GrammarDefinition) : List GrammarError :=
  (if d.root ∈ d.ruleSets.keys then [] else [.unresolvedReference d.name d.root]) ++
    d.ruleSets.entries.flatMap fun s => RuleDefinition.faults d.ruleSets.keys s.1 s.2

/-! ## Drafts -/

/-- A pattern that an array has is still there when one is added. -/
theorem getElem?_push_of_eq_some {α : Type} {xs : Array α} {i : Nat} {x : α} (h : xs[i]? = some x) (y : α) :
    (xs.push y)[i]? = some x := by
  rw [Array.getElem?_push, if_neg (Nat.ne_of_lt (Array.getElem?_eq_some_iff.1 h).1)]
  exact h

namespace Draft

/-- The draft with one more pattern. -/
def withPattern (d : Draft) (p : Pattern) : Draft := { d with patterns := d.patterns.push p }

/-- The draft with one more rule. -/
def withRule (d : Draft) (r : Rule) : Draft := { d with rules := d.rules.push r }

@[simp] theorem rules_withPattern (d : Draft) (p : Pattern) : (d.withPattern p).rules = d.rules := rfl
@[simp] theorem patterns_withPattern (d : Draft) (p : Pattern) : (d.withPattern p).patterns = d.patterns.push p := rfl
@[simp] theorem rules_withRule (d : Draft) (r : Rule) : (d.withRule r).rules = d.rules.push r := rfl
@[simp] theorem patterns_withRule (d : Draft) (r : Rule) : (d.withRule r).patterns = d.patterns := rfl

end Draft

/-- The source is that of a pattern which, unless it may, was not found to match the empty text. -/
structure Reads (mayBeEmpty : Bool) (source : String) (p : Pattern) : Prop where
  compile : Pattern.compile source = .ok p
  checked : mayBeEmpty = false → p.canMatchEmpty = false

/-- The pattern has all groups that are given a scope. -/
def HasGroups (p : Pattern) (scopes : CaptureScopes) : Prop := ∀ e ∈ scopes.entries, e.1 ≤ p.groups

/-- From the draft `d`, a list of rules is built into a list of entries and leaves the draft `d'`. A rule gets its index
after the rules inside it, and a pattern before them. -/
inductive Built (names : List String) : Draft → List RuleDefinition → List Item → Draft → Prop
  | nil (d : Draft) : Built names d [] [] d
  | reference {d d' : Draft} {name : String} {id : Nat} {rs : List RuleDefinition} {items : List Item} :
      names.idxOf? name = some id → Built names d rs items d' →
      Built names d (.reference name :: rs) (.ruleSet id :: items) d'
  | single {d d' : Draft} {source : String} {scope : Option String} {scopes : CaptureScopes} {p : Pattern}
      {rs : List RuleDefinition} {items : List Item} :
      Reads false source p → HasGroups p scopes →
      Built names ((d.withPattern p).withRule (.single ⟨d.patterns.size, scope, scopes.entries⟩)) rs items d' →
      Built names d (.single source scope scopes :: rs) (.rule d.rules.size :: items) d'
  | region {d d₁ d' : Draft} {opening closing : String} {scope contentScope : Option String}
      {openingScopes closingScopes : CaptureScopes} {p q : Pattern} {children rs : List RuleDefinition}
      {inner items : List Item} :
      Reads false opening p → Reads true closing q → HasGroups p openingScopes → HasGroups q closingScopes →
      Built names ((d.withPattern p).withPattern q) children inner d₁ →
      Built names (d₁.withRule (.region ⟨d.patterns.size, d.patterns.size + 1, scope, contentScope,
        openingScopes.entries, closingScopes.entries, inner⟩)) rs items d' →
      Built names d (.region opening closing scope contentScope openingScopes closingScopes children :: rs)
        (.rule d₁.rules.size :: items) d'

/-- From the draft `d`, named lists of rules are built into rule sets and leave the draft `d'`. -/
inductive BuiltSets (names : List String) : Draft → List (String × List RuleDefinition) → List RuleSet → Draft → Prop
  | nil (d : Draft) : BuiltSets names d [] [] d
  | cons {d d₁ d' : Draft} {name : String} {rules : List RuleDefinition} {items : List Item}
      {rest : List (String × List RuleDefinition)} {sets : List RuleSet} :
      Built names d rules items d₁ → BuiltSets names d₁ rest sets d' →
      BuiltSets names d ((name, rules) :: rest) (⟨name, items⟩ :: sets) d'

/-! ## Steps -/

namespace Build

/-- The step stops with the first of the faults, or there is none and its result and the draft that it leaves are as
described. -/
def Outcome {α : Type} (x : Build α) (d : Draft) (faults : List GrammarError) (Q : α → Draft → Prop) : Prop :=
  match faults with
  | e :: _ => x.run d = .error e
  | [] => ∃ a d', x.run d = .ok (a, d') ∧ Q a d'

section Outcome

variable {α β : Type} {x : Build α} {d : Draft} {faults : List GrammarError} {Q : α → Draft → Prop}

theorem outcome_pure {a : α} (h : Q a d) : Outcome (pure a) d [] Q := ⟨a, d, rfl, h⟩

theorem outcome_throw (e : GrammarError) : Outcome (throw e : Build α) d [e] Q := rfl

theorem Outcome.mono (h : x.Outcome d faults Q) {R : α → Draft → Prop} (hQR : ∀ a d', Q a d' → R a d') :
    x.Outcome d faults R := by
  cases faults with
  | cons e es => exact h
  | nil =>
    obtain ⟨a, d', hrun, hQ⟩ := h
    exact ⟨a, d', hrun, hQR a d' hQ⟩

/-- The faults of two steps are those of the first, then those of the second. -/
theorem Outcome.bind (h : x.Outcome d faults Q) {f : α → Build β} {faults' : List GrammarError}
    {R : β → Draft → Prop} (hf : ∀ a d', Q a d' → (f a).Outcome d' faults' R) :
    Outcome (x >>= f) d (faults ++ faults') R := by
  cases faults with
  | cons e es =>
    have hrun : x.run d = .error e := h
    show (x >>= f).run d = .error e
    rw [StateT.run_bind, hrun]
    rfl
  | nil =>
    obtain ⟨a, d', hrun, hQ⟩ := h
    have hsecond := hf a d' hQ
    have hbind : (x >>= f).run d = (f a).run d' := by
      rw [StateT.run_bind, hrun]
      rfl
    cases faults' with
    | cons e es => exact hbind.trans hsecond
    | nil =>
      obtain ⟨b, d'', hrun', hR⟩ := hsecond
      exact ⟨b, d'', hbind.trans hrun', hR⟩

end Outcome

theorem outcome_pattern (site : Site) (mayBeEmpty : Bool) (source : String) (d : Draft) :
    (pattern site mayBeEmpty source).Outcome d (patternFaults site.current mayBeEmpty source) fun id d' =>
      ∃ p, Reads mayBeEmpty source p ∧ id = d.patterns.size ∧ d' = d.withPattern p := by
  unfold pattern patternFaults
  cases hcompile : Pattern.compile source with
  | error e => exact outcome_throw _
  | ok p =>
    dsimp only
    split
    next => rfl
    next hempty =>
      refine ⟨_, _, rfl, p, ⟨hcompile, fun hmay => ?_⟩, rfl, rfl⟩
      simpa [hmay] using hempty

/-- The first group that the pattern does not have is the first of the faults. -/
theorem outcome_captures (site : Site) {source : String} {id : Nat} (scopes : CaptureScopes) {d : Draft} {p : Pattern}
    (hcompile : Pattern.compile source = .ok p) (hp : d.patterns[id]? = some p) :
    (captures site source id scopes).Outcome d (captureFaults site.current source scopes) fun groups d' =>
      HasGroups p scopes ∧ groups = scopes.entries ∧ d' = d := by
  have hmissing : (scopes.entries.filter fun e => decide (p.groups < e.1)).head? =
      scopes.entries.find? fun e => decide (p.groups < e.1) := List.head?_filter
  unfold captureFaults Outcome
  rw [hcompile]
  cases hfind : scopes.entries.find? fun e => decide (p.groups < e.1) with
  | some e =>
    obtain ⟨es, hes⟩ := List.head?_eq_some_iff.1 (hmissing.trans hfind)
    dsimp only
    rw [hes]
    show (captures site source id scopes).run d = _
    unfold captures
    simp only [StateT.run_bind, StateT.run_get, pure_bind, hp, hfind]
    rfl
  | none =>
    have hnone := List.head?_eq_none_iff.1 (hmissing.trans hfind)
    dsimp only
    rw [hnone]
    refine ⟨_, d, ?_, fun e he => ?_, rfl, rfl⟩
    · unfold captures
      simp only [StateT.run_bind, StateT.run_get, pure_bind, hp, hfind]
      rfl
    · simpa using List.filter_eq_nil_iff.1 hnone e he

theorem outcome_rule (r : Rule) (d : Draft) :
    (rule r).Outcome d [] fun item d' => item = .rule d.rules.size ∧ d' = d.withRule r :=
  ⟨_, _, rfl, rfl, rfl⟩

mutual

/-- A rule is built in front of whatever is built after it. -/
theorem outcome_item (site : Site) : ∀ (r : RuleDefinition) (d : Draft),
    (item site r).Outcome d (r.flatten.flatMap (RuleDefinition.ownFaults site.names site.current)) fun item d₁ =>
      ∀ rs items d', Built site.names d₁ rs items d' → Built site.names d (r :: rs) (item :: items) d'
  | .reference name, d => by
    simp only [item, RuleDefinition.flatten, List.flatMap_singleton, RuleDefinition.ownFaults]
    by_cases hname : name ∈ site.names
    · rw [if_pos hname]
      cases hid : site.names.idxOf? name with
      | some id => exact outcome_pure fun rs items d' hrest => .reference hid hrest
      | none => exact absurd hname (List.idxOf?_eq_none_iff.1 hid)
    · rw [if_neg hname, List.idxOf?_eq_none_iff.2 hname]
      exact outcome_throw _
  | .single source scope scopes, d => by
    simp only [item, RuleDefinition.flatten, List.flatMap_singleton, RuleDefinition.ownFaults]
    refine (outcome_pattern site false source d).bind ?_
    rintro id d₁ ⟨p, hp, rfl, rfl⟩
    rw [← List.append_nil (captureFaults _ _ _)]
    refine (outcome_captures site scopes hp.compile Array.getElem?_push_size).bind ?_
    rintro groups d₂ ⟨hgroups, rfl, rfl⟩
    refine (outcome_rule _ _).mono ?_
    rintro built d₃ ⟨rfl, rfl⟩ rs items d' hrest
    exact .single hp hgroups hrest
  | .region opening closing scope contentScope openingScopes closingScopes children, d => by
    rw [RuleDefinition.faults_region]
    simp only [item, RuleDefinition.ownFaults, List.append_assoc]
    refine (outcome_pattern site false opening d).bind ?_
    rintro openingId d₁ ⟨p, hp, rfl, rfl⟩
    refine (outcome_pattern site true closing _).bind ?_
    rintro closingId d₂ ⟨q, hq, rfl, rfl⟩
    refine (outcome_captures site openingScopes hp.compile
      (getElem?_push_of_eq_some Array.getElem?_push_size q)).bind ?_
    rintro openingGroups d₃ ⟨hopening, rfl, rfl⟩
    refine (outcome_captures site closingScopes hq.compile Array.getElem?_push_size).bind ?_
    rintro closingGroups d₄ ⟨hclosing, rfl, rfl⟩
    rw [← List.append_nil (RuleDefinition.faults _ _ _)]
    refine (outcome_items site children _).bind ?_
    intro inner d₅ hinner
    refine (outcome_rule _ _).mono ?_
    rintro built d₆ ⟨rfl, rfl⟩ rs items d' hrest
    simp only [Draft.patterns_withPattern, Array.size_push] at hrest
    exact .region hp hq hopening hclosing hinner hrest

theorem outcome_items (site : Site) : ∀ (rs : List RuleDefinition) (d : Draft),
    (items site rs).Outcome d (RuleDefinition.faults site.names site.current rs) (Built site.names d rs)
  | [], d => by
    simp only [items, RuleDefinition.faults, RuleDefinition.flattenAll, List.flatMap_nil]
    exact outcome_pure (.nil d)
  | r :: rs, d => by
    rw [RuleDefinition.faults_cons, items]
    refine (outcome_item site r d).bind ?_
    intro first d₁ hfirst
    rw [← List.append_nil (RuleDefinition.faults _ _ _)]
    refine (outcome_items site rs d₁).bind ?_
    intro rest d₂ hrest
    exact outcome_pure (hfirst rs rest d₂ hrest)

end

theorem outcome_ruleSets (names : List String) : ∀ (sets : List (String × List RuleDefinition)) (d : Draft),
    (ruleSets names sets).Outcome d (sets.flatMap fun s => RuleDefinition.faults names s.1 s.2) (BuiltSets names d sets)
  | [], d => outcome_pure (.nil d)
  | (name, rules) :: sets, d => by
    rw [List.flatMap_cons, ruleSets]
    refine (outcome_items { names, current := name } rules d).bind ?_
    intro built d₁ hbuilt
    rw [← List.append_nil (List.flatMap _ _)]
    refine (outcome_ruleSets names sets d₁).bind ?_
    intro rest d₂ hrest
    exact outcome_pure (.cons hbuilt hrest)

end Build

/-- The grammar is what the definition is built into. -/
structure GrammarDefinition.Makes (d : GrammarDefinition) (g : Grammar) : Prop where
  name : g.name = d.name
  root : d.ruleSets.keys.idxOf? d.root = some g.root
  sets : BuiltSets d.ruleSets.keys {} d.ruleSets.entries g.sets.toList ⟨g.rules, g.patterns⟩

/-- **Building** stops with the first of the faults, or there is none and it makes the grammar. -/
theorem GrammarDefinition.build_outcome (d : GrammarDefinition) :
    match d.faults with
    | e :: _ => d.build = .error e
    | [] => ∃ g, d.build = .ok g ∧ d.Makes g := by
  unfold faults build
  dsimp only
  by_cases hroot : d.root ∈ d.ruleSets.keys
  · rw [if_pos hroot, List.nil_append]
    cases hid : d.ruleSets.keys.idxOf? d.root with
    | none => exact absurd hroot (List.idxOf?_eq_none_iff.1 hid)
    | some root =>
      have hsets := Build.outcome_ruleSets d.ruleSets.keys d.ruleSets.entries {}
      generalize (d.ruleSets.entries.flatMap fun s => RuleDefinition.faults d.ruleSets.keys s.1 s.2) = faults at hsets ⊢
      cases faults with
      | cons e es =>
        have hrun : (Build.ruleSets d.ruleSets.keys d.ruleSets.entries).run {} = .error e := hsets
        dsimp only
        rw [hrun]
        rfl
      | nil =>
        obtain ⟨sets, draft, hrun, hbuilt⟩ := hsets
        dsimp only
        rw [hrun]
        exact ⟨_, rfl, rfl, hid, hbuilt⟩
  · rw [if_neg hroot, List.idxOf?_eq_none_iff.2 hroot]
    rfl

theorem GrammarDefinition.makes_of_build {d : GrammarDefinition} {g : Grammar} (h : d.build = .ok g) : d.Makes g := by
  have houtcome := d.build_outcome
  split at houtcome
  · cases h.symm.trans houtcome
  · obtain ⟨g', hbuild, hmakes⟩ := houtcome
    cases h.symm.trans hbuild
    exact hmakes

end Highlight
