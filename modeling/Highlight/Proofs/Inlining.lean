import Highlight.Proofs.Renaming

/-!
# Writing a reference out

A reference may be replaced by a copy of the rules of its set, in a list of rules or inside of a region at any depth
(`RuleDefinition.Inlines`), if the set does not include itself. What is built has the same tokens
(`inlining_keeps_tokens`). Rules and patterns of the copy have indices of their own.

The condition is needed: a reference of a set to itself stands for nothing while the set is being expanded. Where the
rules are copied into another list, the set is not being expanded, the reference in the copy stands for the rules again,
and they may come in another order than before.
-/

namespace Highlight

/-! ## Faults -/

theorem patternFaults_eq_nil {set : String} {mayBeEmpty : Bool} {source : String}
    (h : patternFaults set mayBeEmpty source = []) (set' : String) : patternFaults set' mayBeEmpty source = [] := by
  unfold patternFaults at h ⊢
  cases hcompile : Pattern.compile source with
  | error e => simp [hcompile] at h
  | ok p => simpa [hcompile] using h

theorem captureFaults_eq_nil {set source : String} {scopes : CaptureScopes} (h : captureFaults set source scopes = [])
    (set' : String) : captureFaults set' source scopes = [] := by
  unfold captureFaults at h ⊢
  cases hcompile : Pattern.compile source with
  | error e => rfl
  | ok p => simpa [hcompile] using h

namespace RuleDefinition

variable {names : List String}

/-- Whether a rule has faults does not depend on the set that it stands in. -/
theorem ownFaults_eq_nil {set : String} (set' : String) : ∀ {r : RuleDefinition}, r.ownFaults names set = [] →
    r.ownFaults names set' = []
  | .reference name, h => by simpa [ownFaults] using h
  | .single source scope scopes, h => by
    simp only [ownFaults, List.append_eq_nil_iff] at h ⊢
    exact ⟨patternFaults_eq_nil h.1 set', captureFaults_eq_nil h.2 set'⟩
  | .region opening closing scope contentScope openingScopes closingScopes children, h => by
    simp only [ownFaults, List.append_eq_nil_iff] at h ⊢
    exact ⟨patternFaults_eq_nil h.1 set', patternFaults_eq_nil h.2.1 set', captureFaults_eq_nil h.2.2.1 set',
      captureFaults_eq_nil h.2.2.2 set'⟩

theorem faults_eq_nil {set : String} {rules : List RuleDefinition} (h : faults names set rules = []) (set' : String) :
    faults names set' rules = [] :=
  List.flatMap_eq_nil_iff.2 fun r hr => ownFaults_eq_nil set' (List.flatMap_eq_nil_iff.1 h r hr)

theorem flattenAll_append (rs' : List RuleDefinition) : ∀ rs : List RuleDefinition,
    flattenAll (rs ++ rs') = flattenAll rs ++ flattenAll rs'
  | [] => by simp [flattenAll]
  | r :: rs => by simp [flattenAll, flattenAll_append rs' rs]

/-! ## Inlining -/

/-- In one place, among the rules or inside of one at any depth, a reference to the set is replaced by rules. -/
inductive Inlines (name : String) (body : List RuleDefinition) : List RuleDefinition → List RuleDefinition → Prop
  | here (rs : List RuleDefinition) : Inlines name body (.reference name :: rs) (body ++ rs)
  | later (r : RuleDefinition) {rs rs' : List RuleDefinition} : Inlines name body rs rs' →
      Inlines name body (r :: rs) (r :: rs')
  | inside {opening closing : String} {scope contentScope : Option String} {openingScopes closingScopes : CaptureScopes}
      {children children' : List RuleDefinition} (rs : List RuleDefinition) : Inlines name body children children' →
      Inlines name body (.region opening closing scope contentScope openingScopes closingScopes children :: rs)
        (.region opening closing scope contentScope openingScopes closingScopes children' :: rs)

variable {name : String} {body rules rules' : List RuleDefinition}

/-- Rules without faults that are written out bring no faults. -/
theorem Inlines.faults {set : String} (h : Inlines name body rules rules') (hbody : faults names set body = [])
    (hrules : faults names set rules = []) : faults names set rules' = [] := by
  induction h with
  | here rs =>
    rw [faults_cons, List.append_eq_nil_iff] at hrules
    rw [RuleDefinition.faults, flattenAll_append, List.flatMap_append, List.append_eq_nil_iff]
    exact ⟨hbody, hrules.2⟩
  | later r _ ih =>
    rw [faults_cons, List.append_eq_nil_iff] at hrules ⊢
    exact ⟨hrules.1, ih hrules.2⟩
  | inside rs _ ih =>
    rw [faults_cons, faults_region, List.append_eq_nil_iff, List.append_eq_nil_iff] at hrules ⊢
    exact ⟨⟨hrules.1.1, ih hrules.1.2⟩, hrules.2⟩

mutual

theorem redirect_id : ∀ r : RuleDefinition, r.redirect id = r
  | .reference _ => by rw [redirect, id]
  | .single _ _ _ => by rw [redirect]
  | .region _ _ _ _ _ _ children => by rw [redirect, redirectAll_id children]

theorem redirectAll_id : ∀ rs : List RuleDefinition, redirectAll id rs = rs
  | [] => by rw [redirectAll]
  | r :: rs => by rw [redirectAll, redirect_id r, redirectAll_id rs]

end

theorem Alike.refl (d : GrammarDefinition) (rules : List RuleDefinition) : Alike d id Eq rules rules := by
  have halike := alike_redirectAll d (N := Eq) (f := id) rules fun _ _ => rfl
  rwa [redirectAll_id] at halike

theorem Alike.cons {d : GrammarDefinition} {rs rs' : List RuleDefinition} (h : Alike d id Eq rs rs') :
    ∀ r : RuleDefinition, Alike d id Eq (r :: rs) (r :: rs')
  | .reference _ => .reference rfl h
  | .single _ _ _ => .single (by simp) (by simp) h
  | .region _ _ _ _ _ _ children => .region (by simp) (by simp) (by simp) (by simp) (.refl d children) h

/-- Rules are alike with a reference written out. -/
theorem Inlines.alike (h : Inlines name body rules rules') {d : GrammarDefinition}
    (hbody : d.ruleSets.get? name = some body) (hincludes : ¬ Relation.TransGen d.Includes name name) :
    Alike d id Eq rules rules' := by
  induction h with
  | here rs => exact .inlined hincludes hbody (.refl d body) (.refl d rs)
  | later r _ ih => exact ih.cons r
  | inside rs _ ih => exact .region (by simp) (by simp) (by simp) (by simp) ih (.refl d rs)

end RuleDefinition

namespace GrammarDefinition

/-- The definition with other rules for one of its sets. -/
def withRules (d : GrammarDefinition) (set : String) (rules : List RuleDefinition) : GrammarDefinition :=
  { d with ruleSets := d.ruleSets.insert set rules }

variable {d : GrammarDefinition} {set : String} {rules rules' : List RuleDefinition}

theorem get?_withRules (d : GrammarDefinition) (set : String) (rules : List RuleDefinition) (name : String) :
    (d.withRules set rules).ruleSets.get? name = if name == set then some rules else d.ruleSets.get? name :=
  d.ruleSets.get?_insert set rules name

/-- Rules without faults can take the place of others. -/
theorem exists_build_withRules {g : Grammar} (h : d.build = .ok g) (hset : d.ruleSets.get? set = some rules)
    (hfaults : RuleDefinition.faults d.ruleSets.keys set rules' = []) :
    ∃ g', (d.withRules set rules').build = .ok g' := by
  obtain ⟨hroot, hall⟩ := d.faults_eq_nil_iff.1 (d.build_eq_ok_iff.1 ⟨g, h⟩)
  have hkeys : (d.withRules set rules').ruleSets.keys = d.ruleSets.keys :=
    Table.keys_insert_of_mem (List.mem_map.2 ⟨_, d.ruleSets.mem_entries_iff.2 hset, rfl⟩) rules'
  refine (build_eq_ok_iff _).2 ((faults_eq_nil_iff _).2 ⟨hkeys ▸ hroot, fun name rules₁ hrules₁ => ?_⟩)
  rw [get?_withRules] at hrules₁
  rw [hkeys]
  split at hrules₁
  next hname =>
    cases hrules₁
    rwa [eq_of_beq hname]
  next => exact hall name rules₁ hrules₁

/-- With rules that are alike in one set, the definition is alike. -/
theorem alike_withRules (hset : d.ruleSets.get? set = some rules) (h : RuleDefinition.Alike d id Eq rules rules') :
    d.Alike id (d.withRules set rules') Eq where
  root := rfl
  rules := by
    rintro name _ rules₁ rfl hrules₁
    rw [get?_withRules]
    split
    next hname =>
      obtain rfl := eq_of_beq hname
      cases hset.symm.trans hrules₁
      exact ⟨rules', rfl, h⟩
    next => exact ⟨rules₁, hrules₁, .refl d rules₁⟩
  left_unique h₁ h₂ := h₁.trans h₂.symm
  right_unique h₁ h₂ := h₁.symm.trans h₂

end GrammarDefinition

/-- **Inlining.** In a definition that can be built, one reference anywhere to a set that does not include itself is
replaced by the rules of that set. Then the definition can still be built, and what it is built into has the same
tokens, offsets and depths on every text. -/
theorem inlining_keeps_tokens {d : GrammarDefinition} {g : Grammar} (h : d.build = .ok g) {set name : String}
    {rules rules' body : List RuleDefinition} (hrules : d.ruleSets.get? set = some rules)
    (hbody : d.ruleSets.get? name = some body) (hinlines : RuleDefinition.Inlines name body rules rules')
    (hincludes : ¬ Relation.TransGen d.Includes name name) :
    ∃ g', (d.withRules set rules').build = .ok g' ∧ g.SameTokens g' := by
  obtain ⟨-, hfaults⟩ := d.faults_eq_nil_iff.1 (d.build_eq_ok_iff.1 ⟨g, h⟩)
  -- the copy is now in another set, but it was without faults where it came from
  have hcopy := RuleDefinition.faults_eq_nil (hfaults name body hbody) set
  obtain ⟨g', h'⟩ := GrammarDefinition.exists_build_withRules h hrules (hinlines.faults hcopy (hfaults set rules hrules))
  have halike := GrammarDefinition.alike_withRules hrules (hinlines.alike hbody hincludes)
  exact ⟨g', h', halike.sameTokens h h'⟩

-- Each of two sets includes the other. Written out, the rule of the outer one comes first.
example :
    let d : GrammarDefinition := {
      name := "circle", root := "main"
      ruleSets := Table.ofList [("main", [.reference "outer"]),
        ("outer", [.reference "inner", .ofPattern "x" (some "outer")]),
        ("inner", [.reference "outer", .ofPattern "x" (some "inner")])] }
    let d' := d.withRules "main" [.reference "inner", .ofPattern "x" (some "outer")]
    (d.built.tokenize "x").map (·.scopes) = [⟨["inner"]⟩] ∧ (d'.built.tokenize "x").map (·.scopes) = [⟨["outer"]⟩] := by
  decide +kernel

/-- The round brackets with what they may hold written out: inside of the square ones, the reference to the round ones
is replaced by a copy of them. -/
def RuleDefinition.inlinedGroups : List RuleDefinition :=
  let round (inner : List RuleDefinition) : RuleDefinition :=
    ((ofRegion "(\\()" "\\)|$" "round").withCapture 1 "mark").withChildren [
      .reference "main", (ofRegion "\\[" "\\]" "square").withChildren inner]
  [round [round [.reference "groups"]]]

/-- A set is written out inside of itself, in a region inside of a region. -/
theorem inlining_keeps_tokens_brackets :
    let d := GrammarDefinition.brackets
    let d' := d.withRules "groups" RuleDefinition.inlinedGroups
    d.build = .ok .brackets ∧ Grammar.brackets.rules.size = 3 ∧
      (∃ body, d.ruleSets.get? "groups" = some body ∧
        RuleDefinition.Inlines "groups" body body RuleDefinition.inlinedGroups) ∧
      ∃ g', d'.build = .ok g' ∧ g'.rules.size = 5 ∧ Grammar.brackets.SameTokens g' := by
  intro d d'
  obtain ⟨body, hbody⟩ : ∃ body, d.ruleSets.get? "groups" = some body := ⟨_, rfl⟩
  have hinlines : RuleDefinition.Inlines "groups" body body RuleDefinition.inlinedGroups := by
    cases hbody
    exact .inside _ (.later _ (.inside _ (.here _)))
  have hincludes : ¬ Relation.TransGen d.Includes "groups" "groups" := by
    intro hcycle
    obtain ⟨next, ⟨rules, hrules, hmem⟩, -⟩ := Relation.TransGen.head'_iff.1 hcycle
    cases hrules
    cases List.mem_singleton.1 hmem
  obtain ⟨g', hbuild, hsame⟩ := inlining_keeps_tokens GrammarDefinition.build_brackets hbody hbody hinlines hincludes
  refine ⟨GrammarDefinition.build_brackets, by decide +kernel, ⟨body, hbody, hinlines⟩, g', hbuild, ?_, hsame⟩
  have hsize : d'.build.toOption.map (·.rules.size) = some 5 := by decide +kernel
  rw [hbuild] at hsize
  exact Option.some.inj hsize

end Highlight
