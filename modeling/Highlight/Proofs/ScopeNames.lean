import Highlight.Proofs.Correspondence
import Highlight.Proofs.Termination

/-!
# Names of scopes

What a scope is called makes no difference to anything but the tokens that carry it.

* **Building** (`GrammarDefinition.build_renameScopes`): a definition with other names for its scopes is built into the
  grammar with the other names, or has the same fault. A step of the builder does the same on drafts that differ only in
  the names of scopes (`Build.Renames`).
* **Runs** (`Grammar.RenamesTokens`): the runs of the two grammars are in lock step, and their tokens differ only in the
  names of scopes.

The function on names need not be one-to-one (`scope_names_are_opaque`).
-/

namespace Highlight

/-! ## Renamed definitions and grammars -/

namespace RuleDefinition

mutual

/-- The rule with other names for its scopes, also for those of the rules inside it. -/
def renameScopes (f : String → String) : RuleDefinition → RuleDefinition
  | .reference name => .reference name
  | .single p s cs => .single p (s.map f) (cs.map f)
  | .region o c s cs oc cc children =>
    .region o c (s.map f) (cs.map f) (oc.map f) (cc.map f) (renameScopesAll f children)

/-- The rules with other names for their scopes. -/
def renameScopesAll (f : String → String) : List RuleDefinition → List RuleDefinition
  | [] => []
  | r :: rs => r.renameScopes f :: renameScopesAll f rs

end

end RuleDefinition

/-- The definition with other names for its scopes. -/
def GrammarDefinition.renameScopes (f : String → String) (d : GrammarDefinition) : GrammarDefinition :=
  { d with ruleSets := d.ruleSets.map (RuleDefinition.renameScopesAll f) }

/-- The rule with other names for its scopes. -/
def Rule.renameScopes (f : String → String) : Rule → Rule
  | .single r => .single { r with scope := r.scope.map f, captures := r.captures.rename f }
  | .region r => .region { r with
      scope := r.scope.map f
      contentScope := r.contentScope.map f
      openingCaptures := r.openingCaptures.rename f
      closingCaptures := r.closingCaptures.rename f }

/-- The draft with other names for its scopes. -/
def Draft.renameScopes (f : String → String) (d : Draft) : Draft :=
  { d with rules := d.rules.map (Rule.renameScopes f) }

/-- The grammar with other names for its scopes. -/
def Grammar.renameScopes (f : String → String) (g : Grammar) : Grammar :=
  { g with rules := g.rules.map (Rule.renameScopes f) }

/-! ## Building -/

namespace Build

/-- On drafts that differ in the names of scopes, the second step fails as the first does, or their results correspond
and so do the drafts that they leave. -/
def Renames (f : String → String) {α β : Type} (h : α → β) (x : Build α) (y : Build β) : Prop :=
  ∀ d : Draft, y.run (d.renameScopes f) = (x.run d).map (Prod.map h (Draft.renameScopes f))

section Renames

variable {f : String → String} {α β α' β' : Type} {h : α → β} {x : Build α} {y : Build β}

theorem renames_pure (h : α → β) (a : α) : Renames f h (pure a) (pure (h a)) := fun _ => rfl

theorem renames_throw (h : α → β) (e : GrammarError) : Renames f h (throw e) (throw e) := fun _ => rfl

theorem Renames.bind {h' : α' → β'} {u : α → Build α'} {v : β → Build β'} (hx : Renames f h x y)
    (hu : ∀ a, Renames f h' (u a) (v (h a))) : Renames f h' (x >>= u) (y >>= v) := by
  intro d
  rw [StateT.run_bind, StateT.run_bind, hx d]
  cases x.run d with
  | error e => rfl
  | ok result => exact hu result.1 result.2

end Renames

variable (f : String → String)

theorem renames_pattern (site : Site) (mayBeEmpty : Bool) (source : String) :
    Renames f id (pattern site mayBeEmpty source) (pattern site mayBeEmpty source) := by
  unfold pattern
  cases Pattern.compile source with
  | error e => exact renames_throw _ _
  | ok p =>
    dsimp only
    split
    · exact renames_throw _ _
    · exact fun d => rfl

/-- Whether a group exists does not depend on its scope. -/
theorem find?_rename (available : Nat) (captures : Captures) :
    (captures.rename f).find? (fun e => decide (available < e.1)) =
      (captures.find? fun e => decide (available < e.1)).map (Prod.map id f) := by
  rw [Captures.rename, List.find?_map]
  rfl

theorem renames_captures (site : Site) (source : String) (id : Nat) (scopes : CaptureScopes) :
    Renames f (Captures.rename f) (captures site source id scopes) (captures site source id (scopes.map f)) := by
  intro d
  have hpatterns : (d.renameScopes f).patterns = d.patterns := rfl
  have hentries : (scopes.map f).entries = Captures.rename f scopes.entries := rfl
  unfold captures
  simp only [StateT.run_bind, StateT.run_get, pure_bind, hpatterns, hentries, find?_rename]
  generalize List.find? _ scopes.entries = found
  cases found with
  | none => rfl
  | some e => rfl

theorem renames_rule (r : Rule) : Renames f id (rule r) (rule (r.renameScopes f)) := by
  intro d
  have hsize : (d.renameScopes f).rules.size = d.rules.size := by simp [Draft.renameScopes]
  have hpush : (d.renameScopes f).rules.push (r.renameScopes f) = (d.rules.push r).map (Rule.renameScopes f) := by
    simp [Draft.renameScopes]
  show Except.ok (Item.rule (d.renameScopes f).rules.size,
    { d.renameScopes f with rules := (d.renameScopes f).rules.push (r.renameScopes f) }) = _
  rw [hsize, hpush]
  rfl

mutual

theorem renames_item (site : Site) : ∀ r : RuleDefinition,
    Renames f id (item site r) (item site (r.renameScopes f))
  | .reference name => by
    simp only [RuleDefinition.renameScopes, item]
    cases site.names.idxOf? name with
    | some set => exact renames_pure id _
    | none => exact renames_throw _ _
  | .single source scope scopes => by
    simp only [RuleDefinition.renameScopes, item]
    refine (renames_pattern f site false source).bind fun pattern => ?_
    refine (renames_captures f site source pattern scopes).bind fun groups => ?_
    exact renames_rule f (.single ⟨pattern, scope, groups⟩)
  | .region opening closing scope contentScope openingScopes closingScopes children => by
    simp only [RuleDefinition.renameScopes, item]
    refine (renames_pattern f site false opening).bind fun openingId => ?_
    refine (renames_pattern f site true closing).bind fun closingId => ?_
    refine (renames_captures f site opening openingId openingScopes).bind fun openingGroups => ?_
    refine (renames_captures f site closing closingId closingScopes).bind fun closingGroups => ?_
    refine (renames_items site children).bind fun inner => ?_
    exact renames_rule f (.region ⟨openingId, closingId, scope, contentScope, openingGroups, closingGroups, inner⟩)

theorem renames_items (site : Site) : ∀ rs : List RuleDefinition,
    Renames f id (items site rs) (items site (RuleDefinition.renameScopesAll f rs))
  | [] => by
    simp only [RuleDefinition.renameScopesAll, items]
    exact renames_pure id []
  | r :: rs => by
    simp only [RuleDefinition.renameScopesAll, items]
    refine (renames_item site r).bind fun first => ?_
    refine (renames_items site rs).bind fun rest => ?_
    exact renames_pure id (first :: rest)

end

theorem renames_ruleSets (names : List String) : ∀ sets : List (String × List RuleDefinition),
    Renames f id (ruleSets names sets) (ruleSets names (sets.map (Prod.map id (RuleDefinition.renameScopesAll f))))
  | [] => renames_pure id []
  | (name, rules) :: sets => by
    simp only [List.map_cons, Prod.map_apply, id_eq, ruleSets]
    refine (renames_items f { names, current := name } rules).bind fun built => ?_
    refine (renames_ruleSets names sets).bind fun rest => ?_
    exact renames_pure id ({ name, items := built } :: rest)

end Build

/-- **Building** does not look at the names of scopes. -/
theorem GrammarDefinition.build_renameScopes (f : String → String) (d : GrammarDefinition) :
    (d.renameScopes f).build = d.build.map (Grammar.renameScopes f) := by
  have hsets := Build.renames_ruleSets f d.ruleSets.keys d.ruleSets.entries {}
  have hempty : Draft.renameScopes f {} = {} := by simp [Draft.renameScopes]
  rw [hempty] at hsets
  unfold build
  simp only [renameScopes, Table.keys_map, Table.entries_map]
  cases d.ruleSets.keys.idxOf? d.root with
  | none => rfl
  | some root =>
    dsimp only
    rw [hsets]
    cases (Build.ruleSets d.ruleSets.keys d.ruleSets.entries).run {} with
    | error e => rfl
    | ok result => rfl

/-! ## Runs -/

theorem RuleDefinition.alike_renameScopesAll (d : GrammarDefinition) (f : String → String) :
    ∀ rules : List RuleDefinition, RuleDefinition.Alike d f Eq rules (renameScopesAll f rules)
  | [] => by
    rw [renameScopesAll]
    exact .nil
  | .reference name :: rs => by
    simp only [renameScopesAll, renameScopes]
    exact .reference rfl (alike_renameScopesAll d f rs)
  | .single p s cs :: rs => by
    simp only [renameScopesAll, renameScopes]
    exact .single rfl rfl (alike_renameScopesAll d f rs)
  | .region o c s cs oc cc children :: rs => by
    simp only [renameScopesAll, renameScopes]
    exact .region rfl rfl rfl rfl (alike_renameScopesAll d f children) (alike_renameScopesAll d f rs)

/-- With other names for its scopes, a definition corresponds to itself. -/
theorem GrammarDefinition.alike_renameScopes (f : String → String) (d : GrammarDefinition) :
    d.Alike f (d.renameScopes f) Eq where
  root := rfl
  rules := by
    rintro name _ rules rfl hrules
    refine ⟨RuleDefinition.renameScopesAll f rules, ?_, RuleDefinition.alike_renameScopesAll d f rules⟩
    rw [renameScopes, Table.get?_map, hrules, Option.map_some]
  left_unique h₁ h₂ := h₁.trans h₂.symm
  right_unique h₁ h₂ := h₁.symm.trans h₂

theorem Grammar.tokensPerStep_renameScopes (f : String → String) (g : Grammar) :
    Run.tokensPerStep (g.renameScopes f) = Run.tokensPerStep g := by
  rw [tokensPerStep_eq, tokensPerStep_eq, renameScopes, Array.toList_map, List.map_map]
  congr 2
  funext rule
  cases rule <;> simp [Rule.renameScopes, Rule.maxTokens, Captures.rename]

/-- The second grammar cuts every text into the tokens of the first with other names for their scopes, with the same
offset and depth after every step; and so do pulls, which end for the same reason. Where a pull has stalled, there is no
step that it ended with. -/
structure Grammar.RenamesTokens (f : String → String) (g g' : Grammar) : Prop where
  steps : ∀ source n, let t := Text.ofString source
    (cursorRun g' t n).1 = (cursorRun g t n).1.map (Token.rename f) ∧
      t.offset (cursorRun g' t n).2.pos = t.offset (cursorRun g t n).2.pos ∧
      (cursorRun g' t n).2.frames.length = (cursorRun g t n).2.frames.length
  pulls : ∀ source k, let pulled := (Run.start g source).take k
    let pulled' := (Run.start g' source).take k
    pulled'.1 = pulled.1.map (Token.rename f) ∧ pulled'.2.2 = pulled.2.2 ∧
      (pulled.2.2 ≠ .stalled → pulled'.2.1.offset = pulled.2.1.offset ∧ pulled'.2.1.depth = pulled.2.1.depth)
  tokenize : ∀ source, g'.tokenize source = (g.tokenize source).map (Token.rename f)

/-- **Scopes are only names.** With a function, one-to-one or not, applied to the names of all scopes, a definition is
built into the grammar with the function applied, or has the same fault. And what it is built into cuts every text into
the same tokens with the function applied to all scopes on their paths. -/
theorem scope_names_are_opaque (d : GrammarDefinition) (f : String → String) :
    (d.renameScopes f).build = d.build.map (Grammar.renameScopes f) ∧
      ∀ g, d.build = .ok g → g.RenamesTokens f (g.renameScopes f) := by
  refine ⟨d.build_renameScopes f, fun g h => ?_⟩
  have h' : (d.renameScopes f).build = .ok (g.renameScopes f) := by
    rw [d.build_renameScopes f, h]
    rfl
  have hlock := ((d.alike_renameScopes f).makes (GrammarDefinition.makes_of_build h)
    (GrammarDefinition.makes_of_build h')).lockstep
  have hpulls := fun source => (Run.Together.start f g (g.renameScopes f) source).take (hlock (Text.ofString source))
  refine ⟨fun source n => ?_, hpulls, fun source => ?_⟩
  · have hsource := hlock (Text.ofString source)
    exact ⟨hsource.tokens n, by rw [hsource.pos n], hsource.depth n⟩
  · have hleft : (Run.start (g.renameScopes f) source).tokensLeft = (Run.start g source).tokensLeft := by
      have hsize : (g.renameScopes f).rules.size = g.rules.size := by simp [Grammar.renameScopes]
      simp [Run.tokensLeft, Run.start, Cursor.start, g.tokensPerStep_renameScopes f, hsize]
    rw [Grammar.tokenize, Run.rest, hleft]
    exact (hpulls source _).1

/-- Two scopes become one: the letter and the mark of the bracket cannot be told apart any more. -/
theorem scope_names_are_opaque_brackets :
    let f : String → String := fun name => if name = "letter" ∨ name = "mark" then "small" else name
    let d := GrammarDefinition.brackets
    d.build = .ok .brackets ∧ (d.renameScopes f).build = .ok (Grammar.brackets.renameScopes f) ∧
      ((Grammar.brackets.tokenize "(x").map fun tok => tok.scopes.scopes) =
        [["round"], ["round", "mark"], ["round", "letter"]] ∧
      (((Grammar.brackets.renameScopes f).tokenize "(x").map fun tok => tok.scopes.scopes) =
        [["round"], ["round", "small"], ["round", "small"]] := by
  intro f d
  obtain ⟨hbuild, htokens⟩ := scope_names_are_opaque d f
  have hscopes : (Grammar.brackets.tokenize "(x").map (fun tok => tok.scopes.scopes) =
      [["round"], ["round", "mark"], ["round", "letter"]] := by decide +kernel
  refine ⟨GrammarDefinition.build_brackets, ?_, hscopes, ?_⟩
  · rw [hbuild, GrammarDefinition.build_brackets]
    rfl
  · rw [(htokens _ GrammarDefinition.build_brackets).tokenize, List.map_map]
    have hrename : (fun tok => tok.scopes.scopes) ∘ Token.rename f = fun tok => tok.scopes.scopes.map f := rfl
    rw [hrename, ← Function.comp_def (List.map f) fun tok : Token => tok.scopes.scopes, ← List.map_map, hscopes]
    rfl

end Highlight
