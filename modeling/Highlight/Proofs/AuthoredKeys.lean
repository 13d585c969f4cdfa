import Highlight.Proofs.RuleForms

/-!
# No key is ignored

A key that the kind of a rule does not know has to fail the attempts to read the rule as any kind, and those of the
rules around it, up to the definition as a whole.

* **Definitions** (`GrammarDefinition.isSome_ofJson?_iff`): an object is read as a definition iff it has the members of
  one and each rule in it, at any depth (`RuleIn`), fits a kind. One level of children is the step, and the induction is
  on the depth.
* **Keys** (`no_key_is_ignored`): an object fits one kind at most (`RuleKind.Fits.unique`) and has no stray keys
  (`RuleKind.Fits.not_hasStrayKey`).
-/

namespace Highlight

/-! ## Definitions -/

/-- The rules that the members of a definition have, in its rule sets and as children at any depth. -/
inductive RuleIn (members : List (String × Json)) : Json → Prop
  | ofSet {sets : List (String × Json)} {name : String} {items : List Json} {rule : Json} :
      ("rule_sets", .obj sets) ∈ members → (name, .arr items) ∈ sets → rule ∈ items → RuleIn members rule
  | child {rule child : Json} : RuleIn members rule → rule.Child child → RuleIn members child

/-- The members are those of a definition, whatever the rules in it are. -/
structure DefinitionMembers (members : List (String × Json)) : Prop where
  names : (members.map (·.1)).Perm ["name", "root", "rule_sets"]
  name : ∃ s, ("name", .str s) ∈ members
  root : ∃ s, ("root", .str s) ∈ members
  sets : ∃ sets, ("rule_sets", .obj sets) ∈ members ∧ ∀ set ∈ sets, ∃ items, set.2 = .arr items

theorem isSome_ruleSetsOfJson?_iff (v : Json) : (ruleSetsOfJson? v).isSome = true ↔
    ∃ sets, v = .obj sets ∧ ∀ set ∈ sets, ∃ items, set.2 = .arr items ∧
      ∀ item ∈ items, item.toDatum.toRule?.isSome = true := by
  cases v with
  | obj sets =>
    simp only [ruleSetsOfJson?, Json.obj.injEq, exists_eq_left']
    refine isSome_foldlM_iff (fun table set => ?_) sets _
    obtain ⟨name, value⟩ := set
    cases value with
    | arr items =>
      simp only [Json.arr.injEq, exists_eq_left', ← isSome_ruleItems?_iff]
      cases ruleItems? (datumItems items) <;> simp
    | _ => simp
  | _ => simp [ruleSetsOfJson?]

theorem isSome_definitionOfValues?_iff (name root sets : Json) : (definitionOfValues? name root sets).isSome = true ↔
    (∃ s, name = .str s) ∧ (∃ s, root = .str s) ∧ (ruleSetsOfJson? sets).isSome = true := by
  cases name with
  | str name =>
    cases root with
    | str root =>
      simp only [definitionOfValues?]
      cases ruleSetsOfJson? sets <;> simp
    | _ => simp [definitionOfValues?]
  | _ => simp [definitionOfValues?]

theorem mem_map_fst_of_lookup {members : List (String × Json)} {name : String} {v : Json}
    (h : members.lookup name = some v) : name ∈ members.map (·.1) := by
  obtain ⟨before, after, rfl, -⟩ := List.lookup_eq_some_iff.1 h
  simp

/-- A definition is read iff its members are those of a definition and the rules of its sets are read. -/
theorem GrammarDefinition.isSome_ofJson?_iff_sets (members : List (String × Json)) :
    (GrammarDefinition.ofJson? (.obj members)).isSome = true ↔ DefinitionMembers members ∧
      ∀ sets name items, ("rule_sets", .obj sets) ∈ members → (name, .arr items) ∈ sets →
        ∀ item ∈ items, item.toDatum.toRule?.isSome = true := by
  constructor
  · intro h
    simp only [GrammarDefinition.ofJson?, Json.get?_obj] at h
    split at h
    next hlength =>
      split at h
      next name root sets hname hroot hsets =>
        rw [isSome_definitionOfValues?_iff, isSome_ruleSetsOfJson?_iff] at h
        obtain ⟨⟨name, rfl⟩, ⟨root, rfl⟩, sets, rfl, hrules⟩ := h
        -- three members, with three different names among theirs, have no other names and none twice
        have hnames : (members.map (·.1)).Perm ["name", "root", "rule_sets"] := by
          refine (List.Subperm.perm_of_length_le (List.subperm_of_subset (by decide) ?_) (by simp [hlength])).symm
          simp [mem_map_fst_of_lookup hname, mem_map_fst_of_lookup hroot, mem_map_fst_of_lookup hsets]
        have hnodup : (members.map (·.1)).Nodup := hnames.nodup_iff.2 (by decide)
        rw [← mem_iff_lookup hnodup] at hname hroot
        refine ⟨⟨hnames, ⟨name, hname⟩, ⟨root, hroot⟩, sets, (mem_iff_lookup hnodup).2 hsets, fun set hset => ?_⟩, ?_⟩
        · obtain ⟨items, hitems, -⟩ := hrules set hset
          exact ⟨items, hitems⟩
        · intro sets' name items hmember hset
          rw [mem_iff_lookup hnodup, hsets] at hmember
          obtain ⟨rfl⟩ := Option.some.inj hmember
          obtain ⟨items, ⟨rfl⟩, hread⟩ := hrules _ hset
          exact hread
      next => cases h
    next => cases h
  · rintro ⟨⟨hnames, ⟨name, hname⟩, ⟨root, hroot⟩, sets, hsets, hitems⟩, hrules⟩
    have hnodup : (members.map (·.1)).Nodup := hnames.nodup_iff.2 (by decide)
    have hlength : members.length = 3 := by simpa using hnames.length_eq
    rw [mem_iff_lookup hnodup] at hname hroot
    have hlookup := (mem_iff_lookup hnodup).1 hsets
    simp only [GrammarDefinition.ofJson?, Json.get?_obj, if_pos hlength, hname, hroot, hlookup]
    refine (isSome_definitionOfValues?_iff _ _ _).2 ⟨⟨name, rfl⟩, ⟨root, rfl⟩, ?_⟩
    refine (isSome_ruleSetsOfJson?_iff _).2 ⟨sets, rfl, fun set hset => ?_⟩
    obtain ⟨items, hvalue⟩ := hitems set hset
    refine ⟨items, hvalue, hrules sets set.1 items hsets ?_⟩
    rw [← hvalue]
    exact hset

section Rules

variable {members : List (String × Json)}

/-- Where the rules of the sets are read, those at any depth are. -/
theorem RuleIn.isSome_toRule? (hsets : ∀ sets name items, ("rule_sets", .obj sets) ∈ members →
    (name, .arr items) ∈ sets → ∀ item ∈ items, item.toDatum.toRule?.isSome = true) {rule : Json}
    (h : RuleIn members rule) : rule.toDatum.toRule?.isSome = true := by
  induction h with
  | ofSet hmember hset hrule => exact hsets _ _ _ hmember hset _ hrule
  | child _ hchild ih => exact ((isSome_toRule?_iff _).1 ih).2 _ hchild

/-- Where all rules fit a kind, all of them are read: the children of a rule are smaller than it. -/
theorem isSome_toRule?_of_fits (hfits : ∀ rule, RuleIn members rule → ∃ kind : RuleKind, kind.Fits rule)
    (rule : Json) (h : RuleIn members rule) : rule.toDatum.toRule?.isSome = true :=
  (isSome_toRule?_iff rule).2
    ⟨hfits rule h, fun child hchild => isSome_toRule?_of_fits hfits child (.child h hchild)⟩
termination_by sizeOf rule
decreasing_by exact hchild.sizeOf_lt

end Rules

/-- **A definition** is read iff its members are those of a definition and each rule in it fits a kind. -/
theorem GrammarDefinition.isSome_ofJson?_iff (members : List (String × Json)) :
    (GrammarDefinition.ofJson? (.obj members)).isSome = true ↔
      DefinitionMembers members ∧ ∀ rule, RuleIn members rule → ∃ kind : RuleKind, kind.Fits rule := by
  rw [isSome_ofJson?_iff_sets]
  constructor
  · rintro ⟨hmembers, hsets⟩
    exact ⟨hmembers, fun rule h => ((isSome_toRule?_iff rule).1 (h.isSome_toRule? hsets)).1⟩
  · rintro ⟨hmembers, hfits⟩
    exact ⟨hmembers, fun sets name items hmember hset item hitem =>
      isSome_toRule?_of_fits hfits item (.ofSet hmember hset hitem)⟩

/-! ## Stray keys -/

/-- The rule has a key that does not belong to it: one that is unknown or that no kind has together with the others, or
one that should be the index of a group and is none. -/
def HasStrayKey (rule : List (String × Json)) : Prop :=
  (∀ kind : RuleKind, ∃ m ∈ rule, m.1 ∉ kind.names) ∨
    ∃ m ∈ rule, m.1 ∈ ["captures", "begin_captures", "end_captures"] ∧
      ∃ groups, m.2 = .obj groups ∧ ∃ g ∈ groups, ¬WritesIndex g.1

namespace RuleKind

/-- The first field of a kind has to be there, and no other kind has it. -/
theorem exists_mark (kind : RuleKind) : ∃ mark, kind.fields[0]? = some (mark, .text) ∧
    ∀ other : RuleKind, mark ∈ other.names → other = kind := by
  cases kind <;> refine ⟨_, rfl, fun other => ?_⟩ <;> cases other <;> decide

theorem mem_fields_groups (kind : RuleKind) :
    ∀ name ∈ ["captures", "begin_captures", "end_captures"], name ∈ kind.names → (name, .groups) ∈ kind.fields := by
  cases kind <;> decide

variable {kind other : RuleKind} {rule : List (String × Json)}

/-- **An object** fits one kind at most. -/
theorem Fits.unique (h : kind.Fits (.obj rule)) (hother : other.Fits (.obj rule)) : other = kind := by
  obtain ⟨mark, hmark, hkind⟩ := kind.exists_mark
  obtain ⟨s, hvalue⟩ := h.2 0 mark .text hmark
  exact hkind other (hother.1.2 _ ((mem_iff_lookup h.1.1).2 hvalue))

theorem Fits.not_hasStrayKey (h : kind.Fits (.obj rule)) : ¬HasStrayKey rule := by
  rintro (hkinds | ⟨⟨name, v⟩, hm, hname, groups, rfl, g, hg, hindex⟩)
  · obtain ⟨m, hm, hnot⟩ := hkinds kind
    exact hnot (h.1.2 m hm)
  · obtain ⟨i, hi⟩ := List.mem_iff_getElem?.1 (kind.mem_fields_groups name hname (h.1.2 _ hm))
    have hadmits := h.2 i name .groups hi
    rw [Json.fieldAt?, (mem_iff_lookup h.1.1).1 hm] at hadmits
    rcases hadmits with hnone | ⟨members, ⟨rfl⟩, hmembers⟩
    · cases hnone
    · exact hindex (hmembers g hg).1

end RuleKind

/-- **No key is ignored.** A definition is refused as a whole if a rule in it, at any depth, has a key that does not
belong to it. In a definition that is read, each rule that is an object is read as one kind and not as the others, and
all its keys are fields of this kind. Nothing else is refused: an object with the members of a definition is read iff
each of its rules fits a kind. -/
theorem no_key_is_ignored (members : List (String × Json)) :
    ((∃ rule, RuleIn members (.obj rule) ∧ HasStrayKey rule) → GrammarDefinition.ofJson? (.obj members) = none) ∧
    (∀ d, GrammarDefinition.ofJson? (.obj members) = some d → ∀ rule, RuleIn members (.obj rule) →
      ∃ kind : RuleKind, (∀ other : RuleKind, (other.ofJson? (.obj rule)).isSome = true ↔ other = kind) ∧
        ∀ m ∈ rule, m.1 ∈ kind.names) ∧
    ((GrammarDefinition.ofJson? (.obj members)).isSome = true ↔
      DefinitionMembers members ∧ ∀ rule, RuleIn members rule → ∃ kind : RuleKind, kind.Fits rule) := by
  refine ⟨?_, ?_, GrammarDefinition.isSome_ofJson?_iff members⟩
  · rintro ⟨rule, hrule, hstray⟩
    by_contra hread
    obtain ⟨-, hfits⟩ := (GrammarDefinition.isSome_ofJson?_iff members).1 (Option.isSome_iff_ne_none.2 hread)
    obtain ⟨kind, hkind⟩ := hfits _ hrule
    exact hkind.not_hasStrayKey hstray
  · intro d hd rule hrule
    obtain ⟨-, hfits⟩ := (GrammarDefinition.isSome_ofJson?_iff members).1 (Option.isSome_of_eq_some hd)
    obtain ⟨⟨kind, hkind⟩, hchildren⟩ := (isSome_toRule?_iff _).1 (isSome_toRule?_of_fits hfits _ hrule)
    refine ⟨kind, fun other => ?_, hkind.1.2⟩
    rw [other.isSome_ofJson?_iff]
    constructor
    · exact fun hother => hkind.unique hother.1
    · rintro rfl
      exact ⟨hkind, hchildren⟩

/-- A set with two regions, one in the other, and a rule in the inner one. -/
def nestedMembers (rule : List (String × Json)) : List (String × Json) :=
  let region (opening closing : String) (child : Json) : Json :=
    .obj [("begin", .str opening), ("end", .str closing), ("children", .arr [child])]
  [("name", .str "text"), ("root", .str "main"),
    ("rule_sets", .obj [("main", .arr [region "[" "]" (region "(" ")" (.obj rule))])])]

theorem ruleIn_nestedMembers (rule : List (String × Json)) : RuleIn (nestedMembers rule) (.obj rule) := by
  have houter : RuleIn (nestedMembers rule) _ := .ofSet (.tail _ (.tail _ (.head _))) (.head _) (.head _)
  have hinner := houter.child (.member (.tail _ (.tail _ (.head _))) (.head _))
  exact hinner.child (.member (.tail _ (.tail _ (.head _))) (.head _))

/-- Two levels deep, an index with white space and a plus sign is read, while a misspelled field, a field of another
kind and a number that does not fit in 64 bits fail the definition. -/
theorem no_key_is_ignored_nested :
    let rule (key group : String) : List (String × Json) :=
      [("match", .str "x"), (key, .str "y"), ("captures", .obj [(group, .str "z")])]
    (∃ d, GrammarDefinition.ofJson? (.obj (nestedMembers (rule "scope" " +1\n"))) = some d ∧
      ∃ kind : RuleKind, (∀ other : RuleKind, (other.ofJson? (.obj (rule "scope" " +1\n"))).isSome = true ↔
        other = kind) ∧ ∀ m ∈ rule "scope" " +1\n", m.1 ∈ kind.names) ∧
    HasStrayKey (rule "scop" "1") ∧ GrammarDefinition.ofJson? (.obj (nestedMembers (rule "scop" "1"))) = none ∧
    HasStrayKey (rule "end" "1") ∧ GrammarDefinition.ofJson? (.obj (nestedMembers (rule "end" "1"))) = none ∧
    HasStrayKey (rule "scope" "18446744073709551616") ∧
      GrammarDefinition.ofJson? (.obj (nestedMembers (rule "scope" "18446744073709551616"))) = none := by
  intro rule
  have hrefuse : ∀ key group, HasStrayKey (rule key group) →
      GrammarDefinition.ofJson? (.obj (nestedMembers (rule key group))) = none := fun key group h =>
    (no_key_is_ignored _).1 ⟨_, ruleIn_nestedMembers _, h⟩
  have hscop : HasStrayKey (rule "scop" "1") := .inl fun kind => by cases kind <;> decide
  have hend : HasStrayKey (rule "end" "1") := .inl fun kind => by cases kind <;> decide
  have hgroup : HasStrayKey (rule "scope" "18446744073709551616") :=
    .inr ⟨_, .tail _ (.tail _ (.head _)), by decide, _, rfl, _, .head _, by
      rw [← isSome_groupIndex?_text, groupIndex?, trimBlanks_of_isDigit (List.all_eq_true.1 (by decide))]
      decide⟩
  obtain ⟨d, hd⟩ := Option.isSome_iff_exists.1
    (show (GrammarDefinition.ofJson? (.obj (nestedMembers (rule "scope" " +1\n")))).isSome = true by decide +kernel)
  exact ⟨⟨d, hd, (no_key_is_ignored _).2.1 d hd _ (ruleIn_nestedMembers _)⟩, hscop, hrefuse _ _ hscop, hend,
    hrefuse _ _ hend, hgroup, hrefuse _ _ hgroup⟩

end Highlight
