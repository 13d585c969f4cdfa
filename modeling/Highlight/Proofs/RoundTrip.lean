import Highlight.Proofs.Builder
import Highlight.Proofs.Members

/-!
# Definitions survive their JSON form

A definition that is written as JSON is read back as it was, also when the members of objects, at any depth, come in
another order.

* **Groups** (`groupIndex?_toString`): an index of a group below 2⁶⁴ is read from its decimal digits.
* **Rules** (`toRule?_toJson`): a rule is written as an object of its fields (`RuleDefinition.fields`). Nothing in it
  says which kind of rule it is: the kinds that are tried before its own do not know the first of its fields.
* **Definitions** (`definition_survives_json`): the rule sets are read one by one, each under its name.
-/

namespace Highlight

/-! ## Indices of groups -/

theorem CharSet.memRanges_eq_false {n : Nat} : ∀ {ranges : List CharRange}, (∀ r ∈ ranges, r.hi < n ∨ n < r.lo) →
    memRanges n ranges = false
  | [], _ => rfl
  | r :: ranges, h => by
    obtain ⟨hfirst, hrest⟩ := List.forall_mem_cons.1 h
    rw [memRanges]
    split
    · rfl
    · rw [if_neg (by omega), memRanges_eq_false hrest]

/-- From the plus sign to the last digit there is no white space. -/
theorem contains_whiteSpace_eq_false {c : Char} (hlo : 43 ≤ c.toNat) (hhi : c.toNat ≤ 57) :
    Unicode.whiteSpace.contains c = false := by
  have hranges : ∀ r ∈ Unicode.whiteSpace.ranges, r.hi < 43 ∨ 57 < r.lo := by decide +kernel
  exact CharSet.memRanges_eq_false fun r hr => (hranges r hr).imp (Nat.lt_of_lt_of_le · hlo) (Nat.lt_of_le_of_lt hhi)

theorem contains_whiteSpace_of_isDigit {c : Char} (h : c.isDigit = true) : Unicode.whiteSpace.contains c = false := by
  obtain ⟨hlo, hhi⟩ : 48 ≤ c.toNat ∧ c.toNat ≤ 57 := Char.isDigit_iff_toNat.1 h
  exact contains_whiteSpace_eq_false (by omega) hhi

/-- Digits have no white space around them. -/
theorem trimBlanks_of_isDigit {cs : List Char} (h : ∀ c ∈ cs, c.isDigit = true) : trimBlanks cs = cs := by
  have hkeep : ∀ ds : List Char, (∀ c ∈ ds, c.isDigit = true) → ds.dropWhile Unicode.whiteSpace.contains = ds := by
    intro ds hds
    cases ds with
    | nil => rfl
    | cons d ds =>
      have hd := contains_whiteSpace_of_isDigit (hds d List.mem_cons_self)
      rw [List.dropWhile_cons_of_neg (by simp [hd])]
  simp only [trimBlanks]
  rw [hkeep cs h, hkeep cs.reverse (by simpa using h), List.reverse_reverse]

theorem parseUInt64?_of_isDigit {cs : List Char} (hne : cs ≠ []) (h : ∀ c ∈ cs, c.isDigit = true)
    (hlt : Nat.ofDigitChars 10 cs 0 < UInt64.size) : parseUInt64? cs = some (Nat.ofDigitChars 10 cs 0) := by
  have hsign : ∀ ds, cs ≠ '+' :: ds := by
    rintro ds rfl
    exact absurd (h '+' List.mem_cons_self) (by decide)
  have hall : cs.all Char.isDigit = true := List.all_eq_true.2 h
  have hempty : cs.isEmpty = false := by simpa using hne
  unfold parseUInt64?
  split
  next ds => exact absurd rfl (hsign ds)
  next =>
    simp only [hall, hempty, Bool.not_true, Bool.or_self, Bool.false_eq_true, ↓reduceIte]
    exact if_pos hlt

/-- **An index** of a group is read from its decimal digits. -/
theorem groupIndex?_toString {n : Nat} (h : n < UInt64.size) : groupIndex? (.text (toString n)) = some n := by
  have hdigits : ∀ c ∈ Nat.toDigits 10 n, c.isDigit = true := fun c hc =>
    Nat.isDigit_of_mem_toDigits (by decide) (by decide) hc
  rw [groupIndex?, show (toString n).toList = Nat.toDigits 10 n from Nat.toList_repr, trimBlanks_of_isDigit hdigits,
    parseUInt64?_of_isDigit Nat.toDigits_ne_nil hdigits (by rwa [Nat.ofDigitChars_ten_toDigits]),
    Nat.ofDigitChars_ten_toDigits]

/-! ## Values of fields -/

/-- Scopes of groups as the value of a field, unless there are none. -/
def captureField (scopes : CaptureScopes) : Option Json :=
  if scopes.isEmpty then none else some scopes.toJson

/-- Rules as the value of a field, unless there are none. -/
def rulesField (rules : List RuleDefinition) : Option Json :=
  if rules.isEmpty then none else some (.arr (rulesToJson rules))

section Values

variable {value : Option Json}

theorem requiredText?_of_reorders {s : String} (h : Option.Rel Json.Reorders (some (.str s)) value) :
    requiredText? (value.map Json.field) = some s := by
  cases h with
  | some hv =>
    obtain rfl := hv.str
    rfl

theorem optionalText?_of_reorders {s : Option String} (h : Option.Rel Json.Reorders (s.map .str) value) :
    optionalText? (value.map Json.field) = some s := by
  cases s with
  | none =>
    cases h
    rfl
  | some s =>
    cases h with
    | some hv =>
      obtain rfl := hv.str
      rfl

theorem captureScopes?_of_reorders {scopes : CaptureScopes} (hfit : ∀ group ∈ scopes.keys, group < UInt64.size)
    (h : Option.Rel Json.Reorders (captureField scopes) value) :
    captureScopes? (value.map Json.field) = some scopes := by
  unfold captureField at h
  split at h
  next hempty =>
    cases h
    obtain ⟨entries, hascending⟩ := scopes
    obtain rfl := List.isEmpty_iff.1 hempty
    rfl
  next =>
    cases h with
    | some hv =>
      obtain ⟨between, members, rfl, hmembers, hperm⟩ := hv.members
      simp only [Option.map_some, Json.field, Json.toDatum, captureScopes?, datumMembers_eq_map]
      refine Table.foldlM_insert_eq ?_ (hperm.map _)
      -- each entry is written with the digits of its group as a name, and read as an insertion
      have hentries := (List.forall₂_and_left _ _).2
        ⟨fun e he => hfit e.1 (List.mem_map_of_mem he), List.forall₂_map_left_iff.1 hmembers.forall₂⟩
      refine List.forall₂_map_right_iff.2 (hentries.imp ?_)
      rintro ⟨group, scope⟩ ⟨name, v⟩ ⟨hlt, hname, hscope⟩ t
      obtain rfl : name = toString group := hname
      obtain rfl : v = .str scope := hscope.str
      simp only [groupIndex?_toString hlt, Json.toDatum, Option.bind_eq_bind, Option.bind_some]

theorem optionalRules?_of_reorders {rules : List RuleDefinition}
    (hread : ∀ items, ItemsReorder (rulesToJson rules) items → ruleItems? (datumItems items) = some rules)
    (h : Option.Rel Json.Reorders (rulesField rules) value) : optionalRules? (value.map Json.field) = some rules := by
  unfold rulesField at h
  split at h
  next hempty =>
    cases h
    obtain rfl := List.isEmpty_iff.1 hempty
    rfl
  next =>
    cases h with
    | some hv =>
      obtain ⟨items, rfl, hitems⟩ := hv.items
      exact hread items hitems

end Values

/-! ## Rules -/

namespace RuleDefinition

/-- The fields of a rule, in order. Those that may be left out have a value only where there is something to write. -/
def fields : RuleDefinition → List (String × Option Json)
  | .reference set => [("include", some (.str set))]
  | .single pattern scope captures =>
    [("match", some (.str pattern)), ("scope", scope.map .str), ("captures", captureField captures)]
  | .region opening closing scope contentScope openingCaptures closingCaptures children =>
    [("begin", some (.str opening)), ("end", some (.str closing)), ("scope", scope.map .str),
      ("content_scope", contentScope.map .str), ("begin_captures", captureField openingCaptures),
      ("end_captures", captureField closingCaptures), ("children", rulesField children)]

theorem nodup_fields (r : RuleDefinition) : (r.fields.map (·.1)).Nodup := by
  cases r <;> simp [fields]

theorem toJson_eq (r : RuleDefinition) : r.toJson = .obj (presentMembers r.fields) := by
  have htext : ∀ name (s : Option String), textMember name s = presentMembers [(name, s.map .str)] := by
    rintro name (_ | s) <;> rfl
  have hcaptures : ∀ name scopes, captureMember name scopes = presentMembers [(name, captureField scopes)] := by
    intro name scopes
    unfold captureMember captureField
    split <;> rfl
  have hrules : ∀ rules : List RuleDefinition,
      (if rules.isEmpty then [] else [("children", .arr (rulesToJson rules))]) =
        presentMembers [("children", rulesField rules)] := by
    intro rules
    unfold rulesField
    split <;> rfl
  cases r with
  | reference set => simp [toJson, fields, presentMembers]
  | single pattern scope captures =>
    rw [toJson, htext, hcaptures]
    simp [fields, presentMembers, ← List.filterMap_append]
  | region opening closing scope contentScope openingCaptures closingCaptures children =>
    rw [toJson, htext, htext, hcaptures, hcaptures, hrules]
    simp [fields, presentMembers, ← List.filterMap_append]

/-- The groups that the rule gives scopes. -/
def ownGroups : RuleDefinition → List Nat
  | .reference _ => []
  | .single _ _ captures => captures.keys
  | .region _ _ _ _ openingCaptures closingCaptures _ => openingCaptures.keys ++ closingCaptures.keys

/-- The indices of the groups are below 2⁶⁴. -/
def GroupsFit (r : RuleDefinition) : Prop := ∀ group ∈ r.ownGroups, group < UInt64.size

instance (r : RuleDefinition) : Decidable r.GroupsFit :=
  inferInstanceAs (Decidable (∀ group ∈ r.ownGroups, group < UInt64.size))

end RuleDefinition

section Kinds

variable {v : Json}

/-- The fields of a rule are found in its object. Kinds of rules that do not know one of the names are ruled out. -/
theorem RuleDefinition.tableFields?_of_reorders {r : RuleDefinition} (hv : r.toJson.Reorders v) :
    ∃ entries, v.toDatum = .table entries ∧
      (∃ values, tableFields? (r.fields.map (·.1)) (fieldEntries entries) = some (values.map (Option.map Json.field)) ∧
        List.Forall₂ (fun f value => Option.Rel Json.Reorders f.2 value) r.fields values) ∧
      ∀ names, ∀ name ∈ (presentMembers r.fields).map (·.1), name ∉ names →
        tableFields? names (fieldEntries entries) = none := by
  rw [toJson_eq] at hv
  obtain ⟨members, rfl, hperm, hvalues⟩ := hv.lookup_fields r.nodup_fields
  refine ⟨datumMembers members, by rw [Json.toDatum], ⟨_, ?_, hvalues⟩, fun names name hmem hname => ?_⟩
  · simp only [tableFields?_of_perm r.nodup_fields hperm, List.map_map]
    rfl
  · obtain ⟨⟨_, v⟩, hm, rfl⟩ := List.mem_map.1 (hperm.subset hmem)
    rw [fieldEntries_datumMembers]
    exact tableFields?_eq_none (List.mem_map_of_mem hm) (List.idxOf?_eq_none_iff.2 hname)

theorem toRule?_reference {set : String} (hv : (RuleDefinition.reference set).toJson.Reorders v) :
    v.toDatum.toRule? = some (.reference set) := by
  obtain ⟨entries, hdatum, ⟨values, htable, hvalues⟩, -⟩ := RuleDefinition.tableFields?_of_reorders hv
  simp only [RuleDefinition.fields, List.map_cons, List.map_nil] at htable
  obtain _ | ⟨hset, _ | _⟩ := hvalues
  have hkind : reference? (.table (fieldEntries entries)) = some (.reference set) := by
    simp [reference?, RuleFields.get?, htable, requiredText?_of_reorders hset]
  rw [hdatum, Datum.toRule?, ruleOfFields?, hkind, Option.some_or, Option.some_or]

theorem toRule?_single {pattern : String} {scope : Option String} {captures : CaptureScopes}
    (hfit : (RuleDefinition.single pattern scope captures).GroupsFit)
    (hv : (RuleDefinition.single pattern scope captures).toJson.Reorders v) :
    v.toDatum.toRule? = some (.single pattern scope captures) := by
  obtain ⟨entries, hdatum, ⟨values, htable, hvalues⟩, hothers⟩ := RuleDefinition.tableFields?_of_reorders hv
  have hreference : reference? (.table (fieldEntries entries)) = none := by
    have hnone := hothers ["include"] "match" (by simp [RuleDefinition.fields, presentMembers]) (by decide)
    simp [reference?, RuleFields.get?, hnone]
  simp only [RuleDefinition.fields, List.map_cons, List.map_nil] at htable
  obtain _ | ⟨hpattern, _ | ⟨hscope, _ | ⟨hcaptures, _ | _⟩⟩⟩ := hvalues
  have hkind : single? (.table (fieldEntries entries)) = some (.single pattern scope captures) := by
    simp [single?, RuleFields.get?, htable, requiredText?_of_reorders hpattern, optionalText?_of_reorders hscope,
      captureScopes?_of_reorders hfit hcaptures]
  rw [hdatum, Datum.toRule?, ruleOfFields?, hreference, hkind, Option.none_or, Option.some_or]

theorem toRule?_region {opening closing : String} {scope contentScope : Option String}
    {openingCaptures closingCaptures : CaptureScopes} {children : List RuleDefinition}
    (hfit : (RuleDefinition.region opening closing scope contentScope openingCaptures closingCaptures
      children).GroupsFit)
    (hread : ∀ items, ItemsReorder (rulesToJson children) items → ruleItems? (datumItems items) = some children)
    (hv : (RuleDefinition.region opening closing scope contentScope openingCaptures closingCaptures
      children).toJson.Reorders v) :
    v.toDatum.toRule? =
      some (.region opening closing scope contentScope openingCaptures closingCaptures children) := by
  obtain ⟨entries, hdatum, ⟨values, htable, hvalues⟩, hothers⟩ := RuleDefinition.tableFields?_of_reorders hv
  have hbegin : "begin" ∈ (presentMembers (RuleDefinition.region opening closing scope contentScope openingCaptures
      closingCaptures children).fields).map (·.1) := by simp [RuleDefinition.fields, presentMembers]
  have hreference : reference? (.table (fieldEntries entries)) = none := by
    simp [reference?, RuleFields.get?, hothers ["include"] "begin" hbegin (by decide)]
  have hsingle : single? (.table (fieldEntries entries)) = none := by
    simp [single?, RuleFields.get?, hothers ["match", "scope", "captures"] "begin" hbegin (by decide)]
  obtain ⟨hopeningFit, hclosingFit⟩ := List.forall_mem_append.1 hfit
  simp only [RuleDefinition.fields, List.map_cons, List.map_nil] at htable
  obtain _ | ⟨hopening, _ | ⟨hclosing, _ | ⟨hscope, _ | ⟨hcontent, _ | ⟨hopens, _ | ⟨hcloses, _ | ⟨hchildren,
    _ | _⟩⟩⟩⟩⟩⟩⟩ := hvalues
  have hkind : region? (.table (fieldEntries entries)) =
      some (.region opening closing scope contentScope openingCaptures closingCaptures children) := by
    simp [region?, RuleFields.get?, htable, requiredText?_of_reorders hopening, requiredText?_of_reorders hclosing,
      optionalText?_of_reorders hscope, optionalText?_of_reorders hcontent,
      captureScopes?_of_reorders hopeningFit hopens, captureScopes?_of_reorders hclosingFit hcloses,
      optionalRules?_of_reorders hread hchildren]
  rw [hdatum, Datum.toRule?, ruleOfFields?, hreference, hsingle, hkind, Option.none_or, Option.none_or]

end Kinds

mutual

/-- **A rule** is read back, with the rules inside it at any depth. -/
theorem toRule?_toJson : ∀ (r : RuleDefinition) {v : Json}, (∀ r' ∈ r.flatten, r'.GroupsFit) → r.toJson.Reorders v →
    v.toDatum.toRule? = some r
  | .reference _, _, _, hv => toRule?_reference hv
  | .single pattern scope captures, _, hfit, hv =>
    toRule?_single (hfit (.single pattern scope captures) (by rw [RuleDefinition.flatten]; exact List.mem_cons_self)) hv
  | .region o c s cs oc cc children, _, hfit, hv => by
    rw [RuleDefinition.flatten] at hfit
    obtain ⟨hown, hinside⟩ := List.forall_mem_cons.1 hfit
    exact toRule?_region hown (fun items hitems => ruleItems?_rulesToJson children hinside hitems) hv

theorem ruleItems?_rulesToJson : ∀ (rs : List RuleDefinition) {items : List Json},
    (∀ r ∈ RuleDefinition.flattenAll rs, r.GroupsFit) → ItemsReorder (rulesToJson rs) items →
      ruleItems? (datumItems items) = some rs
  | [], items, _, h => by
    rw [rulesToJson] at h
    cases h
    rw [datumItems, ruleItems?]
  | r :: rs, items, hfit, h => by
    rw [rulesToJson] at h
    rw [RuleDefinition.flattenAll] at hfit
    obtain ⟨hfirst, hrest⟩ := List.forall_mem_append.1 hfit
    cases h with
    | cons hv hitems =>
      rw [datumItems, ruleItems?, toRule?_toJson r hfirst hv, ruleItems?_rulesToJson rs hrest hitems]

end

/-! ## Definitions -/

namespace GrammarDefinition

/-- The indices of all groups that rules give scopes, at any depth, are below 2⁶⁴. -/
def GroupsFit (d : GrammarDefinition) : Prop := ∀ r ∈ d.allRules, r.GroupsFit

instance (d : GrammarDefinition) : Decidable d.GroupsFit :=
  inferInstanceAs (Decidable (∀ r ∈ d.allRules, r.GroupsFit))

/-- The fields of a definition. -/
def fields (d : GrammarDefinition) : List (String × Option Json) :=
  [("name", some (.str d.name)), ("root", some (.str d.root)),
    ("rule_sets", some (.obj (d.ruleSets.entries.map fun s => (s.1, .arr (rulesToJson s.2)))))]

theorem toJson_eq (d : GrammarDefinition) : d.toJson = .obj (presentMembers d.fields) := rfl

theorem nodup_fields (d : GrammarDefinition) : (d.fields.map (·.1)).Nodup := by
  simp [fields]

end GrammarDefinition

theorem Json.get?_obj (name : String) (members : List (String × Json)) :
    (Json.obj members).get? name = members.lookup name := by
  rw [get?]
  induction members with
  | nil => rfl
  | cons m members ih =>
    rw [List.find?_cons, List.lookup_cons, BEq.comm]
    cases name == m.1 with
    | true => rfl
    | false => exact ih

theorem ruleSetsOfJson?_of_reorders {sets : Table String (List RuleDefinition)} {v : Json}
    (hfit : ∀ s ∈ sets.entries, ∀ r ∈ RuleDefinition.flattenAll s.2, r.GroupsFit)
    (h : Json.Reorders (.obj (sets.entries.map fun s => (s.1, .arr (rulesToJson s.2)))) v) :
    ruleSetsOfJson? v = some sets := by
  obtain ⟨between, members, rfl, hmembers, hperm⟩ := h.members
  refine Table.foldlM_insert_eq ?_ hperm
  have hentries := (List.forall₂_and_left _ _).2 ⟨hfit, List.forall₂_map_left_iff.1 hmembers.forall₂⟩
  refine hentries.imp ?_
  rintro ⟨name, rules⟩ ⟨name', v⟩ ⟨hrules, hname, hv⟩ t
  obtain rfl : name' = name := hname
  obtain ⟨items, rfl, hitems⟩ := hv.items
  simp [ruleItems?_rulesToJson rules hrules hitems]

/-- **A definition survives its JSON form.** Whatever its texts, and however deep its rules are nested, a definition
whose groups have indices below 2⁶⁴ is read back from the value it is written as, and from every value that differs from
it only in the order of the members of objects. -/
theorem definition_survives_json {d : GrammarDefinition} (hd : d.GroupsFit) {v : Json} (hv : d.toJson.Reorders v) :
    GrammarDefinition.ofJson? v = some d := by
  rw [GrammarDefinition.toJson_eq] at hv
  obtain ⟨members, rfl, hnames, hvalues⟩ := hv.lookup_fields d.nodup_fields
  have hlength : members.length = 3 := by simpa [presentMembers, GrammarDefinition.fields] using hnames.length_eq.symm
  simp only [GrammarDefinition.fields, List.map_cons, List.map_nil, List.forall₂_cons] at hvalues
  obtain ⟨hname, hroot, hsets, -⟩ := hvalues
  simp only [GrammarDefinition.ofJson?, if_pos hlength, Json.get?_obj]
  generalize members.lookup "name" = name, members.lookup "root" = root, members.lookup "rule_sets" = sets
    at hname hroot hsets
  obtain hname | _ := hname
  obtain hroot | _ := hroot
  obtain hsets | _ := hsets
  obtain rfl := hname.str
  obtain rfl := hroot.str
  have hread := ruleSetsOfJson?_of_reorders (fun s hs r hr => hd r (List.mem_flatMap.2 ⟨s, hs, hr⟩)) hsets
  simp [definitionOfValues?, hread]

/-- A region with scopes for groups up to the greatest index, and a rule of each other kind inside of it. -/
def GrammarDefinition.tags : GrammarDefinition where
  name := "text"
  root := "main"
  ruleSets := Table.ofList [("main", [.region "<" ">" (some "tag") none (Table.ofList [(2, "two"), (10, "ten")])
    (Table.ofList [(18446744073709551615, "last")]) [.single "=" none Table.empty, .reference "main"]])]

/-- All members are the other way round. -/
theorem definition_survives_json_tags :
    let v : Json := .obj [
      ("rule_sets", .obj [("main", .arr [.obj [
        ("children", .arr [.obj [("match", .str "=")], .obj [("include", .str "main")]]),
        ("end_captures", .obj [("18446744073709551615", .str "last")]),
        ("begin_captures", .obj [("10", .str "ten"), ("2", .str "two")]),
        ("scope", .str "tag"), ("end", .str ">"), ("begin", .str "<")]])]),
      ("root", .str "main"), ("name", .str "text")]
    GrammarDefinition.tags.GroupsFit ∧ GrammarDefinition.tags.toJson.Reorders v ∧
      GrammarDefinition.ofJson? v = some .tags := by
  intro v
  have hfit : GrammarDefinition.tags.GroupsFit := by decide
  have hcaptures : Json.Reorders (.obj [("2", .str "two"), ("10", .str "ten")])
      (.obj [("10", .str "ten"), ("2", .str "two")]) := .obj (.refl _) (List.reverse_perm _).symm
  have hrule : Json.Reorders
      (.obj [("begin", .str "<"), ("end", .str ">"), ("scope", .str "tag"),
        ("begin_captures", .obj [("2", .str "two"), ("10", .str "ten")]),
        ("end_captures", .obj [("18446744073709551615", .str "last")]),
        ("children", .arr [.obj [("match", .str "=")], .obj [("include", .str "main")]])])
      (.obj [("children", .arr [.obj [("match", .str "=")], .obj [("include", .str "main")]]),
        ("end_captures", .obj [("18446744073709551615", .str "last")]),
        ("begin_captures", .obj [("10", .str "ten"), ("2", .str "two")]),
        ("scope", .str "tag"), ("end", .str ">"), ("begin", .str "<")]) :=
    .obj (.cons (.refl _) (.cons (.refl _) (.cons (.refl _) (.cons hcaptures (.refl _))))) (List.reverse_perm _).symm
  have hv : GrammarDefinition.tags.toJson.Reorders v :=
    .obj (.cons (.refl _) (.cons (.refl _) (.cons (.obj (.cons (.arr (.cons hrule .nil)) .nil) (.refl _)) .nil)))
      (List.reverse_perm _).symm
  exact ⟨hfit, hv, definition_survives_json hfit hv⟩

end Highlight
