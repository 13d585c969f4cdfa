import Highlight.Proofs.RoundTrip
import Mathlib.Data.List.TakeWhile

/-!
# What is read as a rule

Nothing in a rule says which kind it is: each kind is tried in turn, also for the rules inside of it. Whether a value is
read as a rule at all can still be told from the value, one level at a time.

* **Groups** (`isSome_groupIndex?_text`): a text is read as the index of a group iff it writes one (`WritesIndex`).
* **Fields** (`FieldType.reads_iff`): a field is read iff its type admits the value. Only the children of a region are
  read as rules in turn.
* **Kinds** (`RuleKind.isSome_ofJson?_iff`, `isSome_toRule?_iff`): a value is read as a rule of a kind iff it fits the
  kind (`RuleKind.Fits`) and its children are read as rules. What fits a kind has no keys but the fields of the kind.
-/

namespace Highlight

/-! ## Indices of groups -/

/-- Decimal digits of a number below 2⁶⁴. -/
def IndexDigits (digits : List Char) : Prop :=
  digits ≠ [] ∧ (∀ c ∈ digits, c.isDigit = true) ∧ Nat.ofDigitChars 10 digits 0 < 2 ^ 64

/-- The text is a number below 2⁶⁴ in decimal digits, maybe after a plus sign and with white space around. -/
def WritesIndex (s : String) : Prop :=
  ∃ before sign digits after : List Char, s.toList = before ++ (sign ++ digits) ++ after ∧
    (∀ c ∈ before ++ after, Unicode.whiteSpace.contains c = true) ∧ sign ∈ [[], ['+']] ∧ IndexDigits digits

theorem isSome_parseUInt64?_iff {cs : List Char} : (parseUInt64? cs).isSome = true ↔
    ∃ sign digits : List Char, cs = sign ++ digits ∧ sign ∈ [[], ['+']] ∧ IndexDigits digits := by
  have hdigits : ∀ ds : List Char, (if ds.isEmpty || !ds.all Char.isDigit then none
      else if Nat.ofDigitChars 10 ds 0 < UInt64.size then some (Nat.ofDigitChars 10 ds 0) else none).isSome = true ↔
        IndexDigits ds := by
    intro ds
    have hsize : UInt64.size = 2 ^ 64 := rfl
    rw [IndexDigits, ← List.all_eq_true, Ne, ← List.isEmpty_iff]
    cases ds.isEmpty <;> cases ds.all Char.isDigit <;> simp [hsize, Option.isSome_iff_exists]
  constructor
  · intro h
    unfold parseUInt64? at h
    split at h
    next ds => exact ⟨['+'], ds, rfl, by simp, (hdigits ds).1 h⟩
    next => exact ⟨[], cs, rfl, by simp, (hdigits cs).1 h⟩
  · rintro ⟨sign, digits, rfl, hsign, hindex⟩
    rcases List.mem_pair.1 hsign with rfl | rfl
    · rw [List.nil_append, parseUInt64?_of_isDigit hindex.1 hindex.2.1 hindex.2.2, Option.isSome_some]
    · exact (hdigits digits).2 hindex

section Trim

variable {before core after : List Char}

theorem dropWhile_blank_append (hne : core ≠ []) (hcore : ∀ c ∈ core, Unicode.whiteSpace.contains c = false)
    (hbefore : ∀ c ∈ before, Unicode.whiteSpace.contains c = true) :
    (before ++ core ++ after).dropWhile Unicode.whiteSpace.contains = core ++ after := by
  obtain ⟨c, cs, rfl⟩ := List.exists_cons_of_ne_nil hne
  rw [List.append_assoc, List.dropWhile_append_of_pos hbefore, List.cons_append,
    List.dropWhile_cons_of_neg (by simp [hcore c List.mem_cons_self])]

theorem trimBlanks_append (hne : core ≠ []) (hcore : ∀ c ∈ core, Unicode.whiteSpace.contains c = false)
    (hblank : ∀ c ∈ before ++ after, Unicode.whiteSpace.contains c = true) :
    trimBlanks (before ++ core ++ after) = core := by
  obtain ⟨hbefore, hafter⟩ := List.forall_mem_append.1 hblank
  have hback : (after.reverse ++ core.reverse ++ []).dropWhile Unicode.whiteSpace.contains = core.reverse ++ [] :=
    dropWhile_blank_append (by simpa using hne) (by simpa using hcore) (by simpa using hafter)
  rw [List.append_nil, List.append_nil] at hback
  simp only [trimBlanks]
  rw [dropWhile_blank_append hne hcore hbefore, List.reverse_append, hback, List.reverse_reverse]

theorem exists_trimBlanks (cs : List Char) : ∃ before after, cs = before ++ trimBlanks cs ++ after ∧
    ∀ c ∈ before ++ after, Unicode.whiteSpace.contains c = true := by
  refine ⟨cs.takeWhile Unicode.whiteSpace.contains,
    ((cs.dropWhile Unicode.whiteSpace.contains).reverse.takeWhile Unicode.whiteSpace.contains).reverse, ?_, ?_⟩
  · rw [trimBlanks, List.append_assoc, ← List.reverse_append, List.takeWhile_append_dropWhile, List.reverse_reverse,
      List.takeWhile_append_dropWhile]
  · refine List.forall_mem_append.2 ⟨fun c hc => List.mem_takeWhile_imp hc, fun c hc => ?_⟩
    exact List.mem_takeWhile_imp (List.mem_reverse.1 hc)

end Trim

/-- **A text** is read as the index of a group iff it writes one. -/
theorem isSome_groupIndex?_text {s : String} : (groupIndex? (.text s)).isSome = true ↔ WritesIndex s := by
  rw [groupIndex?, isSome_parseUInt64?_iff]
  constructor
  · rintro ⟨sign, digits, htrim, hsign, hindex⟩
    obtain ⟨before, after, hcs, hblank⟩ := exists_trimBlanks s.toList
    rw [htrim] at hcs
    exact ⟨before, sign, digits, after, hcs, hblank, hsign, hindex⟩
  · rintro ⟨before, sign, digits, after, hcs, hblank, hsign, hindex⟩
    refine ⟨sign, digits, ?_, hsign, hindex⟩
    rw [hcs]
    refine trimBlanks_append (by simp [hindex.1]) (List.forall_mem_append.2 ⟨?_, ?_⟩) hblank
    · have hplus : Unicode.whiteSpace.contains '+' = false := contains_whiteSpace_eq_false (by decide) (by decide)
      rcases List.mem_pair.1 hsign with rfl | rfl
      · simp
      · simpa using hplus
    · exact fun c hc => contains_whiteSpace_of_isDigit (hindex.2.1 c hc)

/-! ## Fields of rules -/

/-- What a field of a rule holds. -/
inductive FieldType where
  | text
  | optionalText
  | groups
  | rules
deriving Repr, DecidableEq

namespace FieldType

/-- The values that a field may have; there is none where it is left out. -/
def Admits : FieldType → Option Json → Prop
  | text, value => ∃ s, value = some (.str s)
  | optionalText, value => value = none ∨ value = some .null ∨ ∃ s, value = some (.str s)
  | groups, value => value = none ∨
      ∃ members, value = some (.obj members) ∧ ∀ m ∈ members, WritesIndex m.1 ∧ ∃ s, m.2 = .str s
  | rules, value => value = none ∨ ∃ items, value = some (.arr items)

/-- Whether a field is read from a value. -/
def reads : FieldType → Option FieldValue → Bool
  | text, value => (requiredText? value).isSome
  | optionalText, value => (optionalText? value).isSome
  | groups, value => (captureScopes? value).isSome
  | rules, value => (optionalRules? value).isSome

end FieldType

/-- A fold that may fail succeeds iff each step does, if that depends only on what is read in the step. -/
theorem isSome_foldlM_iff {α β : Type} {step : β → α → Option β} {ok : α → Prop}
    (hstep : ∀ b x, (step b x).isSome = true ↔ ok x) (xs : List α) (b : β) :
    (xs.foldlM step b).isSome = true ↔ ∀ x ∈ xs, ok x := by
  induction xs generalizing b with
  | nil => simp
  | cons x xs ih =>
    rw [List.foldlM_cons, List.forall_mem_cons, ← hstep b x]
    cases step b x with
    | none => simp
    | some b' => simp [ih b']

theorem isSome_ruleItems?_iff : ∀ items : List Json, (ruleItems? (datumItems items)).isSome = true ↔
    ∀ item ∈ items, item.toDatum.toRule?.isSome = true
  | [] => by simp [datumItems, ruleItems?]
  | v :: vs => by
    rw [datumItems, ruleItems?, List.forall_mem_cons, ← isSome_ruleItems?_iff vs]
    cases v.toDatum.toRule? <;> cases ruleItems? (datumItems vs) <;> simp

theorem isSome_captureScopes?_iff (members : List (String × Json)) :
    (captureScopes? (some (Json.obj members).field)).isSome = true ↔
      ∀ m ∈ members, WritesIndex m.1 ∧ ∃ s, m.2 = .str s := by
  simp only [Json.field, Json.toDatum, captureScopes?, datumMembers_eq_map, List.foldlM_map]
  refine isSome_foldlM_iff (fun scopes m => ?_) members _
  obtain ⟨name, v⟩ := m
  rw [← isSome_groupIndex?_text]
  cases groupIndex? (.text name) with
  | none => simp
  | some group =>
    cases v with
    | int n => by_cases hn : n < 0 <;> simp [Json.toDatum, hn]
    | _ => simp [Json.toDatum]

/-- **A field** is read from a value iff its type admits the value, and the rules in it are read as rules. -/
theorem FieldType.reads_iff (type : FieldType) (value : Option Json) :
    type.reads (value.map Json.field) = true ↔ type.Admits value ∧
      (type = .rules → ∀ items, value = some (.arr items) → ∀ item ∈ items, item.toDatum.toRule?.isSome = true) := by
  cases value with
  | none => cases type <;> simp [reads, Admits, requiredText?, optionalText?, captureScopes?, optionalRules?]
  | some v =>
    cases type with
    | text =>
      cases v with
      | int n => by_cases hn : n < 0 <;> simp [reads, Admits, requiredText?, Json.field, Json.toDatum, hn]
      | _ => simp [reads, Admits, requiredText?, Json.field, Json.toDatum]
    | optionalText =>
      cases v with
      | int n => by_cases hn : n < 0 <;> simp [reads, Admits, optionalText?, Json.field, Json.toDatum, hn]
      | _ => simp [reads, Admits, optionalText?, Json.field, Json.toDatum]
    | groups =>
      cases v with
      | obj members => simpa [reads, Admits] using isSome_captureScopes?_iff members
      | int n => by_cases hn : n < 0 <;> simp [reads, Admits, captureScopes?, Json.field, Json.toDatum, hn]
      | _ => simp [reads, Admits, captureScopes?, Json.field, Json.toDatum]
    | rules =>
      cases v with
      | arr items => simpa [reads, Admits, optionalRules?, Json.field, Json.toDatum, Datum.toRules?] using
          isSome_ruleItems?_iff items
      | int n =>
        by_cases hn : n < 0 <;> simp [reads, Admits, optionalRules?, Json.field, Json.toDatum, Datum.toRules?, hn]
      | _ => simp [reads, Admits, optionalRules?, Json.field, Json.toDatum, Datum.toRules?]

/-! ## Kinds of rules -/

/-- The kinds of rules, in the order in which they are tried. -/
inductive RuleKind where
  | reference
  | single
  | region
deriving Repr, DecidableEq

namespace RuleKind

/-- The fields of a rule of the kind, in order. -/
def fields : RuleKind → List (String × FieldType)
  | reference => [("include", .text)]
  | single => [("match", .text), ("scope", .optionalText), ("captures", .groups)]
  | region => [("begin", .text), ("end", .text), ("scope", .optionalText), ("content_scope", .optionalText),
      ("begin_captures", .groups), ("end_captures", .groups), ("children", .rules)]

def names (kind : RuleKind) : List String := kind.fields.map (·.1)

theorem nodup_names (kind : RuleKind) : kind.names.Nodup := by
  cases kind <;> decide

/-- The rule that the fields write, read as one of the kind. -/
def read? : RuleKind → RuleFields → Option RuleDefinition
  | reference => reference?
  | single => single?
  | region => region?

/-- The rule that a JSON value writes, read as one of the kind. -/
def ofJson? (kind : RuleKind) : Json → Option RuleDefinition
  | .obj members => kind.read? (.table (fieldEntries (datumMembers members)))
  | .arr values => kind.read? (.list (fieldItems (datumItems values)))
  | _ => none

theorem isSome_bind_iff {α β : Type} {o : Option α} {f : α → Option β} {p : Prop}
    (h : ∀ a, (f a).isSome = true ↔ p) : (o >>= f).isSome = true ↔ o.isSome = true ∧ p := by
  cases o with
  | none => simp
  | some a => simp [h a]

/-- A rule of a kind is read iff each of its fields is. -/
theorem isSome_read?_iff (kind : RuleKind) (fields : RuleFields) : (kind.read? fields).isSome = true ↔
    ∃ values, fields.get? kind.names = some values ∧
      List.Forall₂ (fun f value => f.2.reads value = true) kind.fields values := by
  cases hget : fields.get? kind.names with
  | none =>
    cases kind <;> simp only [names, RuleKind.fields, List.map_cons, List.map_nil] at hget <;>
      simp [read?, reference?, single?, region?, hget]
  | some values =>
    simp only [Option.some.injEq, exists_eq_left']
    -- for each kind, a list of as many values as it has fields, and the lists of any other length
    cases kind with
    | reference =>
      simp only [names, RuleKind.fields, List.map_cons, List.map_nil] at hget ⊢
      simp only [read?, reference?, hget, Option.bind_eq_bind, Option.bind_some]
      split
      next =>
        simp only [List.forall₂_cons]
        exact isSome_bind_iff fun _ => by simp
      next hlength =>
        refine iff_of_false Bool.false_ne_true fun h => ?_
        obtain _ | ⟨_, _ | _⟩ := h
        exact hlength _ rfl
    | single =>
      simp only [names, RuleKind.fields, List.map_cons, List.map_nil] at hget ⊢
      simp only [read?, single?, hget, Option.bind_eq_bind, Option.bind_some]
      split
      next =>
        simp only [List.forall₂_cons]
        exact isSome_bind_iff fun _ => isSome_bind_iff fun _ => isSome_bind_iff fun _ => by simp
      next hlength =>
        refine iff_of_false Bool.false_ne_true fun h => ?_
        obtain _ | ⟨_, _ | ⟨_, _ | ⟨_, _ | _⟩⟩⟩ := h
        exact hlength _ _ _ rfl
    | region =>
      simp only [names, RuleKind.fields, List.map_cons, List.map_nil] at hget ⊢
      simp only [read?, region?, hget, Option.bind_eq_bind, Option.bind_some]
      split
      next =>
        simp only [List.forall₂_cons]
        exact isSome_bind_iff fun _ => isSome_bind_iff fun _ => isSome_bind_iff fun _ => isSome_bind_iff fun _ =>
          isSome_bind_iff fun _ => isSome_bind_iff fun _ => isSome_bind_iff fun _ => by simp
      next hlength =>
        refine iff_of_false Bool.false_ne_true fun h => ?_
        obtain _ | ⟨_, _ | ⟨_, _ | ⟨_, _ | ⟨_, _ | ⟨_, _ | ⟨_, _ | ⟨_, _ | _⟩⟩⟩⟩⟩⟩⟩ := h
        exact hlength _ _ _ _ _ _ _ rfl

end RuleKind

/-! ## Rules as JSON -/

/-- The rule has no values but those of the given fields, and none twice. -/
def Json.HasOnly (names : List String) : Json → Prop
  | .obj members => (members.map (·.1)).Nodup ∧ ∀ m ∈ members, m.1 ∈ names
  | .arr values => values.length ≤ names.length
  | _ => False

/-- The value of a field, which an object has under its name and a list in its place. -/
def Json.fieldAt? (i : Nat) (name : String) : Json → Option Json
  | .obj members => members.lookup name
  | .arr values => values[i]?
  | _ => none

/-- The value is a rule of the kind, whatever the children in it are. -/
def RuleKind.Fits (kind : RuleKind) (v : Json) : Prop :=
  v.HasOnly kind.names ∧ ∀ i name (type : FieldType), kind.fields[i]? = some (name, type) →
    type.Admits (v.fieldAt? i name)

theorem nodup_of_tableFields? {names : List String} (hnames : names.Nodup) (members : List (String × Json))
    {values : List (Option FieldValue)} (hsub : ∀ m ∈ members, m.1 ∈ names)
    (h : tableFields? names (fieldEntries (datumMembers members)) = some values) : (members.map (·.1)).Nodup := by
  -- the last member is split off: the place of its field is empty only if no member before it has the same name
  induction members using List.reverseRecOn generalizing values with
  | nil => exact List.nodup_nil
  | append_singleton members m ih =>
    obtain ⟨name, v⟩ := m
    obtain ⟨hsubBefore, hknown⟩ := List.forall_mem_append.1 hsub
    have hknown : name ∈ names := hknown _ List.mem_cons_self
    rw [fieldEntries_datumMembers, List.map_append, tableFields?, List.foldlM_append, ← tableFields?,
      ← fieldEntries_datumMembers] at h
    obtain ⟨fields, hbefore, hlast⟩ := Option.bind_eq_some_iff.1 h
    have hnodup := ih hsubBefore hbefore
    rw [tableFields?_members hnames members hnodup (List.forall_mem_map.2 hsubBefore)] at hbefore
    obtain rfl := Option.some.inj hbefore
    have hnew : ∀ v, (name, v) ∉ members := by
      simp only [List.map_cons, List.map_nil, List.foldlM_cons, List.foldlM_nil, fieldIndex?_text hknown,
        List.getElem?_map, List.getElem?_idxOf hknown, Option.bind_eq_bind, Option.bind_some, Option.map_some,
        Option.join_some, Option.isSome_map, List.lookup_isSome_iff, beq_iff_eq, Prod.exists, exists_and_right,
        exists_eq_right', Option.pure_def, Option.bind_fun_some, Option.ite_none_left_eq_some, not_exists] at hlast
      exact hlast.1
    rw [List.map_append]
    exact hnodup.append (List.nodup_singleton name) (by simpa using hnew)

/-- The values of the fields of a rule, in the order of the fields. -/
def Json.fieldValues (names : List String) (v : Json) : List (Option FieldValue) :=
  names.mapIdx fun i name => (v.fieldAt? i name).map Json.field

/-- The fields of an object are there only if its names are known and different. -/
theorem tableFields?_eq_some_iff {names : List String} (hnames : names.Nodup) {members : List (String × Json)}
    {values : List (Option FieldValue)} :
    tableFields? names (fieldEntries (datumMembers members)) = some values ↔
      (Json.obj members).HasOnly names ∧ values = (Json.obj members).fieldValues names := by
  have hvalues : (Json.obj members).fieldValues names = names.map fun name => (members.lookup name).map Json.field :=
    List.ext_getElem (by simp [Json.fieldValues]) fun i _ _ => by simp [Json.fieldValues, Json.fieldAt?]
  rw [hvalues]
  constructor
  · intro h
    have hsub : ∀ m ∈ members, m.1 ∈ names := by
      intro m hm
      by_contra hnot
      have hentry : (Datum.text m.1, m.2.field) ∈ fieldEntries (datumMembers members) := by
        rw [fieldEntries_datumMembers]
        exact List.mem_map.2 ⟨m, hm, rfl⟩
      rw [tableFields?_eq_none hentry (List.idxOf?_eq_none_iff.2 hnot)] at h
      cases h
    have hnodup := nodup_of_tableFields? hnames members hsub h
    have hfields := tableFields?_members hnames members hnodup (List.forall_mem_map.2 hsub)
    exact ⟨⟨hnodup, hsub⟩, Option.some.inj (h.symm.trans hfields)⟩
  · rintro ⟨⟨hnodup, hsub⟩, rfl⟩
    exact tableFields?_members hnames members hnodup (List.forall_mem_map.2 hsub)

theorem fieldItems_datumItems : ∀ items : List Json, fieldItems (datumItems items) = items.map Json.field
  | [] => rfl
  | v :: items => by
    rw [datumItems, fieldItems, fieldItems_datumItems items]
    rfl

theorem listFields?_eq_some_iff {names : List String} {items : List Json} {values : List (Option FieldValue)} :
    listFields? names (fieldItems (datumItems items)) = some values ↔
      (Json.arr items).HasOnly names ∧ values = (Json.arr items).fieldValues names := by
  rw [fieldItems_datumItems, listFields?, List.length_map, Json.HasOnly]
  split
  next hle =>
    have hvalues : (items.map Json.field).map some ++ List.replicate (names.length - items.length) none =
        (Json.arr items).fieldValues names := by
      refine List.ext_getElem (by simp [Json.fieldValues]; omega) fun i _ _ => ?_
      rcases Nat.lt_or_ge i items.length with hlt | hge
      · simp [Json.fieldValues, Json.fieldAt?, List.getElem_append_left, hlt]
      · simp [Json.fieldValues, Json.fieldAt?, List.getElem_append_right, hge]
    rw [hvalues, Option.some.injEq]
    exact ⟨fun h => ⟨hle, h.symm⟩, fun h => h.2.symm⟩
  next hgt => exact iff_of_false (by simp) fun h => hgt h.1

theorem forall₂_fieldValues_iff (kind : RuleKind) (v : Json) (p : FieldType → Option FieldValue → Prop) :
    List.Forall₂ (fun f value => p f.2 value) kind.fields (v.fieldValues kind.names) ↔
      ∀ i name type, kind.fields[i]? = some (name, type) → p type ((v.fieldAt? i name).map Json.field) := by
  rw [List.forall₂_iff_get]
  constructor
  · rintro ⟨-, h⟩ i name type hi
    obtain ⟨hlt, hi⟩ := List.getElem?_eq_some_iff.1 hi
    have hp := h i hlt (by simpa [Json.fieldValues, RuleKind.names] using hlt)
    simpa [Json.fieldValues, RuleKind.names, hi] using hp
  · intro h
    refine ⟨by simp [Json.fieldValues, RuleKind.names], fun i hlt _ => ?_⟩
    have hp := h i _ _ (List.getElem?_eq_getElem hlt)
    simpa [Json.fieldValues, RuleKind.names] using hp

/-- **A rule of a kind** is read iff the value has no fields but those of the kind and each of them is read. -/
theorem RuleKind.isSome_ofJson?_iff_reads (kind : RuleKind) (v : Json) : (kind.ofJson? v).isSome = true ↔
    v.HasOnly kind.names ∧ ∀ i name (type : FieldType), kind.fields[i]? = some (name, type) →
      type.reads ((v.fieldAt? i name).map Json.field) = true := by
  have hread : ∀ fields : RuleFields, (∀ values, fields.get? kind.names = some values ↔
      v.HasOnly kind.names ∧ values = v.fieldValues kind.names) → ((kind.read? fields).isSome = true ↔
        v.HasOnly kind.names ∧ List.Forall₂ (fun f value => f.2.reads value = true) kind.fields
          (v.fieldValues kind.names)) := by
    intro fields hget
    simp only [kind.isSome_read?_iff, hget]
    exact ⟨fun ⟨values, ⟨hv, hvalues⟩, h⟩ => ⟨hv, hvalues ▸ h⟩, fun ⟨hv, h⟩ => ⟨_, ⟨hv, rfl⟩, h⟩⟩
  rw [← forall₂_fieldValues_iff kind v fun type value => type.reads value = true]
  cases v with
  | obj members => exact hread _ fun values => tableFields?_eq_some_iff kind.nodup_names
  | arr items => exact hread _ fun values => listFields?_eq_some_iff
  | _ => simp [ofJson?, Json.HasOnly]

/-! ## Children -/

/-- The second value is one of the children in a rule. -/
inductive Json.Child : Json → Json → Prop
  | member {members : List (String × Json)} {items : List Json} {child : Json} :
      ("children", .arr items) ∈ members → child ∈ items → Json.Child (.obj members) child
  | item {values items : List Json} {child : Json} :
      values[6]? = some (.arr items) → child ∈ items → Json.Child (.arr values) child

theorem Json.Child.sizeOf_lt {v child : Json} (h : v.Child child) : sizeOf child < sizeOf v := by
  cases h with
  | member hmem hchild =>
    have hmembers := List.sizeOf_lt_of_mem hmem
    have hitems := List.sizeOf_lt_of_mem hchild
    simp only [Json.obj.sizeOf_spec, Json.arr.sizeOf_spec, Prod.mk.sizeOf_spec] at hmembers ⊢
    omega
  | item hvalue hchild =>
    have hvalues := List.sizeOf_lt_of_mem (List.mem_of_getElem? hvalue)
    have hitems := List.sizeOf_lt_of_mem hchild
    simp only [Json.arr.sizeOf_spec] at hvalues ⊢
    omega

namespace RuleKind

/-- Only regions have a field for rules. -/
theorem fields_rules {kind : RuleKind} {i : Nat} {name : String} :
    kind.fields[i]? = some (name, .rules) ↔ kind = .region ∧ i = 6 ∧ name = "children" := by
  cases kind <;> rcases i with _ | _ | _ | _ | _ | _ | _ | i <;> simp [fields, eq_comm]

theorem Fits.child_iff {kind : RuleKind} {v child : Json} (h : kind.Fits v) : v.Child child ↔
    ∃ i name items, kind.fields[i]? = some (name, .rules) ∧ v.fieldAt? i name = some (.arr items) ∧ child ∈ items := by
  constructor
  · intro hchild
    cases hchild with
    | member hmem hitem =>
      obtain ⟨hnodup, hsub⟩ := h.1
      have hregion : kind = .region := by
        have hname := hsub _ hmem
        cases kind <;> simp [names, fields] at hname ⊢
      exact ⟨6, "children", _, fields_rules.2 ⟨hregion, rfl, rfl⟩, (mem_iff_lookup hnodup).1 hmem, hitem⟩
    | item hvalue hitem =>
      have hregion : kind = .region := by
        have hlt := (List.getElem?_eq_some_iff.1 hvalue).1
        have hle := Nat.lt_of_lt_of_le hlt h.1
        cases kind <;> simp [names, fields] at hle ⊢
      exact ⟨6, "children", _, fields_rules.2 ⟨hregion, rfl, rfl⟩, hvalue, hitem⟩
  · rintro ⟨i, name, items, hfield, hvalue, hitem⟩
    obtain ⟨rfl, rfl, rfl⟩ := fields_rules.1 hfield
    cases v with
    | obj members => exact .member ((mem_iff_lookup h.1.1).2 hvalue) hitem
    | arr values => exact .item hvalue hitem
    | _ => cases hvalue

/-- **A rule of a kind** is read iff the value fits the kind and the children in it are read. -/
theorem isSome_ofJson?_iff (kind : RuleKind) (v : Json) : (kind.ofJson? v).isSome = true ↔
    kind.Fits v ∧ ∀ child, v.Child child → child.toDatum.toRule?.isSome = true := by
  simp only [isSome_ofJson?_iff_reads, FieldType.reads_iff]
  constructor
  · rintro ⟨hv, hfields⟩
    have hfits : kind.Fits v := ⟨hv, fun i name type hi => (hfields i name type hi).1⟩
    refine ⟨hfits, fun child hchild => ?_⟩
    obtain ⟨i, name, items, hi, hvalue, hitem⟩ := hfits.child_iff.1 hchild
    exact (hfields i name _ hi).2 rfl items hvalue child hitem
  · rintro ⟨hfits, hchildren⟩
    refine ⟨hfits.1, fun i name type hi => ⟨hfits.2 i name type hi, ?_⟩⟩
    rintro rfl items hvalue child hitem
    exact hchildren child (hfits.child_iff.2 ⟨i, name, items, hi, hvalue, hitem⟩)

theorem exists_iff {p : RuleKind → Prop} : (∃ kind, p kind) ↔ p reference ∨ p single ∨ p region := by
  constructor
  · rintro ⟨_ | _ | _, h⟩
    · exact .inl h
    · exact .inr (.inl h)
    · exact .inr (.inr h)
  · rintro (h | h | h) <;> exact ⟨_, h⟩

end RuleKind

/-- **A rule** is read iff the value fits a kind and the children in it are read. -/
theorem isSome_toRule?_iff (v : Json) : v.toDatum.toRule?.isSome = true ↔
    (∃ kind : RuleKind, kind.Fits v) ∧ ∀ child, v.Child child → child.toDatum.toRule?.isSome = true := by
  have hkinds : v.toDatum.toRule?.isSome = true ↔ ∃ kind : RuleKind, (kind.ofJson? v).isSome = true := by
    rw [RuleKind.exists_iff]
    cases v with
    | obj members => simp [Json.toDatum, Datum.toRule?, ruleOfFields?, RuleKind.ofJson?, RuleKind.read?, or_assoc]
    | arr items => simp [Json.toDatum, Datum.toRule?, ruleOfFields?, RuleKind.ofJson?, RuleKind.read?, or_assoc]
    | int n => by_cases hn : n < 0 <;> simp [Json.toDatum, Datum.toRule?, RuleKind.ofJson?, hn]
    | _ => simp [Json.toDatum, Datum.toRule?, RuleKind.ofJson?]
  simp only [hkinds, RuleKind.isSome_ofJson?_iff, exists_and_right]

end Highlight
