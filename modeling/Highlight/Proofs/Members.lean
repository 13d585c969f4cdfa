import Highlight.Grammar.JsonForm
import Highlight.Proofs.Tables
import Mathlib.Data.List.Forall2
import Mathlib.Data.List.Induction
import Mathlib.Data.List.Perm.Basic

/-!
# Members in any order

The members of a JSON object are read by their names, so their order makes no difference. `Json.Reorders` relates a
value to those that differ from it only in the order of members, at any depth.

* **Fields** (`tableFields?_members`): the fields of an object whose names are all known and different are what is found
  under these names. With an unknown name there are none (`tableFields?_eq_none`).
* **Objects** (`Json.Reorders.lookup_fields`): an object that is written from fields, some of which have no value, has
  them under their names in any order of its members.
* **Tables** (`Table.foldlM_insert_eq`): the entries of a table, read one by one in any order, make up the table.
-/

namespace Highlight

/-! ## Other orders -/

mutual

/-- The second value is the first with members of objects, at any depth, in another order. -/
inductive Json.Reorders : Json → Json → Prop
  | refl (v : Json) : Json.Reorders v v
  | arr {items items' : List Json} : ItemsReorder items items' → Json.Reorders (.arr items) (.arr items')
  | obj {members between members' : List (String × Json)} : MembersReorder members between →
      between.Perm members' → Json.Reorders (.obj members) (.obj members')

/-- The items of the second list are those of the first with members of objects in another order. -/
inductive ItemsReorder : List Json → List Json → Prop
  | nil : ItemsReorder [] []
  | cons {v v' : Json} {items items' : List Json} : v.Reorders v' → ItemsReorder items items' →
      ItemsReorder (v :: items) (v' :: items')

/-- The members of the second list are those of the first, by name, with members of objects inside of them in another
order. -/
inductive MembersReorder : List (String × Json) → List (String × Json) → Prop
  | nil : MembersReorder [] []
  | cons {name : String} {v v' : Json} {members members' : List (String × Json)} : v.Reorders v' →
      MembersReorder members members' → MembersReorder ((name, v) :: members) ((name, v') :: members')

end

theorem ItemsReorder.refl : ∀ items : List Json, ItemsReorder items items
  | [] => .nil
  | v :: items => .cons (.refl v) (ItemsReorder.refl items)

theorem MembersReorder.refl : ∀ members : List (String × Json), MembersReorder members members
  | [] => .nil
  | (_, v) :: members => .cons (.refl v) (MembersReorder.refl members)

theorem MembersReorder.forall₂ {members members' : List (String × Json)} (h : MembersReorder members members') :
    List.Forall₂ (fun m m' => m'.1 = m.1 ∧ m.2.Reorders m'.2) members members' := by
  induction members generalizing members' with
  | nil =>
    cases h
    exact .nil
  | cons m members ih =>
    cases h with
    | cons hv hrest => exact .cons ⟨rfl, hv⟩ (ih hrest)

theorem MembersReorder.map_fst {members members' : List (String × Json)} (h : MembersReorder members members') :
    members'.map (·.1) = members.map (·.1) := by
  have hsame : List.Forall₂ (fun m m' => m'.1 = m.1) members members' := h.forall₂.imp fun _ _ h => h.1
  rw [← List.forall₂_eq_eq_eq, List.forall₂_map_left_iff, List.forall₂_map_right_iff]
  exact hsame.flip

namespace Json.Reorders

theorem str {s : String} {v : Json} (h : Reorders (.str s) v) : v = .str s := by
  cases h
  rfl

theorem items {items : List Json} {v : Json} (h : Reorders (.arr items) v) :
    ∃ items', v = .arr items' ∧ ItemsReorder items items' := by
  cases h with
  | refl => exact ⟨items, rfl, .refl items⟩
  | arr hitems => exact ⟨_, rfl, hitems⟩

theorem members {members : List (String × Json)} {v : Json} (h : Reorders (.obj members) v) :
    ∃ between members', v = .obj members' ∧ MembersReorder members between ∧ between.Perm members' := by
  cases h with
  | refl => exact ⟨members, members, rfl, .refl members, .refl _⟩
  | obj hmembers hperm => exact ⟨_, _, rfl, hmembers, hperm⟩

end Json.Reorders

theorem MembersReorder.lookup {members members' : List (String × Json)} (h : MembersReorder members members')
    (name : String) : Option.Rel Json.Reorders (members.lookup name) (members'.lookup name) := by
  induction members generalizing members' with
  | nil =>
    cases h
    exact .none
  | cons m members ih =>
    cases h with
    | @cons key v v' _ members' hv hrest =>
      rw [List.lookup_cons, List.lookup_cons]
      cases name == key with
      | true => exact .some hv
      | false => exact ih hrest

/-- Under different names, what is found does not depend on the order. -/
theorem lookup_reorders {members between members' : List (String × Json)} (h : MembersReorder members between)
    (hperm : between.Perm members') (hnodup : (members.map (·.1)).Nodup) (name : String) :
    Option.Rel Json.Reorders (members.lookup name) (members'.lookup name) := by
  rw [lookup_eq_of_perm hperm.symm (h.map_fst ▸ hnodup)]
  exact h.lookup name

/-! ## Fields -/

theorem fieldIndex?_text {names : List String} {name : String} (h : name ∈ names) :
    fieldIndex? names (.text name) = some (names.idxOf name) := by
  obtain ⟨i, hi⟩ := Option.isSome_iff_exists.1 (List.isSome_idxOf?.2 h)
  rw [fieldIndex?, List.idxOf_eq_getD_idxOf?, hi, Option.getD_some]

/-- A name that no field has rules the fields out. -/
theorem tableFields?_eq_none {names : List String} {entries : List (Datum × FieldValue)} {key : Datum}
    {value : FieldValue} (hmem : (key, value) ∈ entries) (hkey : fieldIndex? names key = none) :
    tableFields? names entries = none := by
  unfold tableFields?
  generalize List.replicate names.length none = fields
  induction entries generalizing fields with
  | nil => cases hmem
  | cons e entries ih =>
    obtain ⟨key', value'⟩ := e
    rw [List.foldlM_cons]
    rcases List.mem_cons.1 hmem with heq | hmem
    · cases heq
      simp [hkey]
    · exact Option.bind_eq_none_iff.2 fun fields' _ => ih hmem fields'

/-- The value with what it is as a list of rules. -/
def Json.field (v : Json) : FieldValue := { datum := v.toDatum, rules := v.toDatum.toRules? }

theorem datumMembers_eq_map : ∀ members : List (String × Json),
    datumMembers members = members.map fun m => (.text m.1, m.2.toDatum)
  | [] => rfl
  | (_, _) :: members => by rw [datumMembers, datumMembers_eq_map members, List.map_cons]

theorem fieldEntries_eq_map : ∀ entries : List (Datum × Datum),
    fieldEntries entries = entries.map fun e => (e.1, { datum := e.2, rules := e.2.toRules? })
  | [] => rfl
  | (_, _) :: entries => by rw [fieldEntries, fieldEntries_eq_map entries, List.map_cons]

theorem fieldEntries_datumMembers (members : List (String × Json)) :
    fieldEntries (datumMembers members) = members.map fun m => (.text m.1, m.2.field) := by
  rw [fieldEntries_eq_map, datumMembers_eq_map, List.map_map]
  rfl

theorem lookup_append_singleton {members : List (String × Json)} {name : String} (v : Json)
    (h : members.lookup name = none) :
    (fun other => ((members ++ [(name, v)]).lookup other).map Json.field) =
      Function.update (fun other => (members.lookup other).map Json.field) name (some v.field) := by
  funext other
  by_cases heq : other = name
  · subst heq
    simp [List.lookup_append, h]
  · simp [List.lookup_append, List.lookup_cons, beq_false_of_ne heq, Function.update_of_ne heq]

/-- **Fields** of an object whose names are all known and different: what is found under their names. -/
theorem tableFields?_members {names : List String} (hnames : names.Nodup) (members : List (String × Json)) :
    (members.map (·.1)).Nodup → members.map (·.1) ⊆ names →
      tableFields? names (fieldEntries (datumMembers members)) =
        some (names.map fun name => (members.lookup name).map Json.field) := by
  rw [fieldEntries_datumMembers]
  unfold tableFields?
  -- the fold puts one value after the other in its place, so the last member is split off
  induction members using List.reverseRecOn with
  | nil =>
    intro _ _
    simp
  | append_singleton members m ih =>
    intro hnodup hsub
    obtain ⟨name, v⟩ := m
    simp only [List.map_append, List.map_cons, List.map_nil, List.nodup_append, List.append_subset] at hnodup hsub
    obtain ⟨hbefore, -, hnew⟩ := hnodup
    have hknown : name ∈ names := hsub.2 List.mem_cons_self
    have habsent : members.lookup name = none := by
      refine List.lookup_eq_none_iff.2 fun m hm => ?_
      simpa using (hnew m.1 (List.mem_map_of_mem hm) name (List.mem_singleton_self _)).symm
    rw [List.map_append, List.foldlM_append, ih hbefore hsub.1, lookup_append_singleton v habsent,
      hnames.map_update, if_pos hknown]
    simp [fieldIndex?_text hknown, List.getElem?_idxOf hknown, habsent]

/-! ## Objects -/

/-- The members for those fields that have a value. -/
def presentMembers (fields : List (String × Option Json)) : List (String × Json) :=
  fields.filterMap fun f => f.2.map (f.1, ·)

theorem sublist_presentMembers (fields : List (String × Option Json)) :
    ((presentMembers fields).map (·.1)).Sublist (fields.map (·.1)) := by
  induction fields with
  | nil => exact .slnil
  | cons f fields ih =>
    obtain ⟨name, v⟩ := f
    cases v with
    | none => exact .cons name ih
    | some v => exact .cons_cons name ih

theorem lookup_presentMembers {fields : List (String × Option Json)} (hnodup : (fields.map (·.1)).Nodup) :
    (fields.map (·.1)).map (fun name => (presentMembers fields).lookup name) = fields.map (·.2) := by
  induction fields with
  | nil => rfl
  | cons f fields ih =>
    obtain ⟨name, v⟩ := f
    obtain ⟨hnew, hrest⟩ := List.nodup_cons.1 hnodup
    have hsame : ∀ other ∈ fields.map (·.1), (presentMembers ((name, v) :: fields)).lookup other =
        (presentMembers fields).lookup other := by
      intro other hother
      have hne : other ≠ name := fun heq => hnew (heq ▸ hother)
      cases v <;> simp [presentMembers, List.lookup_cons, beq_false_of_ne hne]
    have hfirst : (presentMembers ((name, v) :: fields)).lookup name = v := by
      cases v with
      | some v => simp [presentMembers]
      | none =>
        refine List.lookup_eq_none_iff.2 fun m hm => ?_
        have hmem := (sublist_presentMembers fields).subset (List.mem_map_of_mem hm)
        simpa using fun heq : name = m.1 => hnew (heq ▸ hmem)
    rw [List.map_cons, List.map_cons, List.map_cons, hfirst, List.map_congr_left hsame, ih hrest]

/-- **An object** that is written from fields has them under their names, whatever order its members come in. -/
theorem Json.Reorders.lookup_fields {fields : List (String × Option Json)} (hnodup : (fields.map (·.1)).Nodup)
    {v : Json} (h : Reorders (.obj (presentMembers fields)) v) :
    ∃ members, v = .obj members ∧ ((presentMembers fields).map (·.1)).Perm (members.map (·.1)) ∧
      List.Forall₂ (fun f value => Option.Rel Reorders f.2 value) fields
        ((fields.map (·.1)).map fun name => members.lookup name) := by
  obtain ⟨between, members, rfl, hmembers, hperm⟩ := h.members
  have hnodup' := (sublist_presentMembers fields).nodup hnodup
  refine ⟨members, rfl, hmembers.map_fst ▸ hperm.map _, List.forall₂_map_left_iff.1 ?_⟩
  rw [← lookup_presentMembers hnodup, List.forall₂_map_left_iff, List.forall₂_map_right_iff]
  exact List.forall₂_same.2 fun name _ => lookup_reorders hmembers hperm hnodup' name

theorem tableFields?_of_perm {fields : List (String × Option Json)} {members : List (String × Json)}
    (hnodup : (fields.map (·.1)).Nodup) (h : ((presentMembers fields).map (·.1)).Perm (members.map (·.1))) :
    tableFields? (fields.map (·.1)) (fieldEntries (datumMembers members)) =
      some ((fields.map (·.1)).map fun name => (members.lookup name).map Json.field) := by
  have hsub := sublist_presentMembers fields
  exact tableFields?_members hnodup members (h.nodup_iff.1 (hsub.nodup hnodup))
    fun name hname => hsub.subset (h.symm.subset hname)

/-! ## Tables -/

section Tables

variable {κ α β : Type} [Ord κ] [Std.TransOrd κ] [Std.LawfulEqOrd κ]

theorem foldlM_insert {step : Table κ α → β → Option (Table κ α)} {entries : List (κ × α)} {xs : List β}
    (h : List.Forall₂ (fun x e => ∀ t, step t x = some (t.insert e.1 e.2)) xs entries) (t : Table κ α) :
    xs.foldlM step t = some (entries.foldl (fun t e => t.insert e.1 e.2) t) := by
  induction h generalizing t with
  | nil => rfl
  | cons hx _ ih =>
    rw [List.foldlM_cons, hx]
    exact ih _

/-- **The entries of a table**, each read as an insertion, make up the table, whatever order they come in. -/
theorem Table.foldlM_insert_eq [BEq κ] [LawfulBEq κ] {step : Table κ α → β → Option (Table κ α)} {t : Table κ α}
    {between xs : List β} (h : List.Forall₂ (fun e x => ∀ t, step t x = some (t.insert e.1 e.2)) t.entries between)
    (hperm : between.Perm xs) : xs.foldlM step Table.empty = some t := by
  obtain ⟨entries, hentries, hsame⟩ := List.perm_comp_forall₂ hperm.symm h.flip
  rw [foldlM_insert hentries, ← ofList, ofList_of_perm hsame]

end Tables

end Highlight
