import Highlight.Settings.Basic
import Mathlib.Data.List.Basic
import Mathlib.Data.List.Forall2

/-!
# The order of the navigation

* **Pre-order** (`walkPending_eq`, `walk_eq`): the walk, which keeps a list of entries that are still to be visited, has
  the order of the recursion over the forest.
* **Addresses** (`Enumerates`, `enumerates_preorderAll`): each place of the forest is visited once, in the order of
  addresses. An address says which root to start from and which item to go on with; a shorter one comes before those
  that go on with it.
* **Outlines** (`labels_append_inj`): depths tell where the items of an entry end, so the labels of all visits, in their
  order, leave no choice for the forest.
-/

namespace Highlight

namespace NavEntry

/-- Induction over a forest: what holds of the items of the first entry and of the entries after it holds of all. -/
@[elab_as_elim]
theorem forest_induction {motive : List NavEntry → Prop} (nil : motive [])
    (cons : ∀ e es, motive e.items → motive es → motive (e :: es)) : ∀ es, motive es
  | [] => nil
  | mk text link isCollapsible items :: es =>
    cons (mk text link isCollapsible items) es (forest_induction nil cons items) (forest_induction nil cons es)

/-! ## Pre-order -/

theorem preorder_eq (depth : Nat) (e : NavEntry) :
    e.preorder depth = (depth, e) :: preorderAll (depth + 1) e.items := by
  cases e
  rw [preorder, items]

theorem preorderAll_cons (depth : Nat) (e : NavEntry) (es : List NavEntry) :
    preorderAll depth (e :: es) = (depth, e) :: (preorderAll (depth + 1) e.items ++ preorderAll depth es) := by
  rw [preorderAll, preorder_eq, List.cons_append]

theorem preorderAll_eq_flatMap (depth : Nat) : ∀ es : List NavEntry,
    preorderAll depth es = es.flatMap (preorder depth)
  | [] => by rw [preorderAll, List.flatMap_nil]
  | e :: es => by rw [preorderAll, List.flatMap_cons, preorderAll_eq_flatMap depth es]

/-- **Pending entries** are visited one after the other, each with all that is inside of it. -/
theorem walkPending_eq (pending : List (Nat × NavEntry)) :
    walkPending pending = pending.flatMap fun visit => visit.2.preorder visit.1 := by
  fun_induction walkPending pending with
  | case1 => rfl
  | case2 depth e pending ih =>
    rw [ih, List.flatMap_append, List.flatMap_map, List.flatMap_cons, preorder_eq, preorderAll_eq_flatMap,
      List.cons_append]

/-- **The walk** has the order of the recursion. -/
theorem walk_eq (entries : List NavEntry) : walk entries = preorderAll 0 entries := by
  simp only [walk, walkPending_eq, List.flatMap_cons, List.flatMap_nil, List.append_nil]
  rw [preorderAll_eq_flatMap]

theorem count_eq (e : NavEntry) : e.count = 1 + countAll e.items := by
  cases e
  rw [count, items]

theorem length_preorderAll (es : List NavEntry) : ∀ depth : Nat, (preorderAll depth es).length = countAll es := by
  induction es using forest_induction with
  | nil =>
    intro depth
    rw [preorderAll, countAll, List.length_nil]
  | cons e es ihItems ih =>
    intro depth
    rw [preorderAll_cons, countAll, count_eq, List.length_cons, List.length_append, ihItems, ih]
    omega

/-! ## Addresses -/

/-- The entry at an address, which names a root by its place, and then an item of each entry on the way. -/
def entryAt? (es : List NavEntry) : List Nat → Option NavEntry
  | [] => none
  | [i] => es[i]?
  | i :: j :: address => (es[i]?).bind fun e => entryAt? e.items (j :: address)

theorem entryAt?_nil (address : List Nat) : entryAt? [] address = none := by
  rcases address with _ | ⟨i, _ | ⟨j, address⟩⟩ <;> simp [entryAt?]

theorem entryAt?_cons_zero (e : NavEntry) (es : List NavEntry) {address : List Nat} (h : address ≠ []) :
    entryAt? (e :: es) (0 :: address) = entryAt? e.items address := by
  obtain ⟨j, address, rfl⟩ := List.exists_cons_of_ne_nil h
  rfl

theorem entryAt?_cons_succ (e : NavEntry) (es : List NavEntry) (i : Nat) (address : List Nat) :
    entryAt? (e :: es) ((i + 1) :: address) = entryAt? es (i :: address) := by
  cases address <;> simp [entryAt?]

theorem ne_nil_of_isSome_entryAt? {es : List NavEntry} {address : List Nat} (h : (entryAt? es address).isSome = true) :
    address ≠ [] := by
  rintro rfl
  cases h

/-- The address of an entry once there is one more root in front of its own. -/
def shift : List Nat → List Nat
  | [] => []
  | i :: address => (i + 1) :: address

theorem shift_lt_shift : ∀ {a b : List Nat}, a < b → shift a < shift b
  | [], [], h => absurd h (List.lt_irrefl _)
  | [], _ :: _, _ => List.nil_lt_cons _ _
  | _ :: _, [], h => absurd h (List.not_lt_nil _)
  | i :: a, j :: b, h => by
    rw [shift, shift, List.cons_lt_cons_iff]
    rcases List.cons_lt_cons_iff.1 h with hlt | ⟨rfl, hlt⟩
    · exact .inl (Nat.succ_lt_succ hlt)
    · exact .inr ⟨rfl, hlt⟩

/-- The addresses, which ascend, are those of all entries of the forest. The visits are those of the entries at these
addresses, in the same order, and each item is one deeper than the entry that it belongs to. -/
structure Enumerates (es : List NavEntry) (depth : Nat) (addresses : List (List Nat)) (visits : List (Nat × NavEntry)) :
    Prop where
  ascending : addresses.Pairwise (· < ·)
  complete : ∀ address, address ∈ addresses ↔ (entryAt? es address).isSome = true
  visits : List.Forall₂ (fun address visit => entryAt? es address = some visit.2 ∧
    visit.1 + 1 = depth + address.length) addresses visits

namespace Enumerates

variable {e : NavEntry} {es : List NavEntry} {depth : Nat} {addresses inside after : List (List Nat)}
  {visits visitsInside visitsAfter : List (Nat × NavEntry)}

theorem ne_nil (h : Enumerates es depth addresses visits) {address : List Nat} (hmem : address ∈ addresses) :
    address ≠ [] :=
  ne_nil_of_isSome_entryAt? ((h.complete address).1 hmem)

theorem nil (depth : Nat) : Enumerates [] depth [] [] where
  ascending := .nil
  complete address := by simp [entryAt?_nil]
  visits := .nil

theorem ascending_cons (hinside : Enumerates e.items (depth + 1) inside visitsInside)
    (hafter : Enumerates es depth after visitsAfter) :
    ([0] :: (inside.map (0 :: ·) ++ after.map shift)).Pairwise (· < ·) := by
  -- whatever starts with the first root comes before the addresses that were shifted
  have hlater : ∀ b ∈ after.map shift, ∀ a, 0 :: a < b := by
    intro b hb a
    obtain ⟨c, hc, rfl⟩ := List.mem_map.1 hb
    obtain ⟨i, c, rfl⟩ := List.exists_cons_of_ne_nil (hafter.ne_nil hc)
    exact List.cons_lt_cons_iff.2 (.inl (Nat.succ_pos i))
  refine List.pairwise_cons.2 ⟨?_, List.pairwise_append.2 ⟨?_, ?_, ?_⟩⟩
  · intro b hb
    rcases List.mem_append.1 hb with hb | hb
    · obtain ⟨a, ha, rfl⟩ := List.mem_map.1 hb
      obtain ⟨i, a, rfl⟩ := List.exists_cons_of_ne_nil (hinside.ne_nil ha)
      exact List.cons_lt_cons_iff.2 (.inr ⟨rfl, List.nil_lt_cons i a⟩)
    · exact hlater b hb []
  · exact List.pairwise_map.2 (hinside.ascending.imp fun h => List.cons_lt_cons_iff.2 (.inr ⟨rfl, h⟩))
  · exact List.pairwise_map.2 (hafter.ascending.imp shift_lt_shift)
  · intro a ha b hb
    obtain ⟨a, -, rfl⟩ := List.mem_map.1 ha
    exact hlater b hb a

theorem complete_cons (hinside : Enumerates e.items (depth + 1) inside visitsInside)
    (hafter : Enumerates es depth after visitsAfter) (address : List Nat) :
    address ∈ [0] :: (inside.map (0 :: ·) ++ after.map shift) ↔ (entryAt? (e :: es) address).isSome = true := by
  have hshift : ∀ b, b ∈ after.map shift ↔ ∃ i c, i :: c ∈ after ∧ (i + 1) :: c = b := by
    intro b
    constructor
    · intro hb
      obtain ⟨c, hc, rfl⟩ := List.mem_map.1 hb
      obtain ⟨i, c, rfl⟩ := List.exists_cons_of_ne_nil (hafter.ne_nil hc)
      exact ⟨i, c, hc, rfl⟩
    · rintro ⟨i, c, hc, rfl⟩
      exact List.mem_map.2 ⟨i :: c, hc, rfl⟩
  rw [List.mem_cons, List.mem_append, hshift]
  rcases address with _ | ⟨_ | i, address⟩
  · simp [entryAt?]
  · rcases eq_or_ne address [] with rfl | hne
    · simp [entryAt?]
    · rw [entryAt?_cons_zero e es hne, ← hinside.complete]
      simp [hne]
  · rw [entryAt?_cons_succ, ← hafter.complete]
    simp

/-- **One more entry** in front of a forest: its own address, those inside of it, and then the shifted ones. -/
theorem cons (hinside : Enumerates e.items (depth + 1) inside visitsInside)
    (hafter : Enumerates es depth after visitsAfter) :
    Enumerates (e :: es) depth ([0] :: (inside.map (0 :: ·) ++ after.map shift))
      ((depth, e) :: (visitsInside ++ visitsAfter)) where
  ascending := hinside.ascending_cons hafter
  complete := hinside.complete_cons hafter
  visits := by
    refine .cons ⟨rfl, rfl⟩ (List.rel_append ?_ ?_)
    · refine List.forall₂_map_left_iff.2 (hinside.visits.imp ?_)
      rintro address visit ⟨hentry, hdepth⟩
      rw [entryAt?_cons_zero e es (ne_nil_of_isSome_entryAt? (Option.isSome_of_eq_some hentry)), List.length_cons]
      exact ⟨hentry, by omega⟩
    · refine List.forall₂_map_left_iff.2 (hafter.visits.imp ?_)
      rintro (_ | ⟨i, address⟩) visit ⟨hentry, hdepth⟩
      · cases hentry
      · rw [shift, entryAt?_cons_succ]
        exact ⟨hentry, hdepth⟩

end Enumerates

theorem enumerates_preorderAll (es : List NavEntry) : ∀ depth : Nat,
    ∃ addresses, Enumerates es depth addresses (preorderAll depth es) := by
  induction es using forest_induction with
  | nil =>
    intro depth
    rw [preorderAll]
    exact ⟨[], .nil depth⟩
  | cons e es ihItems ih =>
    intro depth
    obtain ⟨inside, hinside⟩ := ihItems (depth + 1)
    obtain ⟨after, hafter⟩ := ih depth
    rw [preorderAll_cons]
    exact ⟨_, hinside.cons hafter⟩

/-! ## Outlines -/

/-- What an outline shows of an entry: how deep it is, and all but its items. -/
structure Label where
  depth : Nat
  text : String
  link : Option String
  isCollapsible : Bool

def label (visit : Nat × NavEntry) : Label := ⟨visit.1, visit.2.text, visit.2.link, visit.2.isCollapsible⟩

theorem eq_of_label {depth depth' : Nat} {e e' : NavEntry} (h : label (depth, e) = label (depth', e'))
    (hitems : e.items = e'.items) : e = e' := by
  cases e
  cases e'
  simp_all [label, text, link, isCollapsible, items]

/-- What follows the visits at some depth goes on less deep. -/
def Shallower (depth : Nat) (rest : List Label) : Prop :=
  ∀ l ∈ rest.head?, l.depth < depth

theorem Shallower.append {depth : Nat} {rest : List Label} (h : Shallower depth rest)
    (es : List NavEntry) : Shallower (depth + 1) ((preorderAll depth es).map label ++ rest) := by
  cases es with
  | nil =>
    rw [preorderAll, List.map_nil, List.nil_append]
    exact fun l hl => Nat.lt_succ_of_lt (h l hl)
  | cons e es =>
    rw [preorderAll_cons]
    rintro l ⟨⟩
    exact Nat.lt_succ_self depth

/-- An entry at the depth is no part of what goes on less deep. -/
theorem Shallower.ne_cons {depth : Nat} {rest : List Label} (h : Shallower depth rest)
    (e : NavEntry) (es : List NavEntry) (rest' : List Label) :
    rest ≠ (preorderAll depth (e :: es)).map label ++ rest' := by
  rintro rfl
  rw [preorderAll_cons] at h
  exact Nat.lt_irrefl depth (h _ rfl)

/-- **Labels** in pre-order, followed by what goes on less deep, belong to one forest only. -/
theorem labels_append_inj (es : List NavEntry) : ∀ (es' : List NavEntry) (depth : Nat)
    (rest rest' : List Label), Shallower depth rest → Shallower depth rest' →
    (preorderAll depth es).map label ++ rest = (preorderAll depth es').map label ++ rest' →
      es = es' ∧ rest = rest' := by
  induction es using forest_induction with
  | nil =>
    intro es' depth rest rest' hrest _ h
    cases es' with
    | nil => simpa [preorderAll] using h
    | cons e' es' => exact absurd (by simpa [preorderAll] using h) (hrest.ne_cons e' es' rest')
  | cons e es ihItems ih =>
    intro es' depth rest rest' hrest hrest' h
    cases es' with
    | nil => exact absurd (by simpa [preorderAll] using h.symm) (hrest'.ne_cons e es rest)
    | cons e' es' =>
      simp only [preorderAll_cons, List.map_cons, List.map_append, List.cons_append, List.append_assoc,
        List.cons.injEq] at h
      obtain ⟨hlabel, h⟩ := h
      -- the items of the first entry end where the labels are no deeper than the entry
      obtain ⟨hitems, h⟩ := ihItems e'.items (depth + 1) _ _ (hrest.append es) (hrest'.append es') h
      obtain ⟨rfl, rfl⟩ := ih es' depth rest rest' hrest hrest' h
      rw [eq_of_label hlabel hitems]
      exact ⟨rfl, rfl⟩

theorem map_label_walk_injective : Function.Injective fun entries => (walk entries).map label := by
  intro entries others h
  simp only [walk_eq] at h
  refine (labels_append_inj entries others 0 [] [] ?_ ?_ (by simpa using h)).1 <;> simp [Shallower]

/-- The line for a label: two blanks for each level, a mark if the entry can be collapsed, its text, and its link. -/
def Label.line (l : Label) : String :=
  String.ofList (List.replicate (2 * (l.depth + 1)) ' ') ++ (if l.isCollapsible then "+ " else "") ++ l.text ++
    l.link.elim "" (" -> " ++ ·) ++ "\n"

theorem line_eq (visit : Nat × NavEntry) : visit.2.line visit.1 = (label visit).line := by
  obtain ⟨depth, text, link, isCollapsible, items⟩ := visit
  cases link <;> rfl

/-- **An outline** of entries has their labels in the order of the walk. -/
theorem outline_cons (heading : String) (e : NavEntry) (es : List NavEntry) :
    outline heading (e :: es) =
      heading ++ ":\n" ++ String.join (((walk (e :: es)).map label).map Label.line) := by
  have hlines : (fun visit : Nat × NavEntry => visit.2.line visit.1) = Label.line ∘ label := funext line_eq
  rw [List.map_map, ← hlines]
  rfl

end NavEntry

open NavEntry in
/-- **The navigation** is walked in pre-order: the walk is the recursion over the forest, it ends after one visit for
each entry, and it visits the entries by ascending addresses, each item one deeper than the entry that it belongs to.
The labels of all visits, in this order, belong to one forest only. The outline of a site has, for each of its two
sections that is not empty, a heading and the lines of these labels. -/
theorem navigation_is_walked_in_preorder :
    (∀ entries : List NavEntry, walk entries = preorderAll 0 entries ∧ (walk entries).length = countAll entries ∧
      ∃ addresses : List (List Nat), addresses.Pairwise (· < ·) ∧
        (∀ address, address ∈ addresses ↔ (entryAt? entries address).isSome = true) ∧
        List.Forall₂ (fun address visit => entryAt? entries address = some visit.2 ∧ visit.1 + 1 = address.length)
          addresses (walk entries)) ∧
    (∀ entries others : List NavEntry, (walk entries).map label = (walk others).map label ↔ entries = others) ∧
    (∀ site : SiteSettings, site.navigation =
      s!"{site.siteTitle} ({site.theme})\n" ++ outline "nav" site.nav ++ outline "sidebar" site.sidebar) ∧
    ∀ heading : String, outline heading [] = "" ∧ ∀ (e : NavEntry) (es : List NavEntry), outline heading (e :: es) =
      heading ++ ":\n" ++ String.join (((walk (e :: es)).map label).map Label.line) := by
  refine ⟨fun entries => ?_, fun entries others => map_label_walk_injective.eq_iff, fun site => rfl,
    fun heading => ⟨rfl, outline_cons heading⟩⟩
  obtain ⟨addresses, h⟩ := enumerates_preorderAll entries 0
  rw [walk_eq]
  exact ⟨rfl, length_preorderAll entries 0, addresses, h.ascending, h.complete, by simpa using h.visits⟩

end Highlight
