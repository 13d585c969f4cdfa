import Highlight.Proofs.Expansion
import Highlight.Proofs.Shape
import Mathlib.Logic.Relation

/-!
# A walk yields every rule that can be reached, and yields it once

* **No repetitions** (`Walk.perm_pending`): every rule of a well-formed grammar stands in one list, and a walk passes no
  list twice. So the rules that a walk yields are among those that wait in its levels and in the sets not met, each
  as often as it waits there.
* **Reachable rules** (`Grammar.mem_plainRules_iff`): the plain expansion has the rules that can be reached through
  references. A way that leads through a set twice can be cut, so that passing the sets that are being expanded loses none.
* **Inlining** (`Grammar.Inlined`): where references lead in no circle, the plain expansion replaces all of them.

Together with the agreement of walks and plain expansion this is `walk_yields_first_occurrences`.
-/

namespace Highlight

/-! ## What a walk yields -/

/-- A walk yields these rules and then ends. -/
inductive Walk.Yields (g : Grammar) : Walk → List Nat → Prop
  | stop {w w' : Walk} : w.next g = (none, w') → Yields g w []
  | more {w w' : Walk} {id : Nat} {ids : List Nat} : w.next g = (some id, w') → Yields g w' ids →
      Yields g w (id :: ids)

theorem Walk.yields_rules (g : Grammar) (w : Walk) : w.Yields g (w.rules g) := by
  cases hn : w.next g with
  | mk id w' =>
    cases id with
    | none =>
      rw [rules_of_next_none hn]
      exact .stop hn
    | some id =>
      rw [rules_of_next_some hn]
      exact .more hn (yields_rules g w')
termination_by w.left g
decreasing_by exact left_next hn

/-! ## No repetitions -/

/-- The rule sets that the current walk has not met. -/
def Marks.unmetSets (m : Marks) : List Nat := (List.range m.marks.size).filter fun set => !m.met set

theorem Marks.unmetSets_meet {m : Marks} {set : Nat} (h : m.met set = false) :
    m.unmetSets.Perm (set :: (m.meet set).unmetSets) := by
  have hmem : set ∈ m.unmetSets := by simp [unmetSets, h, lt_size_of_met_eq_false h]
  have hnodup : m.unmetSets.Nodup := List.nodup_range.filter _
  have herase : m.unmetSets.erase set = (m.meet set).unmetSets := by
    rw [hnodup.erase_eq_filter, unmetSets, unmetSets, List.filter_filter, size_meet]
    refine List.filter_congr fun s _ => ?_
    rw [met_meet]
    by_cases hs : s = set <;> simp [hs]
  exact herase ▸ List.perm_cons_erase hmem

namespace Walk

/-- The rules that wait: those in the levels of the walk, and those in the sets that it can still enter. -/
def pending (g : Grammar) (w : Walk) : List Nat :=
  w.levels.flatMap ruleIds ++ w.marks.unmetSets.flatMap fun set => ruleIds (g.itemsOf set)

/-- Up to the next rule, a walk only moves what waits. -/
theorem pending_next {g : Grammar} {w w' : Walk} {id : Nat} (h : w.next g = (some id, w')) :
    (w.pending g).Perm (id :: w'.pending g) := by
  fun_induction next g w with
  | case1 m => simp at h
  | case2 levels m ih => simpa [pending] using ih h
  | case3 id' items levels m =>
    obtain ⟨hid, rfl⟩ := Prod.mk.inj h
    cases hid
    simp [pending]
  | case4 set items levels m hmet ih => simpa [pending] using ih h
  | case5 set items levels m hmet ih =>
    refine List.Perm.trans ?_ (ih h)
    have hunmet := (Marks.unmetSets_meet (Bool.not_eq_true _ ▸ hmet)).flatMap_right fun s => ruleIds (g.itemsOf s)
    simp only [pending, List.flatMap_cons, ruleIds_ruleSet, List.append_assoc] at hunmet ⊢
    refine (hunmet.append_left _ |>.append_left _).trans ?_
    rw [List.perm_iff_count]
    intro a
    simp only [List.count_append]
    omega

/-- **The rules that a walk yields** are among those that wait, each as often as it waits. -/
theorem perm_pending (g : Grammar) (w : Walk) : ∃ rest, (w.rules g ++ rest).Perm (w.pending g) := by
  cases hn : w.next g with
  | mk id w' =>
    cases id with
    | none => exact ⟨w.pending g, by rw [rules_of_next_none hn, List.nil_append]⟩
    | some id =>
      obtain ⟨rest, hrest⟩ := perm_pending g w'
      refine ⟨rest, ?_⟩
      rw [rules_of_next_some hn, List.cons_append]
      exact (hrest.cons id).trans (pending_next hn).symm
termination_by w.left g
decreasing_by exact left_next hn

end Walk

/-- The lists of the rule sets, by their index. -/
theorem Grammar.map_itemsOf_range (g : Grammar) :
    (List.range g.sets.size).map g.itemsOf = g.sets.toList.map RuleSet.items := by
  refine List.ext_getElem (by simp) fun i hi _ => ?_
  have : i < g.sets.size := by simpa using hi
  simp [itemsOf, this]

/-- A new walk has met no set. -/
theorem Marks.unmetSets_begin {m : Marks} (hm : m.Bounded) : m.begin.unmetSets = List.range m.marks.size := by
  rw [unmetSets, size_begin]
  refine List.filter_eq_self.2 fun set hset => ?_
  simp [met_begin hm (List.mem_range.1 hset)]

/-- Where a walk may start: at a rule set, or at the rules inside a region. -/
inductive WalkStart (g : Grammar) where
  | set (id : Fin g.sets.size)
  | inside (r : RegionRule) (h : Rule.region r ∈ g.rules)

namespace WalkStart

variable {g : Grammar}

/-- The entries that are walked over. -/
def items : WalkStart g → List Item
  | set id => g.itemsOf id
  | inside r _ => r.children

/-- The sets that are being expanded at the start. -/
def path : WalkStart g → List Nat
  | set id => [id]
  | inside _ _ => []

/-- A new walk from here. -/
def walk (m : Marks) : WalkStart g → Walk
  | set id => m.walkSet g id
  | inside r _ => m.walkItems r.children

/-- What waits at the start of a walk has no repetitions. -/
theorem nodup_pending (hg : g.WellFormed) {m : Marks} (hm : m.Bounded) (hsize : m.marks.size = g.sets.size)
    (s : WalkStart g) : ((s.walk m).pending g).Nodup := by
  have hlists : (g.lists.flatMap ruleIds).Nodup := hg.rules.nodup_iff.2 List.nodup_range
  rw [Grammar.lists, List.flatMap_append, ← g.map_itemsOf_range, List.flatMap_map] at hlists
  cases s with
  | set id =>
    have hunmet := Marks.met_begin hm (show id.val < m.marks.size by rw [hsize]; exact id.isLt)
    have hperm := (Marks.unmetSets_meet hunmet).flatMap_right fun set => ruleIds (g.itemsOf set)
    rw [Marks.unmetSets_begin hm, hsize, List.flatMap_cons] at hperm
    have := hperm.nodup_iff.1 (List.nodup_append.1 hlists).1
    simpa [walk, Walk.pending, Marks.walkSet] using this
  | inside r h =>
    have hsub : (ruleIds r.children).Sublist ((g.rules.toList.map Rule.children).flatMap ruleIds) := by
      rw [List.flatMap_map]
      exact List.sublist_flatten_of_mem (List.mem_map.2 ⟨.region r, Array.mem_toList_iff.2 h, rfl⟩)
    have := List.perm_append_comm.nodup_iff.1 (((List.Sublist.refl _).append hsub).nodup hlists)
    simpa [walk, Walk.pending, Marks.walkItems, Marks.unmetSets_begin hm, hsize] using this

theorem nodup_rules (hg : g.WellFormed) {m : Marks} (hm : m.Bounded) (hsize : m.marks.size = g.sets.size)
    (s : WalkStart g) : ((s.walk m).rules g).Nodup := by
  obtain ⟨rest, hperm⟩ := (s.walk m).perm_pending g
  exact (List.nodup_append.1 (hperm.nodup_iff.2 (s.nodup_pending hg hm hsize))).1

end WalkStart

/-- A list without repetitions is its own list of first occurrences. -/
theorem eraseDups_of_nodup : ∀ {xs : List Nat}, xs.Nodup → xs.eraseDups = xs
  | [], _ => rfl
  | x :: xs, h => by
    obtain ⟨hx, hxs⟩ := List.nodup_cons.1 h
    have hfilter : xs.filter (fun y => !y == x) = xs := by
      refine List.filter_eq_self.2 fun y hy => ?_
      simp only [Bool.not_eq_true', beq_eq_false_iff_ne]
      exact fun heq => hx (heq ▸ hy)
    rw [List.eraseDups_cons, hfilter, eraseDups_of_nodup hxs]

/-- **Walks list first occurrences**: the rules of a new walk are those of the plain expansion, each once. -/
theorem WalkStart.rules_eq {g : Grammar} (hg : g.WellFormed) {m : Marks} (hm : m.Bounded)
    (hsize : m.marks.size = g.sets.size) (s : WalkStart g) :
    (s.walk m).rules g = (g.plainRules s.path s.items).eraseDups := by
  have htracks : Walk.Tracks g [] s.path (s.walk m) ∧
      g.plainLevels s.path (s.walk m).levels = g.plainRules s.path s.items := by
    cases s with
    | set id => exact ⟨Walk.tracks_walkSet hm hsize id, by simp [walk, Marks.walkSet, Grammar.plainLevels, items]⟩
    | inside r h =>
      exact ⟨Walk.tracks_walkItems hm hsize r.children, by simp [walk, Marks.walkItems, Grammar.plainLevels, items]⟩
  have heq := htracks.1.eraseDups_rules
  rw [List.nil_append, List.nil_append, eraseDups_of_nodup (s.nodup_rules hg hm hsize), htracks.2] at heq
  exact heq

/-! ## Reachable rules -/

namespace Grammar

variable {g : Grammar}

/-- A rule can be reached from a list of entries: it stands there itself, or it can be reached from a set that the list
refers to, where the sets in `avoid` are not passed. -/
inductive Reaches (g : Grammar) (avoid : List Nat) : List Item → Nat → Prop
  | rule {items : List Item} {id : Nat} : id ∈ ruleIds items → Reaches g avoid items id
  | ruleSet {items : List Item} {set id : Nat} : set ∈ setIds items → set ∉ avoid →
      Reaches g avoid (g.itemsOf set) id → Reaches g avoid items id

/-- A way may avoid a set, or it can be cut so that it starts in that set and does not come back. -/
theorem Reaches.cut {avoid : List Nat} {items : List Item} {id : Nat} (h : g.Reaches avoid items id) (set : Nat) :
    g.Reaches (set :: avoid) items id ∨ g.Reaches (set :: avoid) (g.itemsOf set) id := by
  induction h with
  | rule hid => exact Or.inl (.rule hid)
  | @ruleSet items set' id hset havoid _ ih =>
    rcases ih with ih | ih
    · by_cases heq : set' = set
      · subst heq
        exact Or.inr ih
      · exact Or.inl (.ruleSet hset (by simp [heq, havoid]) ih)
    · exact Or.inr ih

/-- A rule that can be reached from a set can be reached without coming back to the set. -/
theorem Reaches.cut_self {avoid : List Nat} {set id : Nat} (h : g.Reaches avoid (g.itemsOf set) id) :
    g.Reaches (set :: avoid) (g.itemsOf set) id := (h.cut set).elim (fun h => h) fun h => h

theorem Reaches.mono {avoid avoid' : List Nat} {items : List Item} {id : Nat} (h : g.Reaches avoid items id)
    (hsub : ∀ set ∈ avoid', set ∈ avoid) : g.Reaches avoid' items id := by
  induction h with
  | rule hid => exact .rule hid
  | ruleSet hset havoid _ ih => exact .ruleSet hset (fun h => havoid (hsub _ h)) ih

/-- **The plain expansion** has the rules that can be reached. -/
theorem mem_plainRules_iff {path : List Nat} {items : List Item} {id : Nat} :
    id ∈ g.plainRules path items ↔ g.Reaches path items id := by
  fun_induction Grammar.plainRules g path items with
  | case1 path =>
    refine ⟨by simp, fun h => ?_⟩
    cases h with
    | rule hid => simp at hid
    | ruleSet hset => simp at hset
  | case2 path id' items ih =>
    rw [List.mem_cons, ih]
    constructor
    · rintro (rfl | h)
      · exact .rule (by simp)
      · cases h with
        | rule hid => exact .rule (by simp [hid])
        | ruleSet hset havoid h => exact .ruleSet hset havoid h
    · intro h
      cases h with
      | rule hid =>
        rcases List.mem_cons.1 hid with rfl | hid
        · exact Or.inl rfl
        · exact Or.inr (.rule hid)
      | ruleSet hset havoid h => exact Or.inr (.ruleSet hset havoid h)
  | case3 path set items ihset ih =>
    rw [List.mem_append, ih]
    constructor
    · rintro (h | h)
      · split at h
        · simp at h
        next hpath =>
          exact .ruleSet (by simp) hpath (((ihset hpath).1 h).mono fun s hs => List.mem_cons_of_mem _ hs)
      · cases h with
        | rule hid => exact .rule hid
        | ruleSet hset havoid h => exact .ruleSet (by simp [hset]) havoid h
    · intro h
      cases h with
      | rule hid => exact Or.inr (.rule hid)
      | ruleSet hset havoid h =>
        rcases List.mem_cons.1 hset with rfl | hset
        · rw [if_neg havoid]
          exact Or.inl ((ihset havoid).2 h.cut_self)
        · exact Or.inr (.ruleSet hset havoid h)

/-! ## Inlining -/

/-- All references are replaced by the rules of their sets, in place and at any depth. -/
inductive Inlined (g : Grammar) : List Item → List Nat → Prop
  | nil : Inlined g [] []
  | rule {id : Nat} {items : List Item} {ids : List Nat} : Inlined g items ids → Inlined g (.rule id :: items) (id :: ids)
  | ruleSet {set : Nat} {items : List Item} {inner ids : List Nat} : Inlined g (g.itemsOf set) inner →
      Inlined g items ids → Inlined g (.ruleSet set :: items) (inner ++ ids)

theorem Inlined.unique {items : List Item} {ids ids' : List Nat} (h : g.Inlined items ids) (h' : g.Inlined items ids') :
    ids = ids' := by
  induction h generalizing ids' with
  | nil =>
    cases h'
    rfl
  | rule _ ih =>
    cases h' with
    | rule h' => rw [ih h']
  | ruleSet _ _ ihinner ih =>
    cases h' with
    | ruleSet hinner h' => rw [ihinner hinner, ih h']

/-- A rule set refers to another one. -/
def Refers (g : Grammar) (set set' : Nat) : Prop := set' ∈ setIds (g.itemsOf set)

/-- No rule set to which references lead from a list of entries leads back to itself. -/
def Acyclic (g : Grammar) (items : List Item) : Prop :=
  ∀ first ∈ setIds items, ∀ set, Relation.ReflTransGen g.Refers first set → ¬ Relation.TransGen g.Refers set set

/-- Without circles, and where references do not lead to the sets that are being expanded, nothing is left out. -/
theorem inlined_plainRules {path : List Nat} {items : List Item} (hacyclic : g.Acyclic items)
    (hpath : ∀ first ∈ setIds items, ∀ set ∈ path, ¬ Relation.ReflTransGen g.Refers first set) :
    g.Inlined items (g.plainRules path items) := by
  fun_induction Grammar.plainRules g path items with
  | case1 path => exact .nil
  | case2 path id items ih => exact .rule (ih hacyclic hpath)
  | case3 path set items ihset ih =>
    unfold Acyclic at hacyclic ih ihset
    simp only [setIds_ruleSet, List.forall_mem_cons] at hacyclic hpath
    have hset : set ∉ path := fun hmem => hpath.1 set hmem .refl
    rw [if_neg hset]
    refine .ruleSet (ihset hset (fun first hfirst s hs => ?_) fun first hfirst s hs => ?_) (ih hacyclic.2 hpath.2)
    · exact hacyclic.1 s (.head hfirst hs)
    · intro hreach
      rcases List.mem_cons.1 hs with rfl | hs
      · exact hacyclic.1 s .refl (.head' hfirst hreach)
      · exact hpath.1 s hs (.head hfirst hreach)

end Grammar

/-! ## New walks -/

namespace WalkStart

variable {g : Grammar}

theorem mem_plainRules_iff (s : WalkStart g) {id : Nat} :
    id ∈ g.plainRules s.path s.items ↔ g.Reaches [] s.items id := by
  rw [Grammar.mem_plainRules_iff]
  cases s with
  | set set => exact ⟨fun h => h.mono (by simp), fun h => h.cut_self⟩
  | inside r h => exact Iff.rfl

theorem inlined_plainRules (s : WalkStart g) (h : g.Acyclic s.items) :
    g.Inlined s.items (g.plainRules s.path s.items) := by
  refine Grammar.inlined_plainRules h fun first hfirst set hset hreach => ?_
  cases s with
  | set id =>
    -- a way back to the set where the walk starts closes a circle
    rw [path, List.mem_singleton] at hset
    subst hset
    exact h first hfirst first .refl (.tail' hreach hfirst)
  | inside r hr => simp [path] at hset

end WalkStart

/-- **A walk yields the first occurrences of the plain expansion.** From a rule set or from inside a region of a built
grammar, a walk with new marks ends, and the rules that it yields are those of the plain expansion without all but the
first occurrence of each. So it yields no rule twice and every rule that can be reached through references, and the first
rule with some property is the first one of the plain expansion. Where references lead in no circle, the plain expansion
is the one and only result of replacing all references. -/
theorem walk_yields_first_occurrences {d : GrammarDefinition} {g : Grammar} (h : d.build = .ok g) (s : WalkStart g) :
    ∃ ids, (s.walk (Marks.fresh g.sets.size)).Yields g ids ∧
      ids = (g.plainRules s.path s.items).eraseDups ∧
      ids.Nodup ∧
      (∀ id, id ∈ ids ↔ g.Reaches [] s.items id) ∧
      (∀ p : Nat → Bool, ids.find? p = (g.plainRules s.path s.items).find? p) ∧
      (g.Acyclic s.items → ∀ ids', g.Inlined s.items ids' ↔ ids' = g.plainRules s.path s.items) := by
  have hg := (GrammarDefinition.makes_of_build h).wellFormed
  have hsize : (Marks.fresh g.sets.size).marks.size = g.sets.size := by simp [Marks.fresh]
  have hrules := s.rules_eq hg (Marks.bounded_fresh _) hsize
  refine ⟨_, Walk.yields_rules g _, hrules, s.nodup_rules hg (Marks.bounded_fresh _) hsize, fun id => ?_, fun p => ?_,
    fun hacyclic ids' => ⟨fun hinlined => hinlined.unique (s.inlined_plainRules hacyclic), ?_⟩⟩
  · rw [hrules, List.mem_eraseDups]
    exact s.mem_plainRules_iff
  · rw [hrules, List.find?_eq_findSome?_guard, List.find?_eq_findSome?_guard, Walk.findSome?_eraseDups]
  · rintro rfl
    exact s.inlined_plainRules hacyclic

/-- The plain expansion of `main` comes to the rule of `groups` twice, and the walk yields it once. -/
theorem walk_yields_first_occurrences_brackets :
    GrammarDefinition.brackets.build = .ok .brackets ∧
    ∃ main : WalkStart Grammar.brackets, Grammar.brackets.plainRules main.path main.items = [1, 2, 1] ∧
      (main.walk (Marks.fresh Grammar.brackets.sets.size)).Yields .brackets [1, 2] := by
  have hlt : 1 < Grammar.brackets.sets.size := by decide +kernel
  have hmain : Grammar.brackets.itemsOf 1 = [.ruleSet 1, .ruleSet 0, .rule 2, .ruleSet 0] := by decide +kernel
  have hgroups : Grammar.brackets.itemsOf 0 = [.rule 1] := by decide +kernel
  let main : WalkStart Grammar.brackets := .set ⟨1, hlt⟩
  have hplain : Grammar.brackets.plainRules main.path main.items = [1, 2, 1] := by
    simp [main, WalkStart.path, WalkStart.items, Grammar.plainRules, hmain, hgroups]
  obtain ⟨ids, hyields, hids, -⟩ := walk_yields_first_occurrences GrammarDefinition.build_brackets main
  have hfirst : ids = [1, 2] := hids.trans (by rw [hplain]; decide)
  exact ⟨GrammarDefinition.build_brackets, main, hplain, hfirst ▸ hyields⟩

end Highlight
