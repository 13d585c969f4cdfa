import Highlight.Tokenizer.Expansion

/-!
# Walks agree with the plain expansion

`Grammar.plainRules` expands references without any memory: in place and depth first, where only a reference to a set
that is being expanded contributes nothing. A walk enters a set once and passes every later reference to it, also when
it is done with the set, and it tells by its number which marks are its own.

* **Marks** (`Marks.met_begin`): after `Marks.begin` no set counts as met, whatever earlier walks left behind and also
  where the numbers wrap around, as long as no mark is above the number of the current walk (`Marks.Bounded`).
* **Walks** (`Walk.Tracks.next_some`, `Walk.Tracks.eraseDups_rules`): the rules of a walk are the plain expansion
  without repetitions. The invariant is `Walk.Tracks`: what stands in a set that was met is dealt with, or waits at the
  level of that set.

Hence the first rule with some property is the same in both (`Walk.findSome?_walkItems`, `Walk.findSome?_walkSet`).
-/

namespace Highlight

/-! ## The plain expansion -/

/-- How many rule sets are not on a path. -/
def Grammar.offPath (g : Grammar) (path : List Nat) : Nat := (List.range g.sets.size).countP (· ∉ path)

theorem Grammar.offPath_cons_lt (g : Grammar) {path : List Nat} {set : Nat} (hset : set < g.sets.size)
    (h : set ∉ path) : g.offPath (set :: path) < g.offPath path := by
  have hsplit : g.offPath path = g.offPath (set :: path) + (List.range g.sets.size).countP (· == set) := by
    unfold offPath
    induction List.range g.sets.size with
    | nil => rfl
    | cons n ns ih =>
      simp only [List.countP_cons, ih, List.mem_cons, not_or]
      by_cases hn : n = set
      · subst hn
        simp [h]
        omega
      · by_cases hp : n ∈ path
        · simp [hn, hp]
        · simp [hn, hp]
          omega
  have hone : 0 < (List.range g.sets.size).countP (· == set) :=
    List.countP_pos_iff.2 ⟨set, List.mem_range.2 hset, by simp⟩
  omega

theorem Grammar.offPath_cons_of_size_le (g : Grammar) (path : List Nat) {set : Nat} (hset : g.sets.size ≤ set) :
    g.offPath (set :: path) = g.offPath path := by
  refine List.countP_congr fun n hn => ?_
  have : n ≠ set := Nat.ne_of_lt (Nat.lt_of_lt_of_le (List.mem_range.1 hn) hset)
  simp [this]

theorem Grammar.itemsOf_of_size_le (g : Grammar) {set : Nat} (h : g.sets.size ≤ set) : g.itemsOf set = [] := by
  simp [itemsOf, Array.getElem?_eq_none h]

/-- The rules of a list of items while the sets on `path` are being expanded: each reference is replaced in place by the
rules of its set, and one to a set on the path by nothing. -/
def Grammar.plainRules (g : Grammar) (path : List Nat) (items : List Item) : List Nat :=
  match items with
  | [] => []
  | .rule id :: items => id :: g.plainRules path items
  | .ruleSet set :: items =>
    (if set ∈ path then [] else g.plainRules (set :: path) (g.itemsOf set)) ++ g.plainRules path items
termination_by (g.offPath path, items.length)
decreasing_by
  · exact Prod.Lex.right _ (by simp)
  · rename_i h
    rcases Nat.lt_or_ge set g.sets.size with hset | hset
    · exact Prod.Lex.left _ _ (g.offPath_cons_lt hset h)
    · -- a set that does not exist has no items, so the list gets shorter instead
      rw [g.itemsOf_of_size_le hset, g.offPath_cons_of_size_le path hset]
      exact Prod.Lex.right _ (by simp)
  · exact Prod.Lex.right _ (by simp)

/-- The plain expansion of all that is left of a walk; each level is inside one more set. -/
def Grammar.plainLevels (g : Grammar) : List Nat → List (List Item) → List Nat
  | _, [] => []
  | path, items :: levels => g.plainRules path items ++ g.plainLevels path.tail levels

/-! ## Marks -/

namespace Marks

/-- The next number is one more, unless the numbers are used up. -/
theorem toNat_add_one {n : UInt32} (h : n + 1 ≠ 0) : (n + 1).toNat = n.toNat + 1 := by
  have hlt := n.toNat_lt
  rw [UInt32.toNat_add]
  refine Nat.mod_eq_of_lt (Nat.lt_of_not_le fun hwrap => h (UInt32.toNat_inj.1 ?_))
  rw [UInt32.toNat_add]
  simp at hwrap ⊢
  omega

/-- No mark is above the number of the current walk. -/
def Bounded (m : Marks) : Prop := ∀ n ∈ m.marks, n ≤ m.walk

theorem bounded_fresh (n : Nat) : (fresh n).Bounded := by
  intro k hk
  rw [Array.eq_of_mem_replicate hk]
  exact UInt32.le_refl 0

theorem Bounded.begin {m : Marks} (h : m.Bounded) : m.begin.Bounded := by
  unfold Marks.begin
  split
  · intro k hk
    rw [Array.eq_of_mem_replicate hk]
    exact UInt32.le_iff_toNat_le.2 (Nat.zero_le _)
  next hwrap =>
    intro k hk
    have hle := UInt32.le_iff_toNat_le.1 (h k hk)
    rw [UInt32.le_iff_toNat_le]
    show k.toNat ≤ (m.walk + 1).toNat
    rw [toNat_add_one hwrap]
    exact Nat.le_succ_of_le hle

theorem Bounded.meet {m : Marks} (h : m.Bounded) (set : Nat) : (m.meet set).Bounded := by
  intro k hk
  rcases Array.mem_or_eq_of_mem_setIfInBounds hk with hk | rfl
  · exact h k hk
  · exact UInt32.le_refl _

theorem size_begin (m : Marks) : m.begin.marks.size = m.marks.size := by
  unfold begin
  split <;> simp

/-- A new walk has met no set. -/
theorem met_begin {m : Marks} (h : m.Bounded) {set : Nat} (hset : set < m.marks.size) : m.begin.met set = false := by
  unfold begin
  split
  · simp [met, hset]
  next hwrap =>
    simp only [met, Array.getElem?_eq_getElem hset, Option.all_some, beq_eq_false_iff_ne]
    intro heq
    have hle := UInt32.le_iff_toNat_le.1 (h _ (Array.getElem_mem hset))
    rw [heq, toNat_add_one hwrap] at hle
    exact Nat.not_succ_le_self _ hle

end Marks

/-! ## The invariant of walks -/

/-- An item is dealt with: the rule was found, or the set was met. -/
def Item.Done (found : List Nat) (m : Marks) : Item → Prop
  | .rule id => id ∈ found
  | .ruleSet set => m.met set = true

theorem Item.Done.mono {found found' : List Nat} {m m' : Marks} (hf : ∀ id ∈ found, id ∈ found')
    (hm : ∀ set, m.met set = true → m'.met set = true) : ∀ {item : Item}, item.Done found m → item.Done found' m'
  | .rule id, h => hf id h
  | .ruleSet set, h => hm set h

/-- Where all items are dealt with, and also those of every met set off the path, the plain expansion has only rules
that were found. -/
theorem plainRules_subset {g : Grammar} {found path : List Nat} {m : Marks}
    (hdone : ∀ set, m.met set = true → set ∉ path → ∀ item ∈ g.itemsOf set, item.Done found m)
    (items : List Item) (hitems : ∀ item ∈ items, item.Done found m) : ∀ id ∈ g.plainRules path items, id ∈ found := by
  fun_induction Grammar.plainRules g path items with
  | case1 path => simp
  | case2 path id items ih =>
    simp only [List.forall_mem_cons] at hitems ⊢
    exact ⟨hitems.1, ih hdone hitems.2⟩
  | case3 path set items ihset ih =>
    simp only [List.forall_mem_cons] at hitems
    intro id hid
    rcases List.mem_append.1 hid with hid | hid
    · split at hid
      · simp at hid
      next hpath =>
        refine ihset hpath (fun s hs hsp => ?_) (hdone set hitems.1 hpath) id hid
        exact hdone s hs fun h => hsp (List.mem_cons_of_mem _ h)
    · exact ih hdone hitems.2 id hid

theorem plainLevels_pop (g : Grammar) (path : List Nat) (levels : List (List Item)) :
    g.plainLevels path ([] :: levels) = g.plainLevels path.tail levels := by
  simp [Grammar.plainLevels, Grammar.plainRules]

theorem plainLevels_rule (g : Grammar) (path : List Nat) (id : Nat) (items : List Item) (levels : List (List Item)) :
    g.plainLevels path ((.rule id :: items) :: levels) = id :: g.plainLevels path (items :: levels) := by
  simp [Grammar.plainLevels, Grammar.plainRules]

theorem plainLevels_ruleSet (g : Grammar) (path : List Nat) (set : Nat) (items : List Item)
    (levels : List (List Item)) : g.plainLevels path ((.ruleSet set :: items) :: levels) =
      (if set ∈ path then [] else g.plainRules (set :: path) (g.itemsOf set)) ++
        g.plainLevels path (items :: levels) := by
  simp [Grammar.plainLevels, Grammar.plainRules]

theorem plainLevels_enter (g : Grammar) {path : List Nat} {set : Nat} (h : set ∉ path) (items : List Item)
    (levels : List (List Item)) : g.plainLevels path ((.ruleSet set :: items) :: levels) =
      g.plainLevels (set :: path) (g.itemsOf set :: items :: levels) := by
  rw [plainLevels_ruleSet, if_neg h]
  rfl

/-- What was found before adds nothing to the first occurrences. -/
theorem eraseDups_append_of_subset {xs ys zs : List Nat} (h : ∀ y ∈ ys, y ∈ xs) :
    (xs ++ (ys ++ zs)).eraseDups = (xs ++ zs).eraseDups := by
  have hys : ys.removeAll xs = [] := List.filter_eq_nil_iff.2 fun y hy => by simpa using h y hy
  have happ : (ys ++ zs).removeAll xs = ys.removeAll xs ++ zs.removeAll xs := List.filter_append ..
  rw [List.eraseDups_append, List.eraseDups_append, happ, hys, List.nil_append]

/-- The levels of a walk inside the sets of a path: what is not dealt with of the innermost set stands on the first
level, and so on outwards. Outside of all sets there may be one more list. -/
inductive Levels (g : Grammar) (done : Item → Prop) : List Nat → List (List Item) → Prop
  | empty : Levels g done [] []
  | items (items : List Item) : Levels g done [] [items]
  | inside {set : Nat} {items : List Item} {path : List Nat} {levels : List (List Item)} :
      (∀ item ∈ g.itemsOf set, done item ∨ item ∈ items) → Levels g done path levels →
      Levels g done (set :: path) (items :: levels)

theorem Levels.mono {g : Grammar} {done done' : Item → Prop} (h : ∀ item, done item → done' item) {path : List Nat}
    {levels : List (List Item)} (hl : Levels g done path levels) : Levels g done' path levels := by
  induction hl with
  | empty => exact .empty
  | items items => exact .items items
  | inside hitems _ ih => exact .inside (fun item hi => (hitems item hi).imp_left (h item)) ih

/-- An item that is dealt with may be passed. -/
theorem Levels.pass {g : Grammar} {done : Item → Prop} {path : List Nat} {item : Item} {items : List Item}
    {levels : List (List Item)} (hl : Levels g done path ((item :: items) :: levels)) (hitem : done item) :
    Levels g done path (items :: levels) := by
  cases hl with
  | items => exact .items items
  | inside hitems hl =>
    refine .inside (fun other ho => ?_) hl
    rcases hitems other ho with h | h
    · exact Or.inl h
    · rcases List.mem_cons.1 h with rfl | h
      · exact Or.inl hitem
      · exact Or.inr h

namespace Walk

/-- What a walk knows after it yielded the rules `found`, while it is inside the sets on `path`: the marks are those of
the grammar's sets, the path was met, and what stands in a met set off the path is dealt with. -/
structure Tracks (g : Grammar) (found path : List Nat) (w : Walk) : Prop where
  size : w.marks.marks.size = g.sets.size
  met_path : ∀ set ∈ path, w.marks.met set = true
  done : ∀ set, w.marks.met set = true → set ∉ path → ∀ item ∈ g.itemsOf set, item.Done found w.marks
  levels : Levels g (Item.Done found w.marks) path w.levels

namespace Tracks

variable {g : Grammar} {found path : List Nat} {levels : List (List Item)} {items : List Item} {m : Marks}

/-- When a level is used up, its set is dealt with. -/
theorem pop (h : Tracks g found path ⟨[] :: levels, m⟩) : Tracks g found path.tail ⟨levels, m⟩ := by
  obtain ⟨hsize, hpath, hdone, hlevels⟩ := h
  cases hlevels with
  | items => exact ⟨hsize, hpath, hdone, .empty⟩
  | @inside set _ path _ hitems hlevels =>
    refine ⟨hsize, fun s hs => hpath s (List.mem_cons_of_mem _ hs), fun s hs hsp item hi => ?_, hlevels⟩
    by_cases heq : s = set
    · subst heq
      rcases hitems item hi with h | h
      · exact h
      · simp at h
    · exact hdone s hs (fun h => (List.mem_cons.1 h).elim heq hsp) item hi

/-- A rule that stands first is found next. -/
theorem rule {id : Nat} (h : Tracks g found path ⟨(.rule id :: items) :: levels, m⟩) :
    Tracks g (found ++ [id]) path ⟨items :: levels, m⟩ := by
  obtain ⟨hsize, hpath, hdone, hlevels⟩ := h
  have hmono : ∀ item : Item, item.Done found m → item.Done (found ++ [id]) m := fun item =>
    Item.Done.mono (fun _ hi => List.mem_append_left _ hi) (fun _ hs => hs)
  refine ⟨hsize, hpath, fun s hs hsp item hi => hmono item (hdone s hs hsp item hi), ?_⟩
  exact (hlevels.mono hmono).pass (by simp [Item.Done])

/-- A set that was met may be passed. -/
theorem pass {set : Nat} (h : Tracks g found path ⟨(.ruleSet set :: items) :: levels, m⟩) (hmet : m.met set = true) :
    Tracks g found path ⟨items :: levels, m⟩ :=
  ⟨h.size, h.met_path, h.done, h.levels.pass hmet⟩

/-- A set that was not met is entered. -/
theorem enter {set : Nat} (h : Tracks g found path ⟨(.ruleSet set :: items) :: levels, m⟩) :
    Tracks g found (set :: path) ⟨g.itemsOf set :: items :: levels, m.meet set⟩ := by
  obtain ⟨hsize, hpath, hdone, hlevels⟩ := h
  have hmet : (m.meet set).met set = true := by simp [Marks.met_meet]
  have hmono : ∀ item : Item, item.Done found m → item.Done found (m.meet set) := fun item =>
    Item.Done.mono (fun _ hi => hi) (fun s hs => by simp [Marks.met_meet, hs])
  refine ⟨by rw [← hsize]; exact m.size_meet set, ?_, ?_, ?_⟩
  · intro s hs
    rcases List.mem_cons.1 hs with rfl | hs
    · exact hmet
    · have := hpath s hs
      simp [Marks.met_meet, this]
  · intro s hs hsp item hi
    simp only [List.mem_cons, not_or] at hsp
    simp only [Marks.met_meet, hsp.1, decide_false, Bool.false_or] at hs
    exact hmono item (hdone s hs hsp.2 item hi)
  · exact .inside (fun _ hi => Or.inr hi) ((hlevels.mono hmono).pass hmet)

/-- A set that was not met is not on the path. -/
theorem not_mem_path {w : Walk} {set : Nat} (h : Tracks g found path w) (hmet : w.marks.met set = false) :
    set ∉ path := fun hset => by simp [h.met_path set hset] at hmet

/-- A second expansion of a set that was met has only rules that were found. -/
theorem subset {w : Walk} {set : Nat} (h : Tracks g found path w) (hmet : w.marks.met set = true) :
    ∀ id ∈ (if set ∈ path then [] else g.plainRules (set :: path) (g.itemsOf set)), id ∈ found := by
  split
  · simp
  next hpath =>
    refine plainRules_subset (fun s hs hsp => ?_) _ (h.done set hmet hpath)
    exact h.done s hs fun hmem => hsp (List.mem_cons_of_mem _ hmem)

/-- A walk that ends has found every rule of the plain expansion. -/
theorem next_none {w w' : Walk} (h : Tracks g found path w) (hn : w.next g = (none, w')) :
    ∀ id ∈ g.plainLevels path w.levels, id ∈ found := by
  fun_induction next g w generalizing path with
  | case1 m => simp [Grammar.plainLevels]
  | case2 levels m ih =>
    rw [plainLevels_pop]
    exact ih h.pop hn
  | case3 id items levels m => simp at hn
  | case4 set items levels m hmet ih =>
    intro id hid
    rcases List.mem_append.1 (plainLevels_ruleSet g path set items levels ▸ hid) with hid | hid
    · exact h.subset hmet id hid
    · exact ih (h.pass hmet) hn id hid
  | case5 set items levels m hmet ih =>
    rw [plainLevels_enter g (h.not_mem_path (by simpa using hmet))]
    exact ih h.enter hn

/-- A rule that a walk yields is the next one of the plain expansion that was not found before. -/
theorem next_some {w w' : Walk} {id : Nat} (h : Tracks g found path w) (hn : w.next g = (some id, w')) :
    ∃ path', Tracks g (found ++ [id]) path' w' ∧
      (found ++ g.plainLevels path w.levels).eraseDups =
        (found ++ [id] ++ g.plainLevels path' w'.levels).eraseDups := by
  fun_induction next g w generalizing path with
  | case1 m => simp at hn
  | case2 levels m ih =>
    rw [plainLevels_pop]
    exact ih h.pop hn
  | case3 id items levels m =>
    obtain ⟨hid, rfl⟩ := Prod.mk.inj hn
    cases hid
    exact ⟨path, h.rule, by rw [plainLevels_rule]; simp⟩
  | case4 set items levels m hmet ih =>
    obtain ⟨path', htracks, heq⟩ := ih (h.pass hmet) hn
    refine ⟨path', htracks, ?_⟩
    rw [← heq, plainLevels_ruleSet, eraseDups_append_of_subset (h.subset hmet)]
  | case5 set items levels m hmet ih =>
    rw [plainLevels_enter g (h.not_mem_path (by simpa using hmet))]
    exact ih h.enter hn

end Tracks

/-! ## All rules of a walk -/

/-- All rules that a walk yields from here on. -/
def rules (g : Grammar) (w : Walk) : List Nat :=
  match _h : w.next g with
  | (none, _) => []
  | (some id, w') => id :: w'.rules g
termination_by w.left g
decreasing_by exact left_next _h

theorem rules_of_next_none {g : Grammar} {w w' : Walk} (h : w.next g = (none, w')) : w.rules g = [] := by
  rw [rules]
  split
  · rfl
  next h' => rw [h] at h'; cases h'

theorem rules_of_next_some {g : Grammar} {w w' : Walk} {id : Nat} (h : w.next g = (some id, w')) :
    w.rules g = id :: w'.rules g := by
  rw [rules]
  split
  next h' => rw [h] at h'; cases h'
  next h' => rw [h] at h'; cases h'; rfl

/-- **A walk yields the first occurrences of the rules of the plain expansion.** -/
theorem Tracks.eraseDups_rules {g : Grammar} {found path : List Nat} {w : Walk} (h : Tracks g found path w) :
    (found ++ w.rules g).eraseDups = (found ++ g.plainLevels path w.levels).eraseDups := by
  cases hn : w.next g with
  | mk id w' =>
    cases id with
    | none =>
      have hsub := h.next_none hn
      have herase : (found ++ (g.plainLevels path w.levels ++ [])).eraseDups = (found ++ []).eraseDups :=
        eraseDups_append_of_subset hsub
      rw [rules_of_next_none hn, ← herase, List.append_nil]
    | some id =>
      obtain ⟨path', htracks, heq⟩ := h.next_some hn
      rw [heq, rules_of_next_some hn, ← eraseDups_rules htracks]
      simp
termination_by w.left g
decreasing_by exact left_next hn

/-! ## New walks -/

section New

variable {g : Grammar} {m : Marks}

/-- A new walk over a list of items is inside no set. -/
theorem tracks_walkItems (hm : m.Bounded) (hsize : m.marks.size = g.sets.size) (items : List Item) :
    Tracks g [] [] (m.walkItems items) := by
  refine ⟨by rw [← hsize]; exact m.size_begin, by simp, fun set hset _ item hi => ?_, .items items⟩
  rcases Nat.lt_or_ge set m.marks.size with h | h
  · rw [show (m.walkItems items).marks = m.begin from rfl, Marks.met_begin hm h] at hset
    cases hset
  · rw [g.itemsOf_of_size_le (hsize ▸ h)] at hi
    cases hi

/-- A new walk over a rule set is inside that set. -/
theorem tracks_walkSet (hm : m.Bounded) (hsize : m.marks.size = g.sets.size) (set : Nat) :
    Tracks g [] [set] (m.walkSet g set) := by
  have hitems := tracks_walkItems hm hsize (g.itemsOf set)
  refine ⟨?_, ?_, ?_, .inside (fun _ hi => Or.inr hi) .empty⟩
  · rw [← hitems.size]
    exact m.begin.size_meet set
  · simp [Marks.walkSet, Marks.met_meet]
  · intro s hs hsp item hi
    simp only [List.mem_singleton] at hsp
    simp only [Marks.walkSet, Marks.met_meet, hsp, decide_false, Bool.false_or] at hs
    exact (hitems.done s hs (by simp) item hi).mono (fun _ h => h) fun s' hs' => by
      show (m.begin.meet set).met s' = true
      have : m.begin.met s' = true := hs'
      simp [Marks.met_meet, this]

/-- The first value of a function on the rules is the same without repetitions. -/
theorem findSome?_eraseDups {β : Type} (f : Nat → Option β) :
    ∀ xs : List Nat, xs.eraseDups.findSome? f = xs.findSome? f
  | [] => rfl
  | x :: xs => by
    rw [List.eraseDups_cons, List.findSome?_cons, List.findSome?_cons, findSome?_eraseDups f]
    cases hx : f x with
    | some b => rfl
    | none =>
      -- what was erased equals `x`, where there is no value
      induction xs with
      | nil => rfl
      | cons y ys ih =>
        by_cases hy : y = x
        · simp only [List.filter_cons, hy, BEq.rfl, Bool.not_true, Bool.false_eq_true, ↓reduceIte,
            List.findSome?_cons, hx]
          exact ih
        · simp only [List.filter_cons, hy, ↓reduceIte, List.findSome?_cons, Bool.not_eq_true',
            beq_eq_false_iff_ne, ne_eq, not_false_eq_true]
          cases f y with
          | some b => rfl
          | none => exact ih
termination_by xs => xs.length
decreasing_by
  have := List.length_filter_le (fun b => !b == x) xs
  simp only [List.length_cons]
  omega

theorem Tracks.findSome?_rules {path : List Nat} {w : Walk} (h : Tracks g [] path w) {β : Type}
    (f : Nat → Option β) : (w.rules g).findSome? f = (g.plainLevels path w.levels).findSome? f := by
  have heq := h.eraseDups_rules
  simp only [List.nil_append] at heq
  rw [← findSome?_eraseDups f (w.rules g), heq, findSome?_eraseDups]

/-- The first rule with a value is the same in a walk over items and in their plain expansion. -/
theorem findSome?_walkItems (hm : m.Bounded) (hsize : m.marks.size = g.sets.size) (items : List Item) {β : Type}
    (f : Nat → Option β) : ((m.walkItems items).rules g).findSome? f = (g.plainRules [] items).findSome? f := by
  rw [(tracks_walkItems hm hsize items).findSome?_rules]
  simp [Marks.walkItems, Grammar.plainLevels]

/-- The first rule with a value is the same in a walk over a rule set and in its plain expansion. -/
theorem findSome?_walkSet (hm : m.Bounded) (hsize : m.marks.size = g.sets.size) (set : Nat) {β : Type}
    (f : Nat → Option β) :
    ((m.walkSet g set).rules g).findSome? f = (g.plainRules [set] (g.itemsOf set)).findSome? f := by
  rw [(tracks_walkSet hm hsize set).findSome?_rules]
  simp [Marks.walkSet, Grammar.plainLevels]

end New

/-! ## What a walk keeps of its marks -/

/-- However far a walk goes, its marks stay bounded and as many. -/
theorem next_marks (g : Grammar) {w : Walk} (hm : w.marks.Bounded) :
    (w.next g).2.marks.Bounded ∧ (w.next g).2.marks.marks.size = w.marks.marks.size := by
  fun_induction next g w with
  | case1 m => exact ⟨hm, rfl⟩
  | case2 levels m ih => exact ih hm
  | case3 id items levels m => exact ⟨hm, rfl⟩
  | case4 set items levels m hmet ih => exact ih hm
  | case5 set items levels m hmet ih =>
    obtain ⟨hb, hs⟩ := ih (Marks.Bounded.meet hm set)
    exact ⟨hb, hs.trans (m.size_meet set)⟩

end Walk

end Highlight
