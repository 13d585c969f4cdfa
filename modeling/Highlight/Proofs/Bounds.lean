import Highlight.Proofs.PlainMachine
import Highlight.Proofs.Shape

/-!
# Every index of a run is in range

A run looks up rule sets, rules, patterns, look-ahead entries and marks by their index, and goes on where there is
nothing. The checked run (`Cursor.step?`, `checkedRun`) makes the same steps but gives up at the first index that is out of
range.

* **Walks** (`Walk.InRange.next?`), **steps** (`Cursor.InRange.step?`): over a well-formed grammar the checked walk and
  the checked step do not give up, and do what the unchecked ones do.
* **Runs** (`built_grammar_in_range`): so the checked run over a built grammar is the run itself, whatever the text.
-/

namespace Highlight

/-! ## Checked runs -/

/-- The next rule of a walk, where a reference must have a mark and a rule set. -/
def Walk.next? (g : Grammar) (w : Walk) : Option (Option Nat × Walk) :=
  match w with
  | ⟨[], m⟩ => some (none, ⟨[], m⟩)
  | ⟨[] :: levels, m⟩ => next? g ⟨levels, m⟩
  | ⟨(.rule id :: items) :: levels, m⟩ => some (some id, ⟨items :: levels, m⟩)
  | ⟨(.ruleSet set :: items) :: levels, m⟩ =>
    if m.marks.size ≤ set then none
    else if m.met set then next? g ⟨items :: levels, m⟩
    else if g.sets.size ≤ set then none
    else next? g ⟨g.itemsOf set :: items :: levels, m.meet set⟩
termination_by w.left g
decreasing_by
  · exact left_pop g levels m
  · exact left_skip g _ items levels m
  · rename_i h _
    exact left_enter g (by simpa using h) items levels

/-- A checked walk that does not give up is the walk. -/
theorem Walk.next_of_next? {g : Grammar} {w : Walk} {r : Option Nat × Walk} (h : w.next? g = some r) : w.next g = r := by
  fun_induction Walk.next? g w with
  | case1 m => simpa [next] using h
  | case2 levels m ih => simpa [next] using ih h
  | case3 id items levels m => simpa [next] using h
  | case4 set items levels m hmark => cases h
  | case5 set items levels m hmark hmet ih => simpa [next, hmet] using ih h
  | case6 set items levels m hmark hmet hset => cases h
  | case7 set items levels m hmark hmet hset ih => simpa [next, hmet] using ih h

namespace Cursor

/-- The match of a pattern that starts here, where the pattern must exist and have a look-ahead entry. -/
def matchHere? (c : Cursor) (g : Grammar) (t : Text) (id : Nat) : Option (Option Pattern.Match × Cursor) :=
  if id < g.patterns.size ∧ id < c.lookahead.size then some (c.matchHere g t id) else none

/-- The first rule of a walk whose pattern matches here, where every rule that is tried must exist. -/
def firstRule? (c : Cursor) (g : Grammar) (t : Text) (w : Walk) : Option (Option (Rule × Pattern.Match) × Cursor) :=
  match _h : w.next? g with
  | none => none
  | some (none, w') => some (none, { c with resolver := w'.leave })
  | some (some id, w') =>
    match g.rules[id]? with
    | none => none
    | some rule =>
      match c.matchHere? g t rule.entry with
      | none => none
      | some (some m, c) => some (some (rule, m), { c with resolver := w'.leave })
      | some (none, c) => firstRule? c g t w'
termination_by w.left g
decreasing_by exact Walk.left_next (Walk.next_of_next? _h)

/-- A walk over the rules that apply here, where the set to start from must exist and have a mark. -/
def rulesHere? (c : Cursor) (g : Grammar) : Option Walk :=
  match c.frames with
  | _ :: _ => some (c.rulesHere g)
  | [] => if g.root < g.sets.size ∧ g.root < c.resolver.marks.marks.size then some (c.rulesHere g) else none

/-- Closes the innermost region if its closing pattern, which must exist and have a look-ahead entry, matches here. -/
def closeRegion? (g : Grammar) (t : Text) (c : Cursor) : Option (Option (List Token) × Cursor) :=
  match c.frames with
  | [] => some (c.closeRegion g t)
  | f :: _ =>
    if f.rule.closing < g.patterns.size ∧ f.rule.closing < c.lookahead.size then some (c.closeRegion g t) else none

/-- One step of a run that gives up at an index out of range. -/
def step? (g : Grammar) (t : Text) (c : Cursor) : Option (Option (List Token) × Cursor) :=
  if t.length ≤ c.pos then some (none, { c with frames := [] })
  else
    match c.closeRegion? g t with
    | none => none
    | some (some tokens, c) => some (some tokens, c)
    | some (none, c) =>
      match c.rulesHere? g with
      | none => none
      | some w =>
        match c.firstRule? g t w with
        | none => none
        | some (some (rule, m), c) => some (some (c.applyRule t rule m).1, (c.applyRule t rule m).2)
        | some (none, c) =>
          some (some (tokenOf t ⟨c.pos, c.pos + 1⟩ .fallback c.contentScopes), { c with pos := c.pos + 1 })

end Cursor

/-- The tokens of `n` steps from the start of a text and the cursor then, unless an index was out of range. -/
def checkedRun (g : Grammar) (t : Text) : Nat → Option (List Token × Cursor)
  | 0 => some ([], Cursor.start g)
  | n + 1 =>
    match checkedRun g t n with
    | none => none
    | some (tokens, c) => (c.step? g t).map fun (delivered, c) => (tokens ++ delivered.getD [], c)

/-! ## Walks -/

/-- All indices in a list of entries are in range. -/
structure Grammar.HasItems (g : Grammar) (items : List Item) : Prop where
  rules : ∀ id ∈ ruleIds items, id < g.rules.size
  sets : ∀ set ∈ setIds items, set < g.sets.size

theorem Grammar.WellFormed.hasItems {g : Grammar} (h : g.WellFormed) {items : List Item} (hitems : items ∈ g.lists) :
    g.HasItems items where
  rules _ hid := List.mem_range.1 (h.rules.subset (List.mem_flatMap.2 ⟨items, hitems, hid⟩))
  sets := h.references items hitems

theorem Grammar.itemsOf_mem_lists {g : Grammar} {set : Nat} (h : set < g.sets.size) : g.itemsOf set ∈ g.lists := by
  refine List.mem_append_left _ (List.mem_map.2 ⟨g.sets[set], by simp, ?_⟩)
  simp [itemsOf, h]

theorem Grammar.children_mem_lists {g : Grammar} {rule : Rule} (h : rule ∈ g.rules) : rule.children ∈ g.lists :=
  List.mem_append_right _ (List.mem_map.2 ⟨rule, Array.mem_toList_iff.2 h, rfl⟩)

theorem Grammar.hasItems_rule {g : Grammar} {id : Nat} {items : List Item} :
    g.HasItems (.rule id :: items) ↔ id < g.rules.size ∧ g.HasItems items := by
  refine ⟨fun ⟨hrules, hsets⟩ => ?_, fun ⟨hid, hrules, hsets⟩ => ⟨?_, hsets⟩⟩
  · simp only [ruleIds_rule, List.forall_mem_cons] at hrules
    exact ⟨hrules.1, hrules.2, hsets⟩
  · simp only [ruleIds_rule, List.forall_mem_cons]
    exact ⟨hid, hrules⟩

theorem Grammar.hasItems_ruleSet {g : Grammar} {set : Nat} {items : List Item} :
    g.HasItems (.ruleSet set :: items) ↔ set < g.sets.size ∧ g.HasItems items := by
  refine ⟨fun ⟨hrules, hsets⟩ => ?_, fun ⟨hset, hrules, hsets⟩ => ⟨hrules, ?_⟩⟩
  · simp only [setIds_ruleSet, List.forall_mem_cons] at hsets
    exact ⟨hsets.1, hrules, hsets.2⟩
  · simp only [setIds_ruleSet, List.forall_mem_cons]
    exact ⟨hset, hsets⟩

/-- All indices that a walk can come to are in range. -/
structure Walk.InRange (g : Grammar) (w : Walk) : Prop where
  marks : w.marks.marks.size = g.sets.size
  levels : ∀ items ∈ w.levels, g.HasItems items

/-- **A checked walk** does not give up. It yields a rule that exists, and is in range then. -/
theorem Walk.InRange.next? {g : Grammar} (hg : g.WellFormed) {w : Walk} (h : w.InRange g) :
    ∃ r, w.next? g = some r ∧ r.2.InRange g ∧ ∀ id, r.1 = some id → id < g.rules.size := by
  obtain ⟨hmarks, hlevels⟩ := h
  fun_induction Walk.next? g w with
  | case1 m => exact ⟨_, rfl, ⟨hmarks, hlevels⟩, by simp⟩
  | case2 levels m ih =>
    simp only [List.forall_mem_cons] at hlevels
    exact ih hmarks hlevels.2
  | case3 id items levels m =>
    simp only [List.forall_mem_cons, Grammar.hasItems_rule] at hlevels
    refine ⟨_, rfl, ⟨hmarks, ?_⟩, ?_⟩
    · simp only [List.forall_mem_cons]
      exact ⟨hlevels.1.2, hlevels.2⟩
    · rintro _ ⟨⟩
      exact hlevels.1.1
  | case4 set items levels m hmark =>
    simp only [List.forall_mem_cons, Grammar.hasItems_ruleSet] at hlevels
    simp only at hmarks
    omega
  | case5 set items levels m hmark hmet ih =>
    simp only [List.forall_mem_cons, Grammar.hasItems_ruleSet] at hlevels ih
    exact ih hmarks ⟨hlevels.1.2, hlevels.2⟩
  | case6 set items levels m hmark hmet hset =>
    simp only [List.forall_mem_cons, Grammar.hasItems_ruleSet] at hlevels
    omega
  | case7 set items levels m hmark hmet hset ih =>
    simp only [List.forall_mem_cons, Grammar.hasItems_ruleSet] at hlevels ih
    refine ih ((m.size_meet set).trans hmarks) ⟨?_, hlevels.1.2, hlevels.2⟩
    exact hg.hasItems (Grammar.itemsOf_mem_lists hlevels.1.1)

/-! ## Steps -/

/-- All indices that a cursor can come to are in range. -/
structure Cursor.InRange (g : Grammar) (c : Cursor) : Prop where
  lookahead : c.lookahead.size = g.patterns.size
  marks : c.resolver.marks.marks.size = g.sets.size
  frames : ∀ f ∈ c.frames, Rule.region f.rule ∈ g.rules

theorem Grammar.WellFormed.pattern_lt {g : Grammar} (h : g.WellFormed) {rule : Rule} (hrule : rule ∈ g.rules)
    {id : Nat} (hid : id ∈ rule.patternIds) : id < g.patterns.size :=
  List.mem_range.1 (h.patterns.subset (List.mem_flatMap.2 ⟨rule, Array.mem_toList_iff.2 hrule, hid⟩))

theorem Rule.entry_mem_patternIds (rule : Rule) : rule.entry ∈ rule.patternIds := by
  cases rule <;> simp [entry, patternIds, uses]

theorem RegionRule.closing_mem_patternIds (r : RegionRule) : r.closing ∈ (Rule.region r).patternIds := by
  simp [Rule.patternIds, Rule.uses]

theorem LookaheadTable.size_matchAt (table : LookaheadTable) (id : Nat) (p : Pattern) (t : Text) (pos : Nat) :
    (table.matchAt id p t pos).2.size = table.size := by
  show (table.next id p t pos).2.size = table.size
  unfold next
  split <;> simp

namespace Cursor

variable {g : Grammar} {t : Text} {c : Cursor}

theorem inRange_start (g : Grammar) : (start g).InRange g :=
  ⟨by simp [start, LookaheadTable.empty], Resolver.size_fresh _, by simp [start]⟩

/-- Trying a pattern changes nothing but the look-ahead entries. -/
theorem InRange.matchHere (h : c.InRange g) (id : Nat) : (c.matchHere g t id).2.InRange g := by
  unfold Cursor.matchHere
  cases g.patterns[id]? with
  | none => exact h
  | some p => exact ⟨(LookaheadTable.size_matchAt ..).trans h.lookahead, h.marks, h.frames⟩

theorem InRange.matchHere? (hg : g.WellFormed) (h : c.InRange g) {rule : Rule} (hrule : rule ∈ g.rules) :
    c.matchHere? g t rule.entry = some (c.matchHere g t rule.entry) := by
  have hid := hg.pattern_lt hrule rule.entry_mem_patternIds
  rw [Cursor.matchHere?, if_pos ⟨hid, h.lookahead ▸ hid⟩]

theorem firstRule?_of_none {w w' : Walk} (h : w.next? g = some (none, w')) :
    c.firstRule? g t w = some (none, { c with resolver := w'.leave }) := by
  rw [Cursor.firstRule?]
  split
  next h' => cases h.symm.trans h'
  next h' => cases h.symm.trans h'; rfl
  next h' => cases h.symm.trans h'

theorem firstRule?_of_some {w w' : Walk} {id : Nat} {rule : Rule} (h : w.next? g = some (some id, w'))
    (hrule : g.rules[id]? = some rule) : c.firstRule? g t w =
      match c.matchHere? g t rule.entry with
      | none => none
      | some (some m, c) => some (some (rule, m), { c with resolver := w'.leave })
      | some (none, c) => c.firstRule? g t w' := by
  rw [Cursor.firstRule?]
  split
  next h' => cases h.symm.trans h'
  next h' => cases h.symm.trans h'
  next h' =>
    cases h.symm.trans h'
    rw [hrule]

/-- The checked search for a rule does not give up and finds what the search finds, which is a rule of the grammar. -/
theorem InRange.firstRule? (hg : g.WellFormed) (h : c.InRange g) {w : Walk} (hw : w.InRange g) :
    c.firstRule? g t w = some (c.firstRule g t w) ∧ (c.firstRule g t w).2.InRange g ∧
      ∀ rule m, (c.firstRule g t w).1 = some (rule, m) → rule ∈ g.rules := by
  fun_induction Cursor.firstRule c g t w with
  | case1 c w w' hn =>
    obtain ⟨r, hnext?, hrange, -⟩ := hw.next? hg
    cases hn.symm.trans (Walk.next_of_next? hnext?)
    exact ⟨firstRule?_of_none hnext?, ⟨h.lookahead, hrange.marks, h.frames⟩, by simp⟩
  | case2 c w id w' hn hr ih =>
    -- a rule that a walk yields exists
    obtain ⟨r, hnext?, -, hlt⟩ := hw.next? hg
    cases hn.symm.trans (Walk.next_of_next? hnext?)
    exact absurd (hlt id rfl) (Nat.not_lt.2 (Array.getElem?_eq_none_iff.1 hr))
  | case3 c w id w' hn rule hr m c' hm =>
    obtain ⟨r, hnext?, hrange, -⟩ := hw.next? hg
    cases hn.symm.trans (Walk.next_of_next? hnext?)
    have hrule := Array.mem_of_getElem? hr
    have hc' := h.matchHere (t := t) rule.entry
    rw [firstRule?_of_some hnext? hr, h.matchHere? hg hrule, hm]
    rw [hm] at hc'
    refine ⟨rfl, ⟨hc'.lookahead, hrange.marks, hc'.frames⟩, ?_⟩
    rintro _ _ ⟨⟩
    exact hrule
  | case4 c w id w' hn rule hr c' hm ih =>
    obtain ⟨r, hnext?, hrange, -⟩ := hw.next? hg
    cases hn.symm.trans (Walk.next_of_next? hnext?)
    have hc' := h.matchHere (t := t) rule.entry
    rw [firstRule?_of_some hnext? hr, h.matchHere? hg (Array.mem_of_getElem? hr), hm]
    rw [hm] at hc'
    exact ih hc' hrange

theorem InRange.rulesHere? (hg : g.WellFormed) (h : c.InRange g) :
    c.rulesHere? g = some (c.rulesHere g) ∧ (c.rulesHere g).InRange g := by
  unfold Cursor.rulesHere? Cursor.rulesHere
  cases hf : c.frames with
  | nil =>
    refine ⟨if_pos ⟨hg.root, h.marks ▸ hg.root⟩, ?_, ?_⟩
    · exact (Marks.size_meet _ _).trans (c.resolver.marks.size_begin.trans h.marks)
    · simp only [Resolver.walk_beginSet, Marks.walkSet, List.forall_mem_singleton]
      exact hg.hasItems (Grammar.itemsOf_mem_lists hg.root)
  | cons f frames =>
    refine ⟨rfl, c.resolver.marks.size_begin.trans h.marks, ?_⟩
    simp only [Resolver.walk_begin, Marks.walkItems, List.forall_mem_singleton]
    have hrule := h.frames f (by rw [hf]; exact List.mem_cons_self)
    exact hg.hasItems (Grammar.children_mem_lists hrule)

theorem InRange.closeRegion? (hg : g.WellFormed) (h : c.InRange g) :
    c.closeRegion? g t = some (c.closeRegion g t) ∧ (c.closeRegion g t).2.InRange g := by
  unfold Cursor.closeRegion?
  cases hf : c.frames with
  | nil =>
    refine ⟨rfl, ?_⟩
    simp only [Cursor.closeRegion, hf]
    exact h
  | cons f frames =>
    have hrule := h.frames f (by rw [hf]; exact List.mem_cons_self)
    have hid := hg.pattern_lt hrule f.rule.closing_mem_patternIds
    refine ⟨if_pos ⟨hid, h.lookahead ▸ hid⟩, ?_⟩
    have hc' := h.matchHere (t := t) f.rule.closing
    simp only [Cursor.closeRegion, hf]
    split
    next hm =>
      rw [hm] at hc'
      exact hc'
    next hm =>
      rw [hm] at hc'
      exact ⟨hc'.lookahead, hc'.marks, fun f' hf' => h.frames f' (by rw [hf]; exact List.mem_cons_of_mem _ hf')⟩

theorem InRange.applyRule (h : c.InRange g) {rule : Rule} (hrule : rule ∈ g.rules) (m : Pattern.Match) :
    (c.applyRule t rule m).2.InRange g := by
  cases rule with
  | single r => exact ⟨h.lookahead, h.marks, h.frames⟩
  | region r =>
    refine ⟨h.lookahead, h.marks, ?_⟩
    simp only [Cursor.applyRule, List.forall_mem_cons]
    exact ⟨hrule, h.frames⟩

/-- **A checked step** does not give up, and does what the step does. -/
theorem InRange.step? (hg : g.WellFormed) (h : c.InRange g) :
    c.step? g t = some (c.step g t) ∧ (c.step g t).2.InRange g := by
  unfold Cursor.step? Cursor.step
  split
  · exact ⟨rfl, h.lookahead, h.marks, by simp⟩
  · obtain ⟨hclose, hc'⟩ := h.closeRegion? (t := t) hg
    rw [hclose]
    cases hcr : c.closeRegion g t with
    | mk tokens c' =>
      rw [hcr] at hc'
      cases tokens with
      | some tokens => exact ⟨rfl, hc'⟩
      | none =>
        obtain ⟨hwalk, hw⟩ := hc'.rulesHere? hg
        obtain ⟨hfirst, hc'', hrule⟩ := hc'.firstRule? (t := t) hg hw
        dsimp only
        rw [hwalk]
        dsimp only
        rw [hfirst]
        cases hfr : c'.firstRule g t (c'.rulesHere g) with
        | mk found c'' =>
          rw [hfr] at hc'' hrule
          match found with
          | none => exact ⟨rfl, hc''.lookahead, hc''.marks, hc''.frames⟩
          | some (rule, m) => exact ⟨rfl, hc''.applyRule (hrule rule m rfl) m⟩

end Cursor

/-! ## Runs -/

theorem checkedRun_eq {g : Grammar} (hg : g.WellFormed) (t : Text) : ∀ n : Nat,
    checkedRun g t n = some (cursorRun g t n) ∧ (cursorRun g t n).2.InRange g
  | 0 => ⟨rfl, Cursor.inRange_start g⟩
  | n + 1 => by
    obtain ⟨hrun, hrange⟩ := checkedRun_eq hg t n
    obtain ⟨hstep, hrange'⟩ := hrange.step? (t := t) hg
    refine ⟨?_, hrange'⟩
    rw [checkedRun, hrun]
    dsimp only
    rw [hstep]
    rfl

/-- **Built grammars are closed and their rules form trees, so no index of a run is out of range.** -/
theorem built_grammar_in_range {d : GrammarDefinition} {g : Grammar} (h : d.build = .ok g) :
    g.WellFormed ∧ ∀ source n, checkedRun g (Text.ofString source) n = some (cursorRun g (Text.ofString source) n) := by
  have hg := (GrammarDefinition.makes_of_build h).wellFormed
  exact ⟨hg, fun source n => (checkedRun_eq hg (Text.ofString source) n).1⟩

/-- The grammar of brackets has three rules with five patterns, and a run over brackets in brackets stays in range. -/
theorem built_grammar_in_range_brackets :
    GrammarDefinition.brackets.build = .ok .brackets ∧
      Grammar.brackets.sets.size = 2 ∧ Grammar.brackets.rules.size = 3 ∧ Grammar.brackets.patterns.size = 5 ∧
      Grammar.brackets.WellFormed ∧
      checkedRun .brackets (Text.ofString "([x])") 5 = some (cursorRun .brackets (Text.ofString "([x])") 5) := by
  obtain ⟨hwell, hrun⟩ := built_grammar_in_range GrammarDefinition.build_brackets
  exact ⟨GrammarDefinition.build_brackets, by decide +kernel, by decide +kernel, by decide +kernel, hwell, hrun _ _⟩

end Highlight
