import Highlight.Grammar

/-!
# Expanding references

The rules that apply somewhere are listed by replacing each reference to a rule set by the rules of that set, in place
and depth first. A set is expanded at most once in a walk, so that circles end. Which sets a walk has met is marked by
the number of the walk, so that nothing has to be cleared between walks until the numbers wrap around.

A walk yields one rule at a time (`Walk.next`) and may be left at any point. All walks of a run share one `Resolver`,
which keeps the marks and the stack of lists between them; to begin a walk clears what an earlier one has left on the
stack.
-/

namespace Highlight

/-- The number of the last walk that met each rule set, and the number of the current walk. -/
structure Marks where
  marks : Array UInt32
  walk : UInt32
deriving Repr, Inhabited

namespace Marks

def fresh (setCount : Nat) : Marks := { marks := Array.replicate setCount 0, walk := 0 }

/-- Starts a new walk. When the numbers are used up, all marks are cleared and counting starts again. -/
def begin (m : Marks) : Marks :=
  if m.walk + 1 = 0 then { marks := Array.replicate m.marks.size 0, walk := 1 }
  else { m with walk := m.walk + 1 }

/-- Whether the current walk has met a rule set. A set that does not exist counts as met, since it is never entered. -/
def met (m : Marks) (set : Nat) : Bool := (m.marks[set]?).all (· == m.walk)

/-- Notes that the current walk has met a rule set. -/
def meet (m : Marks) (set : Nat) : Marks := { m with marks := m.marks.setIfInBounds set m.walk }

theorem size_meet (m : Marks) (set : Nat) : (m.meet set).marks.size = m.marks.size := by simp [meet]

theorem met_meet (m : Marks) (set other : Nat) : (m.meet set).met other = (decide (other = set) || m.met other) := by
  by_cases h : other = set
  · subst h
    simp only [met, meet, Array.getElem?_setIfInBounds, ↓reduceIte]
    split <;> simp
  · simp [met, meet, Ne.symm h, h]

/-- How long the first `n` rule sets are that the current walk has not met; each counts one more than its items. -/
def unmet (m : Marks) (g : Grammar) : Nat → Nat
  | 0 => 0
  | n + 1 => m.unmet g n + if m.met n then 0 else (g.itemsOf n).length + 1

theorem unmet_meet_of_le (m : Marks) (g : Grammar) {set : Nat} : ∀ {n : Nat}, n ≤ set →
    (m.meet set).unmet g n = m.unmet g n
  | 0, _ => rfl
  | n + 1, h => by
    have hne : n ≠ set := Nat.ne_of_lt h
    rw [unmet, unmet, unmet_meet_of_le m g (Nat.le_of_succ_le h), met_meet, decide_eq_false hne, Bool.false_or]

/-- Meeting a set takes it out of the count. -/
theorem unmet_meet {m : Marks} (g : Grammar) {set : Nat} (h : m.met set = false) : ∀ {n : Nat}, set < n →
    (m.meet set).unmet g n + (g.itemsOf set).length + 1 = m.unmet g n
  | n + 1, hlt => by
    rw [unmet, unmet, met_meet]
    rcases Nat.eq_or_lt_of_le (Nat.le_of_lt_succ hlt) with rfl | hlt
    · rw [unmet_meet_of_le m g (Nat.le_refl _), h]
      simp
      omega
    · have hne : n ≠ set := Nat.ne_of_gt hlt
      have ih := unmet_meet g h hlt
      rw [decide_eq_false hne, Bool.false_or]
      omega

/-- A set that was not met exists. -/
theorem lt_size_of_met_eq_false {m : Marks} {set : Nat} (h : m.met set = false) : set < m.marks.size := by
  rcases Nat.lt_or_ge set m.marks.size with hlt | hge
  · exact hlt
  · simp [met, Array.getElem?_eq_none hge] at h

end Marks

/-- A walk that has begun: what is left of the lists that are being walked over, innermost first, and the marks. -/
structure Walk where
  levels : List (List Item)
  marks : Marks
deriving Repr, Inhabited

namespace Walk

/-- How many items and lists are left to pass, with those of sets that the walk can still enter. -/
def left (g : Grammar) (w : Walk) : Nat :=
  w.levels.foldr (fun items n => items.length + 1 + n) 0 + w.marks.unmet g w.marks.marks.size

theorem left_pop (g : Grammar) (levels : List (List Item)) (m : Marks) :
    left g ⟨levels, m⟩ < left g ⟨[] :: levels, m⟩ := by
  simp [left]

theorem left_skip (g : Grammar) (item : Item) (items : List Item) (levels : List (List Item)) (m : Marks) :
    left g ⟨items :: levels, m⟩ < left g ⟨(item :: items) :: levels, m⟩ := by
  simp [left]

theorem left_enter (g : Grammar) {m : Marks} {set : Nat} (h : m.met set = false) (items : List Item)
    (levels : List (List Item)) :
    left g ⟨g.itemsOf set :: items :: levels, m.meet set⟩ < left g ⟨(.ruleSet set :: items) :: levels, m⟩ := by
  have hunmet := Marks.unmet_meet g h (Marks.lt_size_of_met_eq_false h)
  simp only [left, List.foldr_cons, List.length_cons, Marks.size_meet]
  omega

/-- The next rule of the walk, if there is one, and what is left then. -/
def next (g : Grammar) (w : Walk) : Option Nat × Walk :=
  match w with
  | ⟨[], m⟩ => (none, ⟨[], m⟩)
  | ⟨[] :: levels, m⟩ => next g ⟨levels, m⟩
  | ⟨(.rule id :: items) :: levels, m⟩ => (some id, ⟨items :: levels, m⟩)
  | ⟨(.ruleSet set :: items) :: levels, m⟩ =>
    if m.met set then next g ⟨items :: levels, m⟩
    else next g ⟨g.itemsOf set :: items :: levels, m.meet set⟩
termination_by w.left g
decreasing_by
  · exact left_pop g levels m
  · exact left_skip g _ items levels m
  · rename_i h
    exact left_enter g (by simpa using h) items levels

/-- A rule that a walk yields leaves less of it. -/
theorem left_next {g : Grammar} {w w' : Walk} {id : Nat} (h : w.next g = (some id, w')) : w'.left g < w.left g := by
  fun_induction next g w with
  | case1 m => simp at h
  | case2 levels m ih => exact Nat.lt_trans (ih h) (left_pop g levels m)
  | case3 id items levels m =>
    obtain ⟨-, rfl⟩ := Prod.mk.inj h
    exact left_skip g _ items levels m
  | case4 set items levels m hmet ih => exact Nat.lt_trans (ih h) (left_skip g _ items levels m)
  | case5 set items levels m hmet ih => exact Nat.lt_trans (ih h) (left_enter g (by simpa using hmet) items levels)

end Walk

/-- A new walk over a list of items. -/
def Marks.walkItems (m : Marks) (items : List Item) : Walk := ⟨[items], m.begin⟩

/-- A new walk over a rule set, which counts as met. -/
def Marks.walkSet (m : Marks) (g : Grammar) (set : Nat) : Walk := ⟨[g.itemsOf set], m.begin.meet set⟩

/-! ## What walks share -/

/-- What a run keeps for its walks: the marks, and the stack of the lists that are being walked over, innermost first. A
walk that is left before its end leaves its lists on the stack. -/
structure Resolver where
  marks : Marks
  stack : List (List Item)
deriving Repr, Inhabited

namespace Resolver

def fresh (setCount : Nat) : Resolver := { marks := Marks.fresh setCount, stack := [] }

theorem size_fresh (setCount : Nat) : (fresh setCount).marks.marks.size = setCount := by simp [fresh, Marks.fresh]

/-- Drops what an earlier walk has left on the stack. -/
def clear (r : Resolver) : Resolver := { r with stack := [] }

/-- Puts a list on the stack; it is walked over first. -/
def push (r : Resolver) (items : List Item) : Resolver := { r with stack := items :: r.stack }

/-- Begins a walk over a list of items, with a number of its own and nothing else on the stack. -/
def begin (r : Resolver) (items : List Item) : Resolver :=
  { r.clear with marks := r.marks.begin }.push items

/-- Notes that the current walk has met a rule set. -/
def meet (r : Resolver) (set : Nat) : Resolver := { r with marks := r.marks.meet set }

/-- Begins a walk over a rule set, which counts as met. -/
def beginSet (r : Resolver) (g : Grammar) (set : Nat) : Resolver := (r.begin (g.itemsOf set)).meet set

/-- The walk that goes on with these marks and this stack. -/
def walk (r : Resolver) : Walk := ⟨r.stack, r.marks⟩

/-- Whatever was on the stack, a walk that begins is a new walk with the same marks. -/
@[simp] theorem walk_begin (r : Resolver) (items : List Item) : (r.begin items).walk = r.marks.walkItems items := rfl

@[simp] theorem walk_beginSet (r : Resolver) (g : Grammar) (set : Nat) :
    (r.beginSet g set).walk = r.marks.walkSet g set := rfl

end Resolver

/-- What a walk leaves behind. -/
def Walk.leave (w : Walk) : Resolver := { marks := w.marks, stack := w.levels }

end Highlight
