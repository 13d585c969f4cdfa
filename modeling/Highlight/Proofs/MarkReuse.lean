import Highlight.Proofs.References
import Mathlib.Data.List.Induction

/-!
# Marks serve any number of walks

All walks of a run share one resolver. A walk may be left at any point, and its marks and its lists stay behind; the
next walk clears the lists and takes the next number, and after the last number all marks are cleared and the numbers
start again at one.

* **Agreement** (`Walk.Agrees.next`): a walk asks its marks only which sets it has met. So two walks that stand at the
  same place and have met the same sets yield the same rules, whatever their marks and numbers are.
* **Left-over lists** (`Route.walk_eq`): a walk that begins sees the marks of the resolver and nothing of its stack.
* **Left-over marks** (`Resolver.bounded_after`): whatever walks came before, and however far each of them went, no mark
  is above the number of the last walk. So the next walk starts without a set that counts as met.
* **Numbers** (`Resolver.toNat_walk_after`): the numbers go round in a circle from one to the last, and zero, which is
  the mark of a set that was never met, is no number of a walk.
-/

namespace Highlight

/-! ## Walks that have met the same sets -/

/-- Marks that count the same sets as met. -/
def Marks.Agrees (m m' : Marks) : Prop := ∀ set, m.met set = m'.met set

theorem Marks.Agrees.meet {m m' : Marks} (h : m.Agrees m') (set : Nat) : (m.meet set).Agrees (m'.meet set) := by
  intro other
  rw [met_meet, met_meet, h other]

/-- A new walk has met the same sets with all bounded marks: none of those that exist. -/
theorem Marks.agrees_begin {m m' : Marks} (hm : m.Bounded) (hm' : m'.Bounded) (hsize : m.marks.size = m'.marks.size) :
    m.begin.Agrees m'.begin := by
  intro set
  rcases Nat.lt_or_ge set m.marks.size with hset | hset
  · rw [met_begin hm hset, met_begin hm' (hsize ▸ hset)]
  · have hnone : m.begin.marks[set]? = none := Array.getElem?_eq_none (by rwa [size_begin])
    have hnone' : m'.begin.marks[set]? = none := Array.getElem?_eq_none (by rwa [size_begin, ← hsize])
    rw [met, met, hnone, hnone']
    rfl

namespace Walk

/-- Walks that stand at the same place and have met the same sets. -/
structure Agrees (w w' : Walk) : Prop where
  levels : w.levels = w'.levels
  marks : w.marks.Agrees w'.marks

/-- **One rule**: walks that agree yield the same rule, and agree afterwards. -/
theorem Agrees.next {g : Grammar} {w w' : Walk} (h : w.Agrees w') :
    (w.next g).1 = (w'.next g).1 ∧ (w.next g).2.Agrees (w'.next g).2 := by
  obtain ⟨levels', m'⟩ := w'
  obtain ⟨rfl, hmarks⟩ := h
  dsimp only at hmarks ⊢
  fun_induction Walk.next g w generalizing m' with
  | case1 m =>
    rw [Walk.next]
    exact ⟨rfl, rfl, hmarks⟩
  | case2 levels m ih =>
    rw [Walk.next]
    exact ih m' hmarks
  | case3 id items levels m =>
    rw [Walk.next]
    exact ⟨rfl, rfl, hmarks⟩
  | case4 set items levels m hmet ih =>
    have hmet' : m'.met set = true := by rw [← hmarks set]; exact hmet
    rw [Walk.next, if_pos hmet']
    exact ih m' hmarks
  | case5 set items levels m hmet ih =>
    have hmet' : ¬ m'.met set = true := by rw [← hmarks set]; exact hmet
    rw [Walk.next, if_neg hmet']
    exact ih (m'.meet set) (hmarks.meet set)

/-- **All rules** of walks that agree are the same. -/
theorem Agrees.rules {g : Grammar} {w w' : Walk} (h : w.Agrees w') : w.rules g = w'.rules g := by
  obtain ⟨hid, hnext⟩ := h.next (g := g)
  cases hn : w.next g with
  | mk id v =>
    cases hn' : w'.next g with
    | mk id' v' =>
      rw [hn, hn'] at hid hnext
      obtain rfl : id = id' := hid
      cases id with
      | none => rw [rules_of_next_none hn, rules_of_next_none hn']
      | some id => rw [rules_of_next_some hn, rules_of_next_some hn', hnext.rules]
termination_by w.left g
decreasing_by exact left_next hn

/-- The rules that a walk yields are not a matter of choice. -/
theorem yields_iff {g : Grammar} {w : Walk} {ids : List Nat} : w.Yields g ids ↔ ids = w.rules g := by
  refine ⟨fun h => ?_, fun h => h ▸ yields_rules g w⟩
  induction h with
  | stop hn => rw [rules_of_next_none hn]
  | more hn _ ih => rw [rules_of_next_some hn, ih]

end Walk

/-! ## Walks before -/

/-- What a walk goes over: a list of entries, or a rule set. -/
inductive Route where
  | items (entries : List Item)
  | set (id : Nat)

/-- The walk that a resolver begins over a route. -/
def Route.walk (g : Grammar) (r : Resolver) : Route → Walk
  | .items entries => (r.begin entries).walk
  | .set id => (r.beginSet g id).walk

/-- **What is left on the stack** does not matter to a walk that begins. -/
theorem Route.walk_eq {g : Grammar} {r r' : Resolver} (h : r.marks = r'.marks) (route : Route) :
    route.walk g r = route.walk g r' := by
  cases route with
  | items entries => rw [walk, walk, Resolver.walk_begin, Resolver.walk_begin, h]
  | set id => rw [walk, walk, Resolver.walk_beginSet, Resolver.walk_beginSet, h]

/-- The walk after it was asked for the next rule `n` times, also beyond its end. -/
def Walk.advance (g : Grammar) : Nat → Walk → Walk
  | 0, w => w
  | n + 1, w => (w.next g).2.advance g n

/-- A walk that came before: its route, and how often it was asked for the next rule before it was left. -/
structure PastWalk where
  route : Route
  asked : Nat

/-- What a walk leaves behind: its marks, and on the stack the lists that it had not walked over to the end. -/
def PastWalk.leave (g : Grammar) (r : Resolver) (p : PastWalk) : Resolver :=
  ((p.route.walk g r).advance g p.asked).leave

/-- What walks leave behind, one after the other, if the first had a new resolver. -/
def Resolver.after (g : Grammar) (past : List PastWalk) : Resolver :=
  past.foldl (PastWalk.leave g) (fresh g.sets.size)

theorem Resolver.after_concat (g : Grammar) (past : List PastWalk) (p : PastWalk) :
    after g (past ++ [p]) = p.leave g (after g past) := by
  rw [after, List.foldl_append]
  rfl

/-- Up to the next rule, a walk keeps its number. -/
theorem Walk.walk_next (g : Grammar) (w : Walk) : (w.next g).2.marks.walk = w.marks.walk := by
  fun_induction Walk.next g w with
  | case1 m => rfl
  | case2 levels m ih => exact ih
  | case3 id items levels m => rfl
  | case4 set items levels m hmet ih => exact ih
  | case5 set items levels m hmet ih => exact ih

/-- However far a walk goes, it keeps its number, and its marks stay bounded and as many. -/
theorem Walk.advance_marks (g : Grammar) : ∀ (n : Nat) {w : Walk}, w.marks.Bounded →
    (w.advance g n).marks.Bounded ∧ (w.advance g n).marks.marks.size = w.marks.marks.size ∧
      (w.advance g n).marks.walk = w.marks.walk
  | 0, _, hm => ⟨hm, rfl, rfl⟩
  | n + 1, w, hm => by
    obtain ⟨hbounded, hsize⟩ := next_marks g hm
    obtain ⟨hbounded', hsize', hwalk'⟩ := advance_marks g n hbounded
    exact ⟨hbounded', hsize'.trans hsize, hwalk'.trans (walk_next g w)⟩

namespace Route

variable {g : Grammar} {r : Resolver}

/-- A walk that begins has bounded marks and the next number. -/
theorem walk_marks (hr : r.marks.Bounded) (route : Route) :
    (route.walk g r).marks.Bounded ∧ (route.walk g r).marks.marks.size = r.marks.marks.size ∧
      (route.walk g r).marks.walk = r.marks.begin.walk := by
  cases route with
  | items entries => exact ⟨hr.begin, r.marks.size_begin, rfl⟩
  | set id => exact ⟨hr.begin.meet id, (r.marks.begin.size_meet id).trans r.marks.size_begin, rfl⟩

/-- Walks that begin over the same route agree, whatever bounded marks they start with. -/
theorem agrees_walk {r' : Resolver} (hr : r.marks.Bounded) (hr' : r'.marks.Bounded)
    (hsize : r.marks.marks.size = r'.marks.marks.size) (route : Route) :
    (route.walk g r).Agrees (route.walk g r') := by
  have hbegin := Marks.agrees_begin hr hr' hsize
  cases route with
  | items entries => exact ⟨rfl, hbegin⟩
  | set id => exact ⟨rfl, hbegin.meet id⟩

end Route

/-- The numbers of walks: after the last one comes one. -/
theorem Marks.toNat_walk_begin (m : Marks) :
    m.begin.walk.toNat = if m.walk.toNat = UInt32.size - 1 then 1 else m.walk.toNat + 1 := by
  have hlast : m.walk.toNat = UInt32.size - 1 ↔ m.walk + 1 = 0 := by
    refine ⟨fun h => ?_, fun h => ?_⟩
    · rw [← UInt32.toNat_inj, UInt32.toNat_add, h]
      rfl
    · have hsub : m.walk = 0 - 1 := by rw [← h]; simp
      rw [hsub]
      rfl
  unfold begin
  by_cases h : m.walk + 1 = 0
  · rw [if_pos h, if_pos (hlast.2 h)]
    rfl
  · rw [if_neg h, if_neg (mt hlast.1 h)]
    exact toNat_add_one h

namespace Resolver

variable (g : Grammar)

/-- **One walk** leaves bounded marks behind. -/
theorem bounded_leave {r : Resolver} (hr : r.marks.Bounded) (p : PastWalk) :
    (p.leave g r).marks.Bounded ∧ (p.leave g r).marks.marks.size = r.marks.marks.size ∧
      (p.leave g r).marks.walk = r.marks.begin.walk := by
  obtain ⟨hbounded, hsize, hwalk⟩ := p.route.walk_marks (g := g) hr
  obtain ⟨hbounded', hsize', hwalk'⟩ := Walk.advance_marks g p.asked hbounded
  exact ⟨hbounded', hsize'.trans hsize, hwalk'.trans hwalk⟩

/-- **Any number of walks** do. -/
theorem bounded_after (past : List PastWalk) :
    (after g past).marks.Bounded ∧ (after g past).marks.marks.size = g.sets.size := by
  induction past using List.reverseRecOn with
  | nil => exact ⟨Marks.bounded_fresh _, size_fresh _⟩
  | append_singleton past p ih =>
    obtain ⟨hbounded, hsize, -⟩ := bounded_leave g ih.1 p
    rw [after_concat]
    exact ⟨hbounded, hsize.trans ih.2⟩

/-- **The number of the next walk** goes round in a circle: the first walk has number one, and each walk adds one, up to
the last number. -/
theorem toNat_walk_after (past : List PastWalk) :
    (after g past).marks.begin.walk.toNat = past.length % (UInt32.size - 1) + 1 := by
  induction past using List.reverseRecOn with
  | nil => rfl
  | append_singleton past p ih =>
    obtain ⟨-, -, hwalk⟩ := bounded_leave g (bounded_after g past).1 p
    have hsize : UInt32.size = 4294967296 := rfl
    rw [Marks.toNat_walk_begin, after_concat, hwalk, ih, List.length_append, List.length_singleton]
    simp only [hsize, Nat.reduceSub]
    split <;> omega

end Resolver

/-- **Marks serve any number of walks.** Whatever walks came before with the same resolver, over lists of entries or
over rule sets, each to its end or left after any number of rules, the next walk over any route ends, and it yields the
rules that a walk with a new resolver yields. What the walks before have left on the stack is no part of it. Their
number is not bounded: the numbers of walks go round in a circle that leaves out zero. -/
theorem marks_serve_any_walks (g : Grammar) (past : List PastWalk) (r : Route) :
    (∃ ids, (r.walk g (Resolver.after g past)).Yields g ids) ∧
    (∀ ids, (r.walk g (Resolver.after g past)).Yields g ids ↔ (r.walk g (Resolver.fresh g.sets.size)).Yields g ids) ∧
    (∀ stack, r.walk g { Resolver.after g past with stack } = r.walk g (Resolver.after g past)) ∧
    (r.walk g (Resolver.after g past)).marks.walk.toNat = past.length % (UInt32.size - 1) + 1 := by
  obtain ⟨hbounded, hsize⟩ := Resolver.bounded_after g past
  have hagrees := r.agrees_walk (g := g) hbounded (Marks.bounded_fresh g.sets.size)
    (hsize.trans (Resolver.size_fresh _).symm)
  refine ⟨⟨_, Walk.yields_rules g _⟩, fun ids => ?_, fun stack => Route.walk_eq rfl r, ?_⟩
  · rw [Walk.yields_iff, Walk.yields_iff, hagrees.rules]
  · rw [(r.walk_marks hbounded).2.2]
    exact Resolver.toNat_walk_after g past

end Highlight
