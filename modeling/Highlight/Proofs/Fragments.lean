import Highlight.Pattern.Matcher

/-!
# Fragments and the empty text

Whether an expression matches the empty text depends on the two characters around the position (`Expr.nullable`). The
compiled graph says the same: sets of nodes that are closed under moves without a character (`Nodes.Closed`) that hold
the entry of a nullable expression hold the node it goes on to, and for an expression that is not nullable there is a
closed set with the entry that does not go on (`Fragment.Grows`).

* **Parts** (`Grows.front`, `Grows.push`, `Grows.tie`): how this passes from parts to wholes.
* **Expressions** (`Expr.behaves_compile`): the graph of every expression grows that way.
* **Programs** (`Program.passes_ofExpr`, `Program.blocks_ofExpr`): the entry of a whole pattern leads to a node that
  accepts exactly if the pattern is nullable.
-/

namespace Highlight.Pattern

/-- Whether the expression matches the empty text between two neighbours. -/
def Expr.nullable (before after : Option Char) : Expr → Bool
  | .empty => true
  | .set _ => false
  | .assertion a => a.holds before after
  | .seq a b => a.nullable before after && b.nullable before after
  | .alt a b => a.nullable before after || b.nullable before after
  | .group _ e => e.nullable before after
  | .repetition least _ _ e => least == 0 || e.nullable before after

/-- An expression that can match the empty text has no other known least length. -/
theorem Expr.minLength_of_nullable {before after : Option Char} : ∀ {e : Expr} {n : Nat},
    e.nullable before after = true → e.minLength = some n → n = 0
  | .empty, n, _, hn => by simpa [minLength] using hn.symm
  | .set _, n, h, _ => by simp [nullable] at h
  | .assertion _, n, _, hn => by simpa [minLength] using hn.symm
  | .group _ e, n, h, hn => minLength_of_nullable (e := e) h hn
  | .seq a b, n, h, hn => by
    simp only [nullable, Bool.and_eq_true] at h
    cases ha : a.minLength with
    | none => simp [minLength, ha] at hn
    | some i =>
      cases hb : b.minLength with
      | none => simp [minLength, ha, hb] at hn
      | some j =>
        have hi := minLength_of_nullable h.1 ha
        have hj := minLength_of_nullable h.2 hb
        simp only [minLength, ha, hb, Option.some.injEq] at hn
        omega
  | .alt a b, n, h, hn => by
    simp only [nullable, Bool.or_eq_true] at h
    cases ha : a.minLength with
    | none => simp [minLength, ha] at hn
    | some i =>
      cases hb : b.minLength with
      | none => simp [minLength, ha, hb] at hn
      | some j =>
        simp only [minLength, ha, hb, Option.some.injEq] at hn
        rcases h with h | h
        · have hi := minLength_of_nullable h ha
          omega
        · have hj := minLength_of_nullable h hb
          omega
  | .repetition least most greedy e, n, h, hn => by
    simp only [nullable, Bool.or_eq_true, beq_iff_eq] at h
    simp only [minLength, Option.map_eq_some_iff] at hn
    obtain ⟨i, hi, rfl⟩ := hn
    rcases h with rfl | h
    · exact Nat.mul_zero i
    · rw [minLength_of_nullable h hi, Nat.zero_mul]

/-- Whether some part is a set without members, which never matches. -/
def Expr.hasEmptySet : Expr → Bool
  | .empty | .assertion _ => false
  | .set s => s.isEmpty
  | .seq a b | .alt a b => a.hasEmptySet || b.hasEmptySet
  | .group _ e => e.hasEmptySet
  | .repetition _ _ _ e => e.hasEmptySet

/-- The least length is unknown exactly if some part never matches. -/
theorem Expr.minLength_eq_none_iff : ∀ {e : Expr}, e.minLength = none ↔ e.hasEmptySet = true
  | .empty => by simp [minLength, hasEmptySet]
  | .assertion _ => by simp [minLength, hasEmptySet]
  | .set s => by cases h : s.isEmpty <;> simp [minLength, hasEmptySet, h]
  | .group _ e => minLength_eq_none_iff (e := e)
  | .repetition _ _ _ e => by
    rw [minLength, Option.map_eq_none_iff]
    exact minLength_eq_none_iff (e := e)
  | .seq a b => by
    rw [hasEmptySet, Bool.or_eq_true, ← minLength_eq_none_iff, ← minLength_eq_none_iff]
    cases ha : a.minLength <;> cases hb : b.minLength <;> simp [minLength, ha, hb]
  | .alt a b => by
    rw [hasEmptySet, Bool.or_eq_true, ← minLength_eq_none_iff, ← minLength_eq_none_iff]
    cases ha : a.minLength <;> cases hb : b.minLength <;> simp [minLength, ha, hb]

/-! ## Closed sets of nodes -/

/-- Where a node leads without consuming a character, between two neighbours. -/
def Node.exits (before after : Option Char) : Node → List Nat
  | .assertion a next => if a.holds before after then [next] else []
  | .split first second => [first, second]
  | .openGroup next | .closeGroup _ next => [next]
  | .char _ _ | .accept => []

theorem mem_exits_loopNode {before after : Option Char} {greedy : Bool} {body exit j : Nat} :
    j ∈ (loopNode greedy body exit).exits before after ↔ j = body ∨ j = exit := by
  cases greedy <;> simp [loopNode, Node.exits, or_comm]

theorem loopNode_ne_accept (greedy : Bool) (body exit : Nat) : loopNode greedy body exit ≠ .accept := by
  cases greedy <;> simp [loopNode]

namespace Nodes

/-- No node leads out of the graph. -/
def Bounded (before after : Option Char) (p : Nodes) : Prop :=
  ∀ (i : Nat) (node : Node), p[i]? = some node → ∀ j ∈ node.exits before after, j < p.size

/-- No node of the set leads out of it. -/
def Closed (before after : Option Char) (p : Nodes) (s : Nat → Prop) : Prop :=
  ∀ (i : Nat) (node : Node), p[i]? = some node → s i → ∀ j ∈ node.exits before after, s j

variable {before after : Option Char} {p : Nodes}

theorem getElem?_push_cases {n node : Node} {i : Nat} (h : (p.push n)[i]? = some node) :
    (i = p.size ∧ node = n) ∨ (i < p.size ∧ p[i]? = some node) := by
  rw [Array.getElem?_push] at h
  split at h
  next hi => exact Or.inl ⟨hi, (Option.some.inj h).symm⟩
  · exact Or.inr ⟨(Array.getElem?_eq_some_iff.1 h).1, h⟩

theorem getElem?_push_of_lt {n : Node} {i : Nat} (h : i < p.size) : (p.push n)[i]? = p[i]? := by
  rw [Array.getElem?_push, if_neg (Nat.ne_of_lt h)]

theorem Bounded.push (h : p.Bounded before after) {n : Node} (hn : ∀ j ∈ n.exits before after, j < p.size) :
    Bounded before after (p.push n) := by
  intro i node hnode j hj
  rw [Array.size_push]
  rcases getElem?_push_cases hnode with ⟨-, rfl⟩ | ⟨-, hold⟩
  · exact Nat.lt_succ_of_lt (hn j hj)
  · exact Nat.lt_succ_of_lt (h i node hold j hj)

/-- A closed set stays closed when a node is added, with or without that node. -/
theorem Closed.push (hp : p.Bounded before after) {s : Nat → Prop} (h : p.Closed before after s) {n : Node} {q : Prop}
    (hn : q → ∀ j ∈ n.exits before after, j < p.size ∧ s j) :
    Closed before after (p.push n) fun i => if i = p.size then q else s i := by
  intro i node hnode hi j hj
  rcases getElem?_push_cases hnode with ⟨rfl, rfl⟩ | ⟨hlt, hold⟩
  · simp only [↓reduceIte] at hi
    obtain ⟨hlt, hsj⟩ := hn hi j hj
    rw [if_neg (Nat.ne_of_lt hlt)]
    exact hsj
  · rw [if_neg (Nat.ne_of_lt hlt)] at hi
    rw [if_neg (Nat.ne_of_lt (hp i node hold j hj))]
    exact h i node hold hi j hj

end Nodes

/-! ## Growing graphs -/

namespace Fragment

/-- What was added to `p` in front of `next`: nodes behind the old ones, none of which accepts, and entries to them,
each with whether it is nullable. A closed set that holds a nullable entry holds `next`; and a closed set of old nodes
can be extended by all entries at once, of which the nullable ones need that `next` is in the set. -/
structure Grows (before after : Option Char) (next : Nat) (p p' : Nodes) (entries : List (Nat × Bool)) : Prop where
  size_le : p.size ≤ p'.size
  old : ∀ i < p.size, p'[i]? = p[i]?
  accept : ∀ i : Nat, p'[i]? = some .accept → i < p.size ∧ p[i]? = some .accept
  bounded : p'.Bounded before after
  entry_lt : ∀ e ∈ entries, e.1 < p'.size
  passes : ∀ e ∈ entries, e.2 = true → ∀ s, p'.Closed before after s → s e.1 → s next
  blocks : ∀ s, p.Closed before after s → ∃ s', p'.Closed before after s' ∧ (∀ i < p.size, s' i ↔ s i) ∧
    ∀ e ∈ entries, (e.2 = true → s next) → s' e.1

variable {before after : Option Char} {next : Nat} {p p₁ p₂ : Nodes} {entries : List (Nat × Bool)}

namespace Grows

theorem refl (hp : p.Bounded before after) (hnext : next < p.size) : Grows before after next p p [(next, true)] where
  size_le := Nat.le_refl _
  old _ _ := rfl
  accept _ hi := ⟨(Array.getElem?_eq_some_iff.1 hi).1, hi⟩
  bounded := hp
  entry_lt e he := by
    obtain rfl := List.mem_singleton.1 he
    exact hnext
  passes e he _ _ _ hs := by
    obtain rfl := List.mem_singleton.1 he
    exact hs
  blocks s hs := by
    refine ⟨s, hs, fun _ _ => Iff.rfl, fun e he hnext => ?_⟩
    obtain rfl := List.mem_singleton.1 he
    exact hnext rfl

theorem mono (h : Grows before after next p p₁ entries) {entries' : List (Nat × Bool)} (hsub : entries' ⊆ entries) :
    Grows before after next p p₁ entries' where
  size_le := h.size_le
  old := h.old
  accept := h.accept
  bounded := h.bounded
  entry_lt e he := h.entry_lt e (hsub he)
  passes e he := h.passes e (hsub he)
  blocks s hs := by
    obtain ⟨s', hs', hold, hentries⟩ := h.blocks s hs
    exact ⟨s', hs', hold, fun e he => hentries e (hsub he)⟩

theorem head {e : Nat × Bool} (h : Grows before after next p p₁ (e :: entries)) : Grows before after next p p₁ [e] :=
  h.mono (by simp)

theorem tail {e : Nat × Bool} (h : Grows before after next p p₁ (e :: entries)) :
    Grows before after next p p₁ entries :=
  h.mono (List.subset_cons_self e entries)

/-- The node in front of which the graph grows is an entry itself. -/
theorem keep (hnext : next < p.size) (h : Grows before after next p p₁ entries) :
    Grows before after next p p₁ ((next, true) :: entries) where
  size_le := h.size_le
  old := h.old
  accept := h.accept
  bounded := h.bounded
  entry_lt := List.forall_mem_cons.2 ⟨Nat.lt_of_lt_of_le hnext h.size_le, h.entry_lt⟩
  passes := List.forall_mem_cons.2 ⟨fun _ _ _ hs => hs, h.passes⟩
  blocks s hs := by
    obtain ⟨s', hs', hold, hentries⟩ := h.blocks s hs
    exact ⟨s', hs', hold, List.forall_mem_cons.2 ⟨fun hq => (hold next hnext).2 (hq rfl), hentries⟩⟩

/-- The old nodes of a closed set are a closed set of the old graph. -/
theorem closed_old (h : Grows before after next p p₁ entries) {s : Nat → Prop} (hs : p₁.Closed before after s) :
    p.Closed before after s := by
  intro i node hnode hi j hj
  refine hs i node ?_ hi j hj
  rw [h.old i (Array.getElem?_eq_some_iff.1 hnode).1]
  exact hnode

/-- A part in front of an entry. -/
theorem front (h₁ : Grows before after next p p₁ entries) {middle entry : Nat} {a b : Bool} (hm : (middle, b) ∈ entries)
    (h₂ : Grows before after middle p₁ p₂ [(entry, a)]) :
    Grows before after next p p₂ ((entry, a && b) :: entries) where
  size_le := Nat.le_trans h₁.size_le h₂.size_le
  old i hi := by rw [h₂.old i (Nat.lt_of_lt_of_le hi h₁.size_le), h₁.old i hi]
  accept i hi := h₁.accept i (h₂.accept i hi).2
  bounded := h₂.bounded
  entry_lt := by
    refine List.forall_mem_cons.2 ⟨h₂.entry_lt (entry, a) List.mem_cons_self, fun e he => ?_⟩
    exact Nat.lt_of_lt_of_le (h₁.entry_lt e he) h₂.size_le
  passes := by
    refine List.forall_mem_cons.2 ⟨fun hab s hs hentry => ?_, fun e he hb s hs hentry => ?_⟩
    · obtain ⟨ha, hb⟩ := Bool.and_eq_true_iff.1 hab
      exact h₁.passes _ hm hb s (h₂.closed_old hs) (h₂.passes _ List.mem_cons_self ha s hs hentry)
    · exact h₁.passes e he hb s (h₂.closed_old hs) hentry
  blocks s hs := by
    obtain ⟨s₁, hs₁, hold₁, hentries₁⟩ := h₁.blocks s hs
    obtain ⟨s₂, hs₂, hold₂, hentries₂⟩ := h₂.blocks s₁ hs₁
    refine ⟨s₂, hs₂, fun i hi => ?_, List.forall_mem_cons.2 ⟨fun hnext => ?_, fun e he hnext => ?_⟩⟩
    · rw [hold₂ i (Nat.lt_of_lt_of_le hi h₁.size_le), hold₁ i hi]
    · exact hentries₂ (entry, a) List.mem_cons_self fun ha => hentries₁ _ hm fun hb =>
        hnext (Bool.and_eq_true_iff.2 ⟨ha, hb⟩)
    · exact (hold₂ e.1 (h₁.entry_lt e he)).2 (hentries₁ e he hnext)

/-- A node that leads to entries only. It is nullable if one of them is. -/
theorem push (h : Grows before after next p p₁ entries) {n : Node} (hn : n ≠ .accept) {b : Bool}
    (hexits : ∀ j ∈ n.exits before after, ∃ b', (j, b') ∈ entries ∧ (b' = true → b = true))
    (hb : b = true → ∃ j ∈ n.exits before after, (j, true) ∈ entries) :
    Grows before after next p (p₁.push n) ((p₁.size, b) :: entries) where
  size_le := by
    rw [Array.size_push]
    exact Nat.le_succ_of_le h.size_le
  old i hi := by rw [Nodes.getElem?_push_of_lt (Nat.lt_of_lt_of_le hi h.size_le), h.old i hi]
  accept i hi := by
    rcases Nodes.getElem?_push_cases hi with ⟨-, heq⟩ | ⟨-, hold⟩
    · exact absurd heq.symm hn
    · exact h.accept i hold
  bounded := h.bounded.push fun j hj => by
    obtain ⟨b', hmem, -⟩ := hexits j hj
    exact h.entry_lt _ hmem
  entry_lt := by
    rw [Array.size_push]
    exact List.forall_mem_cons.2 ⟨Nat.lt_succ_self _, fun e he => Nat.lt_succ_of_lt (h.entry_lt e he)⟩
  passes := by
    have hclosed : ∀ s, Nodes.Closed before after (p₁.push n) s → p₁.Closed before after s := fun s hs i node hnode =>
      hs i node (by rw [Nodes.getElem?_push_of_lt (Array.getElem?_eq_some_iff.1 hnode).1]; exact hnode)
    refine List.forall_mem_cons.2 ⟨fun hb' s hs hentry => ?_, fun e he hb' s hs hentry => ?_⟩
    · obtain ⟨j, hj, hmem⟩ := hb hb'
      exact h.passes _ hmem rfl s (hclosed s hs) (hs p₁.size n (by simp) hentry j hj)
    · exact h.passes e he hb' s (hclosed s hs) hentry
  blocks s hs := by
    obtain ⟨s', hs', hold, hentries⟩ := h.blocks s hs
    refine ⟨_, hs'.push (q := b = true → s next) h.bounded fun hq j hj => ?_, fun i hi => ?_,
      List.forall_mem_cons.2 ⟨fun hq => ?_, fun e he hq => ?_⟩⟩
    · obtain ⟨b', hmem, hb'⟩ := hexits j hj
      exact ⟨h.entry_lt _ hmem, hentries _ hmem fun hj' => hq (hb' hj')⟩
    · rw [if_neg (Nat.ne_of_lt (Nat.lt_of_lt_of_le hi h.size_le)), hold i hi]
    · rw [if_pos rfl]
      exact hq
    · rw [if_neg (Nat.ne_of_lt (h.entry_lt e he))]
      exact hentries e he hq

/-- A part that goes on to a new node, which leads back to the part or on to `next`. -/
theorem tie (hp : p.Bounded before after) (hnext : next < p.size) {entry : Nat} {b : Bool}
    (h : Grows before after p.size (p.push .accept) p₂ [(entry, b)]) (greedy : Bool) :
    Grows before after next p (p₂.setIfInBounds p.size (loopNode greedy entry next)) [(entry, b), (p.size, true)] := by
  have hsize : p.size < p₂.size := Nat.lt_of_lt_of_le (by simp) h.size_le
  have hloop : p₂[p.size]? = some .accept := by
    rw [h.old p.size (by simp)]
    simp
  have hentry := h.entry_lt _ List.mem_cons_self
  have hnode : ∀ {i : Nat} {node : Node}, (p₂.setIfInBounds p.size (loopNode greedy entry next))[i]? = some node →
      i = p.size ∧ node = loopNode greedy entry next ∨ i ≠ p.size ∧ p₂[i]? = some node := by
    intro i node hi
    rw [Array.getElem?_setIfInBounds] at hi
    split at hi
    next heq => exact Or.inl ⟨heq.symm, by simpa [hsize] using hi.symm⟩
    next hne => exact Or.inr ⟨Ne.symm hne, hi⟩
  have hnext₂ : next < p₂.size := Nat.lt_trans hnext hsize
  constructor
  case size_le => simpa using Nat.le_of_lt hsize
  case old =>
    intro i hi
    rw [Array.getElem?_setIfInBounds, if_neg (Nat.ne_of_gt hi), h.old i (by simp; omega), Nodes.getElem?_push_of_lt hi]
  case accept =>
    intro i hi
    rcases hnode hi with ⟨-, heq⟩ | ⟨hne, hi⟩
    · exact absurd heq.symm (loopNode_ne_accept _ _ _)
    · rcases Nodes.getElem?_push_cases (h.accept i hi).2 with ⟨heq, -⟩ | hold
      · exact absurd heq hne
      · exact hold
  case bounded =>
    intro i node hi j hj
    rw [Array.size_setIfInBounds]
    rcases hnode hi with ⟨-, rfl⟩ | ⟨-, hi⟩
    · rcases mem_exits_loopNode.1 hj with rfl | rfl
      · exact hentry
      · exact hnext₂
    · exact h.bounded i node hi j hj
  case entry_lt =>
    rw [Array.size_setIfInBounds]
    exact List.forall_mem_cons.2 ⟨hentry, List.forall_mem_singleton.2 hsize⟩
  case passes =>
    -- the node was accepting while the part was added, so sets that are closed now were closed then
    have hclosed : ∀ s, Nodes.Closed before after (p₂.setIfInBounds p.size (loopNode greedy entry next)) s →
        p₂.Closed before after s ∧ (s p.size → s next) := by
      intro s hs
      refine ⟨fun i node hi hsi j hj => ?_, fun hsize' => ?_⟩
      · by_cases heq : i = p.size
        · rw [heq, hloop] at hi
          cases hi
          cases hj
        · exact hs i node (by rw [Array.getElem?_setIfInBounds, if_neg (Ne.symm heq)]; exact hi) hsi j hj
      · exact hs p.size (loopNode greedy entry next) (by simp [hsize]) hsize' next (mem_exits_loopNode.2 (Or.inr rfl))
    refine List.forall_mem_cons.2 ⟨fun hb s hs he => ?_, List.forall_mem_singleton.2 fun _ s hs => (hclosed s hs).2⟩
    exact (hclosed s hs).2 (h.passes _ List.mem_cons_self hb s (hclosed s hs).1 he)
  case blocks =>
    intro s hs
    obtain ⟨s', hs', hold, hentries⟩ := h.blocks _ (hs.push (q := s next) hp (n := .accept) fun _ j hj => by cases hj)
    have hold' : ∀ i < p.size, s' i ↔ s i := fun i hi => by
      rw [hold i (by simp; omega), if_neg (Nat.ne_of_lt hi)]
    have hsize' : s' p.size ↔ s next := by rw [hold p.size (by simp), if_pos rfl]
    have hentry' : (b = true → s next) → s' entry := fun hb =>
      hentries _ List.mem_cons_self fun hb' => by rw [if_pos rfl]; exact hb hb'
    refine ⟨s', fun i node hi hsi j hj => ?_, hold',
      List.forall_mem_cons.2 ⟨hentry', List.forall_mem_singleton.2 fun hq => hsize'.2 (hq rfl)⟩⟩
    rcases hnode hi with ⟨rfl, rfl⟩ | ⟨-, hi⟩
    · rcases mem_exits_loopNode.1 hj with rfl | rfl
      · exact hentry' fun _ => hsize'.1 hsi
      · exact (hold' _ hnext).2 (hsize'.1 hsi)
    · exact hs' i node hi hsi j hj

end Grows

/-! ## Fragments -/

/-- The fragment grows in front of every node of every graph. -/
def Behaves (before after : Option Char) (f : Fragment) (nullable : Bool) : Prop :=
  ∀ (next : Nat) (p : Nodes), p.Bounded before after → next < p.size →
    Grows before after next p (f next p).1 [((f next p).2, nullable)]

variable {f : Fragment} {b : Bool}

theorem Behaves.times (hf : f.Behaves before after b) : ∀ n : Nat, (times f n).Behaves before after (n == 0 || b)
  | 0 => fun _ _ hp hnext => Grows.refl hp hnext
  | n + 1 => fun next p hp hnext => by
    have hfirst := hf next p hp hnext
    have hrest := Behaves.times hf n (f next p).2 (f next p).1 hfirst.bounded (hfirst.entry_lt _ List.mem_cons_self)
    have hall := hfirst.front List.mem_cons_self hrest
    have hb : ((n == 0 || b) && b) = (n + 1 == 0 || b) := by cases b <;> simp
    rw [hb] at hall
    exact hall.head

/-- A choice between a part and leaving. -/
theorem Grows.optional {exit middle entry : Nat} (hexit : exit < p.size)
    (h₁ : Grows before after exit p p₁ [(middle, true)]) (h₂ : Grows before after middle p₁ p₂ [(entry, b)])
    (greedy : Bool) : Grows before after exit p (p₂.push (loopNode greedy entry exit)) [(p₂.size, true)] := by
  have hboth := (h₁.keep hexit).front (List.mem_cons_of_mem _ List.mem_cons_self) h₂
  refine (hboth.push (b := true) (loopNode_ne_accept _ _ _) (fun j hj => ?_) (fun _ => ?_)).head
  · rcases mem_exits_loopNode.1 hj with rfl | rfl
    · exact ⟨_, List.mem_cons_self, fun _ => rfl⟩
    · exact ⟨true, by simp, fun _ => rfl⟩
  · exact ⟨exit, mem_exits_loopNode.2 (Or.inr rfl), by simp⟩

theorem Behaves.upTo (hf : f.Behaves before after b) (greedy : Bool) {exit : Nat} (hexit : exit < p.size) :
    ∀ (n : Nat) {middle : Nat} {p₁ : Nodes}, Grows before after exit p p₁ [(middle, true)] →
      Grows before after exit p (Fragment.upTo f greedy exit n middle p₁).1
        [((Fragment.upTo f greedy exit n middle p₁).2, true)]
  | 0, _, _, h => h
  | n + 1, middle, p₁, h => by
    have hbody := hf middle p₁ h.bounded (h.entry_lt _ List.mem_cons_self)
    exact Behaves.upTo hf greedy hexit n (h.optional hexit hbody greedy)

theorem Behaves.onceOrMore (hf : f.Behaves before after b) (greedy : Bool) (hp : p.Bounded before after)
    (hnext : next < p.size) : Grows before after next p (Fragment.onceOrMore f greedy next p).1
      [((Fragment.onceOrMore f greedy next p).2.1, b), ((Fragment.onceOrMore f greedy next p).2.2, true)] :=
  Grows.tie hp hnext (hf p.size (p.push .accept) (hp.push (by simp [Node.exits])) (by simp)) greedy

theorem Behaves.anyNumber (hf : f.Behaves before after b) (greedy consuming : Bool) :
    (anyNumber f greedy consuming).Behaves before after true := by
  intro next p hp hnext
  have honce := hf.onceOrMore greedy hp hnext
  unfold Fragment.anyNumber
  cases consuming with
  | true => exact honce.tail
  | false => exact (Grows.refl hp hnext).optional hnext honce.head greedy

end Fragment

/-! ## Expressions -/

open Fragment in
/-- **The graph of every expression** leads on without a character exactly if the expression is nullable. -/
theorem Expr.behaves_compile (before after : Option Char) : ∀ e : Expr,
    Fragment.Behaves before after e.compile (e.nullable before after)
  | .empty => fun _ _ hp hnext => Grows.refl hp hnext
  | .set s => fun next p hp hnext =>
    ((Grows.refl hp hnext).push (b := false) (n := .char s next) (by simp) (by simp [Node.exits]) (by simp)).head
  | .assertion a => fun next p hp hnext => by
    refine ((Grows.refl hp hnext).push (b := a.holds before after) (n := .assertion a next) (by simp) ?_ ?_).head
    · intro j hj
      cases hh : a.holds before after <;> simp_all [Node.exits]
    · intro hh
      simp [Node.exits, hh]
  | .seq a b => fun next p hp hnext => by
    have hb := behaves_compile before after b next p hp hnext
    have ha := behaves_compile before after a _ _ hb.bounded (hb.entry_lt _ List.mem_cons_self)
    exact (hb.front List.mem_cons_self ha).head
  | .alt a b => fun next p hp hnext => by
    have hb := behaves_compile before after b next p hp hnext
    have ha := behaves_compile before after a next _ hb.bounded (Nat.lt_of_lt_of_le hnext hb.size_le)
    have hboth := (hb.keep hnext).front List.mem_cons_self ha
    rw [Bool.and_true] at hboth
    refine (hboth.push (b := a.nullable before after || b.nullable before after) (by simp) ?_ ?_).head
    · intro j hj
      simp only [Node.exits, List.mem_cons, List.not_mem_nil, or_false] at hj
      rcases hj with rfl | rfl
      · exact ⟨_, List.mem_cons_self, fun h => by simp [h]⟩
      · exact ⟨b.nullable before after, by simp, fun h => by simp [h]⟩
    · intro h
      rcases Bool.or_eq_true_iff.1 h with h | h
      · exact ⟨_, List.mem_cons_self, by simp [h]⟩
      · exact ⟨_, List.mem_cons_of_mem _ List.mem_cons_self, by simp [h]⟩
  | .group index e => fun next p hp hnext => by
    have hclose := ((Grows.refl hp hnext).push (b := true) (n := .closeGroup index next) (by simp)
      (by simp [Node.exits]) (by simp [Node.exits])).head
    have hbody := behaves_compile before after e _ _ hclose.bounded (hclose.entry_lt _ List.mem_cons_self)
    have hboth := (hclose.front List.mem_cons_self hbody).head
    rw [Bool.and_true] at hboth
    refine (hboth.push (b := e.nullable before after) (n := .openGroup _) (by simp) ?_ ?_).head
    · simp [Node.exits]
    · simp [Node.exits]
  | .repetition least most greedy e => fun next p hp hnext => by
    have he := behaves_compile before after e
    match most, least with
    | some most, least =>
      have hsome := he.upTo greedy hnext (most - least) (Grows.refl hp hnext)
      have hall := he.times least _ _ hsome.bounded (hsome.entry_lt _ List.mem_cons_self)
      have hboth := (hsome.front List.mem_cons_self hall).head
      rw [Bool.and_true] at hboth
      exact hboth
    | none, 0 => exact he.anyNumber greedy e.consumes next p hp hnext
    | none, least + 1 =>
      have honce := (he.onceOrMore greedy hp hnext).head
      have hall := he.times least _ _ honce.bounded (honce.entry_lt _ List.mem_cons_self)
      have hboth := (honce.front List.mem_cons_self hall).head
      have hb : ((least == 0 || e.nullable before after) && e.nullable before after) =
          (least + 1 == 0 || e.nullable before after) := by cases e.nullable before after <;> simp
      rw [hb] at hboth
      exact hboth

/-! ## Programs -/

namespace Program

theorem grows_ofExpr (before after : Option Char) (e : Expr) : Fragment.Grows before after 0 #[.accept] (ofExpr e).nodes
    [((ofExpr e).entry, e.nullable before after)] := by
  refine e.behaves_compile before after 0 #[.accept] (fun i node hnode j hj => ?_) (by simp)
  obtain ⟨-, rfl⟩ | ⟨hlt, -⟩ := Nodes.getElem?_push_cases (p := #[]) hnode
  · cases hj
  · cases hlt

/-- Only the node behind the expression accepts. -/
theorem accept_ofExpr (e : Expr) (i : Nat) : (ofExpr e).nodes[i]? = some .accept ↔ i = 0 := by
  have hgrows := grows_ofExpr none none e
  constructor
  · intro hi
    have := (hgrows.accept i hi).1
    simpa using this
  · rintro rfl
    exact hgrows.old 0 (by simp)

/-- Closed sets lead from the entry of a nullable expression to acceptance. -/
theorem passes_ofExpr {before after : Option Char} {e : Expr} (h : e.nullable before after = true) {s : Nat → Prop}
    (hs : (ofExpr e).nodes.Closed before after s) (hentry : s (ofExpr e).entry) : s 0 :=
  (grows_ofExpr before after e).passes _ List.mem_cons_self h s hs hentry

/-- A closed set with the entry of an expression that is not nullable need not accept. -/
theorem blocks_ofExpr {before after : Option Char} {e : Expr} (h : e.nullable before after = false) :
    ∃ s, (ofExpr e).nodes.Closed before after s ∧ s (ofExpr e).entry ∧ ¬ s 0 := by
  obtain ⟨s, hs, hold, hentry⟩ := (grows_ofExpr before after e).blocks (fun _ => False) fun _ _ _ hi => hi.elim
  refine ⟨s, hs, hentry _ List.mem_cons_self fun h' => ?_, (hold 0 (by simp)).1⟩
  rw [h] at h'
  cases h'

end Program

end Highlight.Pattern
