import Highlight.Pattern
import Mathlib.Logic.Relation

/-!
# Threads and the matches they make

* **Moves** (`Thread.moves`): the threads that a thread goes on to without consuming a character. `follow` visits
  exactly these (`follow_cons`), so every thread that it collects is reached from a waiting one by moves (`mem_follow`).
* **Matches** (`runThreads_eq_some`): a match is made by a thread that accepts, and what every thread keeps on its way
  is true of that thread.
* **Bounds** (`Pattern.matchAt?_within`): a match starts where it was looked for, ends inside the text, and its groups
  lie inside of it.
-/

namespace Highlight.Pattern

/-! ## Moves -/

/-- Where a thread goes on to without consuming a character, in order of preference. -/
def Thread.moves (prog : Program) (t : Text) (pos : Nat) (th : Thread) : List Thread :=
  match prog.nodes[th.node]? with
  | some (.assertion a next) => if a.holds (t.before? pos) (t.get? pos) then [{ th with node := next }] else []
  | some (.split first second) => [{ th with node := first }, { th with node := second }]
  | some (.openGroup next) => [{ th with node := next, opened := pos :: th.opened }]
  | some (.closeGroup index next) =>
    match th.opened with
    | start :: opened => [{ node := next, opened, groups := th.groups.setIfInBounds index (some ⟨start, pos⟩) }]
    | [] => [{ th with node := next }]
  | _ => []

/-- Whether a thread waits for a character or accepts. -/
def Thread.rests (prog : Program) (th : Thread) : Bool :=
  match prog.nodes[th.node]? with
  | some (.char _ _) | some .accept => true
  | _ => false

/-- A thread comes from another one by moves. -/
def Thread.Follows (prog : Program) (t : Text) (pos : Nat) : Thread → Thread → Prop :=
  Relation.ReflTransGen fun th th' => th' ∈ th.moves prog t pos

section Follow

variable {prog : Program} {t : Text} {pos : Nat}

/-- What one move keeps, any number of moves keep. -/
theorem Thread.Follows.keeps {Q : Thread → Prop} (hQ : ∀ th th', Q th → th' ∈ th.moves prog t pos → Q th')
    {th th' : Thread} (h : Thread.Follows prog t pos th th') (hth : Q th) : Q th' := by
  induction h with
  | refl => exact hth
  | tail _ hmem ih => exact hQ _ _ ih hmem

/-- A thread at a node that was met is dropped; any other one rests or goes on to its moves. -/
theorem follow_cons (fuel : Nat) (th : Thread) (waiting : List Thread) (seen : Nat) (resting : List Thread) :
    follow prog t pos (fuel + 1) (th :: waiting) seen resting =
      if seen.testBit th.node then follow prog t pos fuel waiting seen resting
      else follow prog t pos fuel (th.moves prog t pos ++ waiting) (seen ||| 1 <<< th.node)
        (if th.rests prog then th :: resting else resting) := by
  rw [follow]
  split
  · rfl
  · unfold Thread.moves Thread.rests
    split
    · next h => simp [h]
    · next h => simp [h]
    · next a next h => cases hh : a.holds (t.before? pos) (t.get? pos) <;> simp [h, hh]
    · next h => simp [h]
    · next h => simp [h]
    · next h => cases th.opened <;> simp [h]
    · next h => simp [h]

/-- What is collected was collected before, or comes from a waiting thread. -/
theorem mem_follow {fuel : Nat} {waiting : List Thread} {seen : Nat} {resting : List Thread} {th' : Thread}
    (h : th' ∈ (follow prog t pos fuel waiting seen resting).2) :
    th' ∈ resting ∨ ∃ th ∈ waiting, Thread.Follows prog t pos th th' := by
  induction fuel generalizing waiting seen resting with
  | zero => exact Or.inl h
  | succ fuel ih =>
    cases waiting with
    | nil => exact Or.inl h
    | cons th waiting =>
      rw [follow_cons] at h
      split at h
      · rcases ih h with hr | ⟨th₀, hmem, hf⟩
        · exact Or.inl hr
        · exact Or.inr ⟨th₀, List.mem_cons_of_mem _ hmem, hf⟩
      · rcases ih h with hr | ⟨th₀, hmem, hf⟩
        · split at hr
          · rcases List.mem_cons.1 hr with rfl | hr
            · exact Or.inr ⟨th', List.mem_cons_self, Relation.ReflTransGen.refl⟩
            · exact Or.inl hr
          · exact Or.inl hr
        · rcases List.mem_append.1 hmem with hmove | hmem
          · exact Or.inr ⟨th, List.mem_cons_self, Relation.ReflTransGen.head hmove hf⟩
          · exact Or.inr ⟨th₀, List.mem_cons_of_mem _ hmem, hf⟩

theorem step_char {c : Char} {th : Thread} {s : CharSet} {next : Nat}
    (hnode : prog.nodes[th.node]? = some (.char s next)) (hc : s.contains c = true) (threads : List Thread)
    (seen : Nat) (resting : List Thread) : step prog t pos c (th :: threads) seen resting =
      step prog t pos c threads (follow prog t (pos + 1) (followFuel prog) [{ th with node := next }] seen resting).1
        (follow prog t (pos + 1) (followFuel prog) [{ th with node := next }] seen resting).2 := by
  rw [step, hnode]
  simp [hc]

theorem step_other {c : Char} {th : Thread}
    (h : ∀ s next, prog.nodes[th.node]? = some (.char s next) → s.contains c = false) (threads : List Thread)
    (seen : Nat) (resting : List Thread) :
    step prog t pos c (th :: threads) seen resting = step prog t pos c threads seen resting := by
  rw [step]
  split
  next s next hnode => simp [h s next hnode]
  · rfl

/-- A thread that arrives over a character comes from one that waits for it. -/
theorem mem_step {c : Char} {threads : List Thread} {seen : Nat} {resting : List Thread} {th' : Thread}
    (h : th' ∈ step prog t pos c threads seen resting) :
    th' ∈ resting ∨ ∃ th ∈ threads, ∃ s next, prog.nodes[th.node]? = some (.char s next) ∧
      Thread.Follows prog t (pos + 1) { th with node := next } th' := by
  induction threads generalizing seen resting with
  | nil => exact Or.inl (List.mem_reverse.1 h)
  | cons th threads ih =>
    by_cases hnode : ∃ s next, prog.nodes[th.node]? = some (.char s next) ∧ s.contains c = true
    · obtain ⟨s, next, hnode, hc⟩ := hnode
      rw [step_char hnode hc] at h
      rcases ih h with hr | ⟨th₀, hmem, hrest⟩
      · rcases mem_follow hr with hr | ⟨th₀, hmem, hf⟩
        · exact Or.inl hr
        · obtain rfl := List.mem_singleton.1 hmem
          exact Or.inr ⟨th, List.mem_cons_self, s, next, hnode, hf⟩
      · exact Or.inr ⟨th₀, List.mem_cons_of_mem _ hmem, hrest⟩
    · rw [step_other fun s next hs => Bool.eq_false_iff.2 fun hc => hnode ⟨s, next, hs, hc⟩] at h
      rcases ih h with hr | ⟨th₀, hmem, hrest⟩
      · exact Or.inl hr
      · exact Or.inr ⟨th₀, List.mem_cons_of_mem _ hmem, hrest⟩

end Follow

/-! ## Matches -/

section Matches

variable {prog : Program} {t : Text} {start : Nat}

/-- The match of the first thread that accepts, and else the match so far. -/
def matchSoFar (prog : Program) (start pos : Nat) (threads : List Thread) (best : Option Match) : Option Match :=
  ((threads.find? fun th => th.accepts prog).map fun th => { span := ⟨start, pos⟩, groups := th.groups }).or best

theorem matchSoFar_eq_some {pos : Nat} {threads : List Thread} {best : Option Match} {m : Match}
    (h : matchSoFar prog start pos threads best = some m) : best = some m ∨
      ∃ th ∈ threads, th.accepts prog = true ∧ m = { span := ⟨start, pos⟩, groups := th.groups } := by
  unfold matchSoFar at h
  cases hf : threads.find? fun th => th.accepts prog with
  | none => rw [hf] at h; exact Or.inl h
  | some th =>
    rw [hf] at h
    exact Or.inr ⟨th, List.mem_of_find?_eq_some hf, List.find?_some hf, (Option.some.inj h).symm⟩

/-- A run stops with the match so far, or goes on over the next character with the threads before the first that
accepts. -/
theorem runThreads_cases (n pos : Nat) (threads : List Thread) (best : Option Match) :
    runThreads prog t start n pos threads best = matchSoFar prog start pos threads best ∨
      ∃ k c, n = k + 1 ∧ t.get? pos = some c ∧ runThreads prog t start n pos threads best =
        runThreads prog t start k (pos + 1)
          (step prog t pos c (threads.takeWhile fun th => !th.accepts prog) 0 [])
          (matchSoFar prog start pos threads best) := by
  generalize hr : runThreads prog t start n pos threads best = result
  rw [runThreads.eq_def] at hr
  unfold matchSoFar
  cases hf : threads.find? fun th => th.accepts prog with
  | none =>
    simp only [hf] at hr
    split at hr
    · exact Or.inl hr.symm
    · split at hr
      next k c hc => exact Or.inr ⟨k, c, rfl, hc, hr.symm⟩
      · exact Or.inl hr.symm
  | some th =>
    simp only [hf] at hr
    split at hr
    · exact Or.inl hr.symm
    · split at hr
      next k c hc => exact Or.inr ⟨k, c, rfl, hc, hr.symm⟩
      · exact Or.inl hr.symm

/-- **A match is made by a thread that accepts**, and what threads keep on their way is true of that thread. -/
theorem runThreads_eq_some {P : Nat → Thread → Prop}
    (hmove : ∀ pos th th', P pos th → th' ∈ th.moves prog t pos → P pos th')
    (hchar : ∀ pos th s next, P pos th → prog.nodes[th.node]? = some (.char s next) →
      P (pos + 1) { th with node := next })
    {n pos : Nat} {threads : List Thread} {best : Option Match} {m : Match} (hP : ∀ th ∈ threads, P pos th)
    (h : runThreads prog t start n pos threads best = some m) :
    best = some m ∨ ∃ pos' th, pos ≤ pos' ∧ pos' ≤ pos + n ∧ P pos' th ∧ th.accepts prog = true ∧
      m = { span := ⟨start, pos'⟩, groups := th.groups } := by
  induction n generalizing pos threads best with
  | zero =>
    rcases runThreads_cases 0 pos threads best with heq | ⟨k, c, hk, -, -⟩
    · rcases matchSoFar_eq_some (heq ▸ h) with hb | ⟨th, hth, ha, hm⟩
      · exact Or.inl hb
      · exact Or.inr ⟨pos, th, Nat.le_refl _, by omega, hP th hth, ha, hm⟩
    · cases hk
  | succ n ih =>
    have found : matchSoFar prog start pos threads best = some m → best = some m ∨ ∃ pos' th, pos ≤ pos' ∧
        pos' ≤ pos + (n + 1) ∧ P pos' th ∧ th.accepts prog = true ∧
          m = { span := ⟨start, pos'⟩, groups := th.groups } := fun hm => by
      rcases matchSoFar_eq_some hm with hb | ⟨th, hth, ha, hm⟩
      · exact Or.inl hb
      · exact Or.inr ⟨pos, th, Nat.le_refl _, by omega, hP th hth, ha, hm⟩
    rcases runThreads_cases (n + 1) pos threads best with heq | ⟨k, c, hk, -, heq⟩
    · exact found (heq ▸ h)
    · cases hk
      have hP' : ∀ th ∈ step prog t pos c (threads.takeWhile fun th => !th.accepts prog) 0 [], P (pos + 1) th := by
        intro th' hth'
        rcases mem_step hth' with hr | ⟨th, hth, s, next, hnode, hf⟩
        · cases hr
        · exact hf.keeps (hmove _) (hchar pos th s next (hP th (List.takeWhile_sublist _ |>.subset hth)) hnode)
      rw [heq] at h
      rcases ih hP' h with hb | ⟨pos', th, hle, hlt, hth, ha, hm⟩
      · exact found hb
      · exact Or.inr ⟨pos', th, by omega, by omega, hth, ha, hm⟩

/-- The thread before it is followed. -/
def Program.firstThread (prog : Program) (groupCount : Nat) : Thread :=
  { node := prog.entry, opened := [], groups := Array.replicate (groupCount + 1) none }

/-- The threads with which matching starts, in order of preference. -/
def Program.startThreads (prog : Program) (groupCount : Nat) (t : Text) (pos : Nat) : List Thread :=
  (follow prog t pos (followFuel prog) [prog.firstThread groupCount] 0 []).2.reverse

/-- What moves keep is true of the threads with which matching starts. -/
theorem Program.startThreads_keep {Q : Thread → Prop} {groupCount pos : Nat}
    (hQ : ∀ th th', Q th → th' ∈ th.moves prog t pos → Q th') (hfirst : Q (prog.firstThread groupCount)) :
    ∀ th ∈ prog.startThreads groupCount t pos, Q th := by
  intro th hth
  rcases mem_follow (List.mem_reverse.1 hth) with hr | ⟨first, hmem, hfollows⟩
  · cases hr
  · obtain rfl := List.mem_singleton.1 hmem
    exact hfollows.keeps hQ hfirst

theorem Program.matchAt_eq (groupCount pos : Nat) : prog.matchAt groupCount t pos =
    runThreads prog t pos (t.length - pos) pos (prog.startThreads groupCount t pos) none := rfl

end Matches

/-! ## Bounds -/

/-- All that a thread has noted lies between two positions. -/
structure Thread.Within (lo hi : Nat) (th : Thread) : Prop where
  opened : ∀ start ∈ th.opened, lo ≤ start ∧ start ≤ hi
  groups : ∀ (i : Nat) (span : Span), th.groups[i]? = some (some span) →
    lo ≤ span.start ∧ span.start ≤ span.stop ∧ span.stop ≤ hi

namespace Thread.Within

variable {lo hi : Nat} {th : Thread}

theorem mono (h : th.Within lo hi) {hi' : Nat} (hle : hi ≤ hi') (node : Nat) :
    ({ th with node := node } : Thread).Within lo hi' := by
  refine ⟨fun start hs => ?_, fun i span hi' => ?_⟩
  · have := h.opened start hs
    omega
  · have := h.groups i span hi'
    omega

theorem moves {prog : Program} {t : Text} (hlo : lo ≤ hi) (h : th.Within lo hi) {th' : Thread}
    (hmem : th' ∈ th.moves prog t hi) : th'.Within lo hi := by
  unfold Thread.moves at hmem
  split at hmem
  · split at hmem
    · obtain rfl := List.mem_singleton.1 hmem
      exact h.mono (Nat.le_refl _) _
    · cases hmem
  · simp only [List.mem_cons, List.not_mem_nil, or_false] at hmem
    rcases hmem with rfl | rfl <;> exact h.mono (Nat.le_refl _) _
  · obtain rfl := List.mem_singleton.1 hmem
    refine ⟨fun start hs => ?_, h.groups⟩
    rcases List.mem_cons.1 hs with rfl | hs
    · exact ⟨hlo, Nat.le_refl _⟩
    · exact h.opened start hs
  · split at hmem
    next start opened hopened =>
      obtain rfl := List.mem_singleton.1 hmem
      refine ⟨fun s hs => h.opened s (by rw [hopened]; exact List.mem_cons_of_mem _ hs), fun i span hspan => ?_⟩
      have hstart := h.opened start (by rw [hopened]; exact List.mem_cons_self)
      simp only [Array.getElem?_setIfInBounds] at hspan
      split at hspan
      · split at hspan
        · cases hspan
          exact ⟨hstart.1, hstart.2, Nat.le_refl _⟩
        · cases hspan
      · exact h.groups i span hspan
    · obtain rfl := List.mem_singleton.1 hmem
      exact h.mono (Nat.le_refl _) _
  · cases hmem

end Thread.Within

/-- A match that starts at `start` and ends at `limit` at the latest, with its groups inside. -/
structure Match.Within (start limit : Nat) (m : Match) : Prop where
  start_eq : m.span.start = start
  le_stop : start ≤ m.span.stop
  stop_le : m.span.stop ≤ limit
  groups : ∀ (i : Nat) (span : Span), m.groups[i]? = some (some span) →
    start ≤ span.start ∧ span.start ≤ span.stop ∧ span.stop ≤ m.span.stop

/-- **A match lies in the text and its groups lie in the match.** -/
theorem matchAt?_within {p : Pattern} {t : Text} {pos : Nat} {m : Match} (hpos : pos ≤ t.length)
    (h : p.matchAt? t pos = some m) : m.Within pos t.length := by
  have hstart : ∀ th ∈ p.program.startThreads p.groups t pos, pos ≤ pos ∧ th.Within pos pos := by
    refine Program.startThreads_keep (fun _ _ h hmem => ⟨h.1, h.2.moves (Nat.le_refl _) hmem⟩) ⟨Nat.le_refl _, ?_, ?_⟩
    · intro start hs
      cases hs
    · intro i span hspan
      simp [Program.firstThread, Array.getElem?_replicate] at hspan
  rw [matchAt?, Program.matchAt_eq] at h
  obtain hb | ⟨pos', th, hle, hlt, hth, -, rfl⟩ := runThreads_eq_some (P := fun q th => pos ≤ q ∧ th.Within pos q)
    (fun q th th' ⟨hq, hth⟩ hmem => ⟨hq, hth.moves hq hmem⟩)
    (fun q th s next ⟨hq, hth⟩ _ => ⟨by omega, hth.mono (Nat.le_succ q) next⟩) hstart h
  · cases hb
  · exact ⟨rfl, hle, show pos' ≤ t.length by omega, hth.2.groups⟩

end Highlight.Pattern
