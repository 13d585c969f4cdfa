import Highlight.Proofs.Fragments
import Highlight.Proofs.Matcher
import Highlight.Proofs.Shape
import Highlight.Tokenizer.Run
import Mathlib

/-!
# When a pattern matches the empty text

* **Following is complete** (`follow_complete`): the nodes met at a position are closed under moves without a character,
  and for each of them that accepts a thread rests there.
* **Start** (`exists_accepts_iff`): so one of the threads with which matching starts accepts exactly if the expression
  is nullable between its neighbours.
* **Matches** (`isSome_matchWithin?_zero_iff`, `isSome_of_empty_match`, `exists_match_of_isSome`): the empty text at a
  position is a match exactly there.
* **Patterns** (`checked_pattern_empty_match_iff`): a pattern that passed the check for the empty text can still match
  it, but only if some part of it never matches.
-/

namespace Highlight.Pattern

/-! ## Following is complete -/

section Follow

variable {prog : Program} {t : Text} {pos : Nat}

theorem testBit_mark (seen k i : Nat) : (seen ||| 1 <<< k).testBit i = (seen.testBit i || decide (i = k)) := by
  rw [Nat.testBit_or, Nat.one_shiftLeft, Nat.testBit_two_pow, decide_eq_decide.2 eq_comm]

/-- The moves of a thread go to the exits of its node. -/
theorem Thread.exits_moves {th : Thread} {node : Node} (h : prog.nodes[th.node]? = some node) :
    (th.moves prog t pos).map Thread.node = node.exits (t.before? pos) (t.get? pos) := by
  unfold Thread.moves
  rw [h]
  cases node with
  | char s next => rfl
  | accept => rfl
  | split first second => rfl
  | openGroup next => rfl
  | assertion a next => cases hh : a.holds (t.before? pos) (t.get? pos) <;> simp [Node.exits, hh]
  | closeGroup index next => cases th.opened <;> rfl

theorem Thread.length_moves_le (prog : Program) (t : Text) (pos : Nat) (th : Thread) :
    (th.moves prog t pos).length ≤ 2 := by
  unfold Thread.moves
  split
  · split <;> simp
  · simp
  · simp
  · split <;> simp
  · simp

/-- How many nodes were not met. -/
def Program.unseen (prog : Program) (seen : Nat) : Nat :=
  ((Finset.range prog.nodes.size).filter fun i => seen.testBit i = false).card

/-- Meeting a node leaves one less. -/
theorem Program.unseen_mark_lt {seen k : Nat} (hk : k < prog.nodes.size) (hseen : seen.testBit k = false) :
    prog.unseen (seen ||| 1 <<< k) < prog.unseen seen := by
  refine Finset.card_lt_card (Finset.ssubset_iff_of_subset ?_ |>.2 ⟨k, ?_, ?_⟩)
  · intro i hi
    simp only [Finset.mem_filter, testBit_mark, Bool.or_eq_false_iff] at hi ⊢
    exact ⟨hi.1, hi.2.1⟩
  · simp [hk, hseen]
  · simp

theorem Program.unseen_mark_le (seen k : Nat) : prog.unseen (seen ||| 1 <<< k) ≤ prog.unseen seen := by
  refine Finset.card_le_card fun i hi => ?_
  simp only [Finset.mem_filter, testBit_mark, Bool.or_eq_false_iff] at hi ⊢
  exact ⟨hi.1, hi.2.1⟩

/-- A thread pays for its moves with the node it meets. -/
theorem Thread.moves_unseen (prog : Program) (t : Text) (pos : Nat) {th : Thread} {seen : Nat}
    (h : seen.testBit th.node = false) :
    (th.moves prog t pos).length + 2 * prog.unseen (seen ||| 1 <<< th.node) ≤ 2 * prog.unseen seen := by
  rcases Nat.lt_or_ge th.node prog.nodes.size with hlt | hge
  · have hmoves := th.length_moves_le prog t pos
    have hunseen := Program.unseen_mark_lt hlt h
    omega
  · have hmoves : th.moves prog t pos = [] := by
      unfold Thread.moves
      rw [Array.getElem?_eq_none hge]
    have hunseen := prog.unseen_mark_le seen th.node
    rw [hmoves, List.length_nil]
    omega

/-- What is true between two threads: the exits of a node that was met were met too or have a thread waiting for them,
and a thread rests at every node that accepts. -/
structure Following (prog : Program) (t : Text) (pos : Nat) (waiting : List Thread) (seen : Nat)
    (resting : List Thread) : Prop where
  exits : ∀ i node, seen.testBit i = true → prog.nodes[i]? = some node →
    ∀ j ∈ node.exits (t.before? pos) (t.get? pos), seen.testBit j = true ∨ ∃ th ∈ waiting, th.node = j
  accept : ∀ i, seen.testBit i = true → prog.nodes[i]? = some .accept → ∃ th ∈ resting, th.node = i

variable {th : Thread} {waiting resting : List Thread} {seen : Nat}

/-- A thread at a node that was met is dropped. -/
theorem Following.drop (h : Following prog t pos (th :: waiting) seen resting) (hth : seen.testBit th.node = true) :
    Following prog t pos waiting seen resting where
  exits i node hi hnode j hj := by
    rcases h.exits i node hi hnode j hj with hj | ⟨th', hth', rfl⟩
    · exact Or.inl hj
    · rcases List.mem_cons.1 hth' with rfl | hth'
      · exact Or.inl hth
      · exact Or.inr ⟨th', hth', rfl⟩
  accept := h.accept

/-- A thread at a new node marks it, and rests there or goes on. -/
theorem Following.meet (h : Following prog t pos (th :: waiting) seen resting) :
    Following prog t pos (th.moves prog t pos ++ waiting) (seen ||| 1 <<< th.node)
      (if th.rests prog then th :: resting else resting) where
  exits i node hi hnode j hj := by
    rw [testBit_mark, Bool.or_eq_true, decide_eq_true_iff] at hi
    rcases hi with hi | rfl
    · rcases h.exits i node hi hnode j hj with hj | ⟨th', hth', rfl⟩
      · exact Or.inl (by rw [testBit_mark, hj, Bool.true_or])
      · rcases List.mem_cons.1 hth' with rfl | hth'
        · exact Or.inl (by simp)
        · exact Or.inr ⟨th', List.mem_append_right _ hth', rfl⟩
    · rw [← Thread.exits_moves hnode, List.mem_map] at hj
      obtain ⟨th', hth', rfl⟩ := hj
      exact Or.inr ⟨th', List.mem_append_left _ hth', rfl⟩
  accept i hi hnode := by
    rw [testBit_mark, Bool.or_eq_true, decide_eq_true_iff] at hi
    rcases hi with hi | rfl
    · obtain ⟨th', hth', rfl⟩ := h.accept i hi hnode
      refine ⟨th', ?_, rfl⟩
      split
      · exact List.mem_cons_of_mem _ hth'
      · exact hth'
    · have hrests : th.rests prog = true := by simp [Thread.rests, hnode]
      exact ⟨th, by simp [hrests], rfl⟩

/-- **Following is complete**: it ends with no thread waiting, and has met all nodes that it met before and those of the
waiting threads. -/
theorem follow_complete {fuel : Nat} (h : Following prog t pos waiting seen resting)
    (hfuel : waiting.length + 2 * prog.unseen seen ≤ fuel) :
    Following prog t pos [] (follow prog t pos fuel waiting seen resting).1
        (follow prog t pos fuel waiting seen resting).2 ∧
      (∀ i, seen.testBit i = true → (follow prog t pos fuel waiting seen resting).1.testBit i = true) ∧
      ∀ th ∈ waiting, (follow prog t pos fuel waiting seen resting).1.testBit th.node = true := by
  induction fuel generalizing waiting seen resting with
  | zero =>
    obtain rfl : waiting = [] := List.length_eq_zero_iff.1 (by omega)
    exact ⟨h, fun _ hi => hi, by simp⟩
  | succ fuel ih =>
    cases waiting with
    | nil => exact ⟨h, fun _ hi => hi, by simp⟩
    | cons th waiting =>
      rw [List.length_cons] at hfuel
      rw [follow_cons]
      split
      next hseen =>
        obtain ⟨hfollowing, hkept, hmet⟩ := ih (h.drop hseen) (by omega)
        exact ⟨hfollowing, hkept, List.forall_mem_cons.2 ⟨hkept _ hseen, hmet⟩⟩
      next hseen =>
        have hpay := th.moves_unseen prog t pos (by simpa using hseen)
        obtain ⟨hfollowing, hkept, hmet⟩ := ih h.meet (by rw [List.length_append]; omega)
        refine ⟨hfollowing, fun i hi => hkept i ?_, List.forall_mem_cons.2 ⟨hkept _ ?_, fun th' hth' => ?_⟩⟩
        · rw [testBit_mark, hi, Bool.true_or]
        · simp
        · exact hmet th' (List.mem_append_right _ hth')

end Follow

/-! ## The threads with which matching starts -/

/-- Moves stay in a closed set of nodes. -/
theorem Thread.moves_closed {prog : Program} {t : Text} {pos : Nat} {s : Nat → Prop}
    (hs : prog.nodes.Closed (t.before? pos) (t.get? pos) s) {th th' : Thread} (hth : s th.node)
    (hmem : th' ∈ th.moves prog t pos) : s th'.node := by
  cases hnode : prog.nodes[th.node]? with
  | none => simp [Thread.moves, hnode] at hmem
  | some node =>
    refine hs th.node node hnode hth th'.node ?_
    rw [← Thread.exits_moves hnode]
    exact List.mem_map_of_mem hmem

theorem accepts_ofExpr_iff {e : Expr} {th : Thread} : th.accepts (Program.ofExpr e) = true ↔ th.node = 0 := by
  rw [← Program.accept_ofExpr e, Thread.accepts, beq_iff_eq]

/-- **One of the first threads accepts** exactly if the expression is nullable at the position. -/
theorem exists_accepts_iff (e : Expr) (groupCount : Nat) (t : Text) (pos : Nat) :
    (∃ th ∈ (Program.ofExpr e).startThreads groupCount t pos, th.accepts (Program.ofExpr e) = true) ↔
      e.nullable (t.before? pos) (t.get? pos) = true := by
  constructor
  · rintro ⟨th, hth, haccepts⟩
    by_contra hnot
    obtain ⟨s, hs, hentry, hzero⟩ := Program.blocks_ofExpr (Bool.not_eq_true _ ▸ hnot)
    have hnode := Program.startThreads_keep (Q := fun th => s th.node) (fun _ _ h => Thread.moves_closed hs h) hentry
      th hth
    rw [accepts_ofExpr_iff.1 haccepts] at hnode
    exact hzero hnode
  · intro h
    have hunseen : (Program.ofExpr e).unseen 0 ≤ (Program.ofExpr e).nodes.size := by
      refine (Finset.card_filter_le _ _).trans ?_
      rw [Finset.card_range]
    -- nothing is met yet, so there is nothing to show at the start
    have hstart : Following (Program.ofExpr e) t pos [(Program.ofExpr e).firstThread groupCount] 0 [] :=
      ⟨fun i node hi => by simp at hi, fun i hi => by simp at hi⟩
    have hfuel : [(Program.ofExpr e).firstThread groupCount].length + 2 * (Program.ofExpr e).unseen 0 ≤
        followFuel (Program.ofExpr e) := by
      rw [List.length_singleton, followFuel]
      omega
    obtain ⟨hfollowing, -, hmet⟩ := follow_complete hstart hfuel
    have hzero := Program.passes_ofExpr h (fun i node hnode hi j hj => by
      rcases hfollowing.exits i node hi hnode j hj with hj | ⟨th, hth, -⟩
      · exact hj
      · cases hth) (hmet _ List.mem_cons_self)
    obtain ⟨th, hth, hnode⟩ := hfollowing.accept 0 hzero ((Program.accept_ofExpr e 0).2 rfl)
    exact ⟨th, List.mem_reverse.2 hth, accepts_ofExpr_iff.2 hnode⟩

/-! ## Matches -/

/-- The match that starts at a position and takes at most `n` characters. -/
def matchWithin? (p : Pattern) (t : Text) (pos n : Nat) : Option Match :=
  runThreads p.program t pos n pos (p.program.startThreads p.groups t pos) none

theorem matchAt?_eq_matchWithin? (p : Pattern) (t : Text) (pos : Nat) :
    p.matchAt? t pos = p.matchWithin? t pos (t.length - pos) := rfl

theorem matchWithin?_zero (p : Pattern) (t : Text) (pos : Nat) : p.matchWithin? t pos 0 =
    matchSoFar p.program pos pos (p.program.startThreads p.groups t pos) none := by
  rcases runThreads_cases 0 pos (p.program.startThreads p.groups t pos) none with heq | ⟨k, c, hk, -⟩
  · exact heq
  · cases hk

/-- **The empty text is a match** exactly where the expression is nullable. -/
theorem isSome_matchWithin?_zero_iff (source : String) (e : Expr) (t : Text) (pos : Nat) :
    ((ofExpr source e).matchWithin? t pos 0).isSome = true ↔ e.nullable (t.before? pos) (t.get? pos) = true := by
  rw [matchWithin?_zero, matchSoFar, Option.or_none, Option.isSome_map, List.find?_isSome]
  exact exists_accepts_iff e e.groupCount t pos

/-- An empty match is a match of the empty text. -/
theorem isSome_of_empty_match {source : String} {e : Expr} {t : Text} {pos : Nat} {m : Match}
    (h : (ofExpr source e).matchAt? t pos = some m) (hempty : m.span.stop ≤ m.span.start) :
    ((ofExpr source e).matchWithin? t pos 0).isSome = true := by
  rw [isSome_matchWithin?_zero_iff]
  by_contra hnot
  obtain ⟨s, hs, hentry, hzero⟩ := Program.blocks_ofExpr (Bool.not_eq_true _ ▸ hnot)
  have hstart : ∀ th ∈ (Program.ofExpr e).startThreads e.groupCount t pos, pos ≤ pos ∧ (pos = pos → s th.node) :=
    Program.startThreads_keep (fun _ _ h hmem => ⟨h.1, fun hq => Thread.moves_closed hs (h.2 hq) hmem⟩)
      ⟨Nat.le_refl _, fun _ => hentry⟩
  rw [matchAt?, Program.matchAt_eq] at h
  -- as long as no character was consumed, threads stay in the set that does not accept
  obtain hb | ⟨pos', th, hle, -, hth, haccepts, rfl⟩ :=
    runThreads_eq_some (P := fun q th => pos ≤ q ∧ (q = pos → s th.node))
      (fun q th th' hth hmem => ⟨hth.1, fun hq => Thread.moves_closed hs (hth.2 hq) (hq ▸ hmem)⟩)
      (fun q th _ next hth _ => ⟨by omega, fun hq => by omega⟩) hstart h
  · cases hb
  · have hnode := hth.2 (Nat.le_antisymm hempty hle)
    rw [accepts_ofExpr_iff.1 haccepts] at hnode
    exact hzero hnode

/-- A match so far is never given up. -/
theorem runThreads_isSome {prog : Program} {t : Text} {start : Nat} (n pos : Nat) (threads : List Thread)
    (best : Option Match) (h : (matchSoFar prog start pos threads best).isSome = true) :
    (runThreads prog t start n pos threads best).isSome = true := by
  induction n generalizing pos threads best with
  | zero =>
    rcases runThreads_cases 0 pos threads best with heq | ⟨k, c, hk, -⟩
    · rw [heq]
      exact h
    · cases hk
  | succ n ih =>
    rcases runThreads_cases (n + 1) pos threads best with heq | ⟨k, c, hk, -, heq⟩
    · rw [heq]
      exact h
    · cases hk
      rw [heq]
      refine ih _ _ _ ?_
      rw [matchSoFar, Option.isSome_or, h, Bool.or_true]

/-- Where the empty text is a match there is a match, and at the end of the text it is the empty one. -/
theorem exists_match_of_isSome {p : Pattern} {t : Text} {pos : Nat} (h : (p.matchWithin? t pos 0).isSome = true) :
    ∃ m, p.matchAt? t pos = some m ∧ (t.length ≤ pos → m.span = ⟨pos, pos⟩) := by
  rw [matchWithin?_zero] at h
  obtain ⟨m, hm⟩ : ∃ m, p.matchAt? t pos = some m := Option.isSome_iff_exists.1 (runThreads_isSome _ pos _ none h)
  refine ⟨m, hm, fun hend => ?_⟩
  rw [matchAt?_eq_matchWithin?, Nat.sub_eq_zero_of_le hend, matchWithin?_zero] at hm
  rcases matchSoFar_eq_some hm with hb | ⟨th', -, -, rfl⟩
  · cases hb
  · rfl

/-! ## Patterns that passed the check -/

theorem exists_read_of_compile {source : String} {p : Pattern} (h : compile source = .ok p) :
    ∃ e, read source = .ok e ∧ p = ofExpr source e := by
  unfold compile at h
  cases hread : read source with
  | error fault =>
    rw [hread] at h
    cases h
  | ok e =>
    rw [hread] at h
    refine ⟨e, rfl, ?_⟩
    cases hfits : e.fits with
    | false => simp [hfits, bind, Except.bind, throw, throwThe, MonadExceptOf.throw] at h
    | true =>
      simp only [hfits, bind, Except.bind, ↓reduceIte, pure, Except.pure, Except.ok.injEq] at h
      exact h.symm

/-- Any two neighbours can be met in some text. -/
theorem exists_neighbours (before after : Option Char) :
    ∃ (t : Text) (pos : Nat), t.before? pos = before ∧ t.get? pos = after := by
  refine ⟨Text.ofList (before.toList ++ after.toList), before.toList.length, ?_, ?_⟩
  · cases before <;> simp [Text.before?, Text.ofList]
  · cases before <;> cases after <;> simp [Text.get?, Text.ofList]

/-- **What the check for the empty text ensures.** A pattern that was not found to match the empty text never does so
exactly if all of its sets have members, which makes its least length known, or if its expression is never nullable. In
general it matches the empty text where its expression is nullable, and then a set without members is to blame. An empty
match is found at no other position, and at the end of the text it is found at all of these. The patterns that the rules
of a built grammar start with are of this kind. -/
theorem checked_pattern_empty_match_iff {source : String} {p : Pattern} {e : Expr} (hread : read source = .ok e)
    (hcompile : compile source = .ok p) (hempty : p.canMatchEmpty = false) :
    ((∀ t pos, p.matchWithin? t pos 0 = none) ↔
      e.hasEmptySet = false ∨ ∀ before after, e.nullable before after = false) ∧
    (∀ t pos, (p.matchWithin? t pos 0).isSome = true ↔
      e.hasEmptySet = true ∧ e.nullable (t.before? pos) (t.get? pos) = true) ∧
    (∀ t pos m, p.matchAt? t pos = some m → m.span.stop ≤ m.span.start → (p.matchWithin? t pos 0).isSome = true) ∧
    (∀ t pos, (p.matchWithin? t pos 0).isSome = true →
      ∃ m, p.matchAt? t pos = some m ∧ (t.length ≤ pos → m.span = ⟨pos, pos⟩)) ∧
    ∀ (d : GrammarDefinition) (g : Grammar), d.build = .ok g → ∀ rule ∈ g.rules, ∃ source' p',
      compile source' = .ok p' ∧ p'.canMatchEmpty = false ∧ g.patterns[rule.entry]? = some p' := by
  obtain ⟨e', hread', rfl⟩ := exists_read_of_compile hcompile
  rw [hread] at hread'
  cases hread'
  have hset : ∀ {before after : Option Char}, e.nullable before after = true → e.hasEmptySet = true := by
    intro before after hnullable
    rw [← Expr.minLength_eq_none_iff]
    cases hn : e.minLength with
    | none => rfl
    | some n =>
      -- a least length that is known is 0 here, and the check would have found that
      rw [Expr.minLength_of_nullable hnullable hn] at hn
      simp [ofExpr, hn] at hempty
  have hiff : ∀ t pos, ((ofExpr source e).matchWithin? t pos 0).isSome = true ↔
      e.hasEmptySet = true ∧ e.nullable (t.before? pos) (t.get? pos) = true := by
    intro t pos
    rw [isSome_matchWithin?_zero_iff]
    exact ⟨fun h => ⟨hset h, h⟩, fun h => h.2⟩
  refine ⟨⟨fun hnone => ?_, fun hnever t pos => ?_⟩, hiff, fun t pos m => isSome_of_empty_match,
    fun t pos => exists_match_of_isSome, fun d g hbuild => GrammarDefinition.entries_build hbuild⟩
  · right
    intro before after
    obtain ⟨t, pos, rfl, rfl⟩ := exists_neighbours before after
    by_contra hnot
    have hsome := (hiff t pos).2 ⟨hset (Bool.not_eq_false _ ▸ hnot), Bool.not_eq_false _ ▸ hnot⟩
    rw [hnone t pos] at hsome
    cases hsome
  · rw [← Option.not_isSome_iff_eq_none, hiff]
    rintro ⟨hhas, hnullable⟩
    rcases hnever with hnever | hnever
    · rw [hnever] at hhas
      cases hhas
    · rw [hnever] at hnullable
      cases hnullable

/-- A pattern without an empty set never matches the empty text; with one it may. -/
theorem checked_pattern_empty_match_instances :
    (∀ t pos, (ofExpr "a" (.set (.singleton 'a'))).matchWithin? t pos 0 = none) ∧
    ¬ ∀ t pos, (ofExpr "[a&&b]|" (.alt (.set .empty) .empty)).matchWithin? t pos 0 = none := by
  have hread : read "a" = .ok (.set (.singleton 'a')) := by cbv
  have hcompile : compile "a" = .ok (ofExpr "a" (.set (.singleton 'a'))) := by cbv
  have hread' : read "[a&&b]|" = .ok (.alt (.set .empty) .empty) := by cbv
  have hcompile' : compile "[a&&b]|" = .ok (ofExpr "[a&&b]|" (.alt (.set .empty) .empty)) := by cbv
  refine ⟨(checked_pattern_empty_match_iff hread hcompile (by decide)).1.2 (Or.inl rfl), fun hnone => ?_⟩
  rcases (checked_pattern_empty_match_iff hread' hcompile' (by decide)).1.1 hnone with hset | hnever
  · cases hset
  · cases hnever none none

/-- A region that starts with a set without members or with nothing at all, and that may hold itself. -/
def openingNothing : Grammar where
  name := "main"
  root := 0
  sets := #[⟨"main", [.rule 0]⟩]
  rules := #[.region ⟨0, 1, some "s", none, [], [], [.ruleSet 0]⟩]
  patterns := #[ofExpr "[a&&b]|" (.alt (.set .empty) .empty), ofExpr "x" (.set (.singleton 'x'))]

/-- The check passes an alternative of a set without members and the empty text, which matches the empty text, and a
grammar in which regions start with it opens them for ever. -/
theorem checked_pattern_matches_empty :
    (∃ p m, compile "[a&&b]|" = .ok p ∧ p.canMatchEmpty = false ∧ p.matchAt? (Text.ofString "") 0 = some m ∧
      m.span = ⟨0, 0⟩) ∧
    Grammar.ofRuleSets [("main", [(RuleDefinition.ofRegion "[a&&b]|" "x" "s").withChildren [.reference "main"]])]
      "main" = .ok openingNothing ∧
    ((Run.start openingNothing "a").take 1).2.2 = .stalled := by
  have hcompile : compile "[a&&b]|" = .ok (ofExpr "[a&&b]|" (.alt (.set .empty) .empty)) := by cbv
  have hmatch : ((ofExpr "[a&&b]|" (.alt (.set .empty) .empty)).matchAt? (Text.ofString "") 0).map Match.span =
      some ⟨0, 0⟩ := by decide +kernel
  obtain ⟨m, hm, hspan⟩ := Option.map_eq_some_iff.1 hmatch
  exact ⟨⟨_, m, hcompile, by decide, hm, hspan⟩, by cbv, by decide +kernel⟩

end Highlight.Pattern
