import Highlight.Proofs.Coverage
import Mathlib.Data.List.Nodup
import Mathlib.Data.List.Perm.Subperm

/-!
# A pull that stalls stalls for ever

A pull gives up after `Run.silentSteps` steps without a token. That is late enough: a run that makes so many silent
steps makes them for ever, so such a pull can never return.

* **Moves** (`PlainState.silentMove?`): a silent step stays where it is. It closes the innermost region, or leaves all
  as it is, or enters one more region, and which of these it does depends on the rule of the innermost region alone.
* **Regions** (`PlainState.silent_of_entered`): once a region was entered, the run comes back to where it was, or stays,
  or enters one region after the other until a rule comes again.
* **Runs** (`PlainState.silent_of_le`, `Run.After.stalled_forever`): before that, each silent step closes a region.
-/

namespace Highlight

/-- What a step without a token does to the open regions. -/
inductive Move where
  | close
  | stay
  | enter (rule : RegionRule)

namespace PlainState

/-- The rule of the innermost region. -/
def top (s : PlainState) : Option RegionRule := s.frames.head?.map Frame.rule

/-- What the next step does, if it delivers no token. -/
def silentMove? (g : Grammar) (t : Text) (s : PlainState) : Option Move :=
  if t.length ≤ s.pos then none
  else
    match (s.closing? g t).map Prod.snd with
    | some m => if m.span.stop = s.pos then some .close else none
    | none =>
      match s.winner? g t with
      | some (.single _, m) => if m.span.stop = s.pos then some .stay else none
      | some (.region r, m) => if m.span.stop = s.pos then some (.enter r) else none
      | none => none

variable {g : Grammar} {t : Text} {s s' : PlainState}

theorem map_snd_closing? (g : Grammar) (t : Text) (s : PlainState) :
    (s.closing? g t).map Prod.snd = s.top.bind fun r => g.freshMatch t r.closing s.pos := by
  unfold closing? top
  cases s.frames.head? with
  | none => rfl
  | some f =>
    simp only [Option.bind_some, Option.map_some]
    cases g.freshMatch t f.rule.closing s.pos <;> rfl

/-- The rule of the innermost region decides. -/
theorem silentMove?_congr (hpos : s.pos = s'.pos) (htop : s.top = s'.top) :
    s.silentMove? g t = s'.silentMove? g t := by
  have hrules : s.rules g = s'.rules g := by
    unfold top at htop
    unfold rules
    cases hf : s.frames <;> cases hf' : s'.frames <;> simp_all
  have hwinner : s.winner? g t = s'.winner? g t := by
    unfold winner? ruleMatch?
    rw [hrules, hpos]
  unfold silentMove?
  rw [map_snd_closing?, map_snd_closing?, hwinner, hpos, htop]

end PlainState

/-- What a move leads to. -/
def Move.Takes (g : Grammar) (s s' : PlainState) : Move → Prop
  | .close => s'.pos = s.pos ∧ ∃ f, s.frames = f :: s'.frames
  | .stay => s' = s
  | .enter r => .region r ∈ g.rules ∧ ∃ f, f.rule = r ∧ s' = { s with frames := f :: s.frames }

/-- A delivery over no characters is empty, and the other way round. -/
theorem Delivery.eq_nil_iff {t : Text} {i j : Nat} {toks : List Token} (h : Delivery t i j toks) :
    toks = [] ↔ j = i := by
  cases h with
  | nothing => simp
  | primary hij => simp [Nat.ne_of_gt hij]

namespace PlainState

variable {g : Grammar} {t : Text} {s s' : PlainState}

/-- The step makes the silent move that was foreseen, or it is not silent. -/
def Foreseen (g : Grammar) (t : Text) (s : PlainState) (out : Option (List Token) × PlainState) : Prop :=
  (∃ move, s.silentMove? g t = some move ∧ move.Takes g s out.2 ∧ out.1 = some []) ∨
    s.silentMove? g t = none ∧ out.1 ≠ some []

theorem foreseen_of_delivery (move : Move) {stop : Nat} {toks : List Token}
    (hmove : s.silentMove? g t = if stop = s.pos then some move else none) (hdelivery : Delivery t s.pos stop toks)
    (htakes : stop = s.pos → move.Takes g s s') : Foreseen g t s (some toks, s') := by
  by_cases hstop : stop = s.pos
  · refine Or.inl ⟨move, by rw [hmove, if_pos hstop], htakes hstop, ?_⟩
    rw [hdelivery.eq_nil_iff.2 hstop]
  · refine Or.inr ⟨by rw [hmove, if_neg hstop], fun hnil => hstop ?_⟩
    exact hdelivery.eq_nil_iff.1 (Option.some.inj hnil)

theorem foreseen_step (g : Grammar) {t : Text} {s : PlainState} (hs : s.pos ≤ t.length) :
    Foreseen g t s (s.step g t) := by
  have hdelivery := (delivery_step (g := g) hs).2
  generalize hout : s.step g t = out at hdelivery ⊢
  have houtcome := s.step_outcome g t
  rw [hout] at houtcome
  cases houtcome with
  | stop hend => exact Or.inr ⟨by simp [silentMove?, hend], by simp⟩
  | close hpos hf hm =>
    refine foreseen_of_delivery .close ?_ hdelivery fun hstop => ⟨hstop, _, hf⟩
    simp [silentMove?, Nat.not_le.2 hpos, map_snd_closing?, top, hf, hm]
  | @single id r m hpos hc hw hid hr hm =>
    refine foreseen_of_delivery .stay ?_ hdelivery fun hstop => ?_
    · simp [silentMove?, Nat.not_le.2 hpos, hc, hw]
    · show ({ s with pos := m.span.stop } : PlainState) = s
      rw [show m.span.stop = s.pos from hstop]
  | @region id r m hpos hc hw hid hr hm =>
    refine foreseen_of_delivery (.enter r) ?_ hdelivery fun hstop => ?_
    · simp [silentMove?, Nat.not_le.2 hpos, hc, hw]
    · refine ⟨Array.mem_of_getElem? hr,
        ⟨r, s.content.extend r.scope, (s.content.extend r.scope).extend r.contentScope⟩, rfl, ?_⟩
      rw [show m.span.stop = s.pos from hstop]
  | fallback hpos hc hw => exact Or.inr ⟨by simp [silentMove?, Nat.not_le.2 hpos, hc, hw], by simp [tokenOf]⟩

/-- A silent step makes the move that was foreseen. -/
theorem move_of_silent (hs : s.pos ≤ t.length) (h : s.step g t = (some [], s')) :
    ∃ move, s.silentMove? g t = some move ∧ move.Takes g s s' := by
  rcases foreseen_step g hs with ⟨move, hmove, htakes, -⟩ | ⟨-, hloud⟩
  · rw [h] at htakes
    exact ⟨move, hmove, htakes⟩
  · rw [h] at hloud
    exact absurd rfl hloud

/-- A silent move that is foreseen is made. -/
theorem silent_of_move (hs : s.pos ≤ t.length) {move : Move} (h : s.silentMove? g t = some move) :
    ∃ s', s.step g t = (some [], s') ∧ move.Takes g s s' := by
  rcases foreseen_step g hs with ⟨move', hmove, htakes, hsilent⟩ | ⟨hnone, -⟩
  · rw [h] at hmove
    cases hmove
    exact ⟨_, Prod.ext hsilent rfl, htakes⟩
  · rw [h] at hnone
    cases hnone

/-! ## Silent for ever -/

/-- The next `n` steps deliver no token. -/
def Silent (g : Grammar) (t : Text) : Nat → PlainState → Prop
  | 0, _ => True
  | n + 1, s => ∃ s', s.step g t = (some [], s') ∧ Silent g t n s'

/-- Where silent steps do not leave a set of states, they go on for ever. -/
theorem silent_of_closed {S : PlainState → Prop} (hS : ∀ s, S s → ∃ s', s.step g t = (some [], s') ∧ S s') :
    ∀ (n : Nat) {s : PlainState}, S s → Silent g t n s
  | 0, _, _ => trivial
  | n + 1, s, h => by
    obtain ⟨s', hstep, hs'⟩ := hS s h
    exact ⟨s', hstep, silent_of_closed hS n hs'⟩

theorem silent_of_step (h : s.step g t = (some [], s')) (hs' : ∀ n, Silent g t n s') : ∀ n, Silent g t n s
  | 0 => trivial
  | n + 1 => ⟨s', h, hs' n⟩

/-- Distinct region rules of a grammar are no more than its rules. -/
theorem length_le_rules {chain : List RegionRule} (hnodup : chain.Nodup) (hrules : ∀ r ∈ chain, .region r ∈ g.rules) :
    chain.length ≤ g.rules.size := by
  have hsub : chain.map Rule.region ⊆ g.rules.toList := by
    intro rule hrule
    obtain ⟨r, hr, rfl⟩ := List.mem_map.1 hrule
    exact Array.mem_toList_iff.2 (hrules r hr)
  have hmap : (chain.map Rule.region).Nodup := List.Nodup.map (fun _ _ h => Rule.region.inj h) hnodup
  have hle := (hmap.subperm hsub).length_le
  rwa [List.length_map, Array.length_toList] at hle

/-- **A region was entered in silence.** The rules entered so far are in `chain`, the last one first, and each of them
enters the next. The step after that goes back, or stays, or enters one more region; and when there are no more rules,
one of the chain comes again. -/
theorem silent_of_entered : ∀ (n : Nat) {chain : List RegionRule} {r : RegionRule} {s s' : PlainState},
    s.pos ≤ t.length → s.step g t = (some [], s') → (Move.enter r).Takes g s s' →
    (r :: chain).Nodup → (∀ r' ∈ r :: chain, .region r' ∈ g.rules) →
    (∀ r' ∈ chain, ∃ next ∈ r :: chain, ∀ u : PlainState, u.pos = s.pos → u.top = some r' →
      u.silentMove? g t = some (.enter next)) →
    g.rules.size < n + (r :: chain).length → Silent g t n s' → ∀ k, Silent g t k s'
  | 0, chain, r, s, s', _, _, _, hnodup, hrules, _, hsize, _ => by
    have hle := length_le_rules hnodup hrules
    omega
  | n + 1, chain, r, s, s', hs, hentered, htakes, hnodup, hrules, hchain, hsize, ⟨s'', hstep, hsilent⟩ => by
    obtain ⟨hr, f, hf, hs'⟩ := htakes
    have hpos : s'.pos = s.pos := by rw [hs']
    have htop : s'.top = some r := by
      rw [hs', ← hf]
      rfl
    obtain ⟨move, hmove, htakes'⟩ := move_of_silent (hpos ▸ hs) hstep
    cases move with
    | stay =>
      -- the same step again and again
      obtain rfl : s'' = s' := htakes'
      exact fun k => silent_of_closed (S := fun u => u = s'') (fun u hu => ⟨s'', hu ▸ hstep, rfl⟩) k rfl
    | close =>
      -- back to where the region was entered
      obtain ⟨hpos', f', hframes⟩ := htakes'
      have hback : s'' = s := by
        rw [hs'] at hframes
        obtain ⟨pos, frames⟩ := s
        obtain ⟨pos', frames'⟩ := s''
        obtain ⟨-, rfl⟩ := List.cons.inj hframes
        rw [show pos' = pos from hpos'.trans hpos]
      refine fun k => silent_of_closed (S := fun u => u = s ∨ u = s') (fun u hu => ?_) k (Or.inr rfl)
      rcases hu with rfl | rfl
      · exact ⟨s', hentered, Or.inr rfl⟩
      · exact ⟨s'', hstep, Or.inl hback⟩
    | enter r' =>
      have henters : ∀ u : PlainState, u.pos = s.pos → u.top = some r → u.silentMove? g t = some (.enter r') := by
        intro u hu hutop
        rw [silentMove?_congr (hu.trans hpos.symm) (hutop.trans htop.symm), hmove]
      by_cases hagain : r' ∈ r :: chain
      · -- every rule of the chain enters one of the chain
        have hcycle : ∀ x ∈ r :: chain, ∃ next ∈ r :: chain, ∀ u : PlainState, u.pos = s.pos → u.top = some x →
            u.silentMove? g t = some (.enter next) :=
          List.forall_mem_cons.2 ⟨⟨r', hagain, henters⟩, hchain⟩
        refine fun k => silent_of_closed (S := fun u => u.pos = s.pos ∧ ∃ x ∈ r :: chain, u.top = some x)
          (fun u hu => ?_) k ⟨hpos, r, List.mem_cons_self, htop⟩
        obtain ⟨hupos, x, hx, hutop⟩ := hu
        obtain ⟨next, hnext, hall⟩ := hcycle x hx
        obtain ⟨u', hu', -, f', hf', rfl⟩ := silent_of_move (hupos ▸ hs) (hall u hupos hutop)
        refine ⟨_, hu', hupos, next, hnext, ?_⟩
        rw [← hf']
        rfl
      · refine silent_of_step hstep (silent_of_entered n (hpos ▸ hs) hstep htakes' (List.nodup_cons.2 ⟨hagain, hnodup⟩)
          (List.forall_mem_cons.2 ⟨htakes'.1, hrules⟩) ?_ ?_ hsilent)
        · rw [hpos]
          refine List.forall_mem_cons.2 ⟨⟨r', List.mem_cons_self, henters⟩, fun x hx => ?_⟩
          obtain ⟨next, hnext, hall⟩ := hchain x hx
          exact ⟨next, List.mem_cons_of_mem _ hnext, hall⟩
        · simp only [List.length_cons] at hsize ⊢
          omega

/-- **So many silent steps** are silent steps for ever: they close the regions that are open, one by one, and then enter
regions. -/
theorem silent_of_le : ∀ (n : Nat) {s : PlainState}, s.pos ≤ t.length → s.frames.length + g.rules.size + 2 ≤ n →
    Silent g t n s → ∀ k, Silent g t k s
  | 0, s, _, hn, _ => by omega
  | n + 1, s, hs, hn, ⟨s', hstep, hsilent⟩ => by
    obtain ⟨move, -, htakes⟩ := move_of_silent hs hstep
    cases move with
    | stay =>
      obtain rfl : s' = s := htakes
      exact fun k => silent_of_closed (S := fun u => u = s') (fun u hu => ⟨s', hu ▸ hstep, rfl⟩) k rfl
    | close =>
      obtain ⟨hpos, f, hframes⟩ := htakes
      refine silent_of_step hstep (silent_of_le n (hpos ▸ hs) ?_ hsilent)
      rw [hframes, List.length_cons] at hn
      omega
    | enter r =>
      refine silent_of_step hstep (silent_of_entered n hs hstep htakes (List.nodup_singleton r) ?_ ?_ ?_ hsilent)
      · exact List.forall_mem_singleton.2 htakes.1
      · simp
      · rw [List.length_singleton]
        omega

end PlainState

/-! ## Pulls -/

namespace Run

variable {g : Grammar} {source : String} {tokens : List Token}

/-- A step of a run delivers what the step of the plain machine delivers. -/
theorem After.step_fst {n : Nat} {r : Run} (h : After g source n tokens r) : (r.cursor.step r.grammar r.text).1 =
    ((plainRun g (Text.ofString source) n).2.step g (Text.ofString source)).1 := by
  rw [h.grammar, h.refines.step.1, h.text]

/-- Steps up to the next token stall exactly if that many steps are silent. -/
theorem After.stalled_iff {fuel n : Nat} {r : Run} (h : After g source n tokens r) (hp : r.pending = []) :
    (∃ r', Run.stepUntilToken fuel r = .stalled r') ↔
      (plainRun g (Text.ofString source) n).2.Silent g (Text.ofString source) fuel := by
  induction fuel generalizing n r with
  | zero => exact ⟨fun _ => trivial, fun _ => ⟨r, rfl⟩⟩
  | succ fuel ih =>
    have hfst := h.step_fst
    unfold Run.stepUntilToken PlainState.Silent
    cases hc : r.cursor.step r.grammar r.text with
    | mk delivered c =>
      rw [hc] at hfst
      cases delivered with
      | none =>
        constructor
        · rintro ⟨r', hr'⟩
          cases hr'
        · rintro ⟨s', hs', -⟩
          rw [hs'] at hfst
          cases hfst
      | some waiting =>
        cases waiting with
        | nil =>
          have hsilent : (plainRun g (Text.ofString source) n).2.step g (Text.ofString source) =
              (some [], (plainRun g (Text.ofString source) (n + 1)).2) := Prod.ext hfst.symm rfl
          dsimp only
          rw [ih (h.silent hp hc) hp]
          constructor
          · intro hrest
            exact ⟨_, hsilent, hrest⟩
          · rintro ⟨s', hs', hrest⟩
            rw [hsilent] at hs'
            cases hs'
            exact hrest
        | cons token waiting =>
          constructor
          · rintro ⟨r', hr'⟩
            cases hr'
          · rintro ⟨s', hs', -⟩
            rw [hs'] at hfst
            cases hfst

/-- A pull stalls only if no token waits. -/
theorem pending_of_stalled {r r' : Run} (hnext : r.next = .stalled r') : r.pending = [] := by
  cases hp : r.pending with
  | nil => rfl
  | cons token waiting => simp [Run.next, hp] at hnext

/-- **A pull that stalls** would stall after any number of steps. -/
theorem After.stalled_forever {n : Nat} {r r' : Run} (h : After g source n tokens r) (hnext : r.next = .stalled r') :
    ∀ k, ∃ r'', Run.stepUntilToken k r = .stalled r'' := by
  have hp := pending_of_stalled hnext
  rw [Run.next, hp] at hnext
  have hsilent := (h.stalled_iff hp).1 ⟨r', hnext⟩
  intro k
  refine (h.stalled_iff hp).2 (PlainState.silent_of_le _ (plainRun_tiles g (Text.ofString source) n).1 ?_ hsilent k)
  rw [silentSteps, h.refines.frames, h.grammar]

end Run

end Highlight
