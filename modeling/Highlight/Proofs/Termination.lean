import Highlight.Proofs.Stalls

/-!
# Runs end

Where no rule can start with an empty match in the text (`Grammar.ConsumesIn`), a run ends, and it ends early.

* **Steps** (`PlainState.weight_step`): a position that is left behind counts twice and an open region once, so that the
  opening match pays for the step that closes the region, which may walk over nothing. Every step that is not the last
  one makes the weight less (`successes_add_weight_le`).
* **Pulls** (`Run.After.next_ne_stalled`): a step without a token closes a region, so a pull makes at most one more step
  than there are open regions.
* **The whole run** (`Run.finished_rest`): the tokens of all steps are fewer than `Run.rest` takes.
* **After the end** (`Run.AtEnd.pulled`): pulls at the end of the text find the end again.
-/

namespace Highlight

/-- No rule starts with an empty match in the text. -/
def Grammar.ConsumesIn (g : Grammar) (t : Text) : Prop :=
  ∀ rule ∈ g.rules, ∀ pos ≤ t.length, ∀ m, g.freshMatch t rule.entry pos = some m → m.span.start < m.span.stop

instance (g : Grammar) (t : Text) : Decidable (g.ConsumesIn t) :=
  decidable_of_iff ((g.rules.toList.all fun rule => (List.range (t.length + 1)).all fun pos =>
      (g.freshMatch t rule.entry pos).all fun m => decide (m.span.start < m.span.stop)) = true) <| by
    simp only [Grammar.ConsumesIn, List.all_eq_true, Array.mem_toList_iff, List.mem_range, Nat.lt_succ_iff,
      Option.all_eq_true, decide_eq_true_iff]

/-! ## Steps -/

/-- What is left to do: every character twice, and every open region once. -/
def PlainState.weight (t : Text) (s : PlainState) : Nat := 2 * (t.length - s.pos) + s.frames.length

/-- A rule that applies here walks over some text. -/
theorem Grammar.ConsumesIn.lt_stop {g : Grammar} {t : Text} (h : g.ConsumesIn t) {id pos : Nat} {rule : Rule}
    {m : Pattern.Match} (hrule : g.rules[id]? = some rule) (hpos : pos ≤ t.length)
    (hm : g.freshMatch t rule.entry pos = some m) : pos < m.span.stop ∧ m.span.stop ≤ t.length := by
  have hlt := h rule (Array.mem_of_getElem? hrule) pos hpos m hm
  have hwithin := Grammar.freshMatch_within hpos hm
  rw [hwithin.start_eq] at hlt
  exact ⟨hlt, hwithin.stop_le⟩

/-- **Every step but the last** makes the weight less. -/
theorem PlainState.weight_step {g : Grammar} {t : Text} (h : g.ConsumesIn t) {s : PlainState} (hs : s.pos ≤ t.length) :
    (s.step g t).2.weight t + (if (s.step g t).1.isSome then 1 else 0) ≤ s.weight t := by
  generalize hout : s.step g t = out
  have houtcome := s.step_outcome g t
  rw [hout] at houtcome
  cases houtcome with
  | stop hend => simp [weight]
  | close hpos hf hm =>
    have hwithin := Grammar.freshMatch_within hs hm
    have hle := hwithin.le_stop
    simp only [weight, hf, List.length_cons, Option.isSome_some, ↓reduceIte]
    omega
  | single hpos hc hw hid hr hm =>
    obtain ⟨hlt, hle⟩ := h.lt_stop hr hs hm
    simp only [weight, Option.isSome_some, ↓reduceIte]
    omega
  | region hpos hc hw hid hr hm =>
    obtain ⟨hlt, hle⟩ := h.lt_stop hr hs hm
    simp only [weight, List.length_cons, Option.isSome_some, ↓reduceIte]
    omega
  | fallback hpos hc hw =>
    simp only [weight, Option.isSome_some, ↓reduceIte]
    omega

/-- How many of the first `n` steps are not steps at the end of the text. -/
def successes (g : Grammar) (t : Text) : Nat → Nat
  | 0 => 0
  | n + 1 => successes g t n + if ((cursorRun g t n).2.step g t).1.isSome then 1 else 0

theorem successes_add_weight_le {g : Grammar} {t : Text} (h : g.ConsumesIn t) : ∀ n : Nat,
    successes g t n + (plainRun g t n).2.weight t ≤ 2 * t.length
  | 0 => by simp [successes, plainRun, steps, PlainState.start, PlainState.weight]
  | n + 1 => by
    have ih := successes_add_weight_le h n
    have hstep := PlainState.weight_step h (plainRun_tiles g t n).1
    rw [← (cursorRun_eq_plainRun g t n).2.step.1] at hstep
    have hrun : (plainRun g t (n + 1)).2 = ((plainRun g t n).2.step g t).2 := rfl
    rw [hrun, successes]
    omega

theorem length_le_utf8ByteSize (source : String) : source.length ≤ source.utf8ByteSize := by
  rw [← String.length_toList, ← String.utf8Len_toList]
  exact length_le_utf8Len _

/-- At most two steps for each character are not steps at the end of the text. -/
theorem successes_le {g : Grammar} {source : String} (h : g.ConsumesIn (Text.ofString source)) (n : Nat) :
    successes g (Text.ofString source) n ≤ 2 * source.length := by
  have hle := successes_add_weight_le h n
  rw [Text.length_ofString] at hle
  omega

/-! ## Pulls -/

/-- A step that delivers no token closes a region. -/
theorem PlainState.length_frames_of_silent {g : Grammar} {t : Text} (h : g.ConsumesIn t) {s s' : PlainState}
    (hs : s.pos ≤ t.length) (hstep : s.step g t = (some [], s')) : s'.frames.length < s.frames.length := by
  have houtcome := s.step_outcome g t
  generalize hout : s.step g t = out at houtcome
  rw [hstep] at hout
  cases houtcome with
  | stop hend => cases hout
  | close hpos hf hm =>
    obtain ⟨-, rfl⟩ := Prod.mk.inj hout
    rw [hf]
    exact Nat.lt_succ_self _
  | single hpos hc hw hid hr hm =>
    obtain ⟨hlt, -⟩ := h.lt_stop hr hs hm
    rw [← (Grammar.freshMatch_within hs hm).start_eq] at hlt
    simp [tokenOf, hlt] at hout
  | region hpos hc hw hid hr hm =>
    obtain ⟨hlt, -⟩ := h.lt_stop hr hs hm
    rw [← (Grammar.freshMatch_within hs hm).start_eq] at hlt
    simp [tokenOf, hlt] at hout
  | fallback hpos hc hw => simp [tokenOf] at hout

/-- There are no more silent steps in a row than open regions. -/
theorem PlainState.not_silent {g : Grammar} {t : Text} (h : g.ConsumesIn t) : ∀ (n : Nat) {s : PlainState},
    s.pos ≤ t.length → s.frames.length < n → ¬ s.Silent g t n
  | n + 1, s, hs, hn, ⟨s', hstep, hsilent⟩ => by
    have hframes := length_frames_of_silent h hs hstep
    have hs' := (delivery_step (g := g) hs).1
    rw [hstep] at hs'
    exact not_silent h n hs' (Nat.lt_of_lt_of_le hframes (Nat.le_of_lt_succ hn)) hsilent

namespace Run

variable {g : Grammar} {source : String} {tokens : List Token}

/-- **Every pull returns.** -/
theorem After.next_ne_stalled (hg : g.ConsumesIn (Text.ofString source)) {n : Nat} {r : Run}
    (h : After g source n tokens r) (r' : Run) : r.next ≠ .stalled r' := by
  unfold Run.next
  cases hp : r.pending with
  | nil =>
    intro hstalled
    have hsilent := (h.stalled_iff hp).1 ⟨r', hstalled⟩
    refine PlainState.not_silent hg _ (plainRun_tiles g (Text.ofString source) n).1 ?_ hsilent
    rw [silentSteps, h.refines.frames]
    omega
  | cons token waiting => simp

/-! ## After the end -/

/-- A pull at the end of the text finds the end and stays there. -/
theorem AtEnd.next {r : Run} (h : r.AtEnd) : ∃ r', r.next = .finished r' ∧ r'.AtEnd ∧ r'.text = r.text ∧
    r'.cursor.pos = r.cursor.pos := by
  refine ⟨{ r with cursor := { r.cursor with frames := [] } }, ?_, ⟨h.pos, rfl, h.pending⟩, rfl, rfl⟩
  have hnext : r.next = Run.stepUntilToken r.silentSteps r := by rw [Run.next, h.pending]
  rw [hnext, silentSteps, Run.stepUntilToken, Cursor.step, if_pos h.pos]

/-- **Any number of pulls at the end of the text** find the end. -/
theorem AtEnd.pulled {r r' : Run} (h : r.AtEnd) (hpulled : r.Pulled tokens r') :
    tokens = [] ∧ r'.AtEnd ∧ r'.text = r.text ∧ r'.cursor.pos = r.cursor.pos := by
  induction hpulled with
  | none => exact ⟨rfl, h, rfl, rfl⟩
  | token _ hnext ih =>
    obtain ⟨r₂, hfinished, -⟩ := ih.2.1.next
    rw [hnext] at hfinished
    cases hfinished
  | finished _ hnext ih =>
    obtain ⟨r₂, hfinished, hend, htext, hpos⟩ := ih.2.1.next
    rw [hnext] at hfinished
    cases hfinished
    exact ⟨ih.1, hend, htext.trans ih.2.2.1, hpos.trans ih.2.2.2⟩

end Run

/-! ## All tokens of a run -/

theorem length_tokenOf_le (t : Text) (span : Pattern.Span) (kind : TokenKind) (scopes : ScopePath) :
    (tokenOf t span kind scopes).length ≤ 1 := by
  unfold tokenOf
  split <;> simp

theorem length_captureTokens_le (t : Text) (m : Pattern.Match) (captures : Captures) (base : ScopePath) :
    (captureTokens t m captures base).length ≤ captures.length := by
  have hone : ∀ found : List (Nat × Pattern.Span × String),
      (found.flatMap fun g => tokenOf t g.2.1 .capture (base.push g.2.2)).length ≤ found.length := by
    intro found
    induction found with
    | nil => exact Nat.le_refl _
    | cons g found ih =>
      have hle := length_tokenOf_le t g.2.1 .capture (base.push g.2.2)
      rw [List.flatMap_cons, List.length_append, List.length_cons]
      omega
  refine (hone _).trans ?_
  rw [List.length_mergeSort]
  exact List.length_filterMap_le _ _

/-- A match delivers a token for itself and for each of its groups at most. -/
theorem length_delivered_le (t : Text) (m : Pattern.Match) (kind : TokenKind) (scopes base : ScopePath)
    (captures : Captures) :
    (tokenOf t m.span kind scopes ++ captureTokens t m captures base).length ≤ captures.length + 1 := by
  have htoken := length_tokenOf_le t m.span kind scopes
  have hcaptures := length_captureTokens_le t m captures base
  rw [List.length_append]
  omega

/-- How many tokens a rule can deliver in one step. -/
def Rule.maxTokens : Rule → Nat
  | .single r => r.captures.length + 1
  | .region r => max r.openingCaptures.length r.closingCaptures.length + 1

theorem tokensPerStep_eq (g : Grammar) :
    Run.tokensPerStep g = (g.rules.toList.map Rule.maxTokens).foldl max 1 := by
  unfold Run.tokensPerStep
  rw [← Array.foldl_toList, List.foldl_map]
  congr 1
  funext n rule
  cases rule <;> rfl

theorem le_foldl_max : ∀ (ns : List Nat) (n : Nat), n ≤ ns.foldl max n ∧ ∀ k ∈ ns, k ≤ ns.foldl max n
  | [], n => ⟨Nat.le_refl n, by simp⟩
  | k :: ns, n => by
    obtain ⟨hle, hall⟩ := le_foldl_max ns (max n k)
    rw [List.foldl_cons]
    exact ⟨(Nat.le_max_left n k).trans hle, List.forall_mem_cons.2 ⟨(Nat.le_max_right n k).trans hle, hall⟩⟩

theorem maxTokens_le_tokensPerStep {g : Grammar} {rule : Rule} (h : rule ∈ g.rules) :
    rule.maxTokens ≤ Run.tokensPerStep g := by
  rw [tokensPerStep_eq]
  exact (le_foldl_max _ _).2 _ (List.mem_map_of_mem (Array.mem_toList_iff.2 h))

theorem one_le_tokensPerStep (g : Grammar) : 1 ≤ Run.tokensPerStep g := by
  rw [tokensPerStep_eq]
  exact (le_foldl_max _ _).1

/-- Open regions are regions of the grammar. -/
def PlainState.Owned (g : Grammar) (s : PlainState) : Prop := ∀ f ∈ s.frames, Rule.region f.rule ∈ g.rules

/-- **One step** delivers no more tokens than its rule allows, and opens regions of the grammar only. -/
theorem PlainState.Owned.step {g : Grammar} {t : Text} {s : PlainState} (h : s.Owned g) :
    (s.step g t).2.Owned g ∧ ((s.step g t).1.getD []).length ≤
      Run.tokensPerStep g * if (s.step g t).1.isSome then 1 else 0 := by
  generalize hout : s.step g t = out
  have houtcome := s.step_outcome g t
  rw [hout] at houtcome
  cases houtcome with
  | stop hend => exact ⟨by simp [Owned], by simp⟩
  | close hpos hf hm =>
    rw [Owned, hf, List.forall_mem_cons] at h
    have hrule := maxTokens_le_tokensPerStep h.1
    refine ⟨h.2, (length_delivered_le _ _ _ _ _ _).trans ?_⟩
    simp only [Rule.maxTokens] at hrule
    simp only [Option.isSome_some, ↓reduceIte]
    omega
  | single hpos hc hw hid hr hm =>
    have hrule := maxTokens_le_tokensPerStep (Array.mem_of_getElem? hr)
    refine ⟨h, (length_delivered_le _ _ _ _ _ _).trans ?_⟩
    simpa [Rule.maxTokens] using hrule
  | region hpos hc hw hid hr hm =>
    have hrule := maxTokens_le_tokensPerStep (Array.mem_of_getElem? hr)
    refine ⟨List.forall_mem_cons.2 ⟨Array.mem_of_getElem? hr, h⟩, (length_delivered_le _ _ _ _ _ _).trans ?_⟩
    simp only [Rule.maxTokens] at hrule
    simp only [Option.isSome_some, ↓reduceIte]
    omega
  | fallback hpos hc hw =>
    refine ⟨h, (length_tokenOf_le _ _ _ _).trans ?_⟩
    simpa using one_le_tokensPerStep g

/-- **Any number of steps** deliver at most `Run.tokensPerStep` tokens for each that is not at the end. -/
theorem length_plainRun_le (g : Grammar) (t : Text) : ∀ n : Nat, (plainRun g t n).2.Owned g ∧
    (plainRun g t n).1.length ≤ Run.tokensPerStep g * successes g t n
  | 0 => ⟨by simp [plainRun, steps, PlainState.start, PlainState.Owned], by simp [plainRun, steps]⟩
  | n + 1 => by
    obtain ⟨howned, hlength⟩ := length_plainRun_le g t n
    obtain ⟨howned', hstep⟩ := howned.step (t := t)
    refine ⟨howned', ?_⟩
    rw [← (cursorRun_eq_plainRun g t n).2.step.1] at hstep
    have htokens : (plainRun g t (n + 1)).1 = (plainRun g t n).1 ++ ((cursorRun g t n).2.step g t).1.getD [] := by
      rw [(cursorRun_eq_plainRun g t n).2.step.1]
      rfl
    rw [htokens, List.length_append, successes, Nat.mul_add]
    exact Nat.add_le_add hlength hstep

namespace Run

theorem length_take_of_enough : ∀ (n : Nat) {r : Run}, (r.take n).2.2 = .enough → (r.take n).1.length = n
  | 0, r, _ => rfl
  | n + 1, r, h => by
    unfold take at h ⊢
    cases hn : r.next with
    | token token r' =>
      simp only [hn] at h ⊢
      rw [List.length_cons, length_take_of_enough n h]
    | finished r' => simp [hn] at h
    | stalled r' => simp [hn] at h

theorem take_ne_stalled : ∀ (n : Nat) {r : Run}, (∀ tokens r', r.Pulled tokens r' → ∀ r'', r'.next ≠ .stalled r'') →
    (r.take n).2.2 ≠ .stalled
  | 0, r, _ => by simp [take]
  | n + 1, r, h => by
    unfold take
    cases hn : r.next with
    | token token r' => exact take_ne_stalled n fun tokens r'' hr => h (token :: tokens) r'' (hr.token_cons hn)
    | finished r' => simp
    | stalled r' => exact absurd hn (h [] r .none r')

variable {g : Grammar} {source : String}

/-- The tokens of a whole run are fewer than `Run.rest` takes. -/
theorem Pulled.length_lt_tokensLeft (hg : g.ConsumesIn (Text.ofString source)) {tokens : List Token} {r : Run}
    (h : (start g source).Pulled tokens r) : tokens.length < (start g source).tokensLeft := by
  obtain ⟨n, hafter⟩ := h.after
  have hlength := (length_plainRun_le g (Text.ofString source) n).2
  rw [← (cursorRun_eq_plainRun g (Text.ofString source) n).1, hafter.run, List.length_append] at hlength
  have hsteps : successes g (Text.ofString source) n ≤
      2 * (g.rules.size + 2) * ((Text.ofString source).length + 1) := by
    refine (successes_le hg n).trans (Nat.mul_le_mul (by omega) ?_)
    rw [Text.length_ofString]
    exact Nat.le_succ _
  have htotal := Nat.mul_le_mul_left (tokensPerStep g) hsteps
  have hleft : (start g source).tokensLeft =
      tokensPerStep g * (2 * (g.rules.size + 2) * ((Text.ofString source).length + 1)) + 1 := by
    simp [tokensLeft, start, Cursor.start]
  rw [hleft]
  omega

/-- **The stream is finite**, and taking the rest takes all of it. -/
theorem finished_rest (hg : g.ConsumesIn (Text.ofString source)) : (start g source).rest.2.2 = .finished := by
  have hreturns : (start g source).rest.2.2 ≠ .stalled := take_ne_stalled _ fun tokens r hr r'' => by
    obtain ⟨n, hafter⟩ := hr.after
    exact hafter.next_ne_stalled hg r''
  cases hhalt : (start g source).rest.2.2 with
  | finished => rfl
  | stalled => exact absurd hhalt hreturns
  | enough =>
    have hlt := (pulled_take _ hreturns).length_lt_tokensLeft hg
    rw [length_take_of_enough _ hhalt] at hlt
    exact absurd hlt (Nat.lt_irrefl _)

end Run

/-- **Runs end.** Where no rule starts with an empty match in the text, at most two steps for each byte are not steps at
the end of the text; every pull returns; the stream is finite; it has at most one primary token for each character; and
once a pull has found the end, every later pull finds it again, with no region open and the whole text walked over. -/
theorem run_ends {g : Grammar} {source : String} (hg : g.ConsumesIn (Text.ofString source)) :
    (∀ n, successes g (Text.ofString source) n ≤ 2 * source.utf8ByteSize) ∧
    (Run.start g source).rest.2.2 = .finished ∧
    ∀ tokens r, (Run.start g source).Pulled tokens r →
      (∀ r', r.next ≠ .stalled r') ∧ (primaryTokens tokens).length ≤ source.length ∧
      ∀ r', r.next = .finished r' → ∀ tokens' r'', r'.Pulled tokens' r'' →
        tokens' = [] ∧ r''.depth = 0 ∧ r''.offset = source.utf8ByteSize ∧ ∃ r₃, r''.next = .finished r₃ := by
  refine ⟨fun n => ?_, Run.finished_rest hg, fun tokens r hpulled => ?_⟩
  · exact (successes_le hg n).trans (Nat.mul_le_mul_left 2 (length_le_utf8ByteSize source))
  · obtain ⟨n, hafter⟩ := hpulled.after
    obtain ⟨hpos, htiles, -⟩ := hafter.covers
    refine ⟨hafter.next_ne_stalled hg, ?_, fun r' hnext tokens' r'' hlater => ?_⟩
    · have hle := htiles.le
      rw [hafter.text, Text.length_ofString] at hpos
      omega
    · obtain ⟨⟨n', hafter'⟩, hend⟩ := hafter.next.2 r' hnext
      obtain ⟨hnone, hend', htext, hpos'⟩ := hend.pulled hlater
      obtain ⟨r₃, hagain, -⟩ := hend'.next
      have hpos_eq : r''.cursor.pos = (Text.ofString source).length := by
        rw [hpos', ← hafter'.text]
        exact Nat.le_antisymm hafter'.covers.1 hend.pos
      refine ⟨hnone, ?_, ?_, r₃, hagain⟩
      · rw [Run.depth, hend'.frames]
        rfl
      · rw [Run.offset, htext, hafter'.text, hpos_eq, Text.offset_length_ofString]

/-- A string that its line leaves open: the fourth of six steps closes the region and walks over nothing. -/
theorem run_ends_quoted : Grammar.quoted.ConsumesIn (Text.ofString "é\"b\nc") ∧
    successes .quoted (Text.ofString "é\"b\nc") 9 = 6 ∧
    (∀ n, successes .quoted (Text.ofString "é\"b\nc") n ≤ 12) ∧
    (Run.start .quoted "é\"b\nc").rest.2.2 = .finished := by
  have hg : Grammar.quoted.ConsumesIn (Text.ofString "é\"b\nc") := by decide +kernel
  obtain ⟨hsteps, hfinished, -⟩ := run_ends hg
  exact ⟨hg, by decide +kernel, hsteps, hfinished⟩

end Highlight
