import Highlight.Proofs.Stalls

/-!
# Runs in lock step

Two grammars are in lock step on a text if, after every number of steps, their runs stand at the same position with
equally many open regions and have delivered the same tokens, up to the names of scopes (`Lockstep`).

Pulls from the two runs then give the same tokens (`Run.Together.take`). How many steps a pull makes before it gives up
depends on the number of rules, which may differ. But a pull that gives up would go on for ever without a token, so it
makes no difference how long it tries (`Run.After.next_or_stalled`).
-/

namespace Highlight

/-- The path with other names for its scopes. -/
def ScopePath.rename (f : String → String) (p : ScopePath) : ScopePath := ⟨p.scopes.map f⟩

/-- The token with other names for its scopes. -/
def Token.rename (f : String → String) (tok : Token) : Token := { tok with scopes := tok.scopes.rename f }

@[simp] theorem Token.rename_id : Token.rename id = id := by
  funext tok
  simp [rename, ScopePath.rename]

/-- The runs of two grammars over a text: the second is where the first is, and delivers its tokens with other names for
the scopes. -/
structure Lockstep (f : String → String) (g g' : Grammar) (t : Text) : Prop where
  tokens : ∀ n, (cursorRun g' t n).1 = (cursorRun g t n).1.map (Token.rename f)
  pos : ∀ n, (cursorRun g' t n).2.pos = (cursorRun g t n).2.pos
  depth : ∀ n, (cursorRun g' t n).2.frames.length = (cursorRun g t n).2.frames.length
  next : ∀ n, ((cursorRun g' t n).2.step g' t).1 =
    ((cursorRun g t n).2.step g t).1.map (List.map (Token.rename f))

namespace Run

variable {f : String → String} {g g' : Grammar} {source : String} {tokens : List Token} {n k : Nat} {r r' : Run}

/-! ## How long a pull tries -/

theorem stepUntilToken_add {r : Run} : ∀ {k : Nat} (j : Nat), (∀ r', stepUntilToken k r ≠ .stalled r') →
    stepUntilToken (k + j) r = stepUntilToken k r
  | 0, _, h => absurd rfl (h r)
  | k + 1, j, h => by
    rw [Nat.add_right_comm]
    unfold stepUntilToken at h ⊢
    split
    · rfl
    next hstep =>
      rw [hstep] at h
      exact stepUntilToken_add j h
    · rfl

/-- A pull tries long enough: more steps change nothing, or no number of steps is enough. -/
theorem After.next_or_stalled (h : After g source n tokens r) (hp : r.pending = []) (hk : r.silentSteps ≤ k) :
    r.next = Run.stepUntilToken k r ∨ ∃ r₁ r₂, r.next = .stalled r₁ ∧ Run.stepUntilToken k r = .stalled r₂ := by
  have hnext : r.next = Run.stepUntilToken r.silentSteps r := by rw [Run.next, hp]
  by_cases hstalled : ∃ r', r.next = .stalled r'
  · obtain ⟨r₁, hr₁⟩ := hstalled
    obtain ⟨r₂, hr₂⟩ := h.stalled_forever hr₁ k
    exact Or.inr ⟨r₁, r₂, hr₁, hr₂⟩
  · rw [hnext] at hstalled ⊢
    obtain ⟨j, rfl⟩ := Nat.exists_eq_add_of_le hk
    exact Or.inl (stepUntilToken_add j fun r' hr' => hstalled ⟨r', hr'⟩).symm

/-! ## Pulls -/

/-- Two runs have made equally many steps, and the same tokens were pulled from them. -/
def Together (f : String → String) (g g' : Grammar) (source : String) (r r' : Run) : Prop :=
  ∃ n tokens, After g source n tokens r ∧ After g' source n (tokens.map (Token.rename f)) r'

/-- What pulls from two runs have in common: both give the same token, or both find the end, or both stall. -/
inductive SamePull (f : String → String) (g g' : Grammar) (source : String) : Pull → Pull → Prop
  | token {tok : Token} {r r' : Run} : Together f g g' source r r' →
      SamePull f g g' source (.token tok r) (.token (tok.rename f) r')
  | finished {r r' : Run} : Together f g g' source r r' → SamePull f g g' source (.finished r) (.finished r')
  | stalled (r r' : Run) : SamePull f g g' source (.stalled r) (.stalled r')

theorem SamePull.stalled_iff {p p' : Pull} (h : SamePull f g g' source p p') :
    (∃ r, p = .stalled r) ↔ ∃ r', p' = .stalled r' := by
  cases h <;> simp

namespace Together

theorem start (f : String → String) (g g' : Grammar) (source : String) :
    Together f g g' source (start g source) (start g' source) :=
  ⟨0, [], after_start g source, after_start g' source⟩

variable (hlock : Lockstep f g g' (Text.ofString source))
include hlock

theorem pending (h : Together f g g' source r r') : r'.pending = r.pending.map (Token.rename f) := by
  obtain ⟨n, tokens, hafter, hafter'⟩ := h
  have htokens := hlock.tokens n
  rw [hafter.run, hafter'.run, List.map_append] at htokens
  exact List.append_cancel_left htokens

theorem place (h : Together f g g' source r r') : r'.offset = r.offset ∧ r'.depth = r.depth := by
  obtain ⟨n, tokens, hafter, hafter'⟩ := h
  have hpos := hlock.pos n
  have hdepth := hlock.depth n
  rw [hafter.run, hafter'.run] at hpos hdepth
  exact ⟨by rw [offset, offset, hafter.text, hafter'.text, hpos], hdepth⟩

/-- What the next step delivers. -/
theorem step (h : After g source n tokens r) (h' : After g' source n (tokens.map (Token.rename f)) r') :
    (r'.cursor.step r'.grammar r'.text).1 =
      (r.cursor.step r.grammar r.text).1.map (List.map (Token.rename f)) := by
  have hnext := hlock.next n
  rw [h.run, h'.run] at hnext
  rw [h.grammar, h.text, h'.grammar, h'.text]
  exact hnext

/-- **Steps up to the next token**, equally many in both runs. -/
theorem stepUntilToken (h : After g source n tokens r) (h' : After g' source n (tokens.map (Token.rename f)) r')
    (hp : r.pending = []) (hp' : r'.pending = []) :
    SamePull f g g' source (Run.stepUntilToken k r) (Run.stepUntilToken k r') := by
  induction k generalizing n r r' with
  | zero => exact .stalled r r'
  | succ k ih =>
    have hstep := step hlock h h'
    unfold Run.stepUntilToken
    cases hc : r.cursor.step r.grammar r.text with
    | mk delivered c =>
      cases hc' : r'.cursor.step r'.grammar r'.text with
      | mk delivered' c' =>
        rw [hc, hc'] at hstep
        obtain rfl : delivered' = delivered.map (List.map (Token.rename f)) := hstep
        cases delivered with
        | none => exact .finished ⟨n + 1, tokens, h.finished hp hc, h'.finished hp' hc'⟩
        | some delivered =>
          cases delivered with
          | nil => exact ih (h.silent hp hc) (h'.silent hp' hc') hp hp'
          | cons tok waiting =>
            refine .token ⟨n + 1, tokens ++ [tok], h.token hp hc, ?_⟩
            rw [List.map_append]
            exact h'.token hp' hc'

/-- **A pull** gives the same in both runs. -/
theorem next (h : Together f g g' source r r') : SamePull f g g' source r.next r'.next := by
  have hpending := h.pending hlock
  obtain ⟨n, tokens, hafter, hafter'⟩ := h
  cases hp : r.pending with
  | nil =>
    rw [hp, List.map_nil] at hpending
    -- the two pulls may try for different numbers of steps: compare them at the larger one
    have hsame := stepUntilToken hlock (k := max r.silentSteps r'.silentSteps) hafter hafter' hp hpending
    have hleft := hafter.next_or_stalled hp (Nat.le_max_left r.silentSteps r'.silentSteps)
    have hright := hafter'.next_or_stalled hpending (Nat.le_max_right r.silentSteps r'.silentSteps)
    obtain heq | ⟨r₁, r₂, heq, hstalled⟩ := hleft
    · obtain heq' | ⟨r₁', r₂', heq', hstalled'⟩ := hright
      · rwa [heq, heq']
      · obtain ⟨r₂, hr₂⟩ := hsame.stalled_iff.2 ⟨r₂', hstalled'⟩
        rw [heq, hr₂, heq']
        exact .stalled r₂ r₁'
    · obtain ⟨r₂', hr₂'⟩ := hsame.stalled_iff.1 ⟨r₂, hstalled⟩
      obtain heq' | ⟨r₁', -, heq', -⟩ := hright
      · rw [heq, heq', hr₂']
        exact .stalled r₁ r₂'
      · rw [heq, heq']
        exact .stalled r₁ r₁'
  | cons tok waiting =>
    rw [hp, List.map_cons] at hpending
    have hpull : r.next = .token tok { r with pending := waiting } := by rw [Run.next, hp]
    have hpull' : r'.next = .token (tok.rename f) { r' with pending := waiting.map (Token.rename f) } := by
      rw [Run.next, hpending]
    rw [hpull, hpull']
    refine .token ⟨n, tokens ++ [tok], hafter.waiting_token hp, ?_⟩
    rw [List.map_append]
    exact hafter'.waiting_token hpending

/-- **Pulls** from runs in lock step give the same tokens and end for the same reason; and they leave the runs at the
same offset and depth, unless both have stalled. -/
theorem take (h : Together f g g' source r r') (k : Nat) :
    (r'.take k).1 = (r.take k).1.map (Token.rename f) ∧ (r'.take k).2.2 = (r.take k).2.2 ∧
      ((r.take k).2.2 ≠ .stalled →
        (r'.take k).2.1.offset = (r.take k).2.1.offset ∧ (r'.take k).2.1.depth = (r.take k).2.1.depth) := by
  induction k generalizing r r' with
  | zero => exact ⟨rfl, rfl, fun _ => h.place hlock⟩
  | succ k ih =>
    have hnext := h.next hlock
    unfold Run.take
    generalize r.next = p at hnext
    generalize r'.next = p' at hnext
    cases hnext with
    | token hr =>
      obtain ⟨htokens, hhalt, hplace⟩ := ih hr
      exact ⟨congrArg (_ :: ·) htokens, hhalt, hplace⟩
    | finished hr => exact ⟨rfl, rfl, fun _ => hr.place hlock⟩
    | stalled r r' => exact ⟨rfl, rfl, fun hne => absurd rfl hne⟩

end Together

end Run

/-- Two grammars cut every text into the same tokens, with the same offset and depth after every step; and so do pulls,
which end for the same reason. Where a pull has stalled, there is no step that it ended with. -/
structure Grammar.SameTokens (g g' : Grammar) : Prop where
  steps : ∀ source n, let t := Text.ofString source
    (cursorRun g' t n).1 = (cursorRun g t n).1 ∧
      t.offset (cursorRun g' t n).2.pos = t.offset (cursorRun g t n).2.pos ∧
      (cursorRun g' t n).2.frames.length = (cursorRun g t n).2.frames.length
  pulls : ∀ source k, let pulled := (Run.start g source).take k
    let pulled' := (Run.start g' source).take k
    pulled'.1 = pulled.1 ∧ pulled'.2.2 = pulled.2.2 ∧
      (pulled.2.2 ≠ .stalled → pulled'.2.1.offset = pulled.2.1.offset ∧ pulled'.2.1.depth = pulled.2.1.depth)

theorem Grammar.SameTokens.of_lockstep {g g' : Grammar} (h : ∀ t, Lockstep id g g' t) : g.SameTokens g' where
  steps source n := by
    have hlock := h (Text.ofString source)
    exact ⟨by simpa using hlock.tokens n, by rw [hlock.pos n], hlock.depth n⟩
  pulls source k := by
    have hpulls := (Run.Together.start id g g' source).take (h (Text.ofString source)) k
    simpa using hpulls

end Highlight
