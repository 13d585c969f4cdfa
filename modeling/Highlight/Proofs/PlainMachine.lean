import Highlight.Proofs.Expansion
import Highlight.Proofs.Lookahead
import Highlight.Tokenizer.Run

/-!
# Runs are runs of the plain machine

The plain machine is the algorithm without its memory. Its state is a position and the open regions; at every position
it tries the closing pattern of the innermost region, then the rules of the plain expansion in order, each afresh and in
the whole text, and takes one character where nothing matches.

* **Steps** (`Cursor.Refines.step`): a cursor that stands where the plain machine stands, with a sound memory, delivers
  the same tokens and stands where the plain machine stands afterwards, again with a sound memory.
* **Pulls** (`Run.Pulled.after`): what was pulled and what still waits is together what the steps have delivered.
* **Lock step** (`run_lockstep`): so every run, after any number of steps or pulls, is a run of the plain machine.
-/

namespace Highlight

/-! ## The plain machine -/

/-- Where the plain machine stands: the position, and the open regions, innermost first. -/
structure PlainState where
  pos : Nat
  frames : List Frame

/-- The match of a pattern, by its index, at a position of the whole text. -/
def Grammar.freshMatch (g : Grammar) (t : Text) (id pos : Nat) : Option Pattern.Match :=
  (g.patterns[id]?).bind fun p => p.matchAt? t pos

namespace PlainState

def start : PlainState := { pos := 0, frames := [] }

/-- The scopes of plain text at this place. -/
def content (s : PlainState) : ScopePath := (s.frames.head?.map Frame.content).getD {}

/-- The rules that apply here, in order: those of the innermost region, or those of the set to start from. -/
def rules (g : Grammar) (s : PlainState) : List Nat :=
  match s.frames with
  | f :: _ => g.plainRules [] f.rule.children
  | [] => g.plainRules [g.root] (g.itemsOf g.root)

/-- The innermost region and the match that closes it here. -/
def closing? (g : Grammar) (t : Text) (s : PlainState) : Option (Frame × Pattern.Match) :=
  s.frames.head?.bind fun f => (g.freshMatch t f.rule.closing s.pos).map (f, ·)

/-- A rule, by its index, and its match here. -/
def ruleMatch? (g : Grammar) (t : Text) (s : PlainState) (id : Nat) : Option (Rule × Pattern.Match) :=
  (g.rules[id]?).bind fun rule => (g.freshMatch t rule.entry s.pos).map (rule, ·)

/-- The first rule whose pattern matches here. -/
def winner? (g : Grammar) (t : Text) (s : PlainState) : Option (Rule × Pattern.Match) :=
  (s.rules g).findSome? (s.ruleMatch? g t)

/-- One step: the tokens it delivers and where the machine stands then, or nothing at the end of the text. -/
def step (g : Grammar) (t : Text) (s : PlainState) : Option (List Token) × PlainState :=
  if t.length ≤ s.pos then (none, { s with frames := [] })
  else
    match s.closing? g t with
    | some (f, m) =>
      (some (tokenOf t m.span .closing f.scopes ++ captureTokens t m f.rule.closingCaptures f.scopes),
        { pos := m.span.stop, frames := s.frames.tail })
    | none =>
      match s.winner? g t with
      | some (.single r, m) =>
        (some (tokenOf t m.span .matched (s.content.extend r.scope) ++ captureTokens t m r.captures s.content),
          { s with pos := m.span.stop })
      | some (.region r, m) =>
        let scopes := s.content.extend r.scope
        (some (tokenOf t m.span .opening scopes ++ captureTokens t m r.openingCaptures scopes),
          { pos := m.span.stop, frames := ⟨r, scopes, scopes.extend r.contentScope⟩ :: s.frames })
      | none => (some (tokenOf t ⟨s.pos, s.pos + 1⟩ .fallback s.content), { s with pos := s.pos + 1 })

/-- What one step can do. -/
inductive Outcome (g : Grammar) (t : Text) (s : PlainState) : Option (List Token) × PlainState → Prop
  | stop : t.length ≤ s.pos → Outcome g t s (none, { s with frames := [] })
  | close {f : Frame} {frames : List Frame} {m : Pattern.Match} : s.pos < t.length → s.frames = f :: frames →
      g.freshMatch t f.rule.closing s.pos = some m →
      Outcome g t s (some (tokenOf t m.span .closing f.scopes ++ captureTokens t m f.rule.closingCaptures f.scopes),
        { pos := m.span.stop, frames })
  | single {id : Nat} {r : MatchRule} {m : Pattern.Match} : s.pos < t.length → s.closing? g t = none →
      s.winner? g t = some (.single r, m) → id ∈ s.rules g → g.rules[id]? = some (.single r) →
      g.freshMatch t r.pattern s.pos = some m →
      Outcome g t s
        (some (tokenOf t m.span .matched (s.content.extend r.scope) ++ captureTokens t m r.captures s.content),
          { s with pos := m.span.stop })
  | region {id : Nat} {r : RegionRule} {m : Pattern.Match} : s.pos < t.length → s.closing? g t = none →
      s.winner? g t = some (.region r, m) → id ∈ s.rules g → g.rules[id]? = some (.region r) →
      g.freshMatch t r.opening s.pos = some m →
      Outcome g t s
        (some (tokenOf t m.span .opening (s.content.extend r.scope) ++
            captureTokens t m r.openingCaptures (s.content.extend r.scope)),
          { pos := m.span.stop
            frames := ⟨r, s.content.extend r.scope, (s.content.extend r.scope).extend r.contentScope⟩ :: s.frames })
  | fallback : s.pos < t.length → s.closing? g t = none → s.winner? g t = none →
      Outcome g t s (some (tokenOf t ⟨s.pos, s.pos + 1⟩ .fallback s.content), { s with pos := s.pos + 1 })

theorem step_outcome (g : Grammar) (t : Text) (s : PlainState) : Outcome g t s (s.step g t) := by
  unfold step
  split
  next hend => exact .stop hend
  next hend =>
    have hpos : s.pos < t.length := by omega
    cases hc : s.closing? g t with
    | some fm =>
      obtain ⟨f, m⟩ := fm
      obtain ⟨pos, frames⟩ := s
      unfold closing? at hc
      cases frames with
      | nil => cases hc
      | cons f' frames =>
        simp only [List.head?_cons, Option.bind_some, Option.map_eq_some_iff, Prod.mk.injEq] at hc
        obtain ⟨m', hm, rfl, rfl⟩ := hc
        exact .close hpos rfl hm
    | none =>
      dsimp only
      cases hw : s.winner? g t with
      | none => exact .fallback hpos hc hw
      | some rm =>
        obtain ⟨id, hid, hrm⟩ := List.exists_of_findSome?_eq_some hw
        simp only [ruleMatch?, Option.bind_eq_some_iff, Option.map_eq_some_iff] at hrm
        obtain ⟨rule, hrule, m, hm, rfl⟩ := hrm
        cases rule with
        | single r => exact .single hpos hc hw hid hrule hm
        | region r => exact .region hpos hc hw hid hrule hm

end PlainState

/-- Makes `n` steps: all tokens they deliver, and the state then. -/
def steps {σ : Type} (step : σ → Option (List Token) × σ) : Nat → σ → List Token × σ
  | 0, s => ([], s)
  | n + 1, s =>
    let (tokens, s) := steps step n s
    let (delivered, s) := step s
    (tokens ++ delivered.getD [], s)

/-! ## One step -/

/-- The cursor stands where the plain machine stands, and what it remembers is true: look-ahead entries are results of
searches, and no mark is above the number of the last walk. -/
structure Cursor.Refines (g : Grammar) (t : Text) (c : Cursor) (s : PlainState) : Prop where
  pos : c.pos = s.pos
  frames : c.frames = s.frames
  lookahead : c.lookahead.Sound g t
  bounded : c.resolver.marks.Bounded
  size : c.resolver.marks.marks.size = g.sets.size

namespace Cursor

variable {g : Grammar} {t : Text} {c : Cursor} {s : PlainState}

theorem refines_start (g : Grammar) (t : Text) : (start g).Refines g t PlainState.start where
  pos := rfl
  frames := rfl
  lookahead := LookaheadTable.sound_empty g t _
  bounded := Marks.bounded_fresh _
  size := Resolver.size_fresh _

theorem Refines.contentScopes (h : c.Refines g t s) : c.contentScopes = s.content := by
  unfold Cursor.contentScopes PlainState.content
  rw [h.frames]
  cases s.frames <;> rfl

/-- A pattern tried here answers as a fresh attempt. -/
theorem Refines.matchHere (h : c.Refines g t s) (hpos : s.pos ≤ t.length) (id : Nat) :
    (c.matchHere g t id).1 = g.freshMatch t id s.pos ∧ (c.matchHere g t id).2.Refines g t s := by
  unfold Cursor.matchHere Grammar.freshMatch
  cases hp : g.patterns[id]? with
  | none => exact ⟨rfl, h⟩
  | some p =>
    obtain ⟨hfound, hsound⟩ := h.lookahead.matchAt hp (show c.pos ≤ t.length by rw [h.pos]; exact hpos)
    refine ⟨?_, ⟨h.pos, h.frames, hsound, h.bounded, h.size⟩⟩
    rw [Option.bind_some, ← h.pos]
    exact hfound

/-- The rule found on a walk is the first rule of the walk that matches afresh. -/
theorem Refines.firstRule (h : c.Refines g t s) (hpos : s.pos ≤ t.length) (w : Walk) (hw : w.marks.Bounded)
    (hsize : w.marks.marks.size = g.sets.size) :
    (c.firstRule g t w).1 = (w.rules g).findSome? (s.ruleMatch? g t) ∧ (c.firstRule g t w).2.Refines g t s := by
  have hmarks := Walk.next_marks g hw
  fun_induction Cursor.firstRule c g t w with
  | case1 c w w' hn =>
    rw [hn] at hmarks
    rw [Walk.rules_of_next_none hn]
    exact ⟨rfl, h.pos, h.frames, h.lookahead, hmarks.1, hmarks.2.trans hsize⟩
  | case2 c w id w' hn hr ih =>
    rw [hn] at hmarks
    rw [Walk.rules_of_next_some hn, List.findSome?_cons]
    simp only [PlainState.ruleMatch?, hr, Option.bind_none]
    exact ih h hmarks.1 (hmarks.2.trans hsize) (Walk.next_marks g hmarks.1)
  | case3 c w id w' hn rule hr m c' hm =>
    rw [hn] at hmarks
    obtain ⟨hfound, hrefines⟩ := h.matchHere hpos rule.entry
    rw [hm] at hfound hrefines
    rw [Walk.rules_of_next_some hn, List.findSome?_cons]
    simp only [PlainState.ruleMatch?, hr, Option.bind_some, ← hfound, Option.map_some, true_and]
    exact ⟨hrefines.pos, hrefines.frames, hrefines.lookahead, hmarks.1, hmarks.2.trans hsize⟩
  | case4 c w id w' hn rule hr c' hm ih =>
    rw [hn] at hmarks
    obtain ⟨hfound, hrefines⟩ := h.matchHere hpos rule.entry
    rw [hm] at hfound hrefines
    rw [Walk.rules_of_next_some hn, List.findSome?_cons]
    simp only [PlainState.ruleMatch?, hr, Option.bind_some, ← hfound, Option.map_none]
    exact ih hrefines hmarks.1 (hmarks.2.trans hsize) (Walk.next_marks g hmarks.1)

/-- The rule found here is the one that the plain machine takes. -/
theorem Refines.winner (h : c.Refines g t s) (hpos : s.pos ≤ t.length) :
    (c.firstRule g t (c.rulesHere g)).1 = s.winner? g t ∧
      (c.firstRule g t (c.rulesHere g)).2.Refines g t s := by
  unfold PlainState.winner? PlainState.rules rulesHere
  rw [h.frames]
  cases s.frames with
  | nil =>
    obtain ⟨hfound, hrefines⟩ := h.firstRule hpos (c.resolver.marks.walkSet g g.root) (h.bounded.begin.meet g.root)
      (by rw [← h.size, ← c.resolver.marks.size_begin]; exact Marks.size_meet _ _)
    exact ⟨hfound.trans (Walk.findSome?_walkSet h.bounded h.size g.root _), hrefines⟩
  | cons f frames =>
    obtain ⟨hfound, hrefines⟩ := h.firstRule hpos (c.resolver.marks.walkItems f.rule.children) h.bounded.begin
      (by rw [← h.size]; exact c.resolver.marks.size_begin)
    exact ⟨hfound.trans (Walk.findSome?_walkItems h.bounded h.size f.rule.children _), hrefines⟩

theorem Refines.closeRegion_some (h : c.Refines g t s) (hpos : s.pos ≤ t.length) {f : Frame} {m : Pattern.Match}
    (hc : s.closing? g t = some (f, m)) :
    (c.closeRegion g t).1 =
        some (tokenOf t m.span .closing f.scopes ++ captureTokens t m f.rule.closingCaptures f.scopes) ∧
      (c.closeRegion g t).2.Refines g t { pos := m.span.stop, frames := s.frames.tail } := by
  unfold PlainState.closing? at hc
  unfold Cursor.closeRegion
  rw [h.frames]
  cases hf : s.frames with
  | nil => simp [hf] at hc
  | cons f' frames =>
    simp only [hf, List.head?_cons, Option.bind_some, Option.map_eq_some_iff, Prod.mk.injEq] at hc
    obtain ⟨m', hm, rfl, rfl⟩ := hc
    obtain ⟨hfound, hrefines⟩ := h.matchHere hpos f'.rule.closing
    rw [hm] at hfound
    dsimp only
    cases hmh : c.matchHere g t f'.rule.closing with
    | mk found c' =>
      rw [hmh] at hfound hrefines
      cases hfound
      exact ⟨rfl, rfl, rfl, hrefines.lookahead, hrefines.bounded, hrefines.size⟩

theorem Refines.closeRegion_none (h : c.Refines g t s) (hpos : s.pos ≤ t.length) (hc : s.closing? g t = none) :
    (c.closeRegion g t).1 = none ∧ (c.closeRegion g t).2.Refines g t s := by
  unfold PlainState.closing? at hc
  unfold Cursor.closeRegion
  rw [h.frames]
  cases hf : s.frames with
  | nil => exact ⟨rfl, h⟩
  | cons f frames =>
    simp only [hf, List.head?_cons, Option.bind_some, Option.map_eq_none_iff] at hc
    obtain ⟨hfound, hrefines⟩ := h.matchHere hpos f.rule.closing
    rw [hc] at hfound
    dsimp only
    cases hmh : c.matchHere g t f.rule.closing with
    | mk found c' =>
      rw [hmh] at hfound hrefines
      cases hfound
      exact ⟨rfl, hrefines⟩

/-- **One step** of a cursor is one step of the plain machine. -/
theorem Refines.step (h : c.Refines g t s) :
    (c.step g t).1 = (s.step g t).1 ∧ (c.step g t).2.Refines g t (s.step g t).2 := by
  unfold Cursor.step PlainState.step
  rw [h.pos]
  split
  · exact ⟨rfl, rfl, rfl, h.lookahead, h.bounded, h.size⟩
  next hend =>
    have hpos : s.pos ≤ t.length := by omega
    cases hc : s.closing? g t with
    | some fm =>
      obtain ⟨f, m⟩ := fm
      obtain ⟨htokens, hrefines⟩ := h.closeRegion_some hpos hc
      cases hcr : c.closeRegion g t with
      | mk tokens c' =>
        rw [hcr] at htokens hrefines
        cases htokens
        exact ⟨rfl, hrefines⟩
    | none =>
      obtain ⟨hnone, hrefines⟩ := h.closeRegion_none hpos hc
      cases hcr : c.closeRegion g t with
      | mk tokens c' =>
        rw [hcr] at hnone hrefines
        cases hnone
        obtain ⟨hwinner, hrefines'⟩ := hrefines.winner hpos
        dsimp only
        cases hfr : c'.firstRule g t (c'.rulesHere g) with
        | mk found c'' =>
          rw [hfr] at hwinner hrefines'
          have hcontent := hrefines'.contentScopes
          obtain ⟨hp, hf, hlook, hb, hs⟩ := hrefines'
          simp only at hwinner hcontent hp hf
          rw [← hwinner]
          match found with
          | none =>
            dsimp only
            rw [hp, hcontent]
            exact ⟨rfl, rfl, hf, hlook, hb, hs⟩
          | some (.single r, m) =>
            simp only [applyRule, hcontent, true_and]
            exact ⟨rfl, hf, hlook, hb, hs⟩
          | some (.region r, m) =>
            simp only [applyRule, hcontent, hf, true_and]
            exact ⟨rfl, rfl, hlook, hb, hs⟩

/-- **Any number of steps** of a cursor are steps of the plain machine. -/
theorem Refines.steps (h : c.Refines g t s) : ∀ n : Nat,
    (steps (Cursor.step g t) n c).1 = (Highlight.steps (PlainState.step g t) n s).1 ∧
      (Highlight.steps (Cursor.step g t) n c).2.Refines g t (Highlight.steps (PlainState.step g t) n s).2
  | 0 => ⟨rfl, h⟩
  | n + 1 => by
    obtain ⟨htokens, hrefines⟩ := Refines.steps h n
    obtain ⟨hdelivered, hrefines'⟩ := hrefines.step
    refine ⟨?_, hrefines'⟩
    simp only [Highlight.steps]
    rw [htokens, hdelivered]

end Cursor

/-! ## Pulls -/

/-- The cursor after `n` steps from the start of a text, with the tokens delivered. -/
def cursorRun (g : Grammar) (t : Text) (n : Nat) : List Token × Cursor := steps (Cursor.step g t) n (Cursor.start g)

/-- The plain machine after `n` steps from the start of a text, with the tokens delivered. -/
def plainRun (g : Grammar) (t : Text) (n : Nat) : List Token × PlainState :=
  steps (PlainState.step g t) n PlainState.start

theorem cursorRun_eq_plainRun (g : Grammar) (t : Text) (n : Nat) : (cursorRun g t n).1 = (plainRun g t n).1 ∧
    (cursorRun g t n).2.Refines g t (plainRun g t n).2 :=
  (Cursor.refines_start g t).steps n

/-- Where a cursor stands. -/
def Cursor.place (c : Cursor) : PlainState := { pos := c.pos, frames := c.frames }

theorem place_cursorRun (g : Grammar) (t : Text) (n : Nat) : (cursorRun g t n).2.place = (plainRun g t n).2 := by
  obtain ⟨-, hrefines⟩ := cursorRun_eq_plainRun g t n
  rw [Cursor.place, hrefines.pos, hrefines.frames]

theorem step_cursorRun (g : Grammar) (t : Text) (n : Nat) :
    ((cursorRun g t n).2.step g t).1 = ((plainRun g t n).2.step g t).1 :=
  (cursorRun_eq_plainRun g t n).2.step.1

/-- The tokens of the last of `n` steps. -/
def lastDelivered (g : Grammar) (t : Text) : Nat → List Token
  | 0 => []
  | n + 1 => ((cursorRun g t n).2.step g t).1.getD []

namespace Run

/-- Some number of pulls from `r`, all of which returned, have given `tokens` and left the run at the second run. A pull
that finds the end of the text gives nothing. -/
inductive Pulled (r : Run) : List Token → Run → Prop
  | none : Pulled r [] r
  | token {tokens : List Token} {token : Token} {r' r'' : Run} :
      Pulled r tokens r' → r'.next = .token token r'' → Pulled r (tokens ++ [token]) r''
  | finished {tokens : List Token} {r' r'' : Run} :
      Pulled r tokens r' → r'.next = .finished r'' → Pulled r tokens r''

/-- Pulls may come after a first one. -/
theorem Pulled.token_cons {r r' r'' : Run} {token : Token} {tokens : List Token} (hnext : r.next = .token token r')
    (h : r'.Pulled tokens r'') : r.Pulled (token :: tokens) r'' := by
  induction h with
  | none => exact Pulled.token .none hnext
  | token _ hnext' ih => exact Pulled.token ih hnext'
  | finished _ hnext' ih => exact Pulled.finished ih hnext'

/-- Taking tokens pulls them. -/
theorem pulled_take : ∀ (n : Nat) {r : Run}, (r.take n).2.2 ≠ .stalled → r.Pulled (r.take n).1 (r.take n).2.1
  | 0, r, _ => .none
  | n + 1, r, h => by
    unfold take at h ⊢
    cases hn : r.next with
    | token token r' =>
      simp only [hn] at h ⊢
      exact Pulled.token_cons hn (pulled_take n h)
    | finished r' => exact .finished .none hn
    | stalled r' => simp [hn] at h

theorem exists_next_finished {r : Run} (h : (r.take 1).2.2 = .finished) : ∃ r', r.next = .finished r' := by
  unfold take at h
  cases hn : r.next with
  | token token r' => simp [hn, take] at h
  | finished r' => exact ⟨r', rfl⟩
  | stalled r' => simp [hn] at h

/-- The run over `source` has made `n` steps, and `tokens` were pulled from what they delivered. What waits are tokens
of the last step, but never its first one. -/
structure After (g : Grammar) (source : String) (n : Nat) (tokens : List Token) (r : Run) : Prop where
  grammar : r.grammar = g
  text : r.text = Text.ofString source
  run : cursorRun g (Text.ofString source) n = (tokens ++ r.pending, r.cursor)
  waiting : r.pending <:+ (lastDelivered g (Text.ofString source) n).tail

variable {g : Grammar} {source : String} {tokens : List Token}

theorem after_start (g : Grammar) (source : String) : After g source 0 [] (start g source) :=
  ⟨rfl, rfl, rfl, List.suffix_rfl⟩

/-- A step of a run that has no token waiting. -/
theorem After.step {n : Nat} {r : Run} (h : After g source n tokens r) (hp : r.pending = []) :
    cursorRun g (Text.ofString source) (n + 1) =
        (tokens ++ (r.cursor.step r.grammar r.text).1.getD [], (r.cursor.step r.grammar r.text).2) ∧
      lastDelivered g (Text.ofString source) (n + 1) = (r.cursor.step r.grammar r.text).1.getD [] := by
  have hrun := h.run
  simp only [hp, List.append_nil] at hrun
  refine ⟨?_, by simp only [lastDelivered, hrun, h.grammar, h.text]⟩
  simp only [cursorRun] at hrun ⊢
  simp only [steps, hrun, h.grammar, h.text]

/-- A step that delivers no token. -/
theorem After.silent {n : Nat} {r : Run} (h : After g source n tokens r) (hp : r.pending = []) {c : Cursor}
    (hstep : r.cursor.step r.grammar r.text = (some [], c)) : After g source (n + 1) tokens { r with cursor := c } := by
  obtain ⟨hrun, -⟩ := h.step hp
  rw [hstep, Option.getD_some, List.append_nil] at hrun
  refine ⟨h.grammar, h.text, by rw [hrun, hp, List.append_nil], ?_⟩
  rw [hp]
  exact List.nil_suffix

/-- A step that delivers tokens: the first is pulled, the others wait. -/
theorem After.token {n : Nat} {r : Run} (h : After g source n tokens r) (hp : r.pending = []) {c : Cursor}
    {token : Token} {waiting : List Token} (hstep : r.cursor.step r.grammar r.text = (some (token :: waiting), c)) :
    After g source (n + 1) (tokens ++ [token]) { r with cursor := c, pending := waiting } := by
  obtain ⟨hrun, hlast⟩ := h.step hp
  rw [hstep, Option.getD_some] at hrun hlast
  refine ⟨h.grammar, h.text, by rw [hrun]; simp, ?_⟩
  rw [hlast]
  exact List.suffix_rfl

/-- A step at the end of the text. -/
theorem After.finished {n : Nat} {r : Run} (h : After g source n tokens r) (hp : r.pending = []) {c : Cursor}
    (hstep : r.cursor.step r.grammar r.text = (none, c)) : After g source (n + 1) tokens { r with cursor := c } := by
  obtain ⟨hrun, -⟩ := h.step hp
  rw [hstep, Option.getD_none, List.append_nil] at hrun
  refine ⟨h.grammar, h.text, by rw [hrun, hp, List.append_nil], ?_⟩
  rw [hp]
  exact List.nil_suffix

/-- A pull of a token that waits. -/
theorem After.waiting_token {n : Nat} {r : Run} (h : After g source n tokens r) {token : Token} {waiting : List Token}
    (hp : r.pending = token :: waiting) : After g source n (tokens ++ [token]) { r with pending := waiting } := by
  refine ⟨h.grammar, h.text, by rw [h.run, hp]; simp, ?_⟩
  exact (List.suffix_cons token waiting).trans (hp ▸ h.waiting)

/-- The run stands where the plain machine stands. -/
theorem After.refines {n : Nat} {r : Run} (h : After g source n tokens r) :
    r.cursor.Refines g r.text (plainRun g (Text.ofString source) n).2 := by
  have hrefines := (cursorRun_eq_plainRun g (Text.ofString source) n).2
  rw [h.run] at hrefines
  rw [h.text]
  exact hrefines

/-- The run is at the end of the text: nothing waits and no region is open. -/
structure AtEnd (r : Run) : Prop where
  pos : r.text.length ≤ r.cursor.pos
  frames : r.cursor.frames = []
  pending : r.pending = []

/-- A step that delivers nothing at all is one at the end of the text, where it drops the open regions. -/
theorem step_eq_none {t : Text} {c c' : Cursor} (h : c.step g t = (none, c')) :
    t.length ≤ c.pos ∧ c' = { c with frames := [] } := by
  unfold Cursor.step at h
  split at h
  next hend => exact ⟨hend, (Prod.mk.inj h).2.symm⟩
  · split at h
    · cases h
    · split at h <;> cases h

/-- Steps up to the next token: the run has delivered that token next, or it is at the end of the text. -/
theorem After.stepUntilToken {fuel n : Nat} {r : Run} (h : After g source n tokens r) (hp : r.pending = []) :
    (∀ token r', stepUntilToken fuel r = .token token r' → ∃ n', After g source n' (tokens ++ [token]) r') ∧
      ∀ r', stepUntilToken fuel r = .finished r' → (∃ n', After g source n' tokens r') ∧ r'.AtEnd := by
  induction fuel generalizing n r with
  | zero => simp [Run.stepUntilToken]
  | succ fuel ih =>
    unfold Run.stepUntilToken
    cases hc : r.cursor.step r.grammar r.text with
    | mk delivered c =>
      match delivered with
      | none =>
        obtain ⟨hend, rfl⟩ := step_eq_none hc
        refine ⟨fun token r' hr => (by cases hr), fun r' hr => ?_⟩
        cases hr
        exact ⟨⟨n + 1, h.finished hp hc⟩, hend, rfl, hp⟩
      | some [] => exact ih (h.silent hp hc) hp
      | some (token :: waiting) =>
        refine ⟨fun token' r' hr => ?_, fun r' hr => by cases hr⟩
        cases hr
        exact ⟨n + 1, h.token hp hc⟩

/-- A pull makes some number of steps and takes the first token that waits, or it ends at the end of the text. -/
theorem After.next {n : Nat} {r : Run} (h : After g source n tokens r) :
    (∀ token r', r.next = .token token r' → ∃ n', After g source n' (tokens ++ [token]) r') ∧
      ∀ r', r.next = .finished r' → (∃ n', After g source n' tokens r') ∧ r'.AtEnd := by
  unfold Run.next
  cases hp : r.pending with
  | nil => exact h.stepUntilToken hp
  | cons token waiting =>
    refine ⟨fun token' r' hr => ?_, fun r' hr => by cases hr⟩
    cases hr
    exact ⟨n, h.waiting_token hp⟩

/-- **Nothing is lost on the way**: what was pulled, and then what waits, is what the steps have delivered. -/
theorem Pulled.after {r : Run} (h : (start g source).Pulled tokens r) : ∃ n, After g source n tokens r := by
  induction h with
  | none => exact ⟨0, after_start g source⟩
  | token _ hnext ih =>
    obtain ⟨n, hn⟩ := ih
    exact hn.next.1 _ _ hnext
  | finished _ hnext ih =>
    obtain ⟨n, hn⟩ := ih
    exact (hn.next.2 _ hnext).1

end Run

/-- **Lock step with the plain machine.** After every number of steps the cursor and the plain machine stand at the same
position with the same open regions, have delivered the same tokens in the same order, and deliver the same in the next
step; and what was pulled from a run, followed by what waits in it, is what the plain machine has delivered when it
stands where the run stands. -/
theorem run_lockstep (g : Grammar) (source : String) :
    let t := Text.ofString source
    (∀ n, (cursorRun g t n).1 = (plainRun g t n).1 ∧
      (cursorRun g t n).2.pos = (plainRun g t n).2.pos ∧
      (cursorRun g t n).2.frames = (plainRun g t n).2.frames ∧
      ((cursorRun g t n).2.step g t).1 = ((plainRun g t n).2.step g t).1) ∧
    ∀ tokens r, (Run.start g source).Pulled tokens r →
      ∃ n, tokens ++ r.pending = (plainRun g t n).1 ∧
        r.offset = t.offset (plainRun g t n).2.pos ∧
        r.cursor.frames = (plainRun g t n).2.frames := by
  intro t
  refine ⟨fun n => ?_, fun tokens r hr => ?_⟩
  · obtain ⟨htokens, hrefines⟩ := cursorRun_eq_plainRun g t n
    exact ⟨htokens, hrefines.pos, hrefines.frames, hrefines.step.1⟩
  · obtain ⟨n, hafter⟩ := hr.after
    have htokens := (cursorRun_eq_plainRun g t n).1
    have htext : r.text = t := hafter.text
    rw [hafter.run] at htokens
    refine ⟨n, htokens, ?_, hafter.refines.frames⟩
    rw [Run.offset, hafter.refines.pos, htext]

end Highlight
