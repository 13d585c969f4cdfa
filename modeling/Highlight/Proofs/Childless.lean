import Highlight.Proofs.Captures
import Highlight.Proofs.Stalls
import Mathlib.Order.Nat

/-!
# Regions without rules inside

Inside of a region that has no rules, a step can only close the region or take one character as it is.

* **Inside** (`PlainState.steps_inside`): as long as the closing pattern does not match, each step delivers one
  character as plain text with the content path of the region.
* **Streams that end** (`Run.Pulled.of_end`): once the steps have come to the end of the text, what they have delivered
  is what all pulls give together, and no pull stalls.

So the region is closed at the first position at which its closing pattern matches, as one search from its start would
find it, or else it takes all that is left of the text (`childless_region_closes_leftmost`).
-/

namespace Highlight

/-! ## Steps one after the other -/

section Steps

variable {σ : Type} {step : σ → Option (List Token) × σ}

theorem steps_add (n k : Nat) (s : σ) : steps step (n + k) s =
    ((steps step n s).1 ++ (steps step k (steps step n s).2).1, (steps step k (steps step n s).2).2) := by
  induction k with
  | zero => simp [steps]
  | succ k ih =>
    rw [← Nat.add_assoc]
    simp only [steps, ih, List.append_assoc]

end Steps

variable {g : Grammar} {t : Text}

theorem plainRun_add (n k : Nat) : plainRun g t (n + k) =
    ((plainRun g t n).1 ++ (steps (PlainState.step g t) k (plainRun g t n).2).1,
      (steps (PlainState.step g t) k (plainRun g t n).2).2) := steps_add n k _

/-- What was delivered stays delivered. -/
theorem cursorRun_mono {n k : Nat} (h : n ≤ k) : (cursorRun g t n).1 <+: (cursorRun g t k).1 := by
  obtain ⟨k, rfl⟩ := Nat.exists_eq_add_of_le h
  rw [(cursorRun_eq_plainRun g t n).1, (cursorRun_eq_plainRun g t (n + k)).1, plainRun_add]
  exact List.prefix_append ..

/-! ## Streams that end -/

/-- Steps at the end of the text deliver nothing. -/
theorem PlainState.steps_end {s : PlainState} (h : t.length ≤ s.pos) : ∀ k : Nat,
    (steps (PlainState.step g t) k s).1 = [] ∧ t.length ≤ (steps (PlainState.step g t) k s).2.pos
  | 0 => ⟨rfl, h⟩
  | k + 1 => by
    obtain ⟨hnone, hpos⟩ := steps_end h k
    simp [steps, step, hnone, hpos]

theorem cursorRun_of_end {n k : Nat} (h : t.length ≤ (cursorRun g t n).2.pos) (hk : n ≤ k) :
    (cursorRun g t k).1 = (cursorRun g t n).1 ∧ t.length ≤ (cursorRun g t k).2.pos := by
  obtain ⟨k, rfl⟩ := Nat.exists_eq_add_of_le hk
  rw [(cursorRun_eq_plainRun g t n).2.pos] at h
  obtain ⟨hnone, hpos⟩ := PlainState.steps_end (g := g) h k
  rw [(cursorRun_eq_plainRun g t n).1, (cursorRun_eq_plainRun g t (n + k)).1,
    (cursorRun_eq_plainRun g t (n + k)).2.pos, plainRun_add, hnone, List.append_nil]
  exact ⟨rfl, hpos⟩

/-- Silent steps from a point of a run are silent steps from a later point. -/
theorem silent_plainRun {n : Nat} : ∀ (k : Nat) {j : Nat}, (plainRun g t n).2.Silent g t (k + j) →
    (plainRun g t (n + k)).2.Silent g t j
  | 0, j, h => by rwa [Nat.zero_add] at h
  | k + 1, j, h => by
    rw [Nat.add_assoc, Nat.add_comm 1 j] at h
    obtain ⟨s', hstep, hsilent⟩ := silent_plainRun k h
    have hnext : (plainRun g t (n + k + 1)).2 = s' := congrArg Prod.snd hstep
    rw [← Nat.add_assoc, hnext]
    exact hsilent

namespace Run

variable {source : String} {tokens : List Token} {r : Run}

/-- What was pulled and what some number of steps have delivered do not differ, as far as both go. -/
theorem Pulled.agrees (h : (start g source).Pulled tokens r) (n : Nat) :
    tokens <+: (cursorRun g (Text.ofString source) n).1 ∨ (cursorRun g (Text.ofString source) n).1 <+: tokens := by
  obtain ⟨k, hafter⟩ := h.after
  have hpulled : tokens <+: (cursorRun g (Text.ofString source) k).1 := by
    rw [hafter.run]
    exact List.prefix_append ..
  rcases Nat.le_total k n with hk | hk
  · exact Or.inl (hpulled.trans (cursorRun_mono hk))
  · exact List.prefix_or_prefix_of_prefix hpulled (cursorRun_mono hk)

/-- **A stream that ends**: where the steps have come to the end of the text, all pulls together give what the steps
have delivered, no pull stalls, and a pull finds the end once all of it was pulled. -/
theorem Pulled.of_end {n : Nat}
    (hend : (Text.ofString source).length ≤ (cursorRun g (Text.ofString source) n).2.pos)
    (h : (start g source).Pulled tokens r) :
    tokens <+: (cursorRun g (Text.ofString source) n).1 ∧ (∀ r', r.next ≠ .stalled r') ∧
      ((∃ r', r.next = .finished r') ↔ tokens = (cursorRun g (Text.ofString source) n).1) := by
  -- pulls give a part of what is delivered in the end
  have hpart : ∀ {tokens r}, (start g source).Pulled tokens r →
      tokens <+: (cursorRun g (Text.ofString source) n).1 := by
    intro tokens r h
    obtain ⟨k, hafter⟩ := h.after
    have hdelivered := cursorRun_mono (g := g) (t := Text.ofString source) (Nat.le_max_left k n)
    rw [(cursorRun_of_end hend (Nat.le_max_right k n)).1, hafter.run] at hdelivered
    exact (List.prefix_append ..).trans hdelivered
  obtain ⟨k, hafter⟩ := h.after
  have hreturns : ∀ r', r.next ≠ .stalled r' := by
    intro r' hstalled
    have hp := pending_of_stalled hstalled
    -- a stall would go on beyond the end
    have hsilent := (hafter.stalled_iff hp).1 (hafter.stalled_forever hstalled (n + 1))
    obtain ⟨s', hstep, -⟩ := silent_plainRun n hsilent
    obtain ⟨-, hpos⟩ := cursorRun_of_end hend (Nat.le_add_left n k)
    rw [(cursorRun_eq_plainRun g (Text.ofString source) (k + n)).2.pos] at hpos
    simp [PlainState.step, hpos] at hstep
  refine ⟨hpart h, hreturns, fun ⟨r', hnext⟩ => ?_, fun htokens => ?_⟩
  · obtain ⟨⟨k', hafter'⟩, hatEnd⟩ := hafter.next.2 r' hnext
    have hpos : (Text.ofString source).length ≤ (cursorRun g (Text.ofString source) k').2.pos := by
      rw [hafter'.run, ← hafter'.text]
      exact hatEnd.pos
    have hall : (cursorRun g (Text.ofString source) k').1 = tokens := by
      rw [hafter'.run, hatEnd.pending, List.append_nil]
    rw [← hall, ← (cursorRun_of_end hpos (Nat.le_max_left k' n)).1, (cursorRun_of_end hend (Nat.le_max_right k' n)).1]
  · cases hnext : r.next with
    | finished r' => exact ⟨r', rfl⟩
    | stalled r' => exact absurd hnext (hreturns r')
    | token token r' =>
      have hlonger := (hpart (h.token hnext)).length_le
      rw [← htokens, List.length_append, List.length_singleton] at hlonger
      omega

end Run

/-! ## Inside of the region -/

/-- The tokens of `n` characters from `pos` on, each as plain text in the given scopes. -/
def plainText (t : Text) (scopes : ScopePath) (pos n : Nat) : List Token :=
  (List.range' pos n).map fun i => ⟨t.offset i, t.offset (i + 1), .fallback, scopes⟩

theorem plainText_succ (t : Text) (scopes : ScopePath) (pos n : Nat) :
    plainText t scopes pos (n + 1) = plainText t scopes pos n ++ plainText t scopes (pos + n) 1 := by
  simp [plainText, List.range'_concat]

/-- The positions of the text, from `pos` on, at which a pattern matches. -/
def Grammar.matchesFrom (g : Grammar) (t : Text) (id pos : Nat) : Set Nat :=
  {p | pos ≤ p ∧ p ≤ t.length ∧ (g.freshMatch t id p).isSome}

namespace PlainState

variable {s : PlainState} {f : Frame} {frames : List Frame}

/-- **One step** that does not close the region takes one character. -/
theorem step_inside (hframes : s.frames = f :: frames) (hchildren : f.rule.children = []) (hpos : s.pos < t.length)
    (hnone : g.freshMatch t f.rule.closing s.pos = none) :
    s.step g t = (some (plainText t f.content s.pos 1), { s with pos := s.pos + 1 }) := by
  have hclosing : s.closing? g t = none := by simp [closing?, hframes, hnone]
  have hwinner : s.winner? g t = none := by simp [winner?, rules, hframes, hchildren, Grammar.plainRules]
  simp [step, Nat.not_le.2 hpos, hclosing, hwinner, plainText, tokenOf, content, hframes]

/-- A step that closes the region. -/
theorem step_closing (hframes : s.frames = f :: frames) (hpos : s.pos < t.length) {m : Pattern.Match}
    (hm : g.freshMatch t f.rule.closing s.pos = some m) :
    s.step g t = (some (tokenOf t m.span .closing f.scopes ++ captureTokens t m f.rule.closingCaptures f.scopes),
      { pos := m.span.stop, frames }) := by
  have hclosing : s.closing? g t = some (f, m) := by simp [closing?, hframes, hm]
  simp [step, Nat.not_le.2 hpos, hclosing, hframes]

/-- **Steps up to the first match** of the closing pattern take one character each. -/
theorem steps_inside (hframes : s.frames = f :: frames) (hchildren : f.rule.children = []) : ∀ k : Nat,
    (∀ p, s.pos ≤ p → p < s.pos + k → p < t.length ∧ g.freshMatch t f.rule.closing p = none) →
    steps (step g t) k s = (plainText t f.content s.pos k, { s with pos := s.pos + k })
  | 0, _ => rfl
  | k + 1, hnone => by
    have hbefore := steps_inside hframes hchildren k fun p hp hk => hnone p hp (by omega)
    obtain ⟨hpos, hhere⟩ := hnone (s.pos + k) (by omega) (by omega)
    have hstep : step g t { s with pos := s.pos + k } =
        (some (plainText t f.content (s.pos + k) 1), { s with pos := s.pos + k + 1 }) :=
      step_inside (s := { s with pos := s.pos + k }) hframes hchildren hpos hhere
    simp only [steps, hbefore, hstep, Option.getD_some, plainText_succ t f.content s.pos k, Nat.add_assoc]

/-- A step that opens a region. -/
theorem step_opening (hopen : (s.step g t).2.frames = f :: s.frames) :
    ∃ m, g.freshMatch t f.rule.opening s.pos = some m ∧ m.span.stop = (s.step g t).2.pos := by
  generalize hout : s.step g t = out at hopen
  have houtcome := s.step_outcome g t
  rw [hout] at houtcome
  cases houtcome with
  | stop hend => cases hopen
  | close hpos hf hm =>
    have hlength := congrArg List.length hopen
    simp only [hf, List.length_cons] at hlength
    omega
  | single hpos hc hw hid hr hm =>
    have hlength := congrArg List.length hopen
    simp at hlength
  | @region id r m hpos hc hw hid hr hm =>
    obtain ⟨rfl, -⟩ := List.cons.inj hopen
    exact ⟨m, hm, rfl⟩
  | fallback hpos hc hw =>
    have hlength := congrArg List.length hopen
    simp at hlength

end PlainState

/-- Before the first match there is none. -/
theorem Grammar.freshMatch_eq_none_of_lt {id pos q p : Nat} (hleast : IsLeast (g.matchesFrom t id pos) q)
    (hp : pos ≤ p) (hlt : p < q) : g.freshMatch t id p = none := by
  by_contra hsome
  have hq := hleast.1.2.1
  have hle : q ≤ p := hleast.2 ⟨hp, by omega, Option.isSome_iff_ne_none.2 hsome⟩
  omega

/-- Where no first match is before the end of the text, there is none before the end. -/
theorem Grammar.freshMatch_eq_none_of_length_le {id pos p : Nat}
    (h : ∀ q, IsLeast (g.matchesFrom t id pos) q → t.length ≤ q) (hp : pos ≤ p) (hlt : p < t.length) :
    g.freshMatch t id p = none := by
  by_contra hsome
  have hmem : p ∈ g.matchesFrom t id pos := ⟨hp, by omega, Option.isSome_iff_ne_none.2 hsome⟩
  classical
  have hleast := Set.Nonempty.isLeast_natFind ⟨p, hmem⟩
  have hlength := h _ hleast
  have hle := hleast.2 hmem
  omega

/-! ## The whole region -/

/-- After `n` steps with the regions `outside` open, the next step opens the region `f`, which has no rules inside, and
its opening match ends at `b`. -/
structure OpensChildless (g : Grammar) (t : Text) (n : Nat) (outside : List Frame) (f : Frame) (b : Nat) : Prop where
  before : (cursorRun g t n).2.frames = outside
  opened : (cursorRun g t (n + 1)).2.place = ⟨b, f :: outside⟩
  childless : f.rule.children = []

namespace OpensChildless

variable {n b : Nat} {outside : List Frame} {f : Frame}

/-- The region starts where a match of its opening pattern ends. -/
theorem opening (h : OpensChildless g t n outside f b) :
    ∃ m, g.freshMatch t f.rule.opening (cursorRun g t n).2.pos = some m ∧ m.span.stop = b := by
  have hopened : ((plainRun g t n).2.step g t).2 = ⟨b, f :: outside⟩ := by
    rw [← h.opened, place_cursorRun]
    rfl
  have hbefore : (plainRun g t n).2.frames = outside := by
    rw [← h.before, (cursorRun_eq_plainRun g t n).2.frames]
  obtain ⟨m, hm, hstop⟩ := PlainState.step_opening (show ((plainRun g t n).2.step g t).2.frames = f :: _ by
    rw [hopened, hbefore])
  rw [hopened] at hstop
  rw [(cursorRun_eq_plainRun g t n).2.pos]
  exact ⟨m, hm, hstop⟩

/-- **Inside**: up to the first match of the closing pattern, each step takes one character. -/
theorem inside (h : OpensChildless g t n outside f b) {k : Nat}
    (hnone : ∀ p, b ≤ p → p < b + k → p < t.length ∧ g.freshMatch t f.rule.closing p = none) :
    (cursorRun g t (n + 1 + k)).1 = (cursorRun g t (n + 1)).1 ++ plainText t f.content b k ∧
      (cursorRun g t (n + 1 + k)).2.place = ⟨b + k, f :: outside⟩ := by
  have hopened := h.opened
  rw [place_cursorRun] at hopened
  have hsteps := PlainState.steps_inside (s := ⟨b, f :: outside⟩) rfl h.childless k hnone
  rw [place_cursorRun, (cursorRun_eq_plainRun g t (n + 1 + k)).1, (cursorRun_eq_plainRun g t (n + 1)).1, plainRun_add,
    hopened, hsteps]
  exact ⟨rfl, rfl⟩

/-- Up to the first match there is no other one. -/
theorem inside_of_isLeast (h : OpensChildless g t n outside f b) {q k : Nat}
    (hleast : IsLeast (g.matchesFrom t f.rule.closing b) q) (hk : b + k ≤ q) :
    (cursorRun g t (n + 1 + k)).1 = (cursorRun g t (n + 1)).1 ++ plainText t f.content b k ∧
      (cursorRun g t (n + 1 + k)).2.place = ⟨b + k, f :: outside⟩ := by
  have hq := hleast.1.2.1
  refine h.inside fun p hp hpk => ⟨by omega, ?_⟩
  exact Grammar.freshMatch_eq_none_of_lt hleast hp (by omega)

/-- **The end**: the step at the first match of the closing pattern closes the region. -/
theorem closing (h : OpensChildless g t n outside f b) {q : Nat}
    (hleast : IsLeast (g.matchesFrom t f.rule.closing b) q) (hq : q < t.length) {m : Pattern.Match}
    (hm : g.freshMatch t f.rule.closing q = some m) :
    (cursorRun g t (n + 1 + (q - b) + 1)).1 = (cursorRun g t (n + 1)).1 ++ plainText t f.content b (q - b) ++
        (tokenOf t m.span .closing f.scopes ++ captureTokens t m f.rule.closingCaptures f.scopes) ∧
      (cursorRun g t (n + 1 + (q - b) + 1)).2.place = ⟨m.span.stop, outside⟩ := by
  have hbq : b + (q - b) = q := Nat.add_sub_cancel' hleast.1.1
  obtain ⟨htokens, hplace⟩ := h.inside_of_isLeast hleast (Nat.le_of_eq hbq)
  rw [place_cursorRun, hbq] at hplace
  have hstep : (plainRun g t (n + 1 + (q - b))).2.step g t =
      (some (tokenOf t m.span .closing f.scopes ++ captureTokens t m f.rule.closingCaptures f.scopes),
        ⟨m.span.stop, outside⟩) := by
    rw [hplace]
    exact PlainState.step_closing rfl hq hm
  rw [place_cursorRun, (cursorRun_eq_plainRun g t (n + 1 + (q - b) + 1)).1, ← htokens,
    (cursorRun_eq_plainRun g t (n + 1 + (q - b))).1, plainRun_add]
  simp only [steps, hstep, List.nil_append, Option.getD_some, and_self]

/-- The captures of the match that closes the region. -/
theorem captures (h : OpensChildless g t n outside f b) (hg : g.WellFormed) {q : Nat} (hq : q ≤ t.length)
    {m : Pattern.Match} (hm : g.freshMatch t f.rule.closing q = some m) :
    Capturing.Delivers t ⟨m, f.rule.closingCaptures, f.scopes⟩
      (captureTokens t m f.rule.closingCaptures f.scopes) := by
  have howned := (length_plainRun_le g t (n + 1)).1
  rw [← place_cursorRun, h.opened] at howned
  have hrule : Rule.region f.rule ∈ g.rules := howned f List.mem_cons_self
  have huse : (f.rule.closing, f.rule.closingCaptures) ∈ (Rule.region f.rule).uses := by simp [Rule.uses]
  exact Capturing.delivers_captureTokens (c := ⟨m, f.rule.closingCaptures, f.scopes⟩)
    (Grammar.freshMatch_within hq hm) (hg.captures_lt hrule huse)

/-- **No end**: without a match of the closing pattern before the end of the text, the region takes all that is left. -/
theorem unclosed (h : OpensChildless g t n outside f b)
    (hnone : ∀ q, IsLeast (g.matchesFrom t f.rule.closing b) q → t.length ≤ q) :
    (cursorRun g t (n + 1 + (t.length - b))).1 =
        (cursorRun g t (n + 1)).1 ++ plainText t f.content b (t.length - b) ∧
      (cursorRun g t (n + 1 + (t.length - b))).2.pos = t.length := by
  have hb : b ≤ t.length := by
    have hpos := (plainRun_tiles g t (n + 1)).1
    rwa [← place_cursorRun, h.opened] at hpos
  obtain ⟨htokens, hplace⟩ := h.inside (k := t.length - b) fun p hp hpk =>
    ⟨by omega, Grammar.freshMatch_eq_none_of_length_le hnone hp (by omega)⟩
  refine ⟨htokens, ?_⟩
  have hpos := congrArg PlainState.pos hplace
  rwa [Nat.add_sub_cancel' hb] at hpos

end OpensChildless

/-- **A region without rules inside is closed at the first match of its closing pattern.** Let the region be opened by a
match that ends at `b`. If `q` is the first position from `b` on at which the closing pattern matches, and it is before
the end of the text, then one step for each character up to `q` delivers that character as plain text with the content
path of the region, and the next step closes the region: it delivers the closing token with the path of the region,
unless the match is empty, and then the captures. If there is no such position before the end of the text, all the
characters that are left are plain text with the content path of the region, and then the stream ends. -/
theorem childless_region_closes_leftmost {d : GrammarDefinition} {g : Grammar} (h : d.build = .ok g) {source : String}
    {n b : Nat} {outside : List Frame} {f : Frame} (hopens : OpensChildless g (Text.ofString source) n outside f b) :
    let t := Text.ofString source
    let before := (cursorRun g t (n + 1)).1
    (∃ m, g.freshMatch t f.rule.opening (cursorRun g t n).2.pos = some m ∧ m.span.stop = b) ∧
    (∀ q, IsLeast (g.matchesFrom t f.rule.closing b) q → q < t.length →
      (∀ k ≤ q - b, (cursorRun g t (n + 1 + k)).1 = before ++ plainText t f.content b k ∧
        (cursorRun g t (n + 1 + k)).2.place = ⟨b + k, f :: outside⟩) ∧
      ∃ m captures, g.freshMatch t f.rule.closing q = some m ∧
        Capturing.Delivers t ⟨m, f.rule.closingCaptures, f.scopes⟩ captures ∧
        let closed := cursorRun g t (n + 1 + (q - b) + 1)
        closed.1 = before ++ plainText t f.content b (q - b) ++ (tokenOf t m.span .closing f.scopes ++ captures) ∧
        closed.2.place = ⟨m.span.stop, outside⟩ ∧
        ∀ tokens r, (Run.start g source).Pulled tokens r → tokens <+: closed.1 ∨ closed.1 <+: tokens) ∧
    ((∀ q, IsLeast (g.matchesFrom t f.rule.closing b) q → t.length ≤ q) →
      let all := before ++ plainText t f.content b (t.length - b)
      (cursorRun g t (n + 1 + (t.length - b))).1 = all ∧
      ((cursorRun g t (n + 1 + (t.length - b))).2.step g t).1 = none ∧
      ∀ tokens r, (Run.start g source).Pulled tokens r →
        tokens <+: all ∧ (∀ r', r.next ≠ .stalled r') ∧ ((∃ r', r.next = .finished r') ↔ tokens = all)) := by
  intro t before
  have hg := (GrammarDefinition.makes_of_build h).wellFormed
  refine ⟨hopens.opening, fun q hleast hq => ⟨fun k hk => ?_, ?_⟩, fun hnone => ?_⟩
  · have hbq := hleast.1.1
    exact hopens.inside_of_isLeast hleast (by omega)
  · obtain ⟨hbq, hqt, hsome⟩ := hleast.1
    obtain ⟨m, hm⟩ := Option.isSome_iff_exists.1 hsome
    obtain ⟨htokens, hplace⟩ := hopens.closing hleast hq hm
    exact ⟨m, _, hm, hopens.captures hg hqt hm, htokens, hplace, fun tokens r hpulled => hpulled.agrees _⟩
  · obtain ⟨htokens, hpos⟩ := hopens.unclosed hnone
    refine ⟨htokens, ?_, fun tokens r hpulled => ?_⟩
    · rw [Cursor.step, if_pos (Nat.le_of_eq hpos.symm)]
    · have hend := hpulled.of_end (Nat.le_of_eq hpos.symm)
      rwa [htokens] at hend

/-- Tags between angle brackets, the last of which may be left open at the end of its line. -/
def GrammarDefinition.angles : GrammarDefinition where
  name := "angles"
  root := "main"
  ruleSets := Table.ofList [("main",
    [((RuleDefinition.ofRegion "<" ">|$" "tag").withContentScope "inside").withClosingCapture 0 "end"])]

theorem GrammarDefinition.build_angles : angles.build = .ok angles.built := build_eq_ok_built (by decide +kernel)

/-- The first tag is closed behind a character of two bytes. The second one is open at the end of the text, where its
closing pattern matches too late. -/
theorem childless_region_closes_leftmost_angles :
    let g := GrammarDefinition.angles.built
    let t := Text.ofString "<é>\n<b"
    let f : Frame := ⟨⟨0, 1, some "tag", some "inside", [], [(0, "end")], []⟩, ⟨["tag"]⟩, ⟨["tag", "inside"]⟩⟩
    GrammarDefinition.angles.build = .ok g ∧ OpensChildless g t 0 [] f 1 ∧ OpensChildless g t 4 [] f 5 ∧
    (∃ m captures, m.span = ⟨2, 3⟩ ∧ Capturing.Delivers t ⟨m, [(0, "end")], ⟨["tag"]⟩⟩ captures ∧
      (cursorRun g t 3).1 = (cursorRun g t 1).1 ++ [⟨1, 3, .fallback, ⟨["tag", "inside"]⟩⟩] ++
        ([⟨3, 4, .closing, ⟨["tag"]⟩⟩] ++ captures)) ∧
    ∀ tokens r, (Run.start g "<é>\n<b").Pulled tokens r → ((∃ r', r.next = .finished r') ↔
      tokens = (cursorRun g t 5).1 ++ [⟨6, 7, .fallback, ⟨["tag", "inside"]⟩⟩]) := by
  intro g t f
  have hfirst : OpensChildless g t 0 [] f 1 := by
    have hpos : (cursorRun g t 1).2.pos = 1 := by decide +kernel
    have hframes : (cursorRun g t 1).2.frames = [f] := by decide +kernel
    exact ⟨rfl, by rw [Cursor.place, hpos, hframes], rfl⟩
  have hsecond : OpensChildless g t 4 [] f 5 := by
    have hpos : (cursorRun g t 5).2.pos = 5 := by decide +kernel
    have hframes : (cursorRun g t 5).2.frames = [f] := by decide +kernel
    exact ⟨by decide +kernel, by rw [Cursor.place, hpos, hframes], rfl⟩
  have hmatches : [1, 2, 5].map (fun p => (g.freshMatch t 1 p).map (·.span)) = [none, some ⟨2, 3⟩, none] := by
    decide +kernel
  simp only [List.map_cons, List.map_nil, List.cons.injEq, Option.map_eq_none_iff, and_true] at hmatches
  obtain ⟨hone, htwo, hfive⟩ := hmatches
  obtain ⟨m, hm, hspan⟩ := Option.map_eq_some_iff.1 htwo
  have hleast : IsLeast (g.matchesFrom t 1 1) 2 := by
    refine ⟨⟨by omega, by decide +kernel, by rw [hm]; rfl⟩, fun p ⟨hp, _, hsome⟩ => ?_⟩
    by_contra hlt
    obtain rfl : p = 1 := by omega
    simp [hone] at hsome
  have hnone : ∀ q, IsLeast (g.matchesFrom t 1 5) q → t.length ≤ q := by
    rintro q ⟨⟨hq, _, hsome⟩, -⟩
    by_contra hlt
    have hlength : t.length = 6 := by decide +kernel
    obtain rfl : q = 5 := by omega
    simp [hfive] at hsome
  obtain ⟨-, hclosed, -⟩ := childless_region_closes_leftmost GrammarDefinition.build_angles hfirst
  obtain ⟨-, -, hunclosed⟩ := childless_region_closes_leftmost GrammarDefinition.build_angles hsecond
  obtain ⟨-, m', captures, hm', hcaptures, htokens, -⟩ := hclosed 2 hleast (by decide +kernel)
  obtain ⟨-, -, hpulls⟩ := hunclosed hnone
  obtain rfl : m = m' := Option.some.inj (hm.symm.trans hm')
  refine ⟨GrammarDefinition.build_angles, hfirst, hsecond, ⟨m, captures, hspan, hcaptures, ?_⟩, fun tokens r hr => ?_⟩
  · rw [hspan] at htokens
    exact htokens
  · exact (hpulls tokens r hr).2.2

end Highlight
