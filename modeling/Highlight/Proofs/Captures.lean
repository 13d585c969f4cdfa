import Highlight.Proofs.Shape
import Highlight.Proofs.Termination

/-!
# Captures

* **Groups** (`Capturing.delivers_captureTokens`): the captures of a match are one token for each group that has a scope
  and took some text, by their start and then by the index of the group.
* **Steps** (`PlainState.captures_step`): the captures of a step are those of the match that it is about
  (`PlainState.capturing?`). They come after a primary token and lie inside of it, and without a primary token there are
  none.
* **Streams** (`checkCaptures_plainRun`): so every stream passes the check on captures.

A built grammar gives each group of a pattern one scope at most, which is why no two captures of a step are of the same
group (`captures_are_exact`).
-/

namespace Highlight

/-! ## Captures of a match -/

/-- A match, the scopes of its groups, and the path that these are added to. -/
structure Capturing where
  found : Pattern.Match
  scopes : Captures
  base : ScopePath

namespace Capturing

/-- The capture of a group: the group has a scope, took part in the match and took some text. -/
def IsCapture (t : Text) (c : Capturing) (group : Nat) (tok : Token) : Prop :=
  ∃ span scope, (group, scope) ∈ c.scopes ∧ c.found.group? group = some span ∧ span.start < span.stop ∧
    tok = ⟨t.offset span.start, t.offset span.stop, .capture, c.base.push scope⟩

/-- The tokens are the captures of the groups, one for each group that has one, by their start and then by the index of
the group. -/
def Delivers (t : Text) (c : Capturing) (tokens : List Token) : Prop :=
  ∃ marked : List (Nat × Token), marked.map Prod.snd = tokens ∧ (marked.map Prod.fst).Nodup ∧
    (marked.Pairwise fun a b => a.2.start < b.2.start ∨ a.2.start = b.2.start ∧ a.1 < b.1) ∧
    ∀ group tok, (group, tok) ∈ marked ↔ c.IsCapture t group tok

/-- The groups with a scope that took some text, in the order in which they are reported. -/
def sortedGroups (c : Capturing) : List (Nat × Pattern.Span × String) :=
  (scopedGroups c.found.groups c.found.span c.scopes).mergeSort fun a b =>
    decide (a.2.1.start < b.2.1.start) || (a.2.1.start == b.2.1.start && decide (a.1 ≤ b.1))

theorem mem_sortedGroups {c : Capturing} {group : Nat} {span : Pattern.Span} {scope : String} :
    (group, span, scope) ∈ c.sortedGroups ↔
      (group, scope) ∈ c.scopes ∧ c.found.group? group = some span ∧ span.start < span.stop := by
  rw [sortedGroups, List.mem_mergeSort, mem_scopedGroups]

/-- No group is reported twice. -/
theorem nodup_sortedGroups {c : Capturing} (h : c.scopes.Pairwise fun a b => a.1 < b.1) :
    (c.sortedGroups.map Prod.fst).Nodup := by
  have hfound : (scopedGroups c.found.groups c.found.span c.scopes).Pairwise fun a b => a.1 < b.1 := by
    rw [scopedGroups_eq]
    refine List.Pairwise.filterMap _ (fun a b hab x hx y hy => ?_) h
    have hfst : ∀ {e : Nat × String} {z : Nat × Pattern.Span × String},
        ((c.found.group? e.1).bind fun span =>
          if span.start < span.stop then some (e.1, span, e.2) else none) = some z → z.1 = e.1 := by
      intro e z hz
      obtain ⟨span, -, hz⟩ := Option.bind_eq_some_iff.1 hz
      split at hz
      · cases hz
        rfl
      · cases hz
    rw [hfst hx, hfst hy]
    exact hab
  have hnodup : ((scopedGroups c.found.groups c.found.span c.scopes).map Prod.fst).Nodup :=
    List.pairwise_map.2 (hfound.imp Nat.ne_of_lt)
  exact ((List.mergeSort_perm ..).map Prod.fst).nodup_iff.2 hnodup

/-- The groups are reported by their start and then by their index. -/
theorem pairwise_sortedGroups {c : Capturing} (h : c.scopes.Pairwise fun a b => a.1 < b.1) :
    c.sortedGroups.Pairwise fun a b => a.2.1.start < b.2.1.start ∨ a.2.1.start = b.2.1.start ∧ a.1 < b.1 := by
  have hle : c.sortedGroups.Pairwise fun a b =>
      (decide (a.2.1.start < b.2.1.start) || (a.2.1.start == b.2.1.start && decide (a.1 ≤ b.1))) = true := by
    refine List.pairwise_mergeSort (fun a b c hab hbc => ?_) (fun a b => ?_) _
    · simp only [Bool.or_eq_true, Bool.and_eq_true, decide_eq_true_eq, beq_iff_eq] at hab hbc ⊢
      omega
    · simp only [Bool.or_eq_true, Bool.and_eq_true, decide_eq_true_eq, beq_iff_eq]
      omega
  have hne : c.sortedGroups.Pairwise fun a b => a.1 ≠ b.1 := List.pairwise_map.1 (nodup_sortedGroups h)
  refine hle.imp₂ (fun a b hab hne => ?_) hne
  simp only [Bool.or_eq_true, Bool.and_eq_true, decide_eq_true_eq, beq_iff_eq] at hab
  omega

/-- The token of a group. -/
def token (t : Text) (c : Capturing) (group : Nat × Pattern.Span × String) : Token :=
  ⟨t.offset group.2.1.start, t.offset group.2.1.stop, .capture, c.base.push group.2.2⟩

theorem captureTokens_eq (t : Text) (c : Capturing) :
    captureTokens t c.found c.scopes c.base = c.sortedGroups.map (c.token t) := by
  rw [← List.flatMap_pure_eq_map]
  refine List.flatMap_congr fun group hgroup => ?_
  obtain ⟨-, -, hlt⟩ := mem_sortedGroups.1 hgroup
  exact if_pos hlt

/-- **The captures of a match** are one for each group that has a scope and took some text, in order. -/
theorem delivers_captureTokens {t : Text} {c : Capturing} {pos : Nat} (hwithin : c.found.Within pos t.length)
    (h : c.scopes.Pairwise fun a b => a.1 < b.1) : c.Delivers t (captureTokens t c.found c.scopes c.base) := by
  refine ⟨c.sortedGroups.map fun group => (group.1, c.token t group), ?_, ?_, ?_, fun group tok => ?_⟩
  · rw [captureTokens_eq, List.map_map]
    rfl
  · rw [List.map_map]
    exact nodup_sortedGroups h
  · rw [List.pairwise_map]
    refine (pairwise_sortedGroups h).imp_of_mem fun {a b} _ hb hab => ?_
    obtain ⟨group, span, scope⟩ := b
    obtain ⟨-, hspan, hlt⟩ := mem_sortedGroups.1 hb
    have hstop := (hwithin.group? hspan).2
    have hlimit := hwithin.stop_le
    rcases hab with hstart | ⟨hstart, hgroup⟩
    · exact Or.inl (t.offset_lt_offset hstart (show span.start ≤ t.length by omega))
    · exact Or.inr ⟨congrArg t.offset hstart, hgroup⟩
  · simp only [List.mem_map, Prod.mk.injEq, Prod.exists]
    constructor
    · rintro ⟨_, span, scope, hmem, rfl, rfl⟩
      obtain ⟨hscope, hspan, hlt⟩ := mem_sortedGroups.1 hmem
      exact ⟨span, scope, hscope, hspan, hlt, rfl⟩
    · rintro ⟨span, scope, hscope, hspan, hlt, rfl⟩
      exact ⟨group, span, scope, mem_sortedGroups.2 ⟨hscope, hspan, hlt⟩, rfl, rfl⟩

end Capturing

/-! ## Captures of a step -/

/-- The match that the next step is about: the one that closes the innermost region, with the scopes of the region's
closing groups and the path of the region; or the one of the rule that wins, with the scopes of its groups, and the
content path here for a match rule, the path of the new region for a region. -/
def PlainState.capturing? (g : Grammar) (t : Text) (s : PlainState) : Option Capturing :=
  if t.length ≤ s.pos then none
  else
    match s.closing? g t with
    | some (f, m) => some ⟨m, f.rule.closingCaptures, f.scopes⟩
    | none =>
      match s.winner? g t with
      | some (.single r, m) => some ⟨m, r.captures, s.content⟩
      | some (.region r, m) => some ⟨m, r.openingCaptures, s.content.extend r.scope⟩
      | none => none

/-- The captures among tokens. -/
def capturesOf (tokens : List Token) : List Token := tokens.filter fun tok => !tok.isPrimary

theorem capturesOf_match (t : Text) (m : Pattern.Match) {kind : TokenKind} (hkind : kind.isPrimary = true)
    (scopes base : ScopePath) (captures : Captures) :
    capturesOf (tokenOf t m.span kind scopes ++ captureTokens t m captures base) = captureTokens t m captures base := by
  have hfirst : capturesOf (tokenOf t m.span kind scopes) = [] := by
    unfold tokenOf
    split <;> simp [capturesOf, Token.isPrimary, hkind]
  have hrest : capturesOf (captureTokens t m captures base) = captureTokens t m captures base := by
    refine List.filter_eq_self.2 fun tok htok => ?_
    obtain ⟨group, span, scope, -, -, -, rfl⟩ := mem_captureTokens htok
    rfl
  rw [capturesOf, List.filter_append, ← capturesOf, ← capturesOf, hfirst, hrest, List.nil_append]

/-- Every rule of a well-formed grammar gives each group one scope at most. -/
theorem Grammar.WellFormed.captures_lt {g : Grammar} (hg : g.WellFormed) {rule : Rule} (hrule : rule ∈ g.rules)
    {pattern : Nat} {captures : Captures} (huse : (pattern, captures) ∈ rule.uses) :
    captures.Pairwise fun a b => a.1 < b.1 := by
  obtain ⟨id, hid⟩ := Array.getElem?_of_mem hrule
  obtain ⟨p, -, -, hpairwise⟩ := (hg.fits id rule hid).uses _ huse
  exact hpairwise

/-- **The captures of a step** are those of the match that it is about. -/
theorem PlainState.captures_step {g : Grammar} (hg : g.WellFormed) {t : Text} {s : PlainState} (hs : s.pos ≤ t.length)
    (howned : s.Owned g) :
    (∀ c, s.capturing? g t = some c → c.Delivers t (capturesOf ((s.step g t).1.getD []))) ∧
      (s.capturing? g t = none → capturesOf ((s.step g t).1.getD []) = []) := by
  -- a match that the step is about, with its groups in the order of their indices
  have hmatch : ∀ {c : Capturing} {id : Nat} {kind : TokenKind} {path : ScopePath}, s.capturing? g t = some c →
      g.freshMatch t id s.pos = some c.found → (c.scopes.Pairwise fun a b => a.1 < b.1) → kind.isPrimary = true →
      (∀ c', s.capturing? g t = some c' → c'.Delivers t
          (capturesOf (tokenOf t c.found.span kind path ++ captureTokens t c.found c.scopes c.base))) ∧
        (s.capturing? g t = none →
          capturesOf (tokenOf t c.found.span kind path ++ captureTokens t c.found c.scopes c.base) = []) := by
    intro c id kind path hc hm hpairwise hkind
    rw [capturesOf_match t c.found hkind, hc]
    refine ⟨fun c' hc' => ?_, fun hnone => by cases hnone⟩
    cases hc'
    exact Capturing.delivers_captureTokens (Grammar.freshMatch_within hs hm) hpairwise
  generalize hout : s.step g t = out
  have houtcome := s.step_outcome g t
  rw [hout] at houtcome
  cases houtcome with
  | stop hend => simp [capturing?, hend, capturesOf]
  | @close f frames m hpos hf hm =>
    have hrule : Rule.region f.rule ∈ g.rules := howned f (by rw [hf]; exact List.mem_cons_self)
    have huse : (f.rule.closing, f.rule.closingCaptures) ∈ (Rule.region f.rule).uses := by simp [Rule.uses]
    refine hmatch (c := ⟨m, f.rule.closingCaptures, f.scopes⟩) ?_ hm (hg.captures_lt hrule huse) rfl
    simp [capturing?, Nat.not_le.2 hpos, closing?, hf, hm]
  | @single id r m hpos hc hw hid hr hm =>
    have huse : (r.pattern, r.captures) ∈ (Rule.single r).uses := by simp [Rule.uses]
    refine hmatch (c := ⟨m, r.captures, s.content⟩) ?_ hm (hg.captures_lt (Array.mem_of_getElem? hr) huse) rfl
    simp [capturing?, Nat.not_le.2 hpos, hc, hw]
  | @region id r m hpos hc hw hid hr hm =>
    have huse : (r.opening, r.openingCaptures) ∈ (Rule.region r).uses := by simp [Rule.uses]
    refine hmatch (c := ⟨m, r.openingCaptures, s.content.extend r.scope⟩) ?_ hm
      (hg.captures_lt (Array.mem_of_getElem? hr) huse) rfl
    simp [capturing?, Nat.not_le.2 hpos, hc, hw]
  | fallback hpos hc hw =>
    simp [capturing?, Nat.not_le.2 hpos, hc, hw, capturesOf, tokenOf, Token.isPrimary, TokenKind.isPrimary]

/-! ## Streams -/

/-- The primary token that captures after a stream belong to, which is `parent` at its start. -/
def lastPrimary (parent : Option Token) (tokens : List Token) : Option Token :=
  tokens.foldl (fun parent tok => if tok.isPrimary then some tok else parent) parent

/-- The check goes on after a stream with its last primary token. -/
theorem checkInside_append (ys : List Token) : ∀ (xs : List Token) (parent : Option Token),
    checkInside parent (xs ++ ys) = none ↔
      checkInside parent xs = none ∧ checkInside (lastPrimary parent xs) ys = none
  | [], parent => by simp [checkInside, lastPrimary]
  | tok :: xs, parent => by
    have ih := checkInside_append ys xs
    cases hprimary : tok.isPrimary with
    | true => simpa [checkInside, lastPrimary, hprimary] using ih (some tok)
    | false =>
      cases parent with
      | none => simp [checkInside, hprimary]
      | some p =>
        by_cases hinside : p.start ≤ tok.start ∧ tok.stop ≤ p.stop
        · simpa [checkInside, lastPrimary, hprimary, hinside] using ih (some p)
        · simp [checkInside, hprimary, hinside]

theorem checkInside_captures {tok : Token} : ∀ {captures : List Token},
    (∀ c ∈ captures, c.kind = .capture ∧ tok.start ≤ c.start ∧ c.stop ≤ tok.stop) →
    checkInside (some tok) captures = none
  | [], _ => rfl
  | c :: captures, h => by
    obtain ⟨⟨hkind, hinside⟩, hrest⟩ := List.forall_mem_cons.1 h
    have hprimary : c.isPrimary = false := by simp [Token.isPrimary, TokenKind.isPrimary, hkind]
    simp [checkInside, hprimary, hinside, checkInside_captures hrest]

/-- What a step delivers passes the check, whatever comes before it. -/
theorem Delivery.checkInside {t : Text} {i j : Nat} {toks : List Token} (h : Delivery t i j toks)
    (parent : Option Token) : checkInside parent toks = none := by
  cases h with
  | nothing => rfl
  | primary hij hj hprimary hstart hstop hcaptures =>
    simpa [Highlight.checkInside, hprimary] using checkInside_captures hcaptures

/-- **Any number of steps** deliver captures inside the primary token before them. -/
theorem checkCaptures_plainRun (g : Grammar) (t : Text) : ∀ n : Nat, checkCaptures (plainRun g t n).1 = none
  | 0 => rfl
  | n + 1 => by
    obtain ⟨-, hdelivery⟩ := PlainState.delivery_step (g := g) (plainRun_tiles g t n).1
    exact (checkInside_append _ _ _).2 ⟨checkCaptures_plainRun g t n, hdelivery.checkInside _⟩

theorem Delivery.primary_first {t : Text} {i j : Nat} {toks : List Token} (h : Delivery t i j toks) :
    toks = [] ∨ ∃ tok captures, toks = tok :: captures ∧ tok.isPrimary = true ∧
      ∀ c ∈ captures, c.kind = .capture ∧ tok.start ≤ c.start ∧ c.stop ≤ tok.stop := by
  cases h with
  | nothing => exact Or.inl rfl
  | primary hij hj hprimary hstart hstop hcaptures => exact Or.inr ⟨_, _, rfl, hprimary, hcaptures⟩

/-- **Captures are exact.** At every step of a run over a built grammar, the captures that it delivers are one token for
each group that has a scope and took some text, in the match that the step is about: they come by their start and then
by the index of the group, and carry the scope of the group on the path of the match. A step that is about no match
delivers none. All that a step delivers is one primary token and then captures inside of it, or nothing. So every
stream, wherever it is cut off, passes the check on captures. -/
theorem captures_are_exact {d : GrammarDefinition} {g : Grammar} (h : d.build = .ok g) (source : String) :
    let t := Text.ofString source
    (∀ n,
      let c := (cursorRun g t n).2
      let delivered := (c.step g t).1.getD []
      (∀ m, c.place.capturing? g t = some m → m.Delivers t (capturesOf delivered)) ∧
      (c.place.capturing? g t = none → capturesOf delivered = []) ∧
      (delivered = [] ∨ ∃ tok captures, delivered = tok :: captures ∧ tok.isPrimary = true ∧
        ∀ c ∈ captures, c.kind = .capture ∧ tok.start ≤ c.start ∧ c.stop ≤ tok.stop)) ∧
    ∀ tokens r, (Run.start g source).Pulled tokens r → ∀ stream, stream <+: tokens → checkCaptures stream = none := by
  intro t
  have hg := (GrammarDefinition.makes_of_build h).wellFormed
  refine ⟨fun n => ?_, fun tokens r hpulled stream hstream => ?_⟩
  · have hpos := (plainRun_tiles g t n).1
    have howned := (length_plainRun_le g t n).1
    obtain ⟨hsome, hnone⟩ := PlainState.captures_step hg hpos howned
    dsimp only
    rw [place_cursorRun, step_cursorRun]
    exact ⟨hsome, hnone, (PlainState.delivery_step hpos).2.primary_first⟩
  · obtain ⟨n, hafter⟩ := hpulled.after
    obtain ⟨rest, rfl⟩ := hstream
    have hcheck := checkCaptures_plainRun g t n
    rw [← (cursorRun_eq_plainRun g t n).1, hafter.run, List.append_assoc] at hcheck
    exact ((checkInside_append _ _ _).1 hcheck).1

/-- Runs of three letters, where the last place of each letter is captured. -/
def GrammarDefinition.letters : GrammarDefinition where
  name := "letters"
  root := "main"
  ruleSets := Table.ofList [("main",
    [.single "(?:(a)|(b)|(c))+" (some "run") (Table.ofList [(1, "first"), (2, "second"), (3, "third")])])]

theorem GrammarDefinition.build_letters : letters.build = .ok letters.built := build_eq_ok_built (by decide +kernel)

/-- The second group comes before the first in the text, and the third took no part in the match. -/
theorem captures_are_exact_letters :
    let g := GrammarDefinition.letters.built
    let t := Text.ofString "ba"
    GrammarDefinition.letters.build = .ok g ∧
    ∃ m, (cursorRun g t 0).2.place.capturing? g t = some m ∧ m.base = {} ∧
      m.scopes = [(1, "first"), (2, "second"), (3, "third")] ∧
      m.found.group? 1 = some ⟨1, 2⟩ ∧ m.found.group? 2 = some ⟨0, 1⟩ ∧ m.found.group? 3 = none ∧
      m.Delivers t (capturesOf (((cursorRun g t 0).2.step g t).1.getD [])) := by
  intro g t
  have hroot : g.itemsOf g.root = [.rule 0] := by decide +kernel
  have hrule : g.rules[0]? = some (.single ⟨0, some "run", [(1, "first"), (2, "second"), (3, "third")]⟩) := by
    decide +kernel
  obtain ⟨m, hm⟩ := Option.isSome_iff_exists.1 (show (g.freshMatch t 0 0).isSome = true by decide +kernel)
  have hgroups : (g.freshMatch t 0 0).map (fun m => (m.group? 1, m.group? 2, m.group? 3)) =
      some (some ⟨1, 2⟩, some ⟨0, 1⟩, none) := by decide +kernel
  simp only [hm, Option.map_some, Option.some.injEq, Prod.mk.injEq] at hgroups
  have hcapturing : (cursorRun g t 0).2.place.capturing? g t =
      some ⟨m, [(1, "first"), (2, "second"), (3, "third")], {}⟩ := by
    rw [place_cursorRun]
    simp [plainRun, steps, PlainState.start, PlainState.capturing?, PlainState.closing?, PlainState.winner?,
      PlainState.rules, PlainState.ruleMatch?, PlainState.content, Grammar.plainRules, hroot, hrule, Rule.entry, hm,
      show t.length ≠ 0 by decide +kernel]
  exact ⟨GrammarDefinition.build_letters, _, hcapturing, rfl, rfl, hgroups.1, hgroups.2.1, hgroups.2.2,
    ((captures_are_exact GrammarDefinition.build_letters "ba").1 0).1 _ hcapturing⟩

end Highlight
