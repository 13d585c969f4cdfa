import Highlight.Proofs.Lockstep
import Highlight.Proofs.References
import Mathlib.Data.List.Forall2

/-!
# Grammars that are alike

Two grammars are alike if the lists of entries of one can be read as those of the other: rules in the same order with
the same patterns, references to corresponding rule sets, or a reference on one side and the entries of its set on the
other (`Grammar.Alike`). Indices play no part in that, and the names of scopes may differ by a function.

* **Expansion** (`Items.Alike.plainRules`): the rules that apply at some place are alike, in the same order. A reference
  may be written out only if its set does not lead back to itself; else the set is on the path on one side, where its
  own references are cut, and not on the other.
* **Steps and runs** (`PlainState.Alike.step`, `Grammar.Alike.lockstep`): the runs of the two grammars are in lock step
  over every text.
-/

namespace Highlight

/-! ## Renamed scopes -/

/-- The scopes of groups under other names. -/
def Captures.rename (f : String → String) (captures : Captures) : Captures := captures.map (Prod.map id f)

@[simp] theorem Captures.rename_id (captures : Captures) : captures.rename id = captures := by
  simp [rename]

theorem ScopePath.rename_push (f : String → String) (p : ScopePath) (scope : String) :
    (p.push scope).rename f = (p.rename f).push (f scope) := by
  simp [push, rename]

@[simp] theorem ScopePath.rename_extend (f : String → String) (p : ScopePath) (scope : Option String) :
    (p.extend scope).rename f = (p.rename f).extend (scope.map f) := by
  cases scope with
  | none => rfl
  | some scope => exact p.rename_push f scope

@[simp] theorem map_rename_tokenOf (f : String → String) (t : Text) (span : Pattern.Span) (kind : TokenKind)
    (p : ScopePath) :
    (tokenOf t span kind p).map (Token.rename f) = tokenOf t span kind (p.rename f) := by
  unfold tokenOf
  split <;> rfl

theorem scopedGroups_rename (f : String → String) (groups : Pattern.Groups) (whole : Pattern.Span)
    (captures : Captures) : scopedGroups groups whole (captures.rename f) =
      (scopedGroups groups whole captures).map (Prod.map id (Prod.map id f)) := by
  unfold scopedGroups Captures.rename
  rw [List.filterMap_map, List.map_filterMap]
  congr
  funext ⟨group, scope⟩
  simp only [Function.comp_apply, Prod.map_apply, id_eq]
  split
  next span _ => cases span.isEmpty <;> rfl
  next => rfl

@[simp] theorem map_rename_captureTokens (f : String → String) (t : Text) (m : Pattern.Match) (captures : Captures)
    (p : ScopePath) :
    (captureTokens t m captures p).map (Token.rename f) = captureTokens t m (captures.rename f) (p.rename f) := by
  unfold captureTokens
  dsimp only
  rw [scopedGroups_rename, List.map_flatMap,
    ← List.map_mergeSort (f := Prod.map id (Prod.map id f)) (fun a _ b _ => by rfl), List.flatMap_map]
  congr
  funext ⟨group, span, scope⟩
  rw [map_rename_tokenOf, ScopePath.rename_push]
  rfl

/-! ## Entries -/

/-- Two rules have the same patterns, and the same scopes up to their names. -/
inductive Rule.SameHead (f : String → String) (g g' : Grammar) : Rule → Rule → Prop
  | single {r r' : MatchRule} : g'.patterns[r'.pattern]? = g.patterns[r.pattern]? → r'.scope = r.scope.map f →
      r'.captures = r.captures.rename f → SameHead f g g' (.single r) (.single r')
  | region {r r' : RegionRule} : g'.patterns[r'.opening]? = g.patterns[r.opening]? →
      g'.patterns[r'.closing]? = g.patterns[r.closing]? → r'.scope = r.scope.map f →
      r'.contentScope = r.contentScope.map f → r'.openingCaptures = r.openingCaptures.rename f →
      r'.closingCaptures = r.closingCaptures.rename f → SameHead f g g' (.region r) (.region r')

/-- Two lists of entries are alike, where `S` says which rule sets correspond. -/
inductive Items.Alike (f : String → String) (g g' : Grammar) (S : Nat → Nat → Prop) : List Item → List Item → Prop
  | nil : Alike f g g' S [] []
  | rule {id id' : Nat} {rule rule' : Rule} {items items' : List Item} : g.rules[id]? = some rule →
      g'.rules[id']? = some rule' → rule.SameHead f g g' rule' → Alike f g g' S rule.children rule'.children →
      Alike f g g' S items items' → Alike f g g' S (.rule id :: items) (.rule id' :: items')
  | ruleSet {set set' : Nat} {items items' : List Item} : S set set' → Alike f g g' S items items' →
      Alike f g g' S (.ruleSet set :: items) (.ruleSet set' :: items')
  /-- A reference on one side, the entries of its set on the other. -/
  | inlined {set : Nat} {items body items' : List Item} : ¬ Relation.TransGen g.Refers set set →
      Alike f g g' S (g.itemsOf set) body → Alike f g g' S items items' →
      Alike f g g' S (.ruleSet set :: items) (body ++ items')

/-- Two grammars are alike: the sets to start from correspond, and the entries of corresponding sets are alike. A set of
one grammar corresponds to at most one of the other. -/
structure Grammar.Alike (f : String → String) (g g' : Grammar) (S : Nat → Nat → Prop) : Prop where
  root : S g.root g'.root
  items : ∀ {set set'}, S set set' → Items.Alike f g g' S (g.itemsOf set) (g'.itemsOf set')
  left_unique : ∀ {set₁ set₂ set'}, S set₁ set' → S set₂ set' → set₁ = set₂
  right_unique : ∀ {set set₁' set₂'}, S set set₁' → S set set₂' → set₁' = set₂'

section

variable {f : String → String} {g g' : Grammar} {S : Nat → Nat → Prop}

/-- Two rules are alike, with the rules inside them. -/
structure Rule.Alike (f : String → String) (g g' : Grammar) (S : Nat → Nat → Prop) (rule rule' : Rule) : Prop where
  head : rule.SameHead f g g' rule'
  children : Items.Alike f g g' S rule.children rule'.children

/-- Two indices stand for rules that are alike. -/
def Rule.AlikeAt (f : String → String) (g g' : Grammar) (S : Nat → Nat → Prop) (id id' : Nat) : Prop :=
  ∃ rule rule', g.rules[id]? = some rule ∧ g'.rules[id']? = some rule' ∧ rule.Alike f g g' S rule'

/-! ## Expansion -/

theorem Grammar.plainRules_append (g : Grammar) (path : List Nat) : ∀ items items' : List Item,
    g.plainRules path (items ++ items') = g.plainRules path items ++ g.plainRules path items'
  | [], items' => by simp [plainRules]
  | .rule id :: items, items' => by simp [plainRules, plainRules_append g path items items']
  | .ruleSet set :: items, items' => by simp [plainRules, plainRules_append g path items items']

/-- Two paths of sets hold corresponding sets, except that the second may lack sets that do not lead back to
themselves. -/
def PathsAlike (g : Grammar) (S : Nat → Nat → Prop) (path path' : List Nat) : Prop :=
  ∀ set set', S set set' → (set' ∈ path' → set ∈ path) ∧
    (set ∈ path → Relation.TransGen g.Refers set set → set' ∈ path')

theorem pathsAlike_nil (g : Grammar) (S : Nat → Nat → Prop) : PathsAlike g S [] [] := by
  simp [PathsAlike]

theorem PathsAlike.cons (hg : g.Alike f g' S) {path path' : List Nat} (h : PathsAlike g S path path') {set set' : Nat}
    (hset : S set set') : PathsAlike g S (set :: path) (set' :: path') := by
  intro other other' hother
  obtain ⟨hleft, hright⟩ := h other other' hother
  simp only [List.mem_cons]
  constructor
  · rintro (rfl | hmem)
    · exact Or.inl (hg.left_unique hother hset)
    · exact Or.inr (hleft hmem)
  · rintro (rfl | hmem) hcycle
    · exact Or.inl (hg.right_unique hother hset)
    · exact Or.inr (hright hmem hcycle)

theorem PathsAlike.cons_left {path path' : List Nat} (h : PathsAlike g S path path') {set : Nat}
    (hset : ¬ Relation.TransGen g.Refers set set) : PathsAlike g S (set :: path) path' := by
  intro other other' hother
  obtain ⟨hleft, hright⟩ := h other other' hother
  refine ⟨fun hmem => List.mem_cons_of_mem _ (hleft hmem), fun hmem hcycle => ?_⟩
  rcases List.mem_cons.1 hmem with rfl | hmem
  · exact absurd hcycle hset
  · exact hright hmem hcycle

/-- From every set on the path, references lead to every set in the list. -/
def LeadsTo (g : Grammar) (path : List Nat) (items : List Item) : Prop :=
  ∀ set ∈ path, ∀ next ∈ setIds items, Relation.TransGen g.Refers set next

theorem LeadsTo.itemsOf {path : List Nat} {set : Nat} {items : List Item} (h : LeadsTo g path (.ruleSet set :: items)) :
    LeadsTo g (set :: path) (g.itemsOf set) := by
  intro first hfirst next hnext
  rcases List.mem_cons.1 hfirst with rfl | hfirst
  · exact .single hnext
  · exact .tail (h first hfirst set (by simp)) hnext

/-- **Expansion.** Lists of entries that are alike expand to rules that are alike, in the same order. -/
theorem Items.Alike.plainRules (hg : g.Alike f g' S) {path path' : List Nat} {items items' : List Item}
    (h : Items.Alike f g g' S items items') (hpaths : PathsAlike g S path path') (hleads : LeadsTo g path items) :
    List.Forall₂ (Rule.AlikeAt f g g' S) (g.plainRules path items) (g'.plainRules path' items') := by
  fun_induction Grammar.plainRules g path items generalizing path' items' with
  | case1 path =>
    cases h
    simp [Grammar.plainRules]
  | case2 path id items ih =>
    cases h with
    | rule hrule hrule' hhead hchildren hrest =>
      rw [Grammar.plainRules]
      exact .cons ⟨_, _, hrule, hrule', hhead, hchildren⟩ (ih hrest hpaths hleads)
  | case3 path set items ihset ih =>
    -- a set that is met again on its own path leads back to itself, so it stands on the other path too
    have hcycle : set ∈ path → Relation.TransGen g.Refers set set := fun hmem => hleads set hmem set (by simp)
    have hrest : LeadsTo g path items := fun s hs n hn => hleads s hs n (by simp [hn])
    cases h with
    | @ruleSet _ set' _ items' hset hitems =>
      obtain ⟨hleft, hright⟩ := hpaths set set' hset
      rw [Grammar.plainRules]
      refine List.rel_append ?_ (ih hitems hpaths hrest)
      by_cases hmem : set ∈ path
      · rw [if_pos hmem, if_pos (hright hmem (hcycle hmem))]
        exact .nil
      · rw [if_neg hmem, if_neg fun hmem' => hmem (hleft hmem')]
        exact ihset hmem (hg.items hset) (hpaths.cons hg hset) hleads.itemsOf
    | @inlined _ _ body items' hset hbody hitems =>
      -- the set comes on one path only, which no later reference can tell
      rw [Grammar.plainRules_append, if_neg fun hmem => hset (hcycle hmem)]
      refine List.rel_append ?_ (ih hitems hpaths hrest)
      exact ihset (fun hmem => hset (hcycle hmem)) hbody (hpaths.cons_left hset) hleads.itemsOf

/-! ## Steps -/

/-- Two open regions are alike. -/
structure Frame.Alike (f : String → String) (g g' : Grammar) (S : Nat → Nat → Prop) (frame frame' : Frame) : Prop where
  rule : (Rule.region frame.rule).Alike f g g' S (.region frame'.rule)
  scopes : frame'.scopes = frame.scopes.rename f
  content : frame'.content = frame.content.rename f

/-- Two places are alike: the same position, and open regions that are alike. -/
structure PlainState.Alike (f : String → String) (g g' : Grammar) (S : Nat → Nat → Prop) (s s' : PlainState) :
    Prop where
  pos : s'.pos = s.pos
  frames : List.Forall₂ (Frame.Alike f g g' S) s.frames s'.frames

/-- The first answers of two lists of alike things are alike. -/
theorem rel_findSome? {α α' β β' : Type} {R : α → α' → Prop} {Q : β → β' → Prop} {p : α → Option β}
    {p' : α' → Option β'} (hp : ∀ a a', R a a' → Option.Rel Q (p a) (p' a')) {xs : List α} {xs' : List α'}
    (h : List.Forall₂ R xs xs') : Option.Rel Q (xs.findSome? p) (xs'.findSome? p') := by
  induction h with
  | nil => exact .none
  | cons ha _ ih =>
    have hfirst := hp _ _ ha
    rw [List.findSome?_cons, List.findSome?_cons]
    generalize p _ = b at hfirst
    generalize p' _ = b' at hfirst
    cases hfirst with
    | none => exact ih
    | some hb => exact .some hb

theorem Grammar.freshMatch_congr {id id' : Nat} (h : g'.patterns[id']? = g.patterns[id]?) (t : Text) (pos : Nat) :
    g'.freshMatch t id' pos = g.freshMatch t id pos := by
  rw [freshMatch, freshMatch, h]

theorem Rule.SameHead.entry {rule rule' : Rule} (h : rule.SameHead f g g' rule') :
    g'.patterns[rule'.entry]? = g.patterns[rule.entry]? := by
  cases h with
  | single hpattern => exact hpattern
  | region hopening => exact hopening

namespace PlainState.Alike

variable {s s' : PlainState} {t : Text}

theorem content (h : s.Alike f g g' S s') : s'.content = s.content.rename f := by
  obtain ⟨pos, frames⟩ := s
  obtain ⟨pos', frames'⟩ := s'
  cases h.frames with
  | nil => rfl
  | cons hframe _ => exact hframe.content

theorem rules (hg : g.Alike f g' S) (h : s.Alike f g g' S s') :
    List.Forall₂ (Rule.AlikeAt f g g' S) (s.rules g) (s'.rules g') := by
  obtain ⟨pos, frames⟩ := s
  obtain ⟨pos', frames'⟩ := s'
  cases h.frames with
  | nil =>
    refine (hg.items hg.root).plainRules hg ((pathsAlike_nil g S).cons hg hg.root) fun set hset next hnext => ?_
    rw [List.mem_singleton.1 hset]
    exact .single hnext
  | cons hframe _ => exact hframe.rule.children.plainRules hg (pathsAlike_nil g S) (by simp [LeadsTo])

theorem winner? (hg : g.Alike f g' S) (h : s.Alike f g g' S s') :
    Option.Rel (fun w w' => w.1.Alike f g g' S w'.1 ∧ w'.2 = w.2) (s.winner? g t) (s'.winner? g' t) := by
  refine rel_findSome? ?_ (h.rules hg)
  rintro id id' ⟨rule, rule', hrule, hrule', halike⟩
  simp only [ruleMatch?, hrule, hrule', Option.bind_some, h.pos, Grammar.freshMatch_congr halike.head.entry]
  cases g.freshMatch t rule.entry s.pos with
  | none => exact .none
  | some m => exact .some ⟨halike, rfl⟩

theorem closing? (h : s.Alike f g g' S s') :
    Option.Rel (fun w w' => w.1.Alike f g g' S w'.1 ∧ w'.2 = w.2) (s.closing? g t) (s'.closing? g' t) := by
  obtain ⟨pos, frames⟩ := s
  obtain ⟨pos', frames'⟩ := s'
  obtain rfl : pos' = pos := h.pos
  cases h.frames with
  | nil => exact .none
  | @cons frame frame' _ _ hframe _ =>
    cases hframe.rule.head with
    | region _ hclosing =>
      simp only [PlainState.closing?, List.head?_cons, Option.bind_some, Grammar.freshMatch_congr hclosing]
      cases g.freshMatch t frame.rule.closing pos' with
      | none => exact .none
      | some m => exact .some ⟨hframe, rfl⟩

/-- **Step.** From places that are alike, steps deliver the same tokens and lead to places that are alike. -/
theorem step (hg : g.Alike f g' S) (h : s.Alike f g g' S s') :
    (s'.step g' t).1 = (s.step g t).1.map (List.map (Token.rename f)) ∧
      (s.step g t).2.Alike f g g' S (s'.step g' t).2 := by
  have hcontent := h.content
  have hclosing := h.closing? (t := t)
  have hwinner := h.winner? hg (t := t)
  unfold PlainState.step
  rw [h.pos]
  by_cases hend : t.length ≤ s.pos
  · rw [if_pos hend, if_pos hend]
    exact ⟨rfl, rfl, .nil⟩
  rw [if_neg hend, if_neg hend]
  generalize s.closing? g t = closed at hclosing
  generalize s'.closing? g' t = closed' at hclosing
  cases hclosing with
  | @some w w' hw =>
    obtain ⟨frame, m⟩ := w
    obtain ⟨frame', m'⟩ := w'
    obtain ⟨hframe, rfl⟩ : frame.Alike f g g' S frame' ∧ m' = m := hw
    refine ⟨?_, rfl, ?_⟩
    · cases hframe.rule.head with
      | region _ _ _ _ _ hcaptures =>
        simp [hframe.scopes, hcaptures]
    · simpa using List.forall₂_drop 1 h.frames
  | none =>
    generalize s.winner? g t = found at hwinner
    generalize s'.winner? g' t = found' at hwinner
    cases hwinner with
    | none => exact ⟨by simp [hcontent], rfl, h.frames⟩
    | @some w w' hw =>
      obtain ⟨rule, m⟩ := w
      obtain ⟨rule', m'⟩ := w'
      obtain ⟨halike, rfl⟩ : rule.Alike f g g' S rule' ∧ m' = m := hw
      cases halike.head with
      | single _ hscope hcaptures =>
        refine ⟨?_, rfl, h.frames⟩
        simp [hcontent, hscope, hcaptures]
      | region _ _ hscope hcontentScope hcaptures =>
        refine ⟨?_, rfl, .cons ⟨halike, ?_, ?_⟩ h.frames⟩
        · simp [hcontent, hscope, hcaptures]
        · simp [hcontent, hscope]
        · simp [hcontent, hscope, hcontentScope]

end PlainState.Alike

/-! ## Runs -/

theorem Grammar.Alike.run (hg : g.Alike f g' S) (t : Text) : ∀ n : Nat,
    (plainRun g' t n).1 = (plainRun g t n).1.map (Token.rename f) ∧
      (plainRun g t n).2.Alike f g g' S (plainRun g' t n).2
  | 0 => ⟨rfl, rfl, .nil⟩
  | n + 1 => by
    obtain ⟨htokens, halike⟩ := Grammar.Alike.run hg t n
    obtain ⟨hdelivered, hnext⟩ := halike.step hg (t := t)
    refine ⟨?_, hnext⟩
    show (plainRun g' t n).1 ++ ((plainRun g' t n).2.step g' t).1.getD [] =
      ((plainRun g t n).1 ++ ((plainRun g t n).2.step g t).1.getD []).map (Token.rename f)
    rw [htokens, hdelivered, List.map_append]
    cases ((plainRun g t n).2.step g t).1 <;> rfl

/-- **Run.** The runs of grammars that are alike are in lock step. -/
theorem Grammar.Alike.lockstep (hg : g.Alike f g' S) (t : Text) : Lockstep f g g' t where
  tokens n := by
    rw [(cursorRun_eq_plainRun g t n).1, (cursorRun_eq_plainRun g' t n).1]
    exact (hg.run t n).1
  pos n := by
    rw [(cursorRun_eq_plainRun g t n).2.pos, (cursorRun_eq_plainRun g' t n).2.pos]
    exact (hg.run t n).2.pos
  depth n := by
    rw [(cursorRun_eq_plainRun g t n).2.frames, (cursorRun_eq_plainRun g' t n).2.frames]
    exact (hg.run t n).2.frames.length_eq.symm
  next n := by
    rw [step_cursorRun, step_cursorRun]
    exact ((hg.run t n).2.step hg).1

end

end Highlight
