import Highlight.Proofs.Shape
import Highlight.Proofs.Termination
import Mathlib.Data.List.Induction
import Mathlib.Data.List.Nodup
import Mathlib.Data.List.Perm.Subperm

/-!
# Scope paths follow the open regions

* **Paths** (`Stacked`, `PlainState.stacked_step`): an open region adds its scope to the path around it and its content
  scope to that. The tokens of a step carry the path of the innermost region and the scope of their rule
  (`PlainState.carries_step`), so they lie under the paths of all regions that are open.
* **Pairs** (`Paired`): closing tokens are assigned to opening tokens before them, and the pairs nest. A region may be
  closed without a token, by an empty match or at the end of the text, so the tokens alone do not tell which opening
  token is meant. `Brackets` keeps the opening tokens of the open regions, innermost first: a closing token takes the
  first of them (`Brackets.closed`), and a region that is closed in silence drops it (`Brackets.drop`).

Every step keeps the opening tokens in line with the open regions (`Bracketed.step`), where no region is opened by an
empty match (`Grammar.OpensVisibly`). The theorem is `scopes_follow_regions`.
-/

namespace Highlight

/-! ## Paths -/

namespace ScopePath

/-- The path goes on from another one. -/
def Under (q p : ScopePath) : Prop := p.scopes <+: q.scopes

theorem under_refl (p : ScopePath) : p.Under p := List.prefix_rfl

theorem Under.trans {p q r : ScopePath} (h : r.Under q) (h' : q.Under p) : r.Under p := List.IsPrefix.trans h' h

theorem under_push (p : ScopePath) (scope : String) : (p.push scope).Under p := List.prefix_append ..

theorem under_extend (p : ScopePath) : ∀ scope : Option String, (p.extend scope).Under p
  | some scope => p.under_push scope
  | none => p.under_refl

end ScopePath

/-- The region adds its scope to a path, and its content scope to that. -/
structure Frame.Extends (f : Frame) (base : ScopePath) : Prop where
  scopes : f.scopes = base.extend f.rule.scope
  content : f.content = f.scopes.extend f.rule.contentScope

/-- The path of plain text inside of open regions, innermost first: the content path of the innermost one, and the empty
path where none is open. -/
def contentOf : List Frame → ScopePath
  | f :: _ => f.content
  | [] => {}

theorem PlainState.content_eq (s : PlainState) : s.content = contentOf s.frames := by
  unfold PlainState.content
  cases s.frames <;> rfl

/-- The paths of open regions, innermost first: each region extends the content path of the one around it, and the
outermost one the empty path. -/
def Stacked : List Frame → Prop
  | [] => True
  | f :: frames => f.Extends (contentOf frames) ∧ Stacked frames

namespace Stacked

/-- Plain text lies under all open regions. -/
theorem content_under : ∀ {frames : List Frame}, Stacked frames → ∀ f ∈ frames, (contentOf frames).Under f.scopes
  | f :: frames, ⟨hf, hframes⟩, f', hf' => by
    have hcontent : f.content.Under f.scopes := by
      rw [hf.content]
      exact f.scopes.under_extend _
    rcases List.mem_cons.1 hf' with rfl | hf'
    · exact hcontent
    · have hscopes : f.scopes.Under (contentOf frames) := by
        rw [hf.scopes]
        exact (contentOf frames).under_extend _
      exact hcontent.trans (hscopes.trans (content_under hframes f' hf'))

/-- The ends of a region lie under all regions around it. -/
theorem scopes_under {f : Frame} {frames : List Frame} (h : Stacked (f :: frames)) :
    ∀ f' ∈ f :: frames, f.scopes.Under f'.scopes := by
  intro f' hf'
  rcases List.mem_cons.1 hf' with rfl | hf'
  · exact f'.scopes.under_refl
  · have hscopes : f.scopes.Under (contentOf frames) := by
      rw [h.1.scopes]
      exact (contentOf frames).under_extend _
    exact hscopes.trans (h.2.content_under f' hf')

end Stacked

/-- **One step** keeps the paths stacked. -/
theorem PlainState.stacked_step (g : Grammar) (t : Text) {s : PlainState} (h : Stacked s.frames) :
    Stacked (s.step g t).2.frames := by
  generalize hout : s.step g t = out
  have houtcome := s.step_outcome g t
  rw [hout] at houtcome
  cases houtcome with
  | stop hend => trivial
  | close hpos hf hm =>
    rw [hf] at h
    exact h.2
  | single hpos hc hw hid hr hm => exact h
  | region hpos hc hw hid hr hm =>
    rw [s.content_eq]
    exact ⟨⟨rfl, rfl⟩, h⟩
  | fallback hpos hc hw => exact h

/-- **Any number of steps** keep the paths stacked. -/
theorem stacked_plainRun (g : Grammar) (t : Text) : ∀ n : Nat, Stacked (plainRun g t n).2.frames
  | 0 => trivial
  | n + 1 => PlainState.stacked_step g t (stacked_plainRun g t n)

/-! ## Tokens of a step -/

theorem mem_tokenOf {t : Text} {span : Pattern.Span} {kind : TokenKind} {scopes : ScopePath} {tok : Token}
    (h : tok ∈ tokenOf t span kind scopes) : tok.kind = kind ∧ tok.scopes = scopes := by
  unfold tokenOf at h
  split at h
  · obtain rfl := List.mem_singleton.1 h
    exact ⟨rfl, rfl⟩
  · cases h

theorem captureTokens_under {t : Text} {m : Pattern.Match} {captures : Captures} {base : ScopePath} {tok : Token}
    (h : tok ∈ captureTokens t m captures base) : tok.kind = .capture ∧ tok.scopes.Under base := by
  obtain ⟨group, span, scope, -, -, -, rfl⟩ := mem_captureTokens h
  exact ⟨rfl, base.under_push scope⟩

/-- The scopes that a token of the next step carries: the content path here, and then the scope of the rule that wins.
The closing token carries the path of the region that it closes; captures are not meant. -/
def PlainState.Carries (g : Grammar) (t : Text) (s : PlainState) (tok : Token) : Prop :=
  match tok.kind with
  | .matched => ∃ r m, s.winner? g t = some (.single r, m) ∧ tok.scopes = s.content.extend r.scope
  | .opening => ∃ r m, s.winner? g t = some (.region r, m) ∧ tok.scopes = s.content.extend r.scope
  | .closing => ∃ f m, s.closing? g t = some (f, m) ∧ tok.scopes = f.scopes
  | .fallback => s.winner? g t = none ∧ tok.scopes = s.content
  | .capture => True

/-- **The tokens of a step** carry the path of the innermost region and the scope of their rule. -/
theorem PlainState.carries_step (g : Grammar) (t : Text) (s : PlainState) :
    ∀ tok ∈ (s.step g t).1.getD [], s.Carries g t tok := by
  have hcapture : ∀ {tok : Token}, tok.kind = .capture → s.Carries g t tok := fun hkind => by
    unfold Carries
    rw [hkind]
    trivial
  generalize hout : s.step g t = out
  have houtcome := s.step_outcome g t
  rw [hout] at houtcome
  intro tok htok
  cases houtcome with
  | stop hend => cases htok
  | @close f frames m hpos hf hm =>
    rcases List.mem_append.1 htok with htok | htok
    · obtain ⟨hkind, hscopes⟩ := mem_tokenOf htok
      unfold Carries
      rw [hkind]
      exact ⟨f, m, by simp [closing?, hf, hm], hscopes⟩
    · exact hcapture (captureTokens_under htok).1
  | @single id r m hpos hc hw hid hr hm =>
    rcases List.mem_append.1 htok with htok | htok
    · obtain ⟨hkind, hscopes⟩ := mem_tokenOf htok
      unfold Carries
      rw [hkind]
      exact ⟨r, m, hw, hscopes⟩
    · exact hcapture (captureTokens_under htok).1
  | @region id r m hpos hc hw hid hr hm =>
    rcases List.mem_append.1 htok with htok | htok
    · obtain ⟨hkind, hscopes⟩ := mem_tokenOf htok
      unfold Carries
      rw [hkind]
      exact ⟨r, m, hw, hscopes⟩
    · exact hcapture (captureTokens_under htok).1
  | fallback hpos hc hw =>
    obtain ⟨hkind, hscopes⟩ := mem_tokenOf htok
    unfold Carries
    rw [hkind]
    exact ⟨hw, hscopes⟩

/-! ## Pairs -/

/-- At this place of the stream there is a token of this kind with this path. -/
def TokenAt (tokens : List Token) (i : Nat) (kind : TokenKind) (path : ScopePath) : Prop :=
  ∃ tok, tokens[i]? = some tok ∧ tok.kind = kind ∧ tok.scopes = path

/-- From one place to another, both left out, all tokens lie under a path. -/
def UnderBetween (tokens : List Token) (i j : Nat) (path : ScopePath) : Prop :=
  ∀ k tok, i < k → k < j → tokens[k]? = some tok → tok.scopes.Under path

/-- Every closing token is assigned to an opening token before it with the same path, and all tokens between the two lie
under that path. Of two pairs, one lies behind the other or around it. -/
structure Paired (tokens : List Token) (opener : Nat → Nat) : Prop where
  closes : ∀ j path, TokenAt tokens j .closing path →
    opener j < j ∧ TokenAt tokens (opener j) .opening path ∧ UnderBetween tokens (opener j) j path
  nested : ∀ i j p q, TokenAt tokens i .closing p → TokenAt tokens j .closing q → i < j →
    i < opener j ∨ opener j < opener i

/-- No two closing tokens are assigned to the same opening token. -/
theorem Paired.injective {tokens : List Token} {opener : Nat → Nat} (h : Paired tokens opener) {i j : Nat}
    {p q : ScopePath} (hi : TokenAt tokens i .closing p) (hj : TokenAt tokens j .closing q)
    (heq : opener i = opener j) : i = j := by
  have hbefore := (h.closes i p hi).1
  have hbefore' := (h.closes j q hj).1
  rcases Nat.lt_trichotomy i j with hlt | rfl | hlt
  · have := h.nested i j p q hi hj hlt
    omega
  · rfl
  · have := h.nested j i q p hj hi hlt
    omega

theorem TokenAt.lt_length {tokens : List Token} {i : Nat} {kind : TokenKind} {path : ScopePath}
    (h : TokenAt tokens i kind path) : i < tokens.length := by
  obtain ⟨tok, htok, -⟩ := h
  exact (List.getElem?_eq_some_iff.1 htok).1

theorem TokenAt.append {tokens : List Token} {i : Nat} {kind : TokenKind} {path : ScopePath}
    (h : TokenAt tokens i kind path) (more : List Token) : TokenAt (tokens ++ more) i kind path := by
  obtain ⟨tok, htok, hkind⟩ := h
  exact ⟨tok, by rw [List.getElem?_append_left (List.getElem?_eq_some_iff.1 htok).1, htok], hkind⟩

theorem tokenAt_of_append {tokens more : List Token} {i : Nat} {kind : TokenKind} {path : ScopePath}
    (h : TokenAt (tokens ++ more) i kind path) (hi : i < tokens.length) : TokenAt tokens i kind path := by
  obtain ⟨tok, htok, hkind⟩ := h
  exact ⟨tok, by rwa [List.getElem?_append_left hi] at htok, hkind⟩

/-- A token of the longer stream stood there before, or it is the new one. -/
theorem getElem?_concat_cases {tokens : List Token} {tok tok' : Token} {i : Nat}
    (h : (tokens ++ [tok])[i]? = some tok') : tokens[i]? = some tok' ∨ i = tokens.length ∧ tok = tok' := by
  have hlt := (List.getElem?_eq_some_iff.1 h).1
  rw [List.length_append, List.length_singleton] at hlt
  rcases Nat.lt_or_ge i tokens.length with hi | hi
  · rw [List.getElem?_append_left hi] at h
    exact Or.inl h
  · obtain rfl : i = tokens.length := by omega
    rw [List.getElem?_concat_length] at h
    exact Or.inr ⟨rfl, Option.some.inj h⟩

theorem tokenAt_concat {tokens : List Token} {tok : Token} {i : Nat} {kind : TokenKind} {path : ScopePath}
    (h : TokenAt (tokens ++ [tok]) i kind path) :
    TokenAt tokens i kind path ∨ i = tokens.length ∧ tok.kind = kind ∧ tok.scopes = path := by
  obtain ⟨tok', htok', hkind⟩ := h
  rcases getElem?_concat_cases htok' with hold | ⟨rfl, rfl⟩
  · exact Or.inl ⟨tok', hold, hkind⟩
  · exact Or.inr ⟨rfl, hkind⟩

/-- Up to the end of a stream, what comes after it does not count. -/
theorem underBetween_append {tokens more : List Token} {i j : Nat} {path : ScopePath} (hj : j ≤ tokens.length) :
    UnderBetween (tokens ++ more) i j path ↔ UnderBetween tokens i j path := by
  unfold UnderBetween
  refine forall₄_congr fun k tok _ hk => ?_
  rw [List.getElem?_append_left (Nat.lt_of_lt_of_le hk hj)]

/-- A pairing of a stream is one of each stream that it starts with. -/
theorem Paired.of_append {tokens more : List Token} {opener : Nat → Nat} (h : Paired (tokens ++ more) opener) :
    Paired tokens opener where
  closes j path hj := by
    obtain ⟨hbefore, hopening, hunder⟩ := h.closes j path (hj.append more)
    have hlt := hj.lt_length
    exact ⟨hbefore, tokenAt_of_append hopening (Nat.lt_trans hbefore hlt),
      (underBetween_append (Nat.le_of_lt hlt)).1 hunder⟩
  nested i j p q hi hj := h.nested i j p q (hi.append more) (hj.append more)

/-- The places of the tokens of a kind. -/
def placesOf (kind : TokenKind) (tokens : List Token) : List Nat :=
  (List.range tokens.length).filter fun i => (tokens[i]?).any (·.kind == kind)

theorem mem_placesOf {kind : TokenKind} {tokens : List Token} {i : Nat} :
    i ∈ placesOf kind tokens ↔ ∃ path, TokenAt tokens i kind path := by
  simp only [placesOf, List.mem_filter, List.mem_range, Option.any_eq_true, beq_iff_eq]
  constructor
  · rintro ⟨-, tok, htok, hkind⟩
    exact ⟨tok.scopes, tok, htok, hkind, rfl⟩
  · rintro ⟨path, tok, htok, hkind, -⟩
    exact ⟨(List.getElem?_eq_some_iff.1 htok).1, tok, htok, hkind⟩

theorem length_placesOf (kind : TokenKind) (tokens : List Token) :
    (placesOf kind tokens).length = tokens.countP (·.kind == kind) := by
  induction tokens using List.reverseRecOn with
  | nil => rfl
  | append_singleton tokens tok ih =>
    have hold : (List.range tokens.length).filter (fun i => ((tokens ++ [tok])[i]?).any (·.kind == kind)) =
        placesOf kind tokens := by
      refine List.filter_congr fun i hi => ?_
      rw [List.getElem?_append_left (List.mem_range.1 hi)]
    rw [placesOf, List.length_append, List.length_singleton, List.range_succ, List.filter_append, hold,
      List.length_append, ih, List.countP_append, ← List.countP_eq_length_filter, List.countP_singleton,
      List.countP_singleton, List.getElem?_concat_length, Option.any_some]

/-- Closing tokens do not outnumber opening tokens. -/
theorem Paired.closing_le_opening {tokens : List Token} {opener : Nat → Nat} (h : Paired tokens opener) :
    tokens.countP (·.kind == .closing) ≤ tokens.countP (·.kind == .opening) := by
  have hnodup : ((placesOf .closing tokens).map opener).Nodup := by
    refine List.Nodup.map_on (fun i hi j hj heq => ?_) (List.nodup_range.filter _)
    obtain ⟨p, hp⟩ := mem_placesOf.1 hi
    obtain ⟨q, hq⟩ := mem_placesOf.1 hj
    exact h.injective hp hq heq
  have hsubset : (placesOf .closing tokens).map opener ⊆ placesOf .opening tokens := by
    intro i hi
    obtain ⟨j, hj, rfl⟩ := List.mem_map.1 hi
    obtain ⟨path, hpath⟩ := mem_placesOf.1 hj
    exact mem_placesOf.2 ⟨path, (h.closes j path hpath).2.1⟩
  have hle := (hnodup.subperm hsubset).length_le
  rwa [List.length_map, length_placesOf, length_placesOf] at hle

/-! ## Opening tokens that wait -/

/-- A stream with its pairs, and the places and paths of opening tokens that wait to be closed, innermost first. All
tokens after an opening token that waits lie under its path, and no pair lies around it. -/
structure Brackets (tokens : List Token) (waiting : List (Nat × ScopePath)) (opener : Nat → Nat) : Prop where
  paired : Paired tokens opener
  opening : ∀ o ∈ waiting, TokenAt tokens o.1 .opening o.2 ∧ UnderBetween tokens o.1 tokens.length o.2
  descending : waiting.Pairwise fun o o' => o'.1 < o.1
  apart : ∀ o ∈ waiting, ∀ j path, TokenAt tokens j .closing path → j < o.1 ∨ o.1 < opener j

namespace Brackets

variable {tokens : List Token} {waiting : List (Nat × ScopePath)} {opener : Nat → Nat} {tok : Token}

theorem nil (opener : Nat → Nat) : Brackets [] [] opener where
  paired := ⟨fun _ _ h => absurd h.lt_length (Nat.not_lt_zero _),
    fun _ _ _ _ h => absurd h.lt_length (Nat.not_lt_zero _)⟩
  opening := by simp
  descending := .nil
  apart := by simp

/-- An opening token need not wait any longer. -/
theorem drop {o : Nat × ScopePath} (h : Brackets tokens (o :: waiting) opener) : Brackets tokens waiting opener where
  paired := h.paired
  opening := (List.forall_mem_cons.1 h.opening).2
  descending := (List.pairwise_cons.1 h.descending).2
  apart := (List.forall_mem_cons.1 h.apart).2

/-- What lies under the paths that wait goes on to do so. -/
theorem opening_concat (h : Brackets tokens waiting opener) (hunder : ∀ o ∈ waiting, tok.scopes.Under o.2) :
    ∀ o ∈ waiting, TokenAt (tokens ++ [tok]) o.1 .opening o.2 ∧
      UnderBetween (tokens ++ [tok]) o.1 (tokens ++ [tok]).length o.2 := by
  intro o ho
  obtain ⟨hat, hbetween⟩ := h.opening o ho
  refine ⟨hat.append _, fun k tok' hlo _ htok' => ?_⟩
  rcases getElem?_concat_cases htok' with hold | ⟨-, rfl⟩
  · exact hbetween k tok' hlo (List.getElem?_eq_some_iff.1 hold).1 hold
  · exact hunder o ho

/-- A token that closes no region leaves the pairs as they are. -/
theorem paired_concat (h : Brackets tokens waiting opener) (hkind : tok.kind ≠ .closing) :
    Paired (tokens ++ [tok]) opener := by
  have hold : ∀ {j path}, TokenAt (tokens ++ [tok]) j .closing path → TokenAt tokens j .closing path := fun hj =>
    (tokenAt_concat hj).elim id fun hnew => absurd hnew.2.1 hkind
  refine ⟨fun j path hj => ?_, fun i j p q hi hj => h.paired.nested i j p q (hold hi) (hold hj)⟩
  obtain ⟨hbefore, hopening, hunder⟩ := h.paired.closes j path (hold hj)
  exact ⟨hbefore, hopening.append _, (underBetween_append (Nat.le_of_lt (hold hj).lt_length)).2 hunder⟩

/-- A token that closes no region. -/
theorem other (h : Brackets tokens waiting opener) (hclosing : tok.kind ≠ .closing)
    (hunder : ∀ o ∈ waiting, tok.scopes.Under o.2) : Brackets (tokens ++ [tok]) waiting opener where
  paired := h.paired_concat hclosing
  opening := h.opening_concat hunder
  descending := h.descending
  apart o ho j path hj :=
    h.apart o ho j path ((tokenAt_concat hj).elim id fun hnew => absurd hnew.2.1 hclosing)

/-- A token that opens a region waits from then on. -/
theorem opened (h : Brackets tokens waiting opener) (hkind : tok.kind = .opening)
    (hunder : ∀ o ∈ waiting, tok.scopes.Under o.2) :
    Brackets (tokens ++ [tok]) ((tokens.length, tok.scopes) :: waiting) opener where
  paired := h.paired_concat (by simp [hkind])
  opening := by
    refine List.forall_mem_cons.2 ⟨⟨⟨tok, List.getElem?_concat_length, hkind, rfl⟩, ?_⟩, h.opening_concat hunder⟩
    intro k _ hlo hhi
    rw [List.length_append, List.length_singleton] at hhi
    omega
  descending := List.pairwise_cons.2 ⟨fun o ho => (h.opening o ho).1.lt_length, h.descending⟩
  apart := by
    have hold : ∀ {j path}, TokenAt (tokens ++ [tok]) j .closing path → TokenAt tokens j .closing path := fun hj =>
      (tokenAt_concat hj).elim id fun hnew => by simp [hkind] at hnew
    refine List.forall_mem_cons.2 ⟨fun j path hj => Or.inl (hold hj).lt_length, fun o ho j path hj => ?_⟩
    exact h.apart o ho j path (hold hj)

/-- A token that closes a region takes the first opening token that waits. -/
theorem closed {o : Nat × ScopePath} (h : Brackets tokens (o :: waiting) opener) (hpath : tok.scopes = o.2)
    (hunder : ∀ o' ∈ waiting, tok.scopes.Under o'.2) :
    Brackets (tokens ++ [tok]) waiting (Function.update opener tokens.length o.1) := by
  obtain ⟨⟨hopening, hbetween⟩, -⟩ := List.forall_mem_cons.1 h.opening
  obtain ⟨habove, -⟩ := List.pairwise_cons.1 h.descending
  obtain ⟨hapart, -⟩ := List.forall_mem_cons.1 h.apart
  -- the new pair reaches from the innermost opening token to the end; older pairs are as they were
  have hnew : Function.update opener tokens.length o.1 tokens.length = o.1 := Function.update_self ..
  have hold : ∀ {j path}, TokenAt tokens j .closing path →
      Function.update opener tokens.length o.1 j = opener j := fun hj =>
    Function.update_of_ne (Nat.ne_of_lt hj.lt_length) ..
  refine ⟨⟨fun j path hj => ?_, fun i j p q hi hj hij => ?_⟩, ?_, h.drop.descending, fun o' ho' j path hj => ?_⟩
  · rcases tokenAt_concat hj with hj | ⟨rfl, -, hp⟩
    · rw [hold hj]
      obtain ⟨hbefore, hopening, hunder⟩ := h.paired.closes j path hj
      exact ⟨hbefore, hopening.append _, (underBetween_append (Nat.le_of_lt hj.lt_length)).2 hunder⟩
    · rw [hnew, ← hp, hpath]
      exact ⟨hopening.lt_length, hopening.append _, (underBetween_append (Nat.le_refl _)).2 hbetween⟩
  · have hlt := hj.lt_length
    rw [List.length_append, List.length_singleton] at hlt
    have hi' : TokenAt tokens i .closing p := tokenAt_of_append hi (by omega)
    rw [hold hi']
    rcases tokenAt_concat hj with hj | ⟨rfl, -, -⟩
    · rw [hold hj]
      exact h.paired.nested i j p q hi' hj hij
    · rw [hnew]
      exact hapart i p hi'
  · exact h.drop.opening_concat hunder
  · rcases tokenAt_concat hj with hj | ⟨rfl, -, -⟩
    · rw [hold hj]
      exact h.drop.apart o' ho' j path hj
    · rw [hnew]
      exact Or.inr (habove o' ho')

/-- Tokens that close no region. -/
theorem others (h : Brackets tokens waiting opener) (more : List Token)
    (hmore : ∀ tok ∈ more, tok.kind ≠ .closing ∧ ∀ o ∈ waiting, tok.scopes.Under o.2) :
    Brackets (tokens ++ more) waiting opener := by
  induction more generalizing tokens with
  | nil => rwa [List.append_nil]
  | cons tok more ih =>
    obtain ⟨⟨hclosing, hunder⟩, hmore⟩ := List.forall_mem_cons.1 hmore
    rw [List.append_cons]
    exact ih (h.other hclosing hunder) hmore

end Brackets

/-! ## Runs -/

/-- The tokens pair up, and the opening tokens that wait are those of the open regions. -/
def Bracketed (tokens : List Token) (frames : List Frame) : Prop :=
  ∃ waiting opener, Brackets tokens waiting opener ∧ waiting.map Prod.snd = frames.map Frame.scopes

namespace Bracketed

variable {tokens : List Token} {f : Frame} {frames : List Frame} {tok : Token}

theorem under_waiting {waiting : List (Nat × ScopePath)} (hline : waiting.map Prod.snd = frames.map Frame.scopes)
    {path : ScopePath} (h : ∀ f ∈ frames, path.Under f.scopes) : ∀ o ∈ waiting, path.Under o.2 := by
  intro o ho
  obtain ⟨f, hf, heq⟩ := List.mem_map.1 (hline ▸ List.mem_map_of_mem ho)
  exact heq ▸ h f hf

theorem others (h : Bracketed tokens frames) {more : List Token}
    (hmore : ∀ tok ∈ more, tok.kind ≠ .closing ∧ ∀ f ∈ frames, tok.scopes.Under f.scopes) :
    Bracketed (tokens ++ more) frames := by
  obtain ⟨waiting, opener, hbrackets, hline⟩ := h
  refine ⟨waiting, opener, hbrackets.others more fun tok htok => ?_, hline⟩
  obtain ⟨hclosing, hunder⟩ := hmore tok htok
  exact ⟨hclosing, under_waiting hline hunder⟩

theorem captures (h : Bracketed tokens frames) {base : ScopePath} (hbase : ∀ f ∈ frames, base.Under f.scopes) (t : Text)
    (m : Pattern.Match) (captures : Captures) : Bracketed (tokens ++ captureTokens t m captures base) frames := by
  refine h.others fun tok htok => ?_
  obtain ⟨hkind, hunder⟩ := captureTokens_under htok
  exact ⟨by simp [hkind], fun f hf => hunder.trans (hbase f hf)⟩

theorem opened (h : Bracketed tokens frames) (hkind : tok.kind = .opening) (hscopes : tok.scopes = f.scopes)
    (hunder : ∀ f' ∈ frames, f.scopes.Under f'.scopes) : Bracketed (tokens ++ [tok]) (f :: frames) := by
  obtain ⟨waiting, opener, hbrackets, hline⟩ := h
  rw [← hscopes] at hunder
  exact ⟨_, opener, hbrackets.opened hkind (under_waiting hline hunder), by simp [hline, hscopes]⟩

theorem closed (h : Bracketed tokens (f :: frames)) (hscopes : tok.scopes = f.scopes)
    (hunder : ∀ f' ∈ frames, f.scopes.Under f'.scopes) : Bracketed (tokens ++ [tok]) frames := by
  obtain ⟨_ | ⟨o, waiting⟩, opener, hbrackets, hline⟩ := h
  · cases hline
  · obtain ⟨hfirst, hline⟩ := List.cons.inj hline
    rw [← hscopes] at hunder
    exact ⟨waiting, _, hbrackets.closed (hscopes.trans hfirst.symm) (under_waiting hline hunder), hline⟩

theorem drop (h : Bracketed tokens (f :: frames)) : Bracketed tokens frames := by
  obtain ⟨_ | ⟨o, waiting⟩, opener, hbrackets, hline⟩ := h
  · cases hline
  · exact ⟨waiting, opener, hbrackets.drop, (List.cons.inj hline).2⟩

theorem clear : ∀ {frames : List Frame}, Bracketed tokens frames → Bracketed tokens []
  | [], h => h
  | _ :: _, h => clear h.drop

end Bracketed

/-- No region is opened by an empty match in the text. -/
def Grammar.OpensVisibly (g : Grammar) (t : Text) : Prop :=
  ∀ r, Rule.region r ∈ g.rules → ∀ pos ≤ t.length, ∀ m, g.freshMatch t r.opening pos = some m →
    m.span.start < m.span.stop

theorem Grammar.ConsumesIn.opensVisibly {g : Grammar} {t : Text} (h : g.ConsumesIn t) : g.OpensVisibly t :=
  fun r hr => h (.region r) hr

/-- **One step** keeps the opening tokens that wait in line with the open regions. -/
theorem Bracketed.step {g : Grammar} {t : Text} (hg : g.OpensVisibly t) {s : PlainState} (hs : s.pos ≤ t.length)
    (hstacked : Stacked s.frames) {tokens : List Token} (h : Bracketed tokens s.frames) :
    Bracketed (tokens ++ (s.step g t).1.getD []) (s.step g t).2.frames := by
  have hstacked' := s.stacked_step g t hstacked
  have hcontent : ∀ f ∈ s.frames, s.content.Under f.scopes := by
    rw [s.content_eq]
    exact hstacked.content_under
  generalize hout : s.step g t = out at hstacked' ⊢
  have houtcome := s.step_outcome g t
  rw [hout] at houtcome
  cases houtcome with
  | stop hend =>
    rw [Option.getD_none, List.append_nil]
    exact h.clear
  | @close f frames m hpos hf hm =>
    rw [hf] at h hstacked
    have hunder : ∀ f' ∈ frames, f.scopes.Under f'.scopes := (List.forall_mem_cons.1 hstacked.scopes_under).2
    rw [Option.getD_some, ← List.append_assoc]
    refine Bracketed.captures ?_ hunder t m _
    -- an empty match closes the region without a token
    unfold tokenOf
    split
    · exact h.closed rfl hunder
    · rw [List.append_nil]
      exact h.drop
  | @single id r m hpos hc hw hid hr hm =>
    rw [Option.getD_some, ← List.append_assoc]
    refine Bracketed.captures (h.others fun tok htok => ?_) hcontent t m _
    obtain ⟨hkind, hscopes⟩ := mem_tokenOf htok
    rw [hscopes]
    exact ⟨by simp [hkind], fun f hf => (s.content.under_extend _).trans (hcontent f hf)⟩
  | @region id r m hpos hc hw hid hr hm =>
    have hlt := hg r (Array.mem_of_getElem? hr) s.pos hs m hm
    have hunder := hstacked'.scopes_under
    rw [Option.getD_some, ← List.append_assoc, tokenOf, if_pos hlt]
    exact Bracketed.captures (h.opened rfl rfl (List.forall_mem_cons.1 hunder).2) hunder t m _
  | fallback hpos hc hw =>
    refine h.others fun tok htok => ?_
    obtain ⟨hkind, hscopes⟩ := mem_tokenOf htok
    rw [hscopes]
    exact ⟨by simp [hkind], hcontent⟩

/-- **Any number of steps** do. -/
theorem bracketed_plainRun {g : Grammar} {t : Text} (hg : g.OpensVisibly t) : ∀ n : Nat,
    Bracketed (plainRun g t n).1 (plainRun g t n).2.frames
  | 0 => ⟨[], id, .nil id, rfl⟩
  | n + 1 => (bracketed_plainRun hg n).step hg (plainRun_tiles g t n).1 (stacked_plainRun g t n)

/-- **Scope paths follow the open regions.** At every point of a run the open regions extend each other's paths, and the
tokens of the next step carry the path of the innermost one with the scope of their rule. Where no region is opened by
an empty match in the text, the closing tokens pulled so far are assigned to opening tokens before them, no two to the
same one: both have the same path, all tokens between them lie under it, and the pairs nest. So closing tokens outnumber
opening tokens at no point of the stream. -/
theorem scopes_follow_regions (g : Grammar) (source : String) :
    let t := Text.ofString source
    (∀ n, Stacked (cursorRun g t n).2.frames ∧
      ∀ tok ∈ ((cursorRun g t n).2.step g t).1.getD [], (cursorRun g t n).2.place.Carries g t tok) ∧
    (g.OpensVisibly t → ∀ tokens r, (Run.start g source).Pulled tokens r →
      (∃ opener, Paired tokens opener ∧ ∀ i j p q, TokenAt tokens i .closing p → TokenAt tokens j .closing q →
        opener i = opener j → i = j) ∧
      ∀ stream, stream <+: tokens → stream.countP (·.kind == .closing) ≤ stream.countP (·.kind == .opening)) := by
  intro t
  refine ⟨fun n => ⟨?_, ?_⟩, fun hg tokens r hpulled => ?_⟩
  · rw [(cursorRun_eq_plainRun g t n).2.frames]
    exact stacked_plainRun g t n
  · rw [place_cursorRun, step_cursorRun]
    exact (plainRun g t n).2.carries_step g t
  · obtain ⟨n, hafter⟩ := hpulled.after
    obtain ⟨waiting, opener, hbrackets, -⟩ := bracketed_plainRun hg n
    have hpaired := hbrackets.paired
    rw [← (cursorRun_eq_plainRun g t n).1, hafter.run] at hpaired
    refine ⟨⟨opener, hpaired.of_append, fun i j p q => hpaired.of_append.injective⟩, fun stream hstream => ?_⟩
    obtain ⟨rest, rfl⟩ := hstream
    exact hpaired.of_append.of_append.closing_le_opening

/-- The third bracket is closed by an empty match at the end of its line. -/
theorem scopes_follow_regions_brackets :
    Grammar.brackets.OpensVisibly (Text.ofString "([x])(\n") ∧
    ∃ tokens r opener, (Run.start .brackets "([x])(\n").Pulled tokens r ∧ tokens.length = 9 ∧
      TokenAt tokens 4 .closing ⟨["round", "square"]⟩ ∧ TokenAt tokens 5 .closing ⟨["round"]⟩ ∧
      TokenAt tokens 6 .opening ⟨["round"]⟩ ∧ TokenAt tokens 8 .fallback {} ∧ Paired tokens opener := by
  have hg : Grammar.brackets.ConsumesIn (Text.ofString "([x])(\n") := by decide +kernel
  have hpulled := Run.pulled_take 9 (show ((Run.start .brackets "([x])(\n").take 9).2.2 ≠ .stalled by decide +kernel)
  obtain ⟨⟨opener, hpaired, -⟩, -⟩ := (scopes_follow_regions .brackets "([x])(\n").2 hg.opensVisibly _ _ hpulled
  exact ⟨hg.opensVisibly, _, _, opener, hpulled, by decide +kernel, ⟨⟨3, 4, _, _⟩, by decide +kernel, rfl, rfl⟩,
    ⟨⟨4, 5, _, _⟩, by decide +kernel, rfl, rfl⟩, ⟨⟨5, 6, _, _⟩, by decide +kernel, rfl, rfl⟩,
    ⟨⟨6, 7, _, _⟩, by decide +kernel, rfl, rfl⟩, hpaired⟩

end Highlight
