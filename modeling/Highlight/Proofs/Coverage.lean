import Highlight.Grammar.Build
import Highlight.Proofs.Matcher
import Highlight.Proofs.Offsets
import Highlight.Proofs.PlainMachine
import Highlight.Token.Stream

/-!
# Primary tokens cover what a run has walked over

A step delivers nothing and stays, or it delivers one primary token for all it has walked over and then captures inside
of it (`Delivery`, `PlainState.delivery_step`). So the primary tokens of any number of steps tile the text up to the
position of the run (`plainRun_tiles`), and the same is true of the tokens that were pulled, since only captures wait
(`pulled_tokens_cover`).
-/

namespace Highlight

/-! ## Tilings -/

/-- Tokens follow one another without gaps, none of them empty, from one byte offset to another. -/
def Adjacent : Nat → List Token → Nat → Prop
  | i, [], j => i = j
  | i, tok :: toks, j => tok.start = i ∧ tok.start < tok.stop ∧ Adjacent tok.stop toks j

/-- Tokens follow one another without gaps, none of them empty, from one position of a text to another. -/
def Tiles (t : Text) : Nat → List Token → Nat → Prop
  | i, [], j => i = j
  | i, tok :: toks, j => ∃ k, i < k ∧ k ≤ t.length ∧ tok.start = t.offset i ∧ tok.stop = t.offset k ∧ Tiles t k toks j

theorem Tiles.append {t : Text} {j k : Nat} {ys : List Token} (hys : Tiles t j ys k) :
    ∀ {xs : List Token} {i : Nat}, Tiles t i xs j → Tiles t i (xs ++ ys) k
  | [], _, rfl => hys
  | _ :: _, _, ⟨l, hil, hl, hstart, hstop, hxs⟩ => ⟨l, hil, hl, hstart, hstop, Tiles.append hys hxs⟩

theorem Tiles.adjacent {t : Text} {j : Nat} : ∀ {toks : List Token} {i : Nat}, Tiles t i toks j →
    Adjacent (t.offset i) toks (t.offset j)
  | [], _, rfl => rfl
  | tok :: _, i, ⟨k, hik, hk, hstart, hstop, htoks⟩ => by
    refine ⟨hstart, ?_, ?_⟩
    · rw [hstart, hstop]
      exact t.offset_lt_offset hik hk
    · rw [hstop]
      exact htoks.adjacent

theorem Tiles.le {t : Text} {j : Nat} : ∀ {toks : List Token} {i : Nat}, Tiles t i toks j → i + toks.length ≤ j
  | [], _, rfl => Nat.le_refl _
  | _ :: _, _, ⟨_, _, _, _, _, htoks⟩ => by
    have := htoks.le
    simp only [List.length_cons]
    omega

/-- The texts of tokens that tile a part of the text are that part. -/
theorem Tiles.texts {source : String} {j : Nat} : ∀ {toks : List Token} {i : Nat},
    Tiles (Text.ofString source) i toks j → ∃ texts, toks.mapM (·.text? source) = some texts ∧
      String.join texts = String.ofList ((source.toList.take j).drop i)
  | [], i, h => ⟨[], rfl, by
    cases h
    simp⟩
  | tok :: toks, i, ⟨k, hik, hk, hstart, hstop, htoks⟩ => by
    obtain ⟨texts, htexts, hjoin⟩ := htoks.texts
    have hslice := (Text.ofString source).byteSlice?_offset (Nat.le_of_lt hik) hk
    rw [← hstart, ← hstop] at hslice
    refine ⟨String.ofList ((source.toList.take k).drop i) :: texts, ?_, ?_⟩
    · rw [List.mapM_cons, htexts, Token.text?]
      simp only [Text.ofString, Text.ofList] at hslice
      rw [hslice]
      rfl
    · have hkj := htoks.le
      rw [String.join_cons, hjoin, ← String.ofList_append,
        drop_take_append_drop_take source.toList (Nat.le_of_lt hik) (show k ≤ j by omega)]

/-- Adjacent tokens pass the check. -/
theorem Adjacent.checkAdjacent {length : Nat} : ∀ {toks : List Token} {i : Nat}, Adjacent i toks length →
    checkAdjacent length i toks = none
  | [], _, rfl => by simp [Highlight.checkAdjacent]
  | tok :: toks, i, ⟨hstart, hlt, htoks⟩ => by
    have hempty : tok.isEmpty = false := by
      simp only [Token.isEmpty, beq_eq_false_iff_ne]
      omega
    rw [Highlight.checkAdjacent, if_neg (by simpa using hstart), hempty]
    exact htoks.checkAdjacent

/-! ## One step -/

/-- What a step over the characters from `i` to `j` delivers: nothing if there are none, and else one primary token for
them and captures inside of it. -/
inductive Delivery (t : Text) : Nat → Nat → List Token → Prop
  | nothing (i : Nat) : Delivery t i i []
  | primary {i j : Nat} {tok : Token} {captures : List Token} : i < j → j ≤ t.length → tok.isPrimary = true →
      tok.start = t.offset i → tok.stop = t.offset j →
      (∀ c ∈ captures, c.kind = .capture ∧ tok.start ≤ c.start ∧ c.stop ≤ tok.stop) →
      Delivery t i j (tok :: captures)

/-- What a group took; group 0 is the whole match. -/
def Pattern.Match.group? (m : Pattern.Match) (group : Nat) : Option Pattern.Span :=
  if group = 0 then some m.span else (m.groups[group]?).join

theorem Pattern.Match.Within.group? {m : Pattern.Match} {pos limit : Nat} (h : m.Within pos limit) {group : Nat}
    {span : Pattern.Span} (hspan : m.group? group = some span) : pos ≤ span.start ∧ span.stop ≤ m.span.stop := by
  unfold Pattern.Match.group? at hspan
  split at hspan
  · cases hspan
    exact ⟨Nat.le_of_eq h.start_eq.symm, Nat.le_refl _⟩
  · obtain ⟨hstart, -, hstop⟩ := h.groups group span (Option.join_eq_some_iff.1 hspan)
    exact ⟨hstart, hstop⟩

theorem scopedGroups_eq (m : Pattern.Match) (captures : Captures) :
    scopedGroups m.groups m.span captures = captures.filterMap fun c =>
      (m.group? c.1).bind fun span => if span.start < span.stop then some (c.1, span, c.2) else none := by
  refine List.filterMap_congr fun c _ => ?_
  unfold Pattern.Match.group?
  dsimp only
  cases (if c.1 = 0 then some m.span else (m.groups[c.1]?).join) with
  | none => rfl
  | some span => by_cases hlt : span.start < span.stop <;> simp [Pattern.Span.isEmpty, hlt, Nat.not_le.2, Nat.not_lt.1]

/-- The groups that are reported have a scope and took some text. -/
theorem mem_scopedGroups {m : Pattern.Match} {captures : Captures} {group : Nat} {span : Pattern.Span}
    {scope : String} : (group, span, scope) ∈ scopedGroups m.groups m.span captures ↔
      (group, scope) ∈ captures ∧ m.group? group = some span ∧ span.start < span.stop := by
  rw [scopedGroups_eq, List.mem_filterMap]
  constructor
  · rintro ⟨c, hc, hspan⟩
    obtain ⟨span', hgroup, hspan⟩ := Option.bind_eq_some_iff.1 hspan
    split at hspan
    · cases hspan
      exact ⟨hc, hgroup, ‹_›⟩
    · cases hspan
  · rintro ⟨hc, hgroup, hlt⟩
    exact ⟨(group, scope), hc, by simp [hgroup, hlt]⟩

/-- Captures are tokens of groups that took some text. -/
theorem mem_captureTokens {t : Text} {m : Pattern.Match} {captures : Captures} {base : ScopePath} {tok : Token}
    (h : tok ∈ captureTokens t m captures base) :
    ∃ (group : Nat) (span : Pattern.Span) (scope : String), (group, scope) ∈ captures ∧ m.group? group = some span ∧
      span.start < span.stop ∧ tok = ⟨t.offset span.start, t.offset span.stop, .capture, base.push scope⟩ := by
  simp only [captureTokens, List.mem_flatMap, List.mem_mergeSort] at h
  obtain ⟨⟨group, span, scope⟩, hfound, htok⟩ := h
  obtain ⟨hscope, hgroup, hlt⟩ := mem_scopedGroups.1 hfound
  exact ⟨group, span, scope, hscope, hgroup, hlt, by simpa [tokenOf, hlt] using htok⟩

/-- A match with its groups inside is delivered as one token with captures inside of it. -/
theorem delivery_of_within {t : Text} {m : Pattern.Match} {pos : Nat} (h : m.Within pos t.length) {kind : TokenKind}
    (hkind : kind.isPrimary = true) (scopes base : ScopePath) (captures : Captures) :
    Delivery t pos m.span.stop (tokenOf t m.span kind scopes ++ captureTokens t m captures base) := by
  have hinside : ∀ tok ∈ captureTokens t m captures base, ∃ a b, pos ≤ a ∧ a < b ∧ b ≤ m.span.stop ∧
      tok.kind = .capture ∧ tok.start = t.offset a ∧ tok.stop = t.offset b := by
    intro tok htok
    obtain ⟨group, span, scope, -, hspan, hlt, rfl⟩ := mem_captureTokens htok
    obtain ⟨hstart, hstop⟩ := h.group? hspan
    exact ⟨_, _, hstart, hlt, hstop, rfl, rfl, rfl⟩
  rcases Nat.eq_or_lt_of_le h.le_stop with heq | hlt
  · -- an empty match has no room for captures
    have hnone : captureTokens t m captures base = [] := by
      refine List.eq_nil_iff_forall_not_mem.2 fun tok htok => ?_
      obtain ⟨a, b, ha, hab, hb, -⟩ := hinside tok htok
      omega
    rw [hnone, tokenOf, if_neg (by rw [h.start_eq]; omega), ← heq]
    exact .nothing pos
  · rw [tokenOf, if_pos (by rw [h.start_eq]; exact hlt), h.start_eq]
    refine .primary hlt h.stop_le hkind rfl rfl fun tok htok => ?_
    obtain ⟨a, b, ha, hab, hb, hcapture, hstart, hstop⟩ := hinside tok htok
    have hle := h.stop_le
    rw [hstart, hstop]
    exact ⟨hcapture, t.offset_le_offset ha (by omega), t.offset_le_offset hb hle⟩

theorem Grammar.freshMatch_within {g : Grammar} {t : Text} {id pos : Nat} {m : Pattern.Match} (hpos : pos ≤ t.length)
    (h : g.freshMatch t id pos = some m) : m.Within pos t.length := by
  obtain ⟨p, -, hm⟩ := Option.bind_eq_some_iff.1 h
  exact Pattern.matchAt?_within hpos hm

/-- **One step** delivers what it has walked over. -/
theorem PlainState.delivery_step {g : Grammar} {t : Text} {s : PlainState} (hs : s.pos ≤ t.length) :
    (s.step g t).2.pos ≤ t.length ∧ Delivery t s.pos (s.step g t).2.pos ((s.step g t).1.getD []) := by
  generalize hout : s.step g t = out
  have houtcome := s.step_outcome g t
  rw [hout] at houtcome
  cases houtcome with
  | stop hend => exact ⟨hs, .nothing _⟩
  | close hpos hf hm =>
    have hwithin := Grammar.freshMatch_within hs hm
    exact ⟨hwithin.stop_le, delivery_of_within hwithin rfl _ _ _⟩
  | single hpos hc hw hid hr hm =>
    have hwithin := Grammar.freshMatch_within hs hm
    exact ⟨hwithin.stop_le, delivery_of_within hwithin rfl _ _ _⟩
  | region hpos hc hw hid hr hm =>
    have hwithin := Grammar.freshMatch_within hs hm
    exact ⟨hwithin.stop_le, delivery_of_within hwithin rfl _ _ _⟩
  | fallback hpos hc hw =>
    refine ⟨hpos, ?_⟩
    rw [tokenOf, if_pos (Nat.lt_succ_self s.pos)]
    exact .primary (Nat.lt_succ_self s.pos) hpos rfl rfl rfl (by simp)

/-! ## Any number of steps -/

theorem Delivery.tiles {t : Text} {i j : Nat} {toks : List Token} (h : Delivery t i j toks) :
    Tiles t i (primaryTokens toks) j := by
  cases h with
  | nothing => rfl
  | @primary _ tok captures hij hj hprimary hstart hstop hcaptures =>
    have hnone : captures.filter Token.isPrimary = [] := by
      refine List.filter_eq_nil_iff.2 fun c hc => ?_
      simp [Token.isPrimary, TokenKind.isPrimary, (hcaptures c hc).1]
    rw [primaryTokens, List.filter_cons_of_pos hprimary, hnone]
    exact ⟨j, hij, hj, hstart, hstop, rfl⟩

/-- **Any number of steps** deliver primary tokens for what they have walked over. -/
theorem plainRun_tiles (g : Grammar) (t : Text) : ∀ n : Nat, (plainRun g t n).2.pos ≤ t.length ∧
    Tiles t 0 (primaryTokens (plainRun g t n).1) (plainRun g t n).2.pos
  | 0 => ⟨Nat.zero_le _, rfl⟩
  | n + 1 => by
    obtain ⟨hpos, htiles⟩ := plainRun_tiles g t n
    obtain ⟨hpos', hdelivery⟩ := PlainState.delivery_step hpos
    refine ⟨hpos', ?_⟩
    show Tiles t 0 (primaryTokens ((plainRun g t n).1 ++ ((plainRun g t n).2.step g t).1.getD [])) _
    rw [primaryTokens, List.filter_append]
    exact hdelivery.tiles.append htiles

/-! ## Any number of pulls -/

/-- All but the first token of a delivery are captures before its end. -/
theorem Delivery.captures {t : Text} {i j : Nat} {toks : List Token} (h : Delivery t i j toks) :
    ∀ c ∈ toks.tail, c.kind = .capture ∧ c.stop ≤ t.offset j := by
  cases h with
  | nothing => simp
  | primary hij hj hprimary hstart hstop hcaptures =>
    intro c hc
    rw [← hstop]
    exact ⟨(hcaptures c hc).1, (hcaptures c hc).2.2⟩

theorem lastDelivered_captures (g : Grammar) (t : Text) : ∀ n : Nat, ∀ c ∈ (lastDelivered g t n).tail,
    c.kind = .capture ∧ c.stop ≤ t.offset (cursorRun g t n).2.pos
  | 0 => by simp [lastDelivered]
  | n + 1 => by
    have hstep := (cursorRun_eq_plainRun g t n).2.step
    rw [(cursorRun_eq_plainRun g t (n + 1)).2.pos, lastDelivered, hstep.1]
    exact (PlainState.delivery_step (plainRun_tiles g t n).1).2.captures

/-- What was pulled covers the text up to where the run stands, and what waits are captures before that. -/
theorem Run.After.covers {g : Grammar} {source : String} {n : Nat} {tokens : List Token} {r : Run}
    (h : Run.After g source n tokens r) :
    r.cursor.pos ≤ r.text.length ∧ Tiles r.text 0 (primaryTokens tokens) r.cursor.pos ∧
      ∀ tok ∈ r.pending, tok.kind = .capture ∧ tok.stop ≤ r.offset := by
  have hwaiting : ∀ tok ∈ r.pending, tok.kind = .capture ∧ tok.stop ≤ r.offset := by
    intro tok htok
    have hcapture := lastDelivered_captures g (Text.ofString source) n tok (h.waiting.subset htok)
    rw [h.run, ← h.text] at hcapture
    exact hcapture
  have hnone : primaryTokens r.pending = [] := by
    refine List.filter_eq_nil_iff.2 fun tok htok => ?_
    simp [Token.isPrimary, TokenKind.isPrimary, (hwaiting tok htok).1]
  have htokens := (cursorRun_eq_plainRun g (Text.ofString source) n).1
  obtain ⟨hpos, htiles⟩ := plainRun_tiles g (Text.ofString source) n
  rw [← h.refines.pos, ← h.text] at hpos
  rw [← htokens, ← h.refines.pos, h.run, ← h.text] at htiles
  rw [primaryTokens, List.filter_append, ← primaryTokens, ← primaryTokens, hnone, List.append_nil] at htiles
  exact ⟨hpos, htiles, hwaiting⟩

/-- **Pulled tokens cover the text up to the offset of the run.** At every point of a run the primary tokens pulled so
far follow one another without gaps from offset 0 to the offset of the run, none of them empty, and what waits are
captures before that offset. Once a pull has found the end, the primary tokens partition the text and spell it. -/
theorem pulled_tokens_cover {g : Grammar} {source : String} {tokens : List Token} {r : Run}
    (h : (Run.start g source).Pulled tokens r) :
    Adjacent 0 (primaryTokens tokens) r.offset ∧
    (∀ tok ∈ r.pending, tok.kind = .capture ∧ tok.stop ≤ r.offset) ∧
    r.offset ≤ source.utf8ByteSize ∧
    ∀ r', r.next = .finished r' →
      r'.offset = source.utf8ByteSize ∧ checkPartition tokens source.utf8ByteSize = none ∧
      ∃ texts, (primaryTokens tokens).mapM (·.text? source) = some texts ∧ String.join texts = source := by
  obtain ⟨n, hafter⟩ := h.after
  obtain ⟨hpos, htiles, hwaiting⟩ := hafter.covers
  have hadjacent := htiles.adjacent
  rw [Text.offset_zero] at hadjacent
  have hle := r.text.offset_le_offset hpos (Nat.le_refl _)
  rw [hafter.text, Text.offset_length_ofString, ← hafter.text] at hle
  refine ⟨hadjacent, hwaiting, hle, fun r' hnext => ?_⟩
  obtain ⟨⟨n', hafter'⟩, hend⟩ := hafter.next.2 r' hnext
  obtain ⟨hpos', htiles', -⟩ := hafter'.covers
  have hpos_eq : r'.cursor.pos = (Text.ofString source).length := by
    rw [← hafter'.text]
    exact Nat.le_antisymm hpos' hend.pos
  have hoffset : r'.offset = source.utf8ByteSize := by
    rw [Run.offset, hpos_eq, hafter'.text, Text.offset_length_ofString]
  have hpartition := htiles'.adjacent.checkAdjacent
  rw [← Run.offset, hoffset, Text.offset_zero] at hpartition
  rw [hafter'.text, hpos_eq] at htiles'
  obtain ⟨texts, htexts, hjoin⟩ := htiles'.texts
  refine ⟨hoffset, hpartition, texts, htexts, ?_⟩
  rw [hjoin, Text.length_ofString, ← String.length_toList, List.take_length, List.drop_zero, String.ofList_toList]

/-- Strings between quotes, the last of which may be left open. -/
def Grammar.quoted : Grammar :=
  let string := .region "(\")" "\"|$" (some "string") none (Table.ofList [(1, "mark")]) Table.empty []
  match Grammar.ofRuleSets [("main", [.reference "main", string])] "main" with
  | .ok g => g
  | .error _ => default

/-- After two pulls a capture waits, and the fifth pull finds the end. -/
theorem pulled_tokens_cover_quoted :
    (∃ tokens r, (Run.start .quoted "é\"b").Pulled tokens r ∧ tokens.length = 2 ∧ r.offset = 3 ∧ r.pending.length = 1 ∧
      Adjacent 0 (primaryTokens tokens) r.offset) ∧
    ∃ tokens r r', (Run.start .quoted "é\"b").Pulled tokens r ∧ tokens.length = 4 ∧ r.next = .finished r' ∧
      r'.offset = 4 ∧ checkPartition tokens 4 = none := by
  have hfour : ((Run.start .quoted "é\"b").take 4).2.2 ≠ .stalled := by decide +kernel
  obtain ⟨r', hnext⟩ := Run.exists_next_finished
    (show (((Run.start .quoted "é\"b").take 4).2.1.take 1).2.2 = .finished by decide +kernel)
  obtain ⟨-, -, -, hfinished⟩ := pulled_tokens_cover (Run.pulled_take 4 hfour)
  obtain ⟨hoffset, hpartition, -⟩ := hfinished r' hnext
  refine ⟨⟨_, _, Run.pulled_take 2 (by decide +kernel), by decide +kernel, by decide +kernel, by decide +kernel, ?_⟩,
    ⟨_, _, r', Run.pulled_take 4 hfour, by decide +kernel, hnext, hoffset, hpartition⟩⟩
  exact (pulled_tokens_cover (Run.pulled_take 2 (by decide +kernel))).1

end Highlight
