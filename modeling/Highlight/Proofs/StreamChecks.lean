import Highlight.Proofs.Captures
import Mathlib.Data.List.Chain
import Mathlib.Data.List.Induction

/-!
# What the checks on streams decide

The checks take tokens from anywhere, also such that stop before they start.

* **Partitions** (`Partition`, `adjacent_iff_partition`): tokens that follow one another without gaps, none of them
  empty or backwards, are those that share out the bytes of a text among them.
* **Ends** (`checkAdjacent_eq_none_iff`): the check on partitions compares each start with the stop before it, and asks
  of each token only that its ends differ. So it passes partitions, and besides them ways to the end of the text that go
  back in between.
* **Parents** (`checkCaptures_eq_none_iff`): the check on captures compares starts with starts and stops with stops. For
  a capture that runs backwards this leaves open where its ends lie.
-/

namespace Highlight

/-! ## Partitions -/

/-- The byte at an offset belongs to the token. -/
def Token.Covers (tok : Token) (offset : Nat) : Prop := tok.start ≤ offset ∧ offset < tok.stop

/-- The tokens partition the bytes from `first` on that are below `length`: none of them is empty or runs backwards,
they are sorted and adjacent, every byte belongs to exactly one of them, and none of them reaches beyond the ends. -/
structure Partition (first length : Nat) (tokens : List Token) : Prop where
  nonempty : ∀ tok ∈ tokens, tok.start < tok.stop
  sorted : tokens.Pairwise fun a b => a.stop ≤ b.start
  adjacent : tokens.IsChain fun a b => a.stop = b.start
  covered : ∀ offset, first ≤ offset → offset < length →
    ∃! i : Nat, ∃ tok : Token, tokens[i]? = some tok ∧ tok.Covers offset
  within : ∀ tok ∈ tokens, first ≤ tok.start ∧ tok.stop ≤ length

theorem Adjacent.le : ∀ {toks : List Token} {i j : Nat}, Adjacent i toks j → i ≤ j
  | [], _, _, h => Nat.le_of_eq h
  | _ :: _, _, _, ⟨hstart, hlt, hrest⟩ => by
    have := hrest.le
    omega

theorem partition_nil (i : Nat) : Partition i i [] where
  nonempty := by simp
  sorted := .nil
  adjacent := .nil
  covered offset hfirst hlength := by omega
  within := by simp

/-- A token in front of a partition covers the bytes before it. -/
theorem Partition.cons {tok : Token} {toks : List Token} {length : Nat} (h : Partition tok.stop length toks)
    (hhead : Adjacent tok.stop toks length) (hlt : tok.start < tok.stop) :
    Partition tok.start length (tok :: toks) where
  nonempty := List.forall_mem_cons.2 ⟨hlt, h.nonempty⟩
  sorted := List.pairwise_cons.2 ⟨fun t ht => (h.within t ht).1, h.sorted⟩
  adjacent := by
    cases toks with
    | nil => exact .singleton _
    | cons next toks => exact List.isChain_cons_cons.2 ⟨hhead.1.symm, h.adjacent⟩
  covered offset hfirst hlength := by
    by_cases hhere : offset < tok.stop
    · -- the bytes of the token itself lie before all that comes later
      refine ⟨0, ⟨tok, rfl, hfirst, hhere⟩, ?_⟩
      rintro (_ | i) ⟨t, ht, hcovers⟩
      · rfl
      · have hafter := (h.within t (List.mem_of_getElem? ht)).1
        have := hcovers.1
        omega
    · obtain ⟨i, ⟨t, ht, hcovers⟩, hunique⟩ := h.covered offset (by omega) hlength
      refine ⟨i + 1, ⟨t, ht, hcovers⟩, ?_⟩
      rintro (_ | k) ⟨t', ht', hcovers'⟩
      · cases ht'
        exact absurd hcovers'.2 hhere
      · rw [hunique k ⟨t', ht', hcovers'⟩]
  within := by
    have hle := hhead.le
    refine List.forall_mem_cons.2 ⟨⟨Nat.le_refl _, hle⟩, fun t ht => ?_⟩
    have := h.within t ht
    omega

theorem Adjacent.partition : ∀ {toks : List Token} {i j : Nat}, Adjacent i toks j → Partition i j toks
  | [], i, _, h => by
    cases h
    exact partition_nil i
  | _ :: _, _, _, ⟨hstart, hlt, hrest⟩ => hstart ▸ hrest.partition.cons hrest hlt

/-- The first token of a partition starts at its beginning, since a byte there belongs to no later one. -/
theorem Partition.start_eq {tok : Token} {toks : List Token} {i j : Nat} (h : Partition i j (tok :: toks)) :
    tok.start = i := by
  have hlt := h.nonempty tok List.mem_cons_self
  have hwithin := h.within tok List.mem_cons_self
  obtain ⟨k, ⟨t, ht, hcovers⟩, -⟩ := h.covered i (Nat.le_refl _) (by omega)
  cases k with
  | zero =>
    cases ht
    exact Nat.le_antisymm hcovers.1 hwithin.1
  | succ k =>
    have hafter := (List.pairwise_cons.1 h.sorted).1 t (List.mem_of_getElem? ht)
    have := hcovers.1
    omega

theorem Partition.tail {tok : Token} {toks : List Token} {i j : Nat} (h : Partition i j (tok :: toks)) :
    Partition tok.stop j toks where
  nonempty := (List.forall_mem_cons.1 h.nonempty).2
  sorted := (List.pairwise_cons.1 h.sorted).2
  adjacent := h.adjacent.tail
  covered offset hfirst hlength := by
    have hstart := h.start_eq
    have hlt := h.nonempty tok List.mem_cons_self
    obtain ⟨k, ⟨t, ht, hcovers⟩, hunique⟩ := h.covered offset (by omega) hlength
    cases k with
    | zero =>
      cases ht
      exact absurd hcovers.2 (by omega)
    | succ k =>
      refine ⟨k, ⟨t, ht, hcovers⟩, fun k' hk' => ?_⟩
      exact Nat.succ.inj (hunique (k' + 1) hk')
  within t ht := ⟨(List.pairwise_cons.1 h.sorted).1 t ht, (h.within t (List.mem_cons_of_mem _ ht)).2⟩

theorem Partition.toAdjacent : ∀ {toks : List Token} {i j : Nat}, i ≤ j → Partition i j toks → Adjacent i toks j
  | [], i, j, hij, h => by
    by_contra hne
    have hlt : i < j := Nat.lt_of_le_of_ne hij hne
    obtain ⟨k, ⟨t, ht, -⟩, -⟩ := h.covered i (Nat.le_refl _) hlt
    simp at ht
  | tok :: toks, i, j, hij, h => by
    have hlt := h.nonempty tok List.mem_cons_self
    have hwithin := h.within tok List.mem_cons_self
    exact ⟨h.start_eq, hlt, h.tail.toAdjacent hwithin.2⟩

/-- **Partitions** are what tokens make up that follow one another without gaps and forwards. -/
theorem adjacent_iff_partition {toks : List Token} {length : Nat} :
    Adjacent 0 toks length ↔ Partition 0 length toks :=
  ⟨Adjacent.partition, Partition.toAdjacent (Nat.zero_le _)⟩

/-! ## Ends -/

/-- **The check on partitions** passes tokens whose ends differ and whose starts, with the length at the end, are their
stops, with the beginning in front. -/
theorem checkAdjacent_eq_none_iff (length : Nat) : ∀ (toks : List Token) (i : Nat),
    checkAdjacent length i toks = none ↔
      toks.map (·.start) ++ [length] = i :: toks.map (·.stop) ∧ ∀ tok ∈ toks, tok.start ≠ tok.stop
  | [], i => by
    rw [checkAdjacent]
    split
    next h => simp [h]
    next h => simpa using Ne.symm h
  | tok :: toks, i => by
    have ih := checkAdjacent_eq_none_iff length toks tok.stop
    rw [List.map_cons, List.map_cons, List.cons_append, List.cons.injEq, List.forall_mem_cons, checkAdjacent]
    split
    next hstart => simp [hstart]
    next hstart =>
      rw [ne_eq, not_not] at hstart
      cases hempty : tok.isEmpty with
      | true =>
        have heq : tok.start = tok.stop := by simpa [Token.isEmpty] using hempty
        simp [heq]
      | false =>
        have hne : tok.start ≠ tok.stop := by simpa [Token.isEmpty] using hempty
        rw [if_neg (by simp), ih]
        tauto

theorem adjacent_iff {length : Nat} : ∀ {toks : List Token} {i : Nat}, Adjacent i toks length ↔
    toks.map (·.start) ++ [length] = i :: toks.map (·.stop) ∧ ∀ tok ∈ toks, tok.start < tok.stop
  | [], i => by simp [Adjacent, eq_comm]
  | tok :: toks, i => by
    rw [Adjacent, adjacent_iff, List.map_cons, List.map_cons, List.cons_append, List.cons.injEq, List.forall_mem_cons]
    tauto

/-- The check passes partitions, and what else it passes runs backwards somewhere. -/
theorem partition_iff_checkPartition (tokens : List Token) (length : Nat) :
    Partition 0 length (primaryTokens tokens) ↔
      checkPartition tokens length = none ∧ ∀ tok ∈ primaryTokens tokens, tok.start ≤ tok.stop := by
  rw [← adjacent_iff_partition, adjacent_iff, checkPartition, checkAdjacent_eq_none_iff, and_assoc,
    ← forall₂_and]
  refine and_congr_right fun _ => forall₂_congr fun tok _ => ?_
  omega

/-! ## Parents -/

/-- The nearest primary token before a place: all tokens between it and the place are captures. -/
def Nearest (before : List Token) (parent : Token) : Prop :=
  ∃ earlier captures, before = earlier ++ parent :: captures ∧ parent.isPrimary = true ∧
    ∀ tok ∈ captures, tok.isPrimary = false

/-- Every capture of a stream has a primary token before it and is related to the nearest one. -/
def CapturesHave (R : Token → Token → Prop) (tokens : List Token) : Prop :=
  ∀ before capture after, tokens = before ++ capture :: after → capture.isPrimary = false →
    ∃ parent, Nearest before parent ∧ R parent capture

/-- Both ends of the capture lie within the span of the parent. -/
structure Token.Encloses (parent capture : Token) : Prop where
  start : parent.start ≤ capture.start ∧ capture.start ≤ parent.stop
  stop : parent.start ≤ capture.stop ∧ capture.stop ≤ parent.stop

theorem nearest_concat {before : List Token} {tok parent : Token} :
    Nearest (before ++ [tok]) parent ↔
      if tok.isPrimary then tok = parent else Nearest before parent := by
  constructor
  · rintro ⟨earlier, captures, hsplit, hparent, hcaptures⟩
    rcases List.eq_nil_or_concat captures with rfl | ⟨captures, capture, rfl⟩
    · obtain ⟨-, heq⟩ := List.append_inj' hsplit rfl
      obtain rfl : tok = parent := by simpa using heq
      rw [if_pos hparent]
    · rw [List.concat_eq_append, ← List.cons_append, ← List.append_assoc] at hsplit
      obtain ⟨rfl, heq⟩ := List.append_inj' hsplit rfl
      obtain rfl : tok = capture := by simpa using heq
      have htok := hcaptures tok (by simp)
      rw [if_neg (by simp [htok])]
      exact ⟨earlier, captures, rfl, hparent, fun t ht => hcaptures t (by simp [ht])⟩
  · intro h
    split at h
    next hprimary =>
      subst h
      exact ⟨before, [], rfl, hprimary, by simp⟩
    next hprimary =>
      obtain ⟨earlier, captures, rfl, hparent, hcaptures⟩ := h
      refine ⟨earlier, captures ++ [tok], by simp, hparent, ?_⟩
      simpa [or_imp, forall_and, hprimary] using hcaptures

/-- The token that the check compares a capture with is the nearest primary token before it. -/
theorem lastPrimary_eq_some_iff {before : List Token} {parent : Token} :
    lastPrimary none before = some parent ↔ Nearest before parent := by
  induction before using List.reverseRecOn with
  | nil => simp [lastPrimary, Nearest]
  | append_singleton before tok ih =>
    have hconcat : lastPrimary none (before ++ [tok]) =
        if tok.isPrimary then some tok else lastPrimary none before := by simp [lastPrimary]
    rw [hconcat, nearest_concat]
    split
    · exact Option.some_inj
    · exact ih

theorem capturesHave_concat {R : Token → Token → Prop} {tokens : List Token} {tok : Token} :
    CapturesHave R (tokens ++ [tok]) ↔
      CapturesHave R tokens ∧ (tok.isPrimary = false → ∃ parent, Nearest tokens parent ∧ R parent tok) := by
  constructor
  · intro h
    refine ⟨fun before capture after hsplit => ?_, h tokens tok [] rfl⟩
    exact h before capture (after ++ [tok]) (by simp [hsplit])
  · rintro ⟨htokens, htok⟩ before capture after hsplit hcapture
    rcases List.eq_nil_or_concat after with rfl | ⟨after, last, rfl⟩
    · obtain ⟨rfl, heq⟩ := List.append_inj' hsplit rfl
      obtain rfl : tok = capture := by simpa using heq
      exact htok hcapture
    · rw [List.concat_eq_append, ← List.cons_append, ← List.append_assoc] at hsplit
      obtain ⟨rfl, -⟩ := List.append_inj' hsplit rfl
      exact htokens before capture after rfl hcapture

theorem checkInside_singleton (parent : Option Token) (tok : Token) : checkInside parent [tok] = none ↔
    (tok.isPrimary = false → ∃ p, parent = some p ∧ p.start ≤ tok.start ∧ tok.stop ≤ p.stop) := by
  cases hprimary : tok.isPrimary with
  | true => simp [checkInside, hprimary]
  | false =>
    cases parent with
    | none => simp [checkInside, hprimary]
    | some p => simp [checkInside, hprimary]

/-- **The check on captures** passes streams in which every capture starts at or behind the start of the nearest primary
token before it, and stops at or before its stop. -/
theorem checkCaptures_eq_none_iff (tokens : List Token) : checkCaptures tokens = none ↔
    CapturesHave (fun parent capture => parent.start ≤ capture.start ∧ capture.stop ≤ parent.stop) tokens := by
  induction tokens using List.reverseRecOn with
  | nil => simp [checkCaptures, checkInside, CapturesHave]
  | append_singleton tokens tok ih =>
    rw [capturesHave_concat, ← ih, checkCaptures, checkInside_append, checkInside_singleton, ← checkCaptures]
    simp only [lastPrimary_eq_some_iff]

theorem CapturesHave.mono {R S : Token → Token → Prop} {tokens : List Token} (h : CapturesHave R tokens)
    (hRS : ∀ parent, ∀ capture ∈ tokens, capture.isPrimary = false → R parent capture → S parent capture) :
    CapturesHave S tokens := by
  rintro before capture after rfl hcapture
  obtain ⟨parent, hparent, hR⟩ := h before capture after rfl hcapture
  exact ⟨parent, hparent, hRS parent capture (by simp) hcapture hR⟩

/-- Captures that do not run backwards pass the check if both of their ends lie within their parent. -/
theorem checkCaptures_eq_none_iff_encloses {tokens : List Token} (h : ∀ tok ∈ tokens, tok.start ≤ tok.stop) :
    checkCaptures tokens = none ↔ CapturesHave Token.Encloses tokens := by
  rw [checkCaptures_eq_none_iff]
  constructor
  · refine fun hcheck => hcheck.mono fun parent capture hmem _ hends => ?_
    have := h capture hmem
    exact ⟨⟨hends.1, by omega⟩, ⟨by omega, hends.2⟩⟩
  · exact fun hinside => hinside.mono fun parent capture _ _ hencloses => ⟨hencloses.start.1, hencloses.stop.2⟩

/-- **The checks on streams** decide whether the primary tokens partition the text, and whether each capture lies inside
the nearest primary token before it, as long as no token runs backwards. On all streams, what passes the first check is
a partition iff no primary token runs backwards: the check itself follows the ends from 0 to the length and asks only
that the two ends of a token differ. The second compares starts with starts and stops with stops. -/
theorem stream_checks_decide (tokens : List Token) (length : Nat) :
    ((∀ tok ∈ tokens, tok.start ≤ tok.stop) →
      (checkPartition tokens length = none ↔ Partition 0 length (primaryTokens tokens)) ∧
      (checkCaptures tokens = none ↔ CapturesHave Token.Encloses tokens)) ∧
    (Partition 0 length (primaryTokens tokens) ↔
      checkPartition tokens length = none ∧ ∀ tok ∈ primaryTokens tokens, tok.start ≤ tok.stop) ∧
    (checkPartition tokens length = none ↔
      (primaryTokens tokens).map (·.start) ++ [length] = 0 :: (primaryTokens tokens).map (·.stop) ∧
        ∀ tok ∈ primaryTokens tokens, tok.start ≠ tok.stop) ∧
    (checkCaptures tokens = none ↔
      CapturesHave (fun parent capture => parent.start ≤ capture.start ∧ capture.stop ≤ parent.stop) tokens) := by
  refine ⟨fun h => ⟨?_, checkCaptures_eq_none_iff_encloses h⟩, partition_iff_checkPartition tokens length,
    checkAdjacent_eq_none_iff length _ 0, checkCaptures_eq_none_iff tokens⟩
  rw [partition_iff_checkPartition]
  exact (and_iff_left fun tok htok => h tok (List.mem_of_mem_filter htok)).symm

/-- A match with a capture inside of it, and a character that no rule matched. -/
theorem stream_checks_decide_capture :
    let tokens : List Token := [⟨0, 4, .matched, ⟨[]⟩⟩, ⟨1, 2, .capture, ⟨[]⟩⟩, ⟨4, 5, .fallback, ⟨[]⟩⟩]
    (∀ tok ∈ tokens, tok.start ≤ tok.stop) ∧ Partition 0 5 (primaryTokens tokens) ∧
      CapturesHave Token.Encloses tokens := by
  intro tokens
  have hforwards : ∀ tok ∈ tokens, tok.start ≤ tok.stop := by decide
  obtain ⟨hpartition, hcaptures⟩ := (stream_checks_decide tokens 5).1 hforwards
  exact ⟨hforwards, hpartition.1 (by decide), hcaptures.1 (by decide)⟩

/-- Tokens that run backwards pass both checks: the second of two tokens goes back to the byte 1, so that the first
reaches beyond the end, and a capture starts behind its parent and stops inside of it. -/
theorem stream_checks_pass_backwards :
    let walk : List Token := [⟨0, 2, .matched, ⟨[]⟩⟩, ⟨2, 1, .matched, ⟨[]⟩⟩]
    let escape : List Token := [⟨0, 2, .matched, ⟨[]⟩⟩, ⟨3, 1, .capture, ⟨[]⟩⟩]
    (checkPartition walk 1 = none ∧ ¬ Partition 0 1 (primaryTokens walk)) ∧
      checkCaptures escape = none ∧ ¬ CapturesHave Token.Encloses escape := by
  intro walk escape
  refine ⟨⟨by decide, fun h => ?_⟩, by decide, fun h => ?_⟩
  · exact absurd (h.nonempty ⟨2, 1, .matched, ⟨[]⟩⟩ (by decide)) (by decide)
  · obtain ⟨parent, hparent, hencloses⟩ := h [⟨0, 2, .matched, ⟨[]⟩⟩] ⟨3, 1, .capture, ⟨[]⟩⟩ [] rfl rfl
    have hfirst : lastPrimary none [⟨0, 2, .matched, ⟨[]⟩⟩] = some ⟨0, 2, .matched, ⟨[]⟩⟩ := by decide
    obtain rfl := Option.some.inj (hfirst.symm.trans (lastPrimary_eq_some_iff.2 hparent))
    exact absurd hencloses.start.2 (by decide)

end Highlight
