import Highlight.Grammar
import Highlight.Proofs.Matcher
import Highlight.Tokenizer.Lookahead

/-!
# What is remembered of searches is true

* **Searches** (`Pattern.search?_eq_some_iff`, `Pattern.search?_eq_none_iff`): a search finds the first position at
  which a match starts. A search from inside the window that an earlier one has left open finds the same
  (`Pattern.search?_of_le`).
* **Memory** (`LookaheadTable.Sound`): every entry is the result of a search. Whatever was asked before, the answer at
  a position of the text is the match that a fresh attempt finds there (`LookaheadTable.Sound.matchAt`).
* **Queries** (`LookaheadTable.answers_empty`): so any number of queries, put to one table in any order, are answered as
  if each had been put to a new table.
-/

namespace Highlight

/-! ## Searches -/

namespace Pattern

variable {p : Pattern} {t : Text}

theorem searchFrom_some {n pos q : Nat} (h : p.searchFrom t n pos = some q) :
    pos ≤ q ∧ q < pos + n ∧ (p.matchAt? t q).isSome ∧ ∀ r, pos ≤ r → r < q → p.matchAt? t r = none := by
  induction n generalizing pos with
  | zero => simp [searchFrom] at h
  | succ n ih =>
    simp only [searchFrom] at h
    split at h
    next hpos =>
      cases h
      exact ⟨Nat.le_refl _, by omega, hpos, fun r h₁ h₂ => absurd h₂ (Nat.not_lt.2 h₁)⟩
    next hpos =>
      obtain ⟨hle, hlt, hq, hnone⟩ := ih h
      refine ⟨by omega, by omega, hq, fun r h₁ h₂ => ?_⟩
      rcases Nat.eq_or_lt_of_le h₁ with rfl | h₁
      · simpa using hpos
      · exact hnone r h₁ h₂

theorem searchFrom_none {n pos : Nat} (h : p.searchFrom t n pos = none) :
    ∀ r, pos ≤ r → r < pos + n → p.matchAt? t r = none := by
  induction n generalizing pos with
  | zero => intro r h₁ h₂; omega
  | succ n ih =>
    simp only [searchFrom] at h
    split at h
    · cases h
    next hpos =>
      intro r h₁ h₂
      rcases Nat.eq_or_lt_of_le h₁ with rfl | h₁
      · simpa using hpos
      · exact ih h r h₁ (by omega)

/-- A search finds the first position of the text, from where it starts, at which there is a match. -/
theorem search?_eq_some_iff {pos q : Nat} : p.search? t pos = some q ↔
    pos ≤ q ∧ q ≤ t.length ∧ (p.matchAt? t q).isSome ∧ ∀ r, pos ≤ r → r < q → p.matchAt? t r = none := by
  refine ⟨fun h => ?_, fun ⟨hle, hq, hsome, hnone⟩ => ?_⟩
  · obtain ⟨hle, hlt, hsome, hnone⟩ := searchFrom_some h
    exact ⟨hle, by omega, hsome, hnone⟩
  · cases hs : p.search? t pos with
    | none =>
      have := searchFrom_none hs q hle (by omega)
      rw [this] at hsome
      cases hsome
    | some r =>
      obtain ⟨hler, -, hsomer, hnoner⟩ := searchFrom_some hs
      rcases Nat.lt_trichotomy r q with h | h | h
      · rw [hnone r hler h] at hsomer; cases hsomer
      · rw [h]
      · rw [hnoner q hle h] at hsome; cases hsome

/-- A search finds nothing where there is no match from its start to the end of the text. -/
theorem search?_eq_none_iff {pos : Nat} :
    p.search? t pos = none ↔ ∀ r, pos ≤ r → r ≤ t.length → p.matchAt? t r = none := by
  refine ⟨fun h r h₁ h₂ => searchFrom_none h r h₁ (by omega), fun h => ?_⟩
  cases hs : p.search? t pos with
  | none => rfl
  | some q =>
    obtain ⟨hle, hq, hsome, -⟩ := search?_eq_some_iff.1 hs
    rw [h q hle hq] at hsome
    cases hsome

/-- A search that starts later, but not behind what an earlier one found, finds the same. -/
theorem search?_of_le {a b : Nat} (hab : a ≤ b) (hb : ∀ q, p.search? t a = some q → b ≤ q) :
    p.search? t b = p.search? t a := by
  cases hs : p.search? t a with
  | none =>
    rw [search?_eq_none_iff] at hs ⊢
    exact fun r hr => hs r (Nat.le_trans hab hr)
  | some q =>
    have hbq := hb q hs
    rw [search?_eq_some_iff] at hs ⊢
    obtain ⟨-, hq, hsome, hnone⟩ := hs
    exact ⟨hbq, hq, hsome, fun r hr => hnone r (Nat.le_trans hab hr)⟩

/-- Where a search finds its own start there is a match, and elsewhere there is none. -/
theorem matchAt?_eq_ite_search? {pos : Nat} (hpos : pos ≤ t.length) :
    (if p.search? t pos = some pos then p.matchAt? t pos else none) = p.matchAt? t pos := by
  split
  · rfl
  next h =>
    cases hm : p.matchAt? t pos with
    | none => rfl
    | some m =>
      refine absurd (search?_eq_some_iff.2 ⟨Nat.le_refl _, hpos, by rw [hm]; rfl, ?_⟩) h
      intro r h₁ h₂
      omega

/-- No match starts at a position exactly if a search from there does not find the position itself. -/
theorem matchAt?_eq_none_iff {pos : Nat} (hpos : pos ≤ t.length) :
    p.matchAt? t pos = none ↔ p.search? t pos ≠ some pos := by
  refine ⟨fun hnone hfound => ?_, fun hfound => ?_⟩
  · obtain ⟨-, -, hsome, -⟩ := search?_eq_some_iff.1 hfound
    rw [hnone] at hsome
    cases hsome
  · rw [← matchAt?_eq_ite_search? hpos, if_neg hfound]

end Pattern

/-! ## Memory -/

namespace LookaheadTable

/-- Every entry of the table is what a search from its position finds. -/
def Sound (g : Grammar) (t : Text) (table : LookaheadTable) : Prop :=
  ∀ (id : Nat) (p : Pattern) (known : Lookahead), g.patterns[id]? = some p → table[id]? = some (some known) →
    p.search? t known.searchedFrom = known.next

variable {g : Grammar} {t : Text} {table : LookaheadTable} {id : Nat} {p : Pattern}

theorem sound_empty (g : Grammar) (t : Text) (n : Nat) : (empty n).Sound g t := by
  intro id p known _ h
  simp [empty, Array.getElem?_replicate] at h

/-- An entry is used only where it is what a search would find. -/
theorem Sound.known? (h : table.Sound g t) (hp : g.patterns[id]? = some p) {pos : Nat} {known : Lookahead}
    (hk : table.known? id pos = some known) : p.search? t pos = known.next := by
  unfold LookaheadTable.known? at hk
  split at hk
  next known' he =>
    split at hk
    next hc =>
      cases hk
      have hs := h id p known hp he
      simp only [Lookahead.covers, Bool.and_eq_true, decide_eq_true_eq, Option.all_eq_true_iff_get] at hc
      rw [← hs]
      refine Pattern.search?_of_le hc.1 fun q hq => ?_
      rw [hs] at hq
      simpa [hq] using hc.2
    · cases hk
  · cases hk

/-- Whatever was remembered, the next match is the one that a search finds. -/
theorem Sound.next (h : table.Sound g t) (hp : g.patterns[id]? = some p) (pos : Nat) :
    (table.next id p t pos).1 = p.search? t pos ∧ (table.next id p t pos).2.Sound g t := by
  unfold LookaheadTable.next
  cases hk : table.known? id pos with
  | some known => exact ⟨(h.known? hp hk).symm, h⟩
  | none =>
    refine ⟨rfl, fun id' p' known hp' he => ?_⟩
    simp only [Array.getElem?_setIfInBounds] at he
    split at he
    next heq =>
      subst heq
      split at he
      · cases he
        rw [hp] at hp'
        cases hp'
        rfl
      · cases he
    · exact h id' p' known hp' he

/-- **The memory is not seen**: the answer is the match of a fresh attempt, and the table stays sound. -/
theorem Sound.matchAt (h : table.Sound g t) (hp : g.patterns[id]? = some p) {pos : Nat} (hpos : pos ≤ t.length) :
    (table.matchAt id p t pos).1 = p.matchAt? t pos ∧ (table.matchAt id p t pos).2.Sound g t := by
  obtain ⟨hfound, hsound⟩ := h.next hp pos
  refine ⟨?_, hsound⟩
  show (if (table.next id p t pos).1 = some pos then p.matchAt? t pos else none) = _
  rw [hfound]
  exact Pattern.matchAt?_eq_ite_search? hpos

end LookaheadTable

/-! ## Queries in any order -/

/-- A query: a pattern of the grammar, and a place of the text where a character starts or the text ends. -/
structure Query (g : Grammar) (t : Text) where
  pattern : Fin g.patterns.size
  pos : Fin (t.length + 1)

namespace Query

variable {g : Grammar} {t : Text}

/-- The match at the place of the query, as a table answers it, and what the table remembers then. -/
def ask (q : Query g t) (table : LookaheadTable) : Option Pattern.Match × LookaheadTable :=
  table.matchAt q.pattern g.patterns[q.pattern] t q.pos

/-- The answer of a table that remembers nothing. -/
def freshAnswer (q : Query g t) : Option Pattern.Match := (q.ask (LookaheadTable.empty g.patterns.size)).1

theorem ask_sound (q : Query g t) {table : LookaheadTable} (h : table.Sound g t) :
    (q.ask table).1 = g.patterns[q.pattern].matchAt? t q.pos ∧ (q.ask table).2.Sound g t :=
  h.matchAt (Array.getElem?_eq_getElem q.pattern.isLt) (Nat.le_of_lt_succ q.pos.isLt)

theorem freshAnswer_eq (q : Query g t) : q.freshAnswer = g.patterns[q.pattern].matchAt? t q.pos :=
  (q.ask_sound (LookaheadTable.sound_empty g t _)).1

end Query

namespace LookaheadTable

variable {g : Grammar} {t : Text}

/-- The answers to queries that are put to one table, one after the other. -/
def answers : LookaheadTable → List (Query g t) → List (Option Pattern.Match)
  | _, [] => []
  | table, q :: queries => (q.ask table).1 :: answers (q.ask table).2 queries

theorem Sound.answers {table : LookaheadTable} (h : table.Sound g t) (queries : List (Query g t)) :
    table.answers queries = queries.map Query.freshAnswer := by
  induction queries generalizing table with
  | nil => rfl
  | cons q queries ih =>
    obtain ⟨hanswer, hsound⟩ := q.ask_sound h
    rw [LookaheadTable.answers, List.map_cons, hanswer, q.freshAnswer_eq, ih hsound]

/-- **What was asked before is not seen.** A new table answers any queries, in any order, each as if it were the first:
with the match of the pattern that starts at the place of the query in the whole text, and with nothing if none starts
there, which is when a search from that place does not find it. -/
theorem answers_empty (g : Grammar) (t : Text) (queries : List (Query g t)) :
    (empty g.patterns.size).answers queries = queries.map Query.freshAnswer ∧
    ∀ q : Query g t, q.freshAnswer = g.patterns[q.pattern].matchAt? t q.pos ∧
      (∀ m, q.freshAnswer = some m → m.Within q.pos t.length) ∧
      (q.freshAnswer = none ↔ g.patterns[q.pattern].search? t q.pos ≠ some q.pos) := by
  refine ⟨(sound_empty g t _).answers queries, fun q => ⟨q.freshAnswer_eq, fun m hm => ?_, ?_⟩⟩
  · rw [q.freshAnswer_eq] at hm
    exact Pattern.matchAt?_within (Nat.le_of_lt_succ q.pos.isLt) hm
  · rw [q.freshAnswer_eq]
    exact Pattern.matchAt?_eq_none_iff (Nat.le_of_lt_succ q.pos.isLt)

end LookaheadTable

end Highlight
