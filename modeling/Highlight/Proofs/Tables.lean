import Highlight.Table
import Mathlib.Data.List.Nodup
import Mathlib.Data.String.Basic

/-!
# What tables hold

* **Values** (`Table.get?_ofList`): a table of given entries holds the last value that was given for a key, and its
  entries are the values it holds (`Table.mem_entries_iff`).
* **Order** (`Table.pairwise_utf8_lt`): keys that are strings ascend by the bytes that encode them. Strings are compared
  by their characters; that this is the same order is a property of the encoding (`utf8_lt`).
-/

namespace Highlight

/-! ## Values -/

section Values

variable {κ α : Type} [Ord κ] [Std.LawfulEqOrd κ] [BEq κ] [LawfulBEq κ]

/-- An insertion changes what is found for one key. -/
theorem lookup_insertEntry (k : κ) (v : α) (k' : κ) : ∀ entries : List (κ × α),
    (insertEntry k v entries).lookup k' = if k' == k then some v else entries.lookup k'
  | [] => by simp only [insertEntry, List.lookup_cons, List.lookup_nil]; cases k' == k <;> rfl
  | (k₁, v₁) :: rest => by
    simp only [insertEntry]
    split
    next => simp only [List.lookup_cons]; cases k' == k <;> rfl
    next heq =>
      obtain rfl : k = k₁ := Std.LawfulEqOrd.eq_of_compare heq
      simp only [List.lookup_cons]
      cases k' == k <;> rfl
    next hgt =>
      have hne : k ≠ k₁ := fun h => by simp [h] at hgt
      simp only [List.lookup_cons, lookup_insertEntry k v k' rest]
      rcases eq_or_ne k' k with rfl | hk
      · simp [beq_false_of_ne hne]
      · simp [beq_false_of_ne hk]

omit [Ord κ] [Std.LawfulEqOrd κ] in
/-- Among entries with different keys, those are found that are there. -/
theorem mem_iff_lookup {k : κ} {v : α} : ∀ {entries : List (κ × α)}, (entries.map (·.1)).Nodup →
    ((k, v) ∈ entries ↔ entries.lookup k = some v)
  | [], _ => by simp
  | (k₁, v₁) :: rest, h => by
    obtain ⟨hnew, hrest⟩ := List.nodup_cons.1 h
    have ih := mem_iff_lookup (k := k) (v := v) hrest
    rw [List.mem_cons, List.lookup_cons, ih, Prod.mk.injEq]
    rcases eq_or_ne k k₁ with rfl | hk
    · have hnot : rest.lookup k ≠ some v := fun hl => hnew (List.mem_map.2 ⟨(k, v), ih.2 hl, rfl⟩)
      simp [hnot, eq_comm]
    · simp [hk, beq_false_of_ne hk]

omit [Ord κ] [Std.LawfulEqOrd κ] in
/-- Among entries with different keys, the order makes no difference to what is found. -/
theorem lookup_eq_of_perm {entries entries' : List (κ × α)} (h : entries.Perm entries')
    (hnodup : (entries'.map (·.1)).Nodup) (k : κ) : entries.lookup k = entries'.lookup k := by
  refine Option.ext fun v => ?_
  rw [← mem_iff_lookup ((h.map _).nodup_iff.2 hnodup), ← mem_iff_lookup hnodup, h.mem_iff]

namespace Table

omit [BEq κ] [LawfulBEq κ] in
theorem nodup_keys (t : Table κ α) : (t.entries.map (·.1)).Nodup := by
  refine List.pairwise_map.2 (t.ascending.imp fun {a b} hlt heq => ?_)
  simp [heq] at hlt

theorem mem_entries_iff (t : Table κ α) {k : κ} {v : α} : (k, v) ∈ t.entries ↔ t.get? k = some v :=
  mem_iff_lookup t.nodup_keys

variable [Std.TransOrd κ]

/-- Tables that hold the same values are equal. -/
theorem ext_get? {t t' : Table κ α} (h : ∀ k, t.get? k = t'.get? k) : t = t' := by
  have hperm : t.entries.Perm t'.entries := by
    refine (List.perm_ext_iff_of_nodup (List.Nodup.of_map _ t.nodup_keys) (List.Nodup.of_map _ t'.nodup_keys)).2 ?_
    rintro ⟨k, v⟩
    rw [mem_entries_iff, mem_entries_iff, h]
  have hentries : t.entries = t'.entries := by
    refine hperm.eq_of_pairwise (fun a b _ _ hab hba => ?_) t.ascending t'.ascending
    simp [Std.OrientedCmp.gt_of_lt hab] at hba
  cases t
  cases t'
  cases hentries
  rfl

theorem get?_insert (t : Table κ α) (k : κ) (v : α) (k' : κ) :
    (t.insert k v).get? k' = if k' == k then some v else t.get? k' :=
  lookup_insertEntry k v k' t.entries

theorem get?_foldl_insert (k : κ) : ∀ (entries : List (κ × α)) (t : Table κ α),
    (entries.foldl (fun t e => t.insert e.1 e.2) t).get? k = (entries.reverse.lookup k).or (t.get? k)
  | [], t => by simp
  | (k₁, v₁) :: rest, t => by
    rw [List.foldl_cons, get?_foldl_insert k rest, get?_insert, List.reverse_cons, List.lookup_append, Option.or_assoc,
      List.lookup_cons]
    cases k == k₁ <;> rfl

/-- A table of given entries holds the last value that was given for a key. -/
theorem get?_ofList (entries : List (κ × α)) (k : κ) : (ofList entries).get? k = entries.reverse.lookup k := by
  rw [ofList, get?_foldl_insert]
  simp [get?, empty]

/-- The entries of a table, in any order, make up the table. -/
theorem ofList_of_perm {t : Table κ α} {entries : List (κ × α)} (h : entries.Perm t.entries) : ofList entries = t := by
  refine ext_get? fun k => ?_
  rw [get?_ofList, get?, lookup_eq_of_perm (entries.reverse_perm.trans h) t.nodup_keys]

end Table

end Values

section Keys

variable {κ α : Type} [Ord κ] [Std.TransOrd κ] [Std.LawfulEqOrd κ]

/-- A value that replaces another leaves the keys as they are. -/
theorem Ascending.keys_insertEntry {k : κ} {v : α} : ∀ {entries : List (κ × α)}, Ascending entries →
    k ∈ entries.map (·.1) → (insertEntry k v entries).map (·.1) = entries.map (·.1)
  | (k', v') :: rest, h, hk => by
    obtain ⟨above, tail⟩ := List.pairwise_cons.1 h
    rw [List.map_cons, List.mem_cons] at hk
    simp only [insertEntry]
    split
    next hlt =>
      exfalso
      rcases hk with rfl | hk
      · simp at hlt
      · obtain ⟨e, he, rfl⟩ := List.mem_map.1 hk
        have habove := above e he
        simp [Std.OrientedCmp.gt_of_lt habove] at hlt
    next heq => rw [List.map_cons, List.map_cons, Std.LawfulEqOrd.eq_of_compare heq]
    next hgt =>
      rcases hk with rfl | hk
      · simp at hgt
      · rw [List.map_cons, List.map_cons, keys_insertEntry tail hk]

theorem Table.keys_insert_of_mem {t : Table κ α} {k : κ} (h : k ∈ t.keys) (v : α) : (t.insert k v).keys = t.keys :=
  t.ascending.keys_insertEntry h

end Keys

section Map

variable {κ α β : Type} [Ord κ]

/-- The table with a function applied to its values. -/
def Table.map (f : α → β) (t : Table κ α) : Table κ β :=
  ⟨t.entries.map (Prod.map id f), List.pairwise_map.2 t.ascending⟩

@[simp] theorem Table.entries_map (f : α → β) (t : Table κ α) : (t.map f).entries = t.entries.map (Prod.map id f) := rfl

@[simp] theorem Table.keys_map (f : α → β) (t : Table κ α) : (t.map f).keys = t.keys := by
  simp [keys]

theorem Table.get?_map [BEq κ] (f : α → β) (t : Table κ α) (k : κ) : (t.map f).get? k = (t.get? k).map f := by
  simp only [get?, entries_map]
  induction t.entries with
  | nil => rfl
  | cons e entries ih =>
    obtain ⟨k', v⟩ := e
    simp only [List.map_cons, Prod.map_apply, id_eq, List.lookup_cons, ih]
    cases k == k' <;> rfl

end Map

/-! ## Order -/

/-- The bytes that encode a string. -/
def utf8 (s : String) : List UInt8 := s.toUTF8.data.toList

theorem utf8_eq_flatMap (s : String) : utf8 s = s.toList.flatMap String.utf8EncodeChar := by
  rw [utf8, String.toUTF8, ← String.utf8Encode_toList, List.utf8Encode, List.toList_data_toByteArray]

theorem ofNat_cons_lt {m n : Nat} {xs ys : List UInt8} (hn : n < 256) (h : m < n ∨ m = n ∧ xs < ys) :
    UInt8.ofNat m :: xs < UInt8.ofNat n :: ys := by
  rw [List.cons_lt_cons_iff]
  rcases h with h | ⟨rfl, h⟩
  · left
    rw [UInt8.lt_iff_toNat_lt, UInt8.toNat_ofNat', UInt8.toNat_ofNat']
    omega
  · exact .inr ⟨rfl, h⟩

/-- The last `n` bytes for the character with number `v`, six bits each. -/
def lastBytes (v : Nat) : Nat → List UInt8
  | 0 => []
  | n + 1 => UInt8.ofNat (v / 64 ^ n % 64 + 128) :: lastBytes v n

/-- If two characters have the same higher bits, the last bytes decide. -/
theorem lastBytes_append_lt {v w : Nat} (h : v < w) (us vs : List UInt8) : ∀ n : Nat, v / 64 ^ n = w / 64 ^ n →
    lastBytes v n ++ us < lastBytes w n ++ vs
  | 0, hdiv => by
    rw [Nat.pow_zero, Nat.div_one, Nat.div_one] at hdiv
    omega
  | n + 1, hdiv => by
    refine ofNat_cons_lt (by omega) ?_
    rcases Nat.lt_or_eq_of_le (Nat.div_le_div_right h.le : v / 64 ^ n ≤ w / 64 ^ n) with hlt | heq
    · rw [Nat.pow_succ, ← Nat.div_div_eq_div_mul, ← Nat.div_div_eq_div_mul] at hdiv
      exact .inl (by omega)
    · exact .inr ⟨by rw [heq], lastBytes_append_lt h us vs n heq⟩

/-- The bytes for the character with number `v`: `n` follow the first, which has `mark` on top of the highest bits. -/
def encoding (n mark v : Nat) : List UInt8 := UInt8.ofNat (v / 64 ^ n + mark) :: lastBytes v n

/-- The characters for which so many bytes follow the first, with this mark. -/
inductive EncodingForm : Nat → Nat → Nat → Prop
  | one {v : Nat} : v ≤ 127 → EncodingForm 0 0 v
  | two {v : Nat} : 127 < v → v ≤ 2047 → EncodingForm 1 192 v
  | three {v : Nat} : 2047 < v → v ≤ 65535 → EncodingForm 2 224 v
  | four {v : Nat} : 65535 < v → v < 0x110000 → EncodingForm 3 240 v

namespace EncodingForm

variable {n n' mark mark' v w : Nat}

theorem first_lt (h : EncodingForm n mark v) : v / 64 ^ n + mark < 256 := by
  cases h <;> omega

/-- More bytes have a greater first byte. -/
theorem first_lt_or_eq (h : EncodingForm n mark v) (h' : EncodingForm n' mark' w) (hlt : v < w) :
    v / 64 ^ n + mark < w / 64 ^ n' + mark' ∨ n = n' ∧ mark = mark' := by
  cases h <;> cases h' <;> omega

theorem append_lt (h : EncodingForm n mark v) (h' : EncodingForm n' mark' w) (hlt : v < w) (us vs : List UInt8) :
    encoding n mark v ++ us < encoding n' mark' w ++ vs := by
  refine ofNat_cons_lt h'.first_lt ?_
  rcases h.first_lt_or_eq h' hlt with hfirst | ⟨rfl, rfl⟩
  · exact .inl hfirst
  · rcases Nat.lt_or_eq_of_le (Nat.div_le_div_right hlt.le : v / 64 ^ n ≤ w / 64 ^ n) with hfirst | heq
    · exact .inl (by omega)
    · exact .inr ⟨by rw [heq], lastBytes_append_lt hlt us vs n heq⟩

end EncodingForm

theorem utf8EncodeChar_form (c : Char) :
    ∃ n mark, EncodingForm n mark c.val.toNat ∧ String.utf8EncodeChar c = encoding n mark c.val.toNat := by
  have hc : c.val.toNat < 0x110000 := c.valid.elim (fun h => Nat.lt_trans h (by decide)) And.right
  simp only [String.utf8EncodeChar]
  generalize c.val.toNat = v at hc
  split
  next h => exact ⟨0, 0, .one h, by simp [encoding, lastBytes]⟩
  split
  next h₁ h₂ =>
    have hmod : v / 64 % 32 = v / 64 := Nat.mod_eq_of_lt (by omega)
    exact ⟨1, 192, .two (by omega) h₂, by simp [encoding, lastBytes, hmod]⟩
  split
  next h₁ h₂ h₃ =>
    have hmod : v / 4096 % 16 = v / 4096 := Nat.mod_eq_of_lt (by omega)
    exact ⟨2, 224, .three (by omega) h₃, by simp [encoding, lastBytes, hmod]⟩
  next h₁ h₂ h₃ =>
    have hmod : v / 262144 % 8 = v / 262144 := Nat.mod_eq_of_lt (by omega)
    exact ⟨3, 240, .four (by omega) hc, by simp [encoding, lastBytes, hmod]⟩

/-- A smaller character has smaller bytes, whatever follows. -/
theorem utf8EncodeChar_append_lt {c d : Char} (h : c < d) (us vs : List UInt8) :
    String.utf8EncodeChar c ++ us < String.utf8EncodeChar d ++ vs := by
  obtain ⟨n, mark, hform, hc⟩ := utf8EncodeChar_form c
  obtain ⟨n', mark', hform', hd⟩ := utf8EncodeChar_form d
  rw [hc, hd]
  exact hform.append_lt hform' h us vs

theorem flatMap_utf8EncodeChar_lt : ∀ {cs ds : List Char}, cs < ds →
    cs.flatMap String.utf8EncodeChar < ds.flatMap String.utf8EncodeChar
  | [], [], h => absurd h (List.lt_irrefl _)
  | [], d :: ds, _ => by
    cases hd : (d :: ds).flatMap String.utf8EncodeChar with
    | nil => simp [String.utf8EncodeChar_ne_nil] at hd
    | cons b bs => exact List.nil_lt_cons ..
  | c :: cs, [], h => absurd h (List.not_lt_nil _)
  | c :: cs, d :: ds, h => by
    rw [List.flatMap_cons, List.flatMap_cons]
    rcases List.cons_lt_cons_iff.1 h with hlt | ⟨rfl, hlt⟩
    · exact utf8EncodeChar_append_lt hlt ..
    · exact List.append_left_lt (flatMap_utf8EncodeChar_lt hlt)

/-- A smaller string has smaller bytes. -/
theorem utf8_lt {s t : String} (h : s < t) : utf8 s < utf8 t := by
  rw [utf8_eq_flatMap, utf8_eq_flatMap]
  exact flatMap_utf8EncodeChar_lt (String.lt_iff_toList_lt.1 h)

/-- The keys of a table ascend by the bytes that encode them. -/
theorem Table.pairwise_utf8_lt {α : Type} (t : Table String α) : t.keys.Pairwise fun a b => utf8 a < utf8 b :=
  List.pairwise_map.2 (t.ascending.imp fun h => utf8_lt (compare_lt_iff_lt.1 h))

end Highlight
