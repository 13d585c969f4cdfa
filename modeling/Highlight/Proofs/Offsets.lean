import Highlight.Text.Basic
import Mathlib.Data.String.Basic

/-!
# Positions and byte offsets

The offset of a position is the length, in bytes, of the characters before it (`Text.offset_eq`). So offsets ascend with
positions (`Text.offset_lt_offset`), and the bytes between the offsets of two positions are the characters between the
positions (`Text.byteSlice?_offset`).
-/

namespace Highlight

open String (utf8Len)

theorem length_byteOffsets : ∀ (cs : List Char) (n : Nat), (byteOffsets n cs).length = cs.length + 1
  | [], _ => rfl
  | _ :: cs, _ => by simp [byteOffsets, length_byteOffsets cs]

theorem getElem?_byteOffsets : ∀ (cs : List Char) (n : Nat) {i : Nat}, i ≤ cs.length →
    (byteOffsets n cs)[i]? = some (n + utf8Len (cs.take i))
  | [], n, 0, _ => rfl
  | _ :: _, n, 0, _ => rfl
  | c :: cs, n, i + 1, h => by
    simp only [byteOffsets, List.getElem?_cons_succ, List.take_succ_cons, String.utf8Len_cons]
    rw [getElem?_byteOffsets cs _ (by simpa using h)]
    congr 1
    omega

theorem take_eq_take_append (cs : List Char) {i j : Nat} (hij : i ≤ j) :
    cs.take j = cs.take i ++ (cs.drop i).take (j - i) := by
  rw [← List.take_add, Nat.add_sub_cancel' hij]

theorem drop_take_append_drop_take (cs : List Char) {i j k : Nat} (hij : i ≤ j) (hjk : j ≤ k) :
    (cs.take j).drop i ++ (cs.take k).drop j = (cs.take k).drop i := by
  have h := take_eq_take_append (cs.drop i) (Nat.sub_le_sub_right hjk i)
  rw [List.drop_drop, show i + (j - i) = j by omega, show k - i - (j - i) = k - j by omega] at h
  rw [List.drop_take, List.drop_take, List.drop_take, h]

theorem utf8Len_take_lt {cs : List Char} {i j : Nat} (hij : i < j) (hj : j ≤ cs.length) :
    utf8Len (cs.take i) < utf8Len (cs.take j) := by
  have hne : utf8Len ((cs.drop i).take (j - i)) ≠ 0 := by
    rw [ne_eq, String.utf8Len_eq_zero, List.take_eq_nil_iff, List.drop_eq_nil_iff]
    omega
  rw [take_eq_take_append cs (Nat.le_of_lt hij), String.utf8Len_append]
  omega

theorem length_le_utf8Len : ∀ cs : List Char, cs.length ≤ utf8Len cs
  | [] => Nat.le_refl _
  | c :: cs => by
    have := length_le_utf8Len cs
    have := c.utf8Size_pos
    simp only [List.length_cons, String.utf8Len_cons]
    omega

namespace Text

variable (t : Text)

/-- The offset of a position is the length in bytes of the characters before it. -/
theorem offset_eq {pos : Nat} (h : pos ≤ t.length) : t.offset pos = utf8Len (t.chars.toList.take pos) := by
  unfold offset
  rw [t.starts_eq, List.getElem?_toArray, getElem?_byteOffsets _ _ (by simpa [length] using h)]
  simp

theorem offset_zero : t.offset 0 = 0 := by simp [t.offset_eq (Nat.zero_le _)]

theorem offset_lt_offset {i j : Nat} (hij : i < j) (hj : j ≤ t.length) : t.offset i < t.offset j := by
  rw [t.offset_eq hj, t.offset_eq (by omega)]
  exact utf8Len_take_lt hij (by simpa [length] using hj)

theorem offset_le_offset {i j : Nat} (hij : i ≤ j) (hj : j ≤ t.length) : t.offset i ≤ t.offset j := by
  rcases Nat.eq_or_lt_of_le hij with rfl | hij
  · exact Nat.le_refl _
  · exact Nat.le_of_lt (t.offset_lt_offset hij hj)

theorem offset_length_ofString (source : String) :
    (ofString source).offset (ofString source).length = source.utf8ByteSize := by
  rw [offset_eq _ (Nat.le_refl _), ← String.utf8Len_toList]
  simp [ofString, ofList, length]

theorem length_ofString (source : String) : (ofString source).length = source.length := by
  simp [ofString, ofList, length, String.length_toList]

end Text

/-! ## Slices -/

theorem dropBytes?_utf8Len_take : ∀ (cs : List Char) (i : Nat), dropBytes? (utf8Len (cs.take i)) cs = some (cs.drop i)
  | [], i => by simp [dropBytes?]
  | c :: cs, 0 => by simp [dropBytes?]
  | c :: cs, i + 1 => by
    have hpos := c.utf8Size_pos
    obtain ⟨n, hn⟩ := Nat.exists_eq_add_of_lt (Nat.add_pos_right (utf8Len (cs.take i)) hpos)
    rw [Nat.zero_add] at hn
    have hrest : n + 1 - c.utf8Size = utf8Len (cs.take i) := by omega
    simp only [List.take_succ_cons, String.utf8Len_cons, hn, dropBytes?, hrest, List.drop_succ_cons]
    rw [if_pos (by omega), dropBytes?_utf8Len_take cs i]

theorem takeBytes?_utf8Len_take : ∀ (cs : List Char) (i : Nat), takeBytes? (utf8Len (cs.take i)) cs = some (cs.take i)
  | [], i => by simp [takeBytes?]
  | c :: cs, 0 => by simp [takeBytes?]
  | c :: cs, i + 1 => by
    have hpos := c.utf8Size_pos
    obtain ⟨n, hn⟩ := Nat.exists_eq_add_of_lt (Nat.add_pos_right (utf8Len (cs.take i)) hpos)
    rw [Nat.zero_add] at hn
    have hrest : n + 1 - c.utf8Size = utf8Len (cs.take i) := by omega
    simp only [List.take_succ_cons, String.utf8Len_cons, hn, takeBytes?, hrest]
    rw [if_pos (by omega), takeBytes?_utf8Len_take cs i, Option.map_some]

/-- The bytes between the offsets of two positions are the characters between the positions. -/
theorem Text.byteSlice?_offset (t : Text) {i j : Nat} (hij : i ≤ j) (hj : j ≤ t.length) :
    byteSlice? t.chars.toList (t.offset i) (t.offset j) = some ((t.chars.toList.take j).drop i) := by
  have hle := t.offset_le_offset hij hj
  have hlen : t.offset j - t.offset i = utf8Len ((t.chars.toList.drop i).take (j - i)) := by
    rw [t.offset_eq hj, t.offset_eq (Nat.le_trans hij hj), take_eq_take_append _ hij, String.utf8Len_append]
    omega
  unfold byteSlice?
  rw [if_pos hle, hlen, t.offset_eq (Nat.le_trans hij hj), dropBytes?_utf8Len_take, Option.bind_some,
    takeBytes?_utf8Len_take, List.drop_take]

end Highlight
