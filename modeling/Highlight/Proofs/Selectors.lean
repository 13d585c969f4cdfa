import Highlight.Proofs.Tables
import Highlight.Scope

/-!
# Selectors select by components

A selector is compared with a scope by the bytes of both (`scopeMatches`). This is a comparison of whole components,
whatever characters they have and wherever the dots are (`selection_by_components`).

* **Bytes** (`getElem?_utf8_append_eq_dot_iff`): where the selector ends a character of the scope starts, and only a dot
  has the byte of a dot in front. So the comparison passes what goes on with a dot (`scopeMatches_iff`).
* **Components** (`components_prefix_iff`): the components of a name come first in another name exactly if that is the
  same name or goes on with a dot.
-/

namespace Highlight

/-! ## Bytes -/

/-- A dot is the only character whose bytes begin with a dot. -/
theorem head?_utf8EncodeChar_eq_dot_iff {c : Char} :
    (String.utf8EncodeChar c).head? = some '.'.toUInt8 ↔ c = '.' := by
  constructor
  · intro h
    obtain ⟨n, mark, hform, hbytes⟩ := utf8EncodeChar_form c
    rw [hbytes, encoding, List.head?_cons, Option.some_inj] at h
    have hfirst : c.val.toNat / 64 ^ n + mark = 46 := by
      have hvalue := congrArg UInt8.toNat h
      rwa [UInt8.toNat_ofNat', Nat.mod_eq_of_lt hform.first_lt] at hvalue
    have hval : c.val.toNat = 46 := by
      -- the first of several bytes has a mark that is greater than the dot
      cases hform <;> omega
    exact Char.ext (UInt32.toNat_inj.1 hval)
  · rintro rfl
    decide

/-- The byte where the second part of a text begins is a dot exactly if this part starts with one. -/
theorem getElem?_utf8_append_eq_dot_iff (front back : String) :
    (utf8 (front ++ back))[front.utf8ByteSize]? = some '.'.toUInt8 ↔ back.toList.head? = some '.' := by
  have hsize : (utf8 front).length = front.utf8ByteSize := by simp [utf8]
  have happend : utf8 (front ++ back) = utf8 front ++ utf8 back := by simp [utf8_eq_flatMap]
  rw [happend, ← hsize, List.getElem?_append_right (Nat.le_refl _), Nat.sub_self, ← List.head?_eq_getElem?,
    utf8_eq_flatMap]
  cases back.toList with
  | nil => simp
  | cons c cs =>
    rw [List.flatMap_cons, List.head?_append_of_ne_nil _ String.utf8EncodeChar_ne_nil, head?_utf8EncodeChar_eq_dot_iff,
      List.head?_cons, Option.some_inj]

theorem toUTF8_getElem? (s : String) (i : Nat) : s.toUTF8[i]? = (utf8 s)[i]? := by
  by_cases h : i < s.toUTF8.size
  · have hlist : i < (utf8 s).length := h
    rw [getElem?_pos s.toUTF8 i h, getElem?_pos (utf8 s) i hlist]
    rfl
  · have hlist : ¬ i < (utf8 s).length := h
    rw [getElem?_neg s.toUTF8 i h, getElem?_neg (utf8 s) i hlist]

/-- **The comparison of bytes** passes the selector itself and what goes on with a dot behind it. -/
theorem scopeMatches_iff {selector scope : String} :
    scopeMatches selector scope = true ↔ scope = selector ∨ ∃ rest, scope = selector ++ "." ++ rest := by
  rw [scopeMatches, Bool.or_eq_true, beq_iff_eq, Bool.and_eq_true, Bool.and_eq_true, decide_eq_true_eq, beq_iff_eq,
    String.startsWith_string_iff, toUTF8_getElem?]
  refine or_congr_right ⟨?_, ?_⟩
  · rintro ⟨⟨-, cs, hfront⟩, hbyte⟩
    obtain rfl : scope = selector ++ String.ofList cs := by rw [← String.toList_inj]; simp [hfront]
    rw [getElem?_utf8_append_eq_dot_iff, String.toList_ofList, List.head?_eq_some_iff] at hbyte
    obtain ⟨rest, rfl⟩ := hbyte
    exact ⟨String.ofList rest, by rw [← String.toList_inj]; simp⟩
  · rintro ⟨rest, rfl⟩
    rw [String.append_assoc]
    refine ⟨⟨?_, by simp⟩, ?_⟩
    · have hdot : (".").utf8ByteSize = 1 := by decide
      rw [String.utf8ByteSize_append, String.utf8ByteSize_append]
      omega
    · rw [getElem?_utf8_append_eq_dot_iff]
      simp

/-! ## Components -/

/-- The components of a dotted name. Between two dots in a row, and outside of a dot at an end, they are empty. -/
def components (name : String) : List String := (name.toList.splitOn '.').map String.ofList

example : components ".a..b" = ["", "a", "", "b"] := by decide

theorem components_ne_nil (name : String) : components name ≠ [] := by
  rw [components, ne_eq, List.map_eq_nil_iff]
  exact List.splitOn_ne_nil _ _

/-- A name is its components with dots between them. -/
theorem intercalate_components (name : String) : String.intercalate "." (components name) = name := by
  have hdot : (".").toList = ['.'] := rfl
  rw [← String.toList_inj, String.toList_intercalate, components, List.map_map, hdot]
  simp [List.intercalate_splitOn]

theorem components_append (front back : String) :
    components (front ++ "." ++ back) = components front ++ components back := by
  have hdot : (".").toList = ['.'] := rfl
  rw [components, String.toList_append, String.toList_append, hdot, List.append_assoc, List.singleton_append,
    List.splitOn_append_cons_self, List.map_append]
  rfl

/-- **Whole components** come first in a name that is the other name or goes on behind it with a dot. -/
theorem components_prefix_iff {selector scope : String} :
    components selector <+: components scope ↔ scope = selector ∨ ∃ rest, scope = selector ++ "." ++ rest := by
  constructor
  · rintro ⟨more, hmore⟩
    rw [← intercalate_components scope, ← hmore]
    rcases eq_or_ne more [] with rfl | hne
    · left
      rw [List.append_nil, intercalate_components]
    · right
      refine ⟨String.intercalate "." more, ?_⟩
      rw [String.intercalate_append_of_ne_nil (components_ne_nil selector) hne, intercalate_components]
  · rintro (rfl | ⟨rest, rfl⟩)
    · exact List.prefix_refl _
    · rw [components_append]
      exact List.prefix_append _ _

theorem append_dot_prefix_iff {selector scope : String} :
    (selector ++ ".").toList <+: scope.toList ↔ ∃ rest, scope = selector ++ "." ++ rest := by
  constructor
  · rintro ⟨rest, hrest⟩
    refine ⟨String.ofList rest, ?_⟩
    rw [← String.toList_inj, String.toList_append, String.toList_ofList, hrest]
  · rintro ⟨rest, rfl⟩
    exact ⟨rest.toList, String.toList_append.symm⟩

/-- **Selection** is by components: a path has a selector exactly if the components of the selector are the first
components of some scope on the path. Equivalently, some scope is the selector or starts with the selector and a dot. -/
theorem selection_by_components (path : ScopePath) (selector : String) :
    (path.hasScope selector = true ↔ ∃ scope ∈ path.scopes, components selector <+: components scope) ∧
    (path.hasScope selector = true ↔
      ∃ scope ∈ path.scopes, scope = selector ∨ (selector ++ ".").toList <+: scope.toList) := by
  simp only [ScopePath.hasScope, List.any_eq_true, scopeMatches_iff, components_prefix_iff, append_dot_prefix_iff,
    and_self]

end Highlight
