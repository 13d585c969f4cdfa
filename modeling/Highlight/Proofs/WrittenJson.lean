import Highlight.Json.Reader
import Highlight.Token.Report
import Mathlib.Data.List.Basic
import Mathlib.Data.List.TakeDrop

/-!
# Written JSON is read back

A value that is written over several lines is read back as it was, if it is not nested deeper than the reader follows
(`Json.parse_pretty`). In particular the report of a list of tokens is a JSON text of these tokens
(`json_report_reads_back`).

* **Strings** (`Json.readString_writeString`): each character, also one that is written as an escape, is read as one
  unit that stands for it.
* **Numbers** (`Json.readNumber_writeInt`, `Json.readNumber_writeReal`): digits are read up to what cannot belong to the
  number (`Json.EndsNumber`), and only zero is written with a zero in front.
* **Values** (`Json.readValue_prettyChars`): a value is read from the front of a text. The number of its characters
  suffices as a bound on the recursion of the reader, since each level and each item takes one character at least.
-/

namespace Highlight

namespace Json

/-! ## Strings -/

theorem controlEscape_eq {n : Nat} (h : n < 0x20) :
    ∃ a b, hex4? '0' '0' a b = some n ∧ controlEscape n = ['\\', 'u', '0', '0', a, b] := by
  refine ⟨if n < 16 then '0' else '1', (n % 16).digitChar, ?_, ?_⟩
  · revert n
    decide
  · rw [controlEscape, hexDigits, Nat.toDigits_of_lt_base (Nat.mod_lt _ (by decide))]
    rfl

/-- A character is written by one letter behind a backslash, by its number, or as it is. -/
theorem escapeChar_cases (c : Char) :
    (∃ e, e ≠ 'u' ∧ escapedChar? e = some c ∧ escapeChar c = ['\\', e]) ∨
    (∃ a b, hex4? '0' '0' a b = some c.toNat ∧ escapeChar c = ['\\', 'u', '0', '0', a, b]) ∨
    (c ≠ '"' ∧ c ≠ '\\' ∧ 0x20 ≤ c.toNat ∧ escapeChar c = [c]) := by
  by_cases hshort : c ∈ ['"', '\\', '\x08', '\x0c', '\n', '\r', '\t']
  · left
    simp only [List.mem_cons, List.not_mem_nil, or_false] at hshort
    rcases hshort with rfl | rfl | rfl | rfl | rfl | rfl | rfl
    · exact ⟨'"', by decide⟩
    · exact ⟨'\\', by decide⟩
    · exact ⟨'b', by decide⟩
    · exact ⟨'f', by decide⟩
    · exact ⟨'n', by decide⟩
    · exact ⟨'r', by decide⟩
    · exact ⟨'t', by decide⟩
  · right
    simp only [List.mem_cons, List.not_mem_nil, or_false, not_or] at hshort
    have hescape : escapeChar c = if c.toNat < 0x20 then controlEscape c.toNat else [c] := by
      simp [escapeChar, hshort]
    rw [hescape]
    split
    next hlt => exact .inl (controlEscape_eq hlt)
    next hge => exact .inr ⟨hshort.1, hshort.2.1, Nat.not_lt.1 hge, rfl⟩

section Strings

variable {rest tail : List Char} {units : List StringUnit}

/-- **A written character** is read as one unit that stands for it. -/
theorem scanString_escapeChar (c : Char) (h : scanString rest = .ok (units, tail)) :
    ∃ u, scanString (escapeChar c ++ rest) = .ok (u :: units, tail) ∧
      joinUnits (u :: units) = (joinUnits units).map (c :: ·) := by
  rcases escapeChar_cases c with ⟨e, he, hc, heq⟩ | ⟨a, b, hn, heq⟩ | ⟨hquote, hslash, hlow, heq⟩
  · refine ⟨.char c, ?_, by rw [joinUnits]⟩
    simp [heq, scanString, he, hc, h]
  · refine ⟨.code c.toNat, ?_, ?_⟩
    · simp [heq, scanString, hn, h]
    · have hvalid : c.toNat.isValidChar := c.valid
      rw [joinUnits.eq_def]
      simp only [if_pos hvalid, Char.ofNat_toNat]
  · refine ⟨.char c, ?_, by rw [joinUnits]⟩
    simp [heq, scanString, hslash, h, Nat.not_lt.2 hlow]

/-- **A string** is read up to its closing quote. -/
theorem readString_writeString (s : String) (rest : List Char) :
    readString (s.toList.flatMap escapeChar ++ '"' :: rest) = .ok (s, rest) := by
  have hscan : ∀ cs : List Char, ∃ units, scanString (cs.flatMap escapeChar ++ '"' :: rest) = .ok (units, rest) ∧
      joinUnits units = some cs := by
    intro cs
    induction cs with
    | nil => exact ⟨[], by simp [scanString], rfl⟩
    | cons c cs ih =>
      obtain ⟨units, hscan, hjoin⟩ := ih
      obtain ⟨u, hscan', hjoin'⟩ := scanString_escapeChar c hscan
      refine ⟨u :: units, ?_, by rw [hjoin', hjoin, Option.map_some]⟩
      rw [List.flatMap_cons, List.append_assoc]
      exact hscan'
  obtain ⟨units, hunits, hjoin⟩ := hscan s.toList
  simp [readString, hunits, hjoin, bind, Except.bind, pure, Except.pure]

end Strings

/-! ## Numbers -/

/-- What follows a number does not go on with it. -/
def EndsNumber (rest : List Char) : Prop :=
  ∀ c ∈ rest.head?, c.isDigit = false ∧ c ≠ '.' ∧ c ≠ 'e' ∧ c ≠ 'E'

/-- Only zero is written with a zero in front. -/
theorem eq_zero_of_head?_toDigits (n : Nat) (h : (Nat.toDigits 10 n).head? = some '0') : n = 0 := by
  by_cases hn : n < 10
  · rw [Nat.toDigits_of_lt_base hn] at h
    have hdigit : ∀ m < 10, Nat.digitChar m = '0' → m = 0 := by decide
    exact hdigit n hn (Option.some.inj h)
  · rw [Nat.toDigits_of_base_le (by decide) (Nat.not_lt.1 hn), List.head?_append_of_ne_nil _ Nat.toDigits_ne_nil] at h
    have := eq_zero_of_head?_toDigits (n / 10) h
    omega

theorem isDigit_toDigits {n : Nat} : ∀ c ∈ Nat.toDigits 10 n, c.isDigit = true := fun _ hc =>
  Nat.isDigit_of_mem_toDigits (by decide) (by decide) hc

section Numbers

variable {rest : List Char}

theorem readDigits_toDigits (n : Nat) (h : ∀ c ∈ rest.head?, c.isDigit = false) :
    readDigits (Nat.toDigits 10 n ++ rest) = .ok (Nat.toDigits 10 n, rest) := by
  have hempty : (Nat.toDigits 10 n).isEmpty = false := List.isEmpty_eq_false_iff.2 Nat.toDigits_ne_nil
  have hspan : (Nat.toDigits 10 n ++ rest).span Char.isDigit = (Nat.toDigits 10 n, rest) := by
    rw [List.span_eq_takeWhile_dropWhile, List.takeWhile_append_of_pos isDigit_toDigits,
      List.dropWhile_append_of_pos isDigit_toDigits]
    cases rest with
    | nil => simp
    | cons c rest => simp [h c rfl]
  rw [readDigits, hspan]
  simp [hempty]

/-- The first digit of a number. -/
theorem exists_toDigits (n : Nat) : ∃ c cs, Nat.toDigits 10 n = c :: cs ∧ c.isDigit = true := by
  obtain ⟨c, cs, hdigits⟩ := List.exists_cons_of_ne_nil (Nat.toDigits_ne_nil (n := n) (b := 10))
  exact ⟨c, cs, hdigits, isDigit_toDigits c (hdigits ▸ List.mem_cons_self)⟩

theorem ne_of_isDigit {c d : Char} (hc : c.isDigit = true) (hd : d.isDigit = false) : c ≠ d := by
  rintro rfl
  rw [hc] at hd
  cases hd

/-- A digit is no minus. -/
theorem takeMinus_signed (negative : Bool) (n : Nat) (rest : List Char) :
    takeMinus ((if negative then ['-'] else []) ++ Nat.toDigits 10 n ++ rest) =
      (negative, Nat.toDigits 10 n ++ rest) := by
  cases negative with
  | true => rfl
  | false =>
    obtain ⟨c, cs, hdigits, hc⟩ := exists_toDigits n
    simp [hdigits, takeMinus, ne_of_isDigit hc (show '-'.isDigit = false by decide)]

theorem writeInt_eq (n : Int) :
    writeInt n = (if decide (n < 0) then ['-'] else []) ++ Nat.toDigits 10 n.natAbs := by
  unfold writeInt
  split
  next h => simp [h]
  next h => simp [h]

theorem takeSign_writeInt (n : Int) (rest : List Char) :
    takeSign (writeInt n ++ rest) = (decide (n < 0), Nat.toDigits 10 n.natAbs ++ rest) := by
  -- a plus sign would be taken as well, but none is written
  have hplus : ∀ cs, writeInt n ++ rest ≠ '+' :: cs := by
    intro cs
    unfold writeInt
    split
    next => simp
    next =>
      obtain ⟨c, ds, hdigits, hc⟩ := exists_toDigits n.natAbs
      simp [hdigits, ne_of_isDigit hc (show '+'.isDigit = false by decide)]
  rw [takeSign, writeInt_eq, takeMinus_signed]
  exact hplus

theorem readExponent_writeInt (n : Int) (h : EndsNumber rest) :
    readExponent ('e' :: (writeInt n ++ rest)) = .ok (some n, rest) := by
  have hread := readDigits_toDigits n.natAbs fun c hc => (h c hc).1
  have hvalue : (if decide (n < 0) then -(n.natAbs : Int) else n.natAbs) = n := by
    simp only [decide_eq_true_eq]
    omega
  simp only [readExponent, takeSign_writeInt, hread, Nat.ofDigitChars_ten_toDigits, bind, Except.bind, pure,
    Except.pure, hvalue]
  rfl

theorem readExponent_of_endsNumber (h : EndsNumber rest) : readExponent rest = .ok (none, rest) := by
  cases rest with
  | nil => rfl
  | cons c rest =>
    obtain ⟨-, -, he, hE⟩ := h c rfl
    simp [readExponent, he, hE]

/-- A number is read from its sign, its digits and what is read as an exponent. -/
theorem readNumber_signed (negative : Bool) (n : Nat) {tail : List Char} {exponent : Option Int}
    (htail : ∀ c ∈ tail.head?, c.isDigit = false ∧ c ≠ '.') (hexponent : readExponent tail = .ok (exponent, rest)) :
    readNumber ((if negative then ['-'] else []) ++ Nat.toDigits 10 n ++ tail) =
      .ok (ofNumber negative (Nat.toDigits 10 n) none exponent, rest) := by
  have hread := readDigits_toDigits n fun c hc => (htail c hc).1
  have hzero : ((Nat.toDigits 10 n).head? == some '0' && decide ((Nat.toDigits 10 n).length > 1)) = false := by
    by_cases hhead : (Nat.toDigits 10 n).head? = some '0'
    · rw [eq_zero_of_head?_toDigits n hhead]
      decide
    · simp [hhead]
  have hfraction : readFraction tail = .ok (none, tail) := by
    cases tail with
    | nil => rfl
    | cons c tail => simp [readFraction, (htail c rfl).2]
  rw [readNumber, takeMinus_signed]
  simp only [hread, hzero, hfraction, hexponent, bind, Except.bind, pure, Except.pure]
  rfl

/-- **An integer** is read back. -/
theorem readNumber_writeInt (n : Int) (h : EndsNumber rest) :
    readNumber (writeInt n ++ rest) = .ok (.int n, rest) := by
  have hvalue : ofNumber (decide (n < 0)) (Nat.toDigits 10 n.natAbs) none none = .int n := by
    have hdigits : Nat.ofDigitChars 10 (Nat.toDigits 10 n.natAbs ++ (none : Option (List Char)).getD []) 0 =
        n.natAbs := by
      rw [Option.getD_none, List.append_nil, Nat.ofDigitChars_ten_toDigits]
    simp only [ofNumber, hdigits, Option.isNone_none, Bool.and_self, decide_eq_true_eq, if_true]
    split
    next hlt => rw [if_neg (by omega), show -(n.natAbs : Int) = n by omega]
    next hge => rw [show (n.natAbs : Int) = n by omega]
  rw [writeInt_eq, readNumber_signed _ _ (fun c hc => ⟨(h c hc).1, (h c hc).2.1⟩) (readExponent_of_endsNumber h),
    hvalue]

/-- **Any other number** is read back. -/
theorem readNumber_writeReal (negative : Bool) (digits : Nat) (exponent : Int) (h : EndsNumber rest) :
    readNumber (writeReal negative digits exponent ++ rest) = .ok (.real negative digits exponent, rest) := by
  have htail : ∀ c ∈ ('e' :: (writeInt exponent ++ rest)).head?, c.isDigit = false ∧ c ≠ '.' := by
    rintro c ⟨⟩
    decide
  rw [writeReal, List.append_assoc, List.cons_append,
    readNumber_signed _ _ htail (readExponent_writeInt exponent h)]
  simp [ofNumber]

end Numbers

/-! ## Values -/

mutual

/-- How deep arrays and objects are nested in a value. -/
def nesting : Json → Nat
  | arr items => nestingOfItems items + 1
  | obj members => nestingOfMembers members + 1
  | _ => 0

def nestingOfItems : List Json → Nat
  | [] => 0
  | v :: vs => max v.nesting (nestingOfItems vs)

def nestingOfMembers : List (String × Json) → Nat
  | [] => 0
  | (_, v) :: ms => max v.nesting (nestingOfMembers ms)

end

/-! ### Blanks -/

theorem skipBlanks_newLine (level : Nat) (cs : List Char) : skipBlanks (newLine level ++ cs) = skipBlanks cs := by
  refine List.dropWhile_append_of_pos fun c hc => ?_
  rcases List.mem_cons.1 hc with rfl | hc
  · decide
  · obtain rfl := List.eq_of_mem_replicate hc
    decide

theorem skipBlanks_cons {c : Char} (hc : isBlank c = false) (cs : List Char) : skipBlanks (c :: cs) = c :: cs :=
  List.dropWhile_cons_of_neg (by simp [hc])

theorem skipBlanks_skipBlanks (cs : List Char) : skipBlanks (skipBlanks cs) = skipBlanks cs := by
  cases h : skipBlanks cs with
  | nil => rfl
  | cons c rest =>
    have hhead := List.head?_dropWhile_not isBlank cs
    rw [show cs.dropWhile isBlank = c :: rest from h] at hhead
    exact skipBlanks_cons hhead rest

/-- Blanks in front of a value change nothing. -/
theorem readValue_congr {cs cs' : List Char} (h : skipBlanks cs = skipBlanks cs') (depth fuel : Nat) :
    readValue depth fuel cs = readValue depth fuel cs' := by
  cases fuel with
  | zero => rfl
  | succ fuel => rw [readValue, readValue, h]

theorem readItems_congr {cs cs' : List Char} (h : skipBlanks cs = skipBlanks cs') (depth fuel : Nat) :
    readItems depth fuel cs = readItems depth fuel cs' := by
  cases fuel with
  | zero => rfl
  | succ fuel => rw [readItems, readItems, readValue_congr h]

theorem readMembers_congr {cs cs' : List Char} (h : skipBlanks cs = skipBlanks cs') (depth fuel : Nat) :
    readMembers depth fuel cs = readMembers depth fuel cs' := by
  cases fuel with
  | zero => rfl
  | succ fuel => rw [readMembers, readMembers, h]

/-! ### First characters -/

theorem isBlank_of_isDigit {c : Char} (h : c.isDigit = true) : isBlank c = false := by
  simp only [isBlank, Bool.or_eq_false_iff, beq_eq_false_iff_ne]
  refine ⟨⟨⟨?_, ?_⟩, ?_⟩, ?_⟩ <;> exact ne_of_isDigit h (by decide)

theorem exists_writeInt (n : Int) : ∃ c cs, writeInt n = c :: cs ∧ (c = '-' ∨ c.isDigit = true) := by
  unfold writeInt
  split
  · exact ⟨_, _, rfl, .inl rfl⟩
  · obtain ⟨c, cs, hdigits, hc⟩ := exists_toDigits n.natAbs
    exact ⟨c, cs, hdigits, .inr hc⟩

theorem exists_writeReal (negative : Bool) (digits : Nat) (exponent : Int) :
    ∃ c cs, writeReal negative digits exponent = c :: cs ∧ (c = '-' ∨ c.isDigit = true) := by
  unfold writeReal
  cases negative with
  | true => exact ⟨_, _, rfl, .inl rfl⟩
  | false =>
    obtain ⟨c, cs, hdigits, hc⟩ := exists_toDigits digits
    exact ⟨c, _, by rw [hdigits]; rfl, .inr hc⟩

/-- A sign or a digit starts a number. -/
theorem readValue_number {c : Char} {cs : List Char} (hc : c = '-' ∨ c.isDigit = true) (depth fuel : Nat) :
    readValue depth (fuel + 1) (c :: cs) = readNumber (c :: cs) := by
  have hblank : isBlank c = false := by
    rcases hc with rfl | hc
    · decide
    · exact isBlank_of_isDigit hc
  have hne : ∀ d : Char, d.isDigit = false → d ≠ '-' → c ≠ d := by
    rintro d hd hminus rfl
    simp [hd, hminus] at hc
  rw [readValue, skipBlanks_cons hblank]
  split
  all_goals rename_i heq
  case h_1 => cases heq
  case h_8 =>
    obtain ⟨rfl, rfl⟩ := List.cons.inj heq
    exact if_pos (by simpa using hc)
  all_goals exact absurd (List.cons.inj heq).1 (hne _ (by decide) (by decide))

/-- A value starts with a character that neither is blank nor closes an array. -/
theorem exists_prettyChars (level : Nat) (v : Json) :
    ∃ c cs, prettyChars level v = c :: cs ∧ isBlank c = false ∧ c ≠ ']' := by
  have hnumber : ∀ c : Char, c = '-' ∨ c.isDigit = true → isBlank c = false ∧ c ≠ ']' := by
    rintro c (rfl | hc)
    · decide
    · exact ⟨isBlank_of_isDigit hc, ne_of_isDigit hc (by decide)⟩
  cases v with
  | null => exact ⟨_, _, by rw [prettyChars], by decide⟩
  | bool b => cases b <;> exact ⟨_, _, by rw [prettyChars], by decide⟩
  | int n =>
    obtain ⟨c, cs, hcs, hc⟩ := exists_writeInt n
    exact ⟨c, cs, by rw [prettyChars, hcs], hnumber c hc⟩
  | real negative digits exponent =>
    obtain ⟨c, cs, hcs, hc⟩ := exists_writeReal negative digits exponent
    exact ⟨c, cs, by rw [prettyChars, hcs], hnumber c hc⟩
  | str s => exact ⟨_, _, by rw [prettyChars, writeString], by decide⟩
  | arr items => cases items <;> exact ⟨_, _, by rw [prettyChars], by decide⟩
  | obj members => rcases members with _ | ⟨⟨name, v⟩, ms⟩ <;> exact ⟨_, _, by rw [prettyChars], by decide⟩

/-- An array with items is read item by item. -/
theorem readValue_arr {depth fuel : Nat} {cs rest : List Char} {items : List Json}
    (hopen : ∀ c ∈ (skipBlanks cs).head?, c ≠ ']') (h : readItems depth fuel cs = .ok (items, rest)) :
    readValue (depth + 1) (fuel + 1) ('[' :: cs) = .ok (.arr items, rest) := by
  rw [← readItems_congr (skipBlanks_skipBlanks cs)] at h
  rw [readValue, skipBlanks_cons (by decide)]
  simp only
  split
  next rest' heq => exact absurd rfl (hopen ']' (by rw [heq]; rfl))
  next => rw [h]; rfl

/-- An object with members is read member by member. -/
theorem readValue_obj {depth fuel : Nat} {cs rest : List Char} {members : List (String × Json)}
    (hopen : ∀ c ∈ (skipBlanks cs).head?, c ≠ '\x7d') (h : readMembers depth fuel cs = .ok (members, rest)) :
    readValue (depth + 1) (fuel + 1) ('\x7b' :: cs) = .ok (.obj members, rest) := by
  rw [← readMembers_congr (skipBlanks_skipBlanks cs)] at h
  rw [readValue, skipBlanks_cons (by decide)]
  simp only
  split
  next rest' heq => exact absurd rfl (hopen '\x7d' (by rw [heq]; rfl))
  next => rw [h]; rfl

/-! ### Items and members -/

section Steps

variable {depth fuel : Nat} {v : Json} {name : String} {cs after more rest : List Char}

theorem readItems_last (hv : readValue depth fuel cs = .ok (v, after)) (hclose : skipBlanks after = ']' :: rest) :
    readItems depth (fuel + 1) cs = .ok ([v], rest) := by
  rw [readItems, hv]
  simp only [bind, Except.bind, hclose]
  rfl

theorem readItems_more {vs : List Json} (hv : readValue depth fuel cs = .ok (v, after))
    (hcomma : skipBlanks after = ',' :: more) (hmore : readItems depth fuel more = .ok (vs, rest)) :
    readItems depth (fuel + 1) cs = .ok (v :: vs, rest) := by
  rw [readItems, hv]
  simp only [bind, Except.bind, hcomma, hmore]
  rfl

/-- A member is read from the front of a text. -/
def ReadsMember (depth fuel : Nat) (cs : List Char) (name : String) (v : Json) (after : List Char) : Prop :=
  ∃ cs₁ cs₂ cs₃, skipBlanks cs = '"' :: cs₁ ∧ readString cs₁ = .ok (name, cs₂) ∧ skipBlanks cs₂ = ':' :: cs₃ ∧
    readValue depth fuel cs₃ = .ok (v, after)

theorem readMembers_last (hm : ReadsMember depth fuel cs name v after) (hclose : skipBlanks after = '\x7d' :: rest) :
    readMembers depth (fuel + 1) cs = .ok ([(name, v)], rest) := by
  obtain ⟨cs₁, cs₂, cs₃, hquote, hname, hcolon, hv⟩ := hm
  rw [readMembers, hquote]
  simp only [bind, Except.bind, hname, hcolon, hv, hclose]
  rfl

theorem readMembers_more {ms : List (String × Json)} (hm : ReadsMember depth fuel cs name v after)
    (hcomma : skipBlanks after = ',' :: more) (hmore : readMembers depth fuel more = .ok (ms, rest)) :
    readMembers depth (fuel + 1) cs = .ok ((name, v) :: ms, rest) := by
  obtain ⟨cs₁, cs₂, cs₃, hquote, hname, hcolon, hv⟩ := hm
  rw [readMembers, hquote]
  simp only [bind, Except.bind, hname, hcolon, hv, hcomma, hmore]
  rfl

end Steps

/-- What follows an item or a member ends a number. -/
theorem endsNumber_cons {c : Char} {rest : List Char} (h : c = ',' ∨ c = '\n') : EndsNumber (c :: rest) := by
  rintro d ⟨⟩
  rcases h with rfl | rfl <;> decide

theorem endsNumber_prettyItems (level : Nat) (items : List Json) (rest : List Char) :
    EndsNumber (prettyItems level items ++ rest) := by
  cases items with
  | nil => exact endsNumber_cons (.inr rfl)
  | cons v vs => rw [prettyItems]; exact endsNumber_cons (.inl rfl)

theorem endsNumber_prettyMembers (level : Nat) (members : List (String × Json)) (rest : List Char) :
    EndsNumber (prettyMembers level members ++ rest) := by
  cases members with
  | nil => exact endsNumber_cons (.inr rfl)
  | cons m ms => rw [prettyMembers]; exact endsNumber_cons (.inl rfl)

/-- A line that closes an array or an object. -/
theorem skipBlanks_closing {c : Char} (hc : isBlank c = false) (level : Nat) (rest : List Char) :
    skipBlanks (newLine level ++ [c] ++ rest) = c :: rest := by
  rw [List.append_assoc, skipBlanks_newLine]
  exact skipBlanks_cons hc rest

/-- A member is read from what is written for it, once its value is. -/
theorem readsMember_written (level : Nat) (name : String) {depth fuel : Nat} {v : Json} {cs after : List Char}
    (hv : readValue depth fuel cs = .ok (v, after)) :
    ReadsMember depth fuel (newLine level ++ (writeString name ++ ':' :: ' ' :: cs)) name v after := by
  have hspace : skipBlanks (' ' :: cs) = skipBlanks cs := rfl
  refine ⟨_, _, _, ?_, readString_writeString name (':' :: ' ' :: cs), skipBlanks_cons (by decide) _, ?_⟩
  · rw [skipBlanks_newLine, writeString, List.cons_append, List.append_assoc]
    exact skipBlanks_cons (by decide) _
  · rw [readValue_congr hspace, hv]

mutual

/-- **A value** is read from the front of a text. -/
theorem readValue_prettyChars : ∀ (v : Json) (level depth fuel : Nat) (rest : List Char), v.nesting ≤ depth →
    (prettyChars level v).length < fuel → EndsNumber rest →
    readValue depth fuel (prettyChars level v ++ rest) = .ok (v, rest)
  | null, _, _, fuel + 1, _, _, _, _ => by simp [prettyChars, readValue, skipBlanks, isBlank]
  | bool true, _, _, fuel + 1, _, _, _, _ => by simp [prettyChars, readValue, skipBlanks, isBlank]
  | bool false, _, _, fuel + 1, _, _, _, _ => by simp [prettyChars, readValue, skipBlanks, isBlank]
  | int n, level, depth, fuel + 1, rest, _, _, hrest => by
    obtain ⟨c, cs, hcs, hc⟩ := exists_writeInt n
    have hread := readNumber_writeInt n hrest
    rw [prettyChars]
    rw [hcs, List.cons_append] at hread ⊢
    rw [readValue_number hc, hread]
  | real negative digits exponent, level, depth, fuel + 1, rest, _, _, hrest => by
    obtain ⟨c, cs, hcs, hc⟩ := exists_writeReal negative digits exponent
    have hread := readNumber_writeReal negative digits exponent hrest
    rw [prettyChars]
    rw [hcs, List.cons_append] at hread ⊢
    rw [readValue_number hc, hread]
  | str s, level, depth, fuel + 1, rest, _, _, _ => by
    have hread := readString_writeString s rest
    rw [prettyChars, writeString, List.cons_append, List.append_assoc, List.singleton_append, readValue,
      skipBlanks_cons (by decide)]
    simp only [hread]
    rfl
  | arr [], _, depth + 1, fuel + 1, _, _, _, _ => by simp [prettyChars, readValue, skipBlanks, isBlank]
  | arr (v :: vs), level, depth + 1, fuel + 1, rest, hdepth, hfuel, _ => by
    have hitems := readItems_prettyItems (v :: vs) level depth fuel rest (List.cons_ne_nil _ _)
      (by simpa [nesting] using hdepth) (Nat.succ_le_of_lt (by simpa [prettyChars, prettyItems] using hfuel))
    rw [prettyItems, List.tail_cons] at hitems
    rw [prettyChars, List.cons_append]
    refine readValue_arr ?_ hitems
    obtain ⟨c, cs, hcs, hblank, hclose⟩ := exists_prettyChars (level + 1) v
    rw [hcs, List.append_assoc, List.append_assoc, skipBlanks_newLine, List.cons_append, skipBlanks_cons hblank]
    rintro d ⟨⟩
    exact hclose
  | obj [], _, depth + 1, fuel + 1, _, _, _, _ => by simp [prettyChars, readValue, skipBlanks, isBlank]
  | obj ((name, v) :: ms), level, depth + 1, fuel + 1, rest, hdepth, hfuel, _ => by
    have hmembers := readMembers_prettyMembers ((name, v) :: ms) level depth fuel rest (List.cons_ne_nil _ _)
      (by simpa [nesting] using hdepth) (Nat.succ_le_of_lt (by simpa [prettyChars, prettyMembers] using hfuel))
    rw [prettyMembers, List.tail_cons] at hmembers
    rw [prettyChars, List.cons_append]
    refine readValue_obj ?_ hmembers
    simp only [List.append_assoc, skipBlanks_newLine, writeString, List.cons_append]
    rw [skipBlanks_cons (by decide)]
    rintro d ⟨⟩
    decide

/-- The items of an array are written with a comma in front of each; the one in front of the first is left out. -/
theorem readItems_prettyItems : ∀ (items : List Json) (level depth fuel : Nat) (rest : List Char), items ≠ [] →
    nestingOfItems items ≤ depth → (prettyItems level items).length ≤ fuel →
    readItems depth fuel ((prettyItems level items).tail ++ rest) = .ok (items, rest)
  | v :: vs, level, depth, fuel + 1, rest, _, hdepth, hfuel => by
    rw [nestingOfItems, Nat.max_le] at hdepth
    rw [prettyItems, List.length_cons, List.length_append, List.length_append] at hfuel
    -- the line break in front of the item pays for the step from `fuel + 1` to `fuel`
    have hline : 0 < (newLine (level + 1)).length := Nat.succ_pos _
    have hv := readValue_prettyChars v (level + 1) depth fuel (prettyItems level vs ++ rest) hdepth.1 (by omega)
      (endsNumber_prettyItems level vs rest)
    rw [← readValue_congr (skipBlanks_newLine (level + 1) _)] at hv
    rw [prettyItems, List.tail_cons, List.append_assoc, List.append_assoc]
    cases vs with
    | nil => exact readItems_last hv (by rw [prettyItems]; exact skipBlanks_closing (by decide) level rest)
    | cons w ws =>
      have hnext := readItems_prettyItems (w :: ws) level depth fuel rest (List.cons_ne_nil _ _) hdepth.2 (by omega)
      refine readItems_more hv ?_ hnext
      rw [prettyItems]
      exact skipBlanks_cons (by decide) _

/-- The members of an object are written in the same way. -/
theorem readMembers_prettyMembers : ∀ (members : List (String × Json)) (level depth fuel : Nat) (rest : List Char),
    members ≠ [] → nestingOfMembers members ≤ depth → (prettyMembers level members).length ≤ fuel →
    readMembers depth fuel ((prettyMembers level members).tail ++ rest) = .ok (members, rest)
  | (name, v) :: ms, level, depth, fuel + 1, rest, _, hdepth, hfuel => by
    rw [nestingOfMembers, Nat.max_le] at hdepth
    rw [prettyMembers, List.length_cons] at hfuel
    simp only [List.length_append, List.length_cons] at hfuel
    have hv := readValue_prettyChars v (level + 1) depth fuel (prettyMembers level ms ++ rest) hdepth.1 (by omega)
      (endsNumber_prettyMembers level ms rest)
    have hm := readsMember_written (level + 1) name hv
    rw [prettyMembers, List.tail_cons]
    simp only [List.append_assoc, List.cons_append]
    cases ms with
    | nil => exact readMembers_last hm (by rw [prettyMembers]; exact skipBlanks_closing (by decide) level rest)
    | cons m ms =>
      have hnext := readMembers_prettyMembers (m :: ms) level depth fuel rest (List.cons_ne_nil _ _) hdepth.2 (by omega)
      refine readMembers_more hm ?_ hnext
      rw [prettyMembers]
      exact skipBlanks_cons (by decide) _

end

/-- **A written value** is read back, if it is not nested too deep. -/
theorem parse_pretty {v : Json} (h : v.nesting ≤ maxNesting) : parse v.pretty = .ok v := by
  have hread := readValue_prettyChars v 0 maxNesting _ [] h (Nat.lt_succ_self _) (by simp [EndsNumber])
  rw [List.append_nil] at hread
  rw [parse, pretty, String.toList_ofList, parseChars, hread]
  rfl

theorem nestingOfItems_le {n : Nat} : ∀ {items : List Json}, (∀ v ∈ items, v.nesting ≤ n) → nestingOfItems items ≤ n
  | [], _ => Nat.zero_le _
  | v :: vs, h => by
    obtain ⟨hv, hvs⟩ := List.forall_mem_cons.1 h
    rw [nestingOfItems]
    exact Nat.max_le.2 ⟨hv, nestingOfItems_le hvs⟩

end Json

/-! ## Reports -/

theorem TokenKind.name_injective : Function.Injective TokenKind.name := by
  intro k k'
  cases k <;> cases k' <;> decide

/-- The object of a token tells it from every other token. -/
theorem Token.toJson_injective : Function.Injective Token.toJson := by
  rintro ⟨start, stop, kind, ⟨scopes⟩⟩ ⟨start', stop', kind', ⟨scopes'⟩⟩ h
  simp only [Token.toJson, Json.nat, Json.obj.injEq, List.cons.injEq, Prod.mk.injEq, Json.int.injEq, Json.str.injEq,
    Json.arr.injEq, Int.natCast_inj, true_and, and_true] at h
  obtain ⟨rfl, rfl, hkind, hscopes⟩ := h
  have hstr : Function.Injective Json.str := fun _ _ => Json.str.inj
  rw [TokenKind.name_injective hkind, List.map_injective_iff.2 hstr hscopes]

theorem Token.nesting_toJson_le (t : Token) : t.toJson.nesting ≤ 2 := by
  have hscopes : Json.nestingOfItems (t.scopes.scopes.map .str) ≤ 0 := by
    refine Json.nestingOfItems_le fun v hv => ?_
    obtain ⟨s, -, rfl⟩ := List.mem_map.1 hv
    exact Nat.le_of_eq rfl
  simp only [Token.toJson, Json.nat, Json.nesting, Json.nestingOfMembers]
  omega

/-- A report is read as the array of its tokens. -/
theorem parse_jsonReport (tokens : List Token) :
    Json.parse (jsonReport tokens) = .ok (.arr (tokens.map Token.toJson)) := by
  refine Json.parse_pretty ?_
  have hitems : Json.nestingOfItems (tokens.map Token.toJson) ≤ 2 :=
    Json.nestingOfItems_le (List.forall_mem_map.2 fun t _ => t.nesting_toJson_le)
  rw [Json.nesting]
  exact Nat.le_trans (Nat.succ_le_succ hitems) (by decide)

theorem jsonReport_injective : Function.Injective jsonReport := by
  intro tokens tokens' h
  have hread := parse_jsonReport tokens
  rw [h, parse_jsonReport tokens'] at hread
  exact List.map_injective_iff.2 Token.toJson_injective (Json.arr.inj (Except.ok.inj hread)).symm

/-- **Reports in JSON** hold the tokens: every list of tokens has one, it is read as the array of objects that have the
values of the tokens as their members, and no other list of tokens has the same report. -/
theorem json_report_reads_back (source : String) (tokens : List Token) :
    (∃ text, ReportFormat.json.render? source tokens = some text ∧
      Json.parse text = .ok (.arr (tokens.map fun t => .obj [("start", .int t.start), ("end", .int t.stop),
        ("kind", .str t.kind.name), ("scopes", .arr (t.scopes.scopes.map .str))]))) ∧
    ∀ source' tokens', ReportFormat.json.render? source tokens = ReportFormat.json.render? source' tokens' ↔
      tokens = tokens' := by
  refine ⟨⟨jsonReport tokens, rfl, parse_jsonReport tokens⟩, fun source' tokens' => ⟨fun h => ?_, ?_⟩⟩
  · exact jsonReport_injective (Option.some.inj h)
  · rintro rfl
    rfl

end Highlight
