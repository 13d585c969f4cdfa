import Highlight.Proofs.Boundaries
import Highlight.Proofs.WrittenJson
import Mathlib.Data.List.Forall2

/-!
# Reports by lines

In a simple report each token has one line, and no other list of tokens from the same source has the same report
(`simple_report_is_unambiguous`).

* **Marks** (`append_cons_inj`, `Token.DescribedBy.unique`): numbers and kinds end at a mark that they do not contain.
  The names of scopes may contain brackets, quotes and blanks; what tells where they end is the text behind them, which
  is known from the span.
* **Names** (`intercalate_inj`): names without commas, none of them empty, are told apart by the commas between them.
* **Lines** (`Token.DescribedBy.not_mem_lineFeed`, `splitOn_lines`): a line feed in the covered text is written with a
  backslash, so the only line feeds are those behind the lines.
-/

namespace Highlight

/-! ## Marks -/

/-- A text ends at the first mark behind it. -/
theorem append_cons_inj {mark : Char} : ∀ {xs xs' rest rest' : List Char}, mark ∉ xs → mark ∉ xs' →
    xs ++ mark :: rest = xs' ++ mark :: rest' → xs = xs' ∧ rest = rest'
  | [], [], _, _, _, _, h => ⟨rfl, (List.cons.inj h).2⟩
  | [], x :: xs', _, _, _, hxs', h => absurd (List.cons.inj h).1 fun heq => hxs' (heq ▸ List.mem_cons_self)
  | x :: xs, [], _, _, hxs, _, h => absurd (List.cons.inj h).1 fun heq => hxs (heq ▸ List.mem_cons_self)
  | x :: xs, y :: xs', _, _, hxs, hxs', h => by
    obtain ⟨rfl, htail⟩ := List.cons.inj h
    obtain ⟨rfl, hrest⟩ := append_cons_inj (List.not_mem_of_not_mem_cons hxs) (List.not_mem_of_not_mem_cons hxs') htail
    exact ⟨rfl, hrest⟩

theorem not_mem_toDigits {c : Char} (hc : c.isDigit = false) (n : Nat) : c ∉ Nat.toDigits 10 n := fun hmem =>
  Json.ne_of_isDigit (Json.isDigit_toDigits c hmem) hc rfl

theorem toDigits_inj {m n : Nat} (h : Nat.toDigits 10 m = Nat.toDigits 10 n) : m = n := by
  rw [← Nat.ofDigitChars_ten_toDigits (n := m), h, Nat.ofDigitChars_ten_toDigits]

theorem map_toList_injective : Function.Injective (List.map String.toList) :=
  List.map_injective_iff.2 fun _ _ => String.toList_injective

/-! ## Names -/

/-- The commas lead back to the names; all but the first still have a blank in front. -/
theorem splitOn_intercalate_names : ∀ {name : List Char} {names : List (List Char)}, ',' ∉ name →
    (∀ n ∈ names, ',' ∉ n) →
    List.splitOn ',' ([',', ' '].intercalate (name :: names)) = name :: names.map (' ' :: ·)
  | name, [], hname, _ => by
    rw [List.intercalate_singleton, List.splitOn_eq_singleton hname, List.map_nil]
  | name, next :: names, hname, hnames => by
    obtain ⟨hnext, hnames⟩ := List.forall_mem_cons.1 hnames
    have hblank : ',' ∉ ' ' :: next := by simp [hnext]
    have hrest := splitOn_intercalate_names hblank hnames
    rw [List.intercalate_cons_cons_left] at hrest
    rw [List.intercalate_cons_cons, List.append_assoc, List.cons_append, List.cons_append, List.nil_append,
      List.splitOn_append_cons_self_of_not_mem hname, hrest, List.map_cons]

theorem intercalate_ne_nil {sep name : List Char} (h : name ≠ []) (names : List (List Char)) :
    sep.intercalate (name :: names) ≠ [] := by
  cases names with
  | nil => rwa [List.intercalate_singleton]
  | cons next names =>
    rw [List.intercalate_cons_cons]
    simp [h]

/-- **Names** without commas, none of them empty, are told apart by the commas between them. -/
theorem intercalate_inj {names names' : List (List Char)} (h : ∀ n ∈ names, n ≠ [] ∧ ',' ∉ n)
    (h' : ∀ n ∈ names', n ≠ [] ∧ ',' ∉ n) (heq : [',', ' '].intercalate names = [',', ' '].intercalate names') :
    names = names' := by
  cases names with
  | nil =>
    cases names' with
    | nil => rfl
    | cons name' names' => exact absurd heq.symm (intercalate_ne_nil (h' name' List.mem_cons_self).1 names')
  | cons name names =>
    cases names' with
    | nil => exact absurd heq (intercalate_ne_nil (h name List.mem_cons_self).1 names)
    | cons name' names' =>
      obtain ⟨hname, hnames⟩ := List.forall_mem_cons.1 h
      obtain ⟨hname', hnames'⟩ := List.forall_mem_cons.1 h'
      have hsplit := congrArg (List.splitOn ',') heq
      rw [splitOn_intercalate_names hname.2 fun n hn => (hnames n hn).2,
        splitOn_intercalate_names hname'.2 fun n hn => (hnames' n hn).2] at hsplit
      obtain ⟨rfl, htail⟩ := List.cons.inj hsplit
      have hcons : Function.Injective fun n : List Char => ' ' :: n := fun _ _ h => (List.cons.inj h).2
      rw [List.map_injective_iff.2 hcons htail]

theorem mem_intercalate {c : Char} {sep : List Char} : ∀ {names : List (List Char)}, c ∈ sep.intercalate names →
    c ∈ sep ∨ ∃ name ∈ names, c ∈ name
  | [], h => by simp at h
  | [name], h => .inr ⟨name, List.mem_cons_self, by simpa using h⟩
  | name :: next :: names, h => by
    rw [List.intercalate_cons_cons, List.mem_append, List.mem_append] at h
    rcases h with (h | h) | h
    · exact .inr ⟨name, List.mem_cons_self, h⟩
    · exact .inl h
    · exact (mem_intercalate h).imp_right fun ⟨n, hn, hc⟩ => ⟨n, List.mem_cons_of_mem _ hn, hc⟩

/-! ## Quoted text -/

theorem lineFeed_not_mem_hexDigits (n : Nat) : '\n' ∉ hexDigits n := by
  induction n using Nat.strongRecOn with
  | ind n ih =>
    have hdigit : ∀ m, '\n' ≠ Nat.digitChar m := fun m => (Nat.digitChar_ne '\n' (by decide)).symm
    rw [hexDigits, Nat.toDigits_eq_if (by decide)]
    split
    next hlt => exact List.not_mem_cons_of_ne_of_not_mem (hdigit n) List.not_mem_nil
    next hge =>
      rw [List.mem_append, List.mem_singleton, not_or]
      exact ⟨ih (n / 16) (by omega), hdigit (n % 16)⟩

theorem lineFeed_not_mem_quoteChar (c : Char) : '\n' ∉ quoteChar c := by
  unfold quoteChar
  split_ifs with hquote hslash hfeed hreturn htab hnull hhidden
  · decide
  · decide
  · decide
  · decide
  · decide
  · decide
  · have hhex := lineFeed_not_mem_hexDigits c.toNat
    simp [hhex]
  · -- this is the only case that leaves a character as it is
    rw [List.mem_singleton]
    rintro rfl
    exact hfeed rfl

/-- **Quoted text** is on one line. -/
theorem lineFeed_not_mem_quote (cs : List Char) : '\n' ∉ quote cs := by
  simp [quote, lineFeed_not_mem_quoteChar]

/-! ## Lines -/

namespace Token

/-- The span can be cut out of the source, and the names of the scopes are not empty and have neither commas nor line
feeds. -/
structure Reportable (source : String) (tok : Token) : Prop where
  le : tok.start ≤ tok.stop
  start : Boundary source tok.start
  stop : Boundary source tok.stop
  names : ∀ name ∈ tok.scopes.scopes, name ≠ "" ∧ ',' ∉ name.toList ∧ '\n' ∉ name.toList

/-- The line says where the token starts and stops, what produced it and which scopes it has, and quotes the bytes of
the source that it covers. -/
def DescribedBy (source : String) (tok : Token) (line : String) : Prop :=
  ∃ text : String, text.toByteArray = source.toByteArray.extract tok.start tok.stop ∧
    line = toString tok.start ++ ".." ++ toString tok.stop ++ " " ++ tok.kind.name ++
      " [" ++ String.intercalate ", " tok.scopes.scopes ++ "] " ++ quoteString text

variable {source line : String} {tok tok' : Token}

theorem Reportable.exists_line (h : tok.Reportable source) :
    ∃ line, tok.line? source = some line ∧ tok.DescribedBy source line := by
  obtain ⟨text, htext⟩ := Option.isSome_iff_exists.1 (isSome_text?_iff.2 ⟨h.le, h.start, h.stop⟩)
  refine ⟨_, by rw [line?, htext, Option.map_some], text, bytes_text? htext, ?_⟩
  simp only [ScopePath.display, ← String.toList_inj]
  simp [toString]

theorem Reportable.chars (h : tok.Reportable source) :
    ∀ cs ∈ tok.scopes.scopes.map String.toList, cs ≠ [] ∧ ',' ∉ cs := by
  intro cs hcs
  obtain ⟨name, hname, rfl⟩ := List.mem_map.1 hcs
  obtain ⟨hne, hcomma, -⟩ := h.names name hname
  exact ⟨fun hnil => hne (String.toList_eq_nil_iff.1 hnil), hcomma⟩

/-- The parts of a line, with the marks between them. -/
theorem DescribedBy.toList_eq (h : tok.DescribedBy source line) : ∃ text : String,
    text.toByteArray = source.toByteArray.extract tok.start tok.stop ∧
    line.toList = Nat.toDigits 10 tok.start ++ '.' :: '.' :: (Nat.toDigits 10 tok.stop ++
      ' ' :: (tok.kind.name.toList ++ ' ' :: '[' :: ([',', ' '].intercalate (tok.scopes.scopes.map String.toList) ++
        ']' :: ' ' :: quote text.toList))) := by
  obtain ⟨text, htext, rfl⟩ := h
  refine ⟨text, htext, ?_⟩
  simp [quoteString, String.toList_intercalate]

theorem DescribedBy.not_mem_lineFeed (h : tok.DescribedBy source line) (htok : tok.Reportable source) :
    '\n' ∉ line.toList := by
  obtain ⟨text, -, hline⟩ := h.toList_eq
  have hkind : '\n' ∉ tok.kind.name.toList := by cases tok.kind <;> decide
  have hscopes : '\n' ∉ [',', ' '].intercalate (tok.scopes.scopes.map String.toList) := by
    intro hmem
    rcases mem_intercalate hmem with hsep | ⟨cs, hcs, hfeed⟩
    · exact absurd hsep (by decide)
    · obtain ⟨name, hname, rfl⟩ := List.mem_map.1 hcs
      exact (htok.names name hname).2.2 hfeed
  have hdigits := not_mem_toDigits (c := '\n') (by decide)
  have hquote := lineFeed_not_mem_quote text.toList
  rw [hline]
  simp [hdigits, hkind, hscopes, hquote]

/-- **A line** describes one token only: numbers and the kind end at marks that they do not contain, and once the span
is known, so is the quoted text that ends the names. -/
theorem DescribedBy.unique (h : tok.DescribedBy source line) (h' : tok'.DescribedBy source line)
    (htok : tok.Reportable source) (htok' : tok'.Reportable source) : tok = tok' := by
  obtain ⟨text, htext, hline⟩ := h.toList_eq
  obtain ⟨text', htext', hline'⟩ := h'.toList_eq
  have hkind : ∀ kind : TokenKind, ' ' ∉ kind.name.toList := by rintro (_ | _ | _ | _ | _) <;> decide
  obtain ⟨start, stop, kind, ⟨scopes⟩⟩ := tok
  obtain ⟨start', stop', kind', ⟨scopes'⟩⟩ := tok'
  have hparts := hline.symm.trans hline'
  obtain ⟨hstart, hparts⟩ := append_cons_inj (not_mem_toDigits (by decide) _) (not_mem_toDigits (by decide) _) hparts
  obtain ⟨hstop, hparts⟩ := append_cons_inj (not_mem_toDigits (by decide) _) (not_mem_toDigits (by decide) _)
    (List.cons.inj hparts).2
  obtain ⟨hname, hparts⟩ := append_cons_inj (hkind kind) (hkind kind') hparts
  obtain rfl : start = start' := toDigits_inj hstart
  obtain rfl : stop = stop' := toDigits_inj hstop
  obtain rfl : kind = kind' := TokenKind.name_injective (String.toList_inj.1 hname)
  obtain rfl : text = text' := String.toByteArray_inj.1 (htext.trans htext'.symm)
  have hscopes := List.append_cancel_right (List.cons.inj hparts).2
  have hchars := intercalate_inj htok.chars htok'.chars hscopes
  obtain rfl : scopes = scopes' := map_toList_injective hchars
  rfl

end Token

/-! ## Reports -/

/-- Lines that have no line feeds of their own are found again between those behind them. -/
theorem splitOn_lines : ∀ {lines : List String}, (∀ line ∈ lines, '\n' ∉ line.toList) →
    List.splitOn '\n' (String.join (lines.map (· ++ "\n"))).toList = lines.map String.toList ++ [[]]
  | [], _ => by simp
  | line :: lines, h => by
    obtain ⟨hline, hlines⟩ := List.forall_mem_cons.1 h
    have hjoin : (String.join ((line :: lines).map (· ++ "\n"))).toList =
        line.toList ++ '\n' :: (String.join (lines.map (· ++ "\n"))).toList := by simp [String.toList_join]
    rw [hjoin, List.splitOn_append_cons_self_of_not_mem hline, splitOn_lines hlines, List.map_cons, List.cons_append]

theorem count_lineFeed_lines : ∀ {lines : List String}, (∀ line ∈ lines, '\n' ∉ line.toList) →
    (String.join (lines.map (· ++ "\n"))).toList.count '\n' = lines.length
  | [], _ => by simp
  | line :: lines, h => by
    obtain ⟨hline, hlines⟩ := List.forall_mem_cons.1 h
    have ih := count_lineFeed_lines hlines
    simp only [String.toList_join] at ih
    simp [String.toList_join, List.count_eq_zero.2 hline, ih]

/-- A token on its line. -/
def Token.OnLine (source : String) (tok : Token) (line : String) : Prop :=
  tok.Reportable source ∧ tok.DescribedBy source line

theorem Token.OnLine.leftUnique (source : String) : Relator.LeftUnique (Token.OnLine source) :=
  fun _ _ _ h h' => h.2.unique h'.2 h.1 h'.1

theorem exists_lines_of_reportable {source : String} : ∀ {tokens : List Token},
    (∀ tok ∈ tokens, tok.Reportable source) → ∃ lines, tokens.mapM (fun tok : Token => tok.line? source) = some lines ∧
      List.Forall₂ (Token.OnLine source) tokens lines ∧ ∀ line ∈ lines, '\n' ∉ line.toList
  | [], _ => ⟨[], rfl, .nil, by simp⟩
  | tok :: tokens, h => by
    obtain ⟨htok, htokens⟩ := List.forall_mem_cons.1 h
    obtain ⟨line, hline, hdescribed⟩ := htok.exists_line
    obtain ⟨lines, hlines, hall, hfeeds⟩ := exists_lines_of_reportable htokens
    refine ⟨line :: lines, by rw [List.mapM_cons, hline, hlines]; rfl, .cons ⟨htok, hdescribed⟩ hall, ?_⟩
    exact List.forall_mem_cons.2 ⟨hdescribed.not_mem_lineFeed htok, hfeeds⟩

theorem exists_simple_report {source : String} {tokens : List Token} (h : ∀ tok ∈ tokens, tok.Reportable source) :
    ∃ lines, ReportFormat.simple.render? source tokens = some (String.join (lines.map (· ++ "\n"))) ∧
      List.Forall₂ (Token.OnLine source) tokens lines ∧ ∀ line ∈ lines, '\n' ∉ line.toList := by
  obtain ⟨lines, hlines, hall, hfeeds⟩ := exists_lines_of_reportable h
  exact ⟨lines, by rw [ReportFormat.render?, simpleReport?, hlines, Option.map_some], hall, hfeeds⟩

/-- **Simple reports** have one line for each token. Tokens with plain names, whose spans can be cut out of the source,
have a report with as many line feeds as there are tokens; its lines describe the tokens in their order, and no other
list of such tokens has the same report. -/
theorem simple_report_is_unambiguous (source : String) :
    (∀ tokens : List Token, (∀ tok ∈ tokens, tok.Reportable source) →
      ∃ (report : String) (lines : List String), ReportFormat.simple.render? source tokens = some report ∧
        report.toList.count '\n' = tokens.length ∧
        List.splitOn '\n' report.toList = lines.map String.toList ++ [[]] ∧
        List.Forall₂ (Token.DescribedBy source) tokens lines) ∧
    ∀ tokens others : List Token, (∀ tok ∈ tokens, tok.Reportable source) → (∀ tok ∈ others, tok.Reportable source) →
      ReportFormat.simple.render? source tokens = ReportFormat.simple.render? source others → tokens = others := by
  refine ⟨fun tokens h => ?_, fun tokens others h h' heq => ?_⟩
  · obtain ⟨lines, hreport, hall, hfeeds⟩ := exists_simple_report h
    refine ⟨_, lines, hreport, ?_, splitOn_lines hfeeds, hall.imp fun _ _ hon => hon.2⟩
    rw [count_lineFeed_lines hfeeds, hall.length_eq]
  · obtain ⟨lines, hreport, hall, hfeeds⟩ := exists_simple_report h
    obtain ⟨lines', hreport', hall', hfeeds'⟩ := exists_simple_report h'
    have hsame : lines.map String.toList ++ [[]] = lines'.map String.toList ++ [[]] := by
      rw [← splitOn_lines hfeeds, ← splitOn_lines hfeeds', Option.some.inj (hreport.symm.trans (heq.trans hreport'))]
    obtain rfl : lines = lines' := map_toList_injective (List.append_cancel_right hsame)
    exact (Token.OnLine.leftUnique source).forall₂ hall hall'

/-- The covered text has a quote, a backslash, a line feed and a character of two bytes; one scope looks like the end of
one path and the beginning of another. -/
theorem simple_report_is_unambiguous_brackets :
    let source := "\"\\\né"
    let tokens : List Token := [⟨0, 3, .matched, ⟨["a", "b"]⟩⟩, ⟨3, 5, .fallback, ⟨[]⟩⟩]
    let others : List Token := [⟨0, 3, .matched, ⟨["a] \"b"]⟩⟩, ⟨3, 5, .fallback, ⟨[]⟩⟩]
    (∀ tok ∈ tokens, tok.Reportable source) ∧ (∀ tok ∈ others, tok.Reportable source) ∧
      (∃ (report : String) (lines : List String), ReportFormat.simple.render? source tokens = some report ∧
        report.toList.count '\n' = tokens.length ∧
        List.splitOn '\n' report.toList = lines.map String.toList ++ [[]] ∧
        List.Forall₂ (Token.DescribedBy source) tokens lines) ∧
      ReportFormat.simple.render? source tokens ≠ ReportFormat.simple.render? source others := by
  intro source tokens others
  have hzero : Boundary source 0 := by rw [Boundary]; decide
  have hthree : Boundary source 3 := by rw [Boundary]; decide
  have hfive : Boundary source 5 := by rw [Boundary]; decide
  have htokens : ∀ tok ∈ tokens, tok.Reportable source := by
    refine List.forall_mem_cons.2 ⟨⟨by decide, hzero, hthree, by decide⟩, List.forall_mem_cons.2 ⟨?_, by simp⟩⟩
    exact ⟨by decide, hthree, hfive, by decide⟩
  have hothers : ∀ tok ∈ others, tok.Reportable source := by
    refine List.forall_mem_cons.2 ⟨⟨by decide, hzero, hthree, by decide⟩, List.forall_mem_cons.2 ⟨?_, by simp⟩⟩
    exact ⟨by decide, hthree, hfive, by decide⟩
  obtain ⟨hreport, hunique⟩ := simple_report_is_unambiguous source
  refine ⟨htokens, hothers, hreport tokens htokens, fun heq => ?_⟩
  exact absurd (hunique tokens others htokens hothers heq) (by decide)

end Highlight
