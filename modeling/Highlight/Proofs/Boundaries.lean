import Highlight.Proofs.Coverage
import Highlight.Token.Expectation
import Highlight.Token.Report

/-!
# Spans end between characters

* **Slices** (`Token.isSome_text?_iff`): a token has a text in a source exactly if its span does not run backwards and
  both ends are boundaries, that is, the bytes before them encode whole characters. The text then consists of the bytes
  between the two ends (`Token.bytes_text?`).
* **Runs** (`PlainState.spans_step`, `plainRun_spans`): a step stands between two characters, and all tokens that it
  delivers reach from one such place to a later one.
* **Reports and expectations** (`Token.Sliceable.render?`, `Token.Sliceable.check`): so writing the tokens of a run, or
  checking what is expected of them, never meets a token without a text (`spans_are_sliceable`).
-/

namespace Highlight

open String (utf8Len)

/-! ## Boundaries and slices -/

/-- The offset is in the source, and the bytes before it encode whole characters. -/
def Boundary (source : String) (offset : Nat) : Prop := String.Pos.Raw.IsValid source ⟨offset⟩

theorem boundary_iff {source : String} {offset : Nat} :
    Boundary source offset ↔ ∃ front back, source.toList = front ++ back ∧ utf8Len front = offset := by
  rw [Boundary, String.Pos.Raw.isValid_iff_exists_append]
  constructor
  · rintro ⟨front, back, rfl, hoffset⟩
    refine ⟨front.toList, back.toList, String.toList_append, ?_⟩
    rw [String.utf8Len_toList]
    exact (congrArg String.Pos.Raw.byteIdx hoffset).symm
  · rintro ⟨front, back, hsource, rfl⟩
    refine ⟨String.ofList front, String.ofList back, ?_, ?_⟩
    · rw [← String.ofList_append, ← hsource, String.ofList_toList]
    · rw [String.Pos.Raw.ext_iff, String.byteIdx_rawEndPos, String.utf8ByteSize_ofList]

theorem dropBytes?_eq_some_iff {cs rest : List Char} {n : Nat} :
    dropBytes? n cs = some rest ↔ ∃ front, cs = front ++ rest ∧ utf8Len front = n := by
  constructor
  · intro h
    fun_induction dropBytes? n cs with
    | case1 cs =>
      cases h
      exact ⟨[], rfl, rfl⟩
    | case2 n => cases h
    | case3 n c cs hsize ih =>
      obtain ⟨front, rfl, hlen⟩ := ih h
      refine ⟨c :: front, rfl, ?_⟩
      rw [String.utf8Len_cons, hlen]
      omega
    | case4 n c cs hsize => cases h
  · rintro ⟨front, rfl, rfl⟩
    simpa using dropBytes?_utf8Len_take (front ++ rest) front.length

theorem takeBytes?_eq_some_iff {cs front : List Char} {n : Nat} :
    takeBytes? n cs = some front ↔ ∃ rest, cs = front ++ rest ∧ utf8Len front = n := by
  constructor
  · intro h
    fun_induction takeBytes? n cs generalizing front with
    | case1 cs =>
      cases h
      exact ⟨cs, rfl, rfl⟩
    | case2 n => cases h
    | case3 n c cs hsize ih =>
      obtain ⟨front, hfront, rfl⟩ := Option.map_eq_some_iff.1 h
      obtain ⟨rest, rfl, hlen⟩ := ih hfront
      refine ⟨rest, rfl, ?_⟩
      rw [String.utf8Len_cons, hlen]
      omega
    | case4 n c cs hsize => cases h
  · rintro ⟨rest, rfl, rfl⟩
    simpa using takeBytes?_utf8Len_take (front ++ rest) front.length

/-- A slice is what lies between two places of the text. -/
theorem byteSlice?_eq_some_iff {cs slice : List Char} {start stop : Nat} :
    byteSlice? cs start stop = some slice ↔
      ∃ front back, cs = front ++ (slice ++ back) ∧ utf8Len front = start ∧ start + utf8Len slice = stop := by
  unfold byteSlice?
  split
  next hle =>
    rw [Option.bind_eq_some_iff]
    constructor
    · rintro ⟨rest, hdrop, htake⟩
      obtain ⟨front, rfl, hstart⟩ := dropBytes?_eq_some_iff.1 hdrop
      obtain ⟨back, rfl, hstop⟩ := takeBytes?_eq_some_iff.1 htake
      exact ⟨front, back, rfl, hstart, by omega⟩
    · rintro ⟨front, back, rfl, hstart, hstop⟩
      refine ⟨slice ++ back, dropBytes?_eq_some_iff.2 ⟨front, rfl, hstart⟩, ?_⟩
      exact takeBytes?_eq_some_iff.2 ⟨back, rfl, by omega⟩
  next hgt =>
    refine ⟨fun h => (by cases h), ?_⟩
    rintro ⟨front, back, -, -, hstop⟩
    omega

namespace Token

variable {source : String} {tok : Token}

/-- **A token has a text** exactly if its span does not run backwards and both ends are boundaries. -/
theorem isSome_text?_iff : (tok.text? source).isSome = true ↔
    tok.start ≤ tok.stop ∧ Boundary source tok.start ∧ Boundary source tok.stop := by
  rw [text?, Option.isSome_map, Option.isSome_iff_exists, boundary_iff, boundary_iff]
  constructor
  · rintro ⟨slice, hslice⟩
    obtain ⟨front, back, hsource, hstart, hstop⟩ := byteSlice?_eq_some_iff.1 hslice
    refine ⟨by omega, ⟨front, slice ++ back, hsource, hstart⟩, front ++ slice, back, ?_, ?_⟩
    · rw [hsource, List.append_assoc]
    · rw [String.utf8Len_append, hstart, hstop]
  · rintro ⟨hle, ⟨front, rest, hsource, hstart⟩, front', back, hsource', hstop⟩
    rcases List.append_eq_append_iff.1 (hsource.symm.trans hsource') with ⟨slice, rfl, rfl⟩ | ⟨more, rfl, rfl⟩
    · rw [String.utf8Len_append] at hstop
      exact ⟨slice, byteSlice?_eq_some_iff.2 ⟨front, back, hsource, hstart, by omega⟩⟩
    · -- the end can come first only if nothing lies between the two
      rw [String.utf8Len_append] at hstart
      obtain rfl : more = [] := String.utf8Len_eq_zero.1 (by omega)
      exact ⟨[], byteSlice?_eq_some_iff.2 ⟨front', rest, by simpa using hsource, by simpa using hstart,
        by simpa using (by omega : tok.start = tok.stop)⟩⟩

/-- The text of a token consists of the bytes between its ends. -/
theorem bytes_text? {text : String} (h : tok.text? source = some text) :
    text.toByteArray = source.toByteArray.extract tok.start tok.stop := by
  obtain ⟨slice, hslice, rfl⟩ := Option.map_eq_some_iff.1 h
  obtain ⟨front, back, hsource, hstart, hstop⟩ := byteSlice?_eq_some_iff.1 hslice
  have hbytes : source.toByteArray =
      (String.ofList front).toByteArray ++ ((String.ofList slice).toByteArray ++ (String.ofList back).toByteArray) := by
    rw [← String.toByteArray_append, ← String.toByteArray_append, ← String.ofList_append, ← String.ofList_append,
      ← hsource, String.ofList_toList]
  have hfront : (String.ofList front).toByteArray.size = tok.start := by
    rw [String.size_toByteArray, String.utf8ByteSize_ofList, hstart]
  have hlength : (String.ofList slice).toByteArray.size = utf8Len slice := by
    rw [String.size_toByteArray, String.utf8ByteSize_ofList]
  rw [hbytes, ← hstop, ← hfront, ← Nat.add_zero (ByteArray.size _), Nat.add_assoc, ByteArray.extract_append_size_add,
    Nat.zero_add, ByteArray.extract_append_eq_left hlength.symm]

end Token

/-! ## Runs -/

/-- The token reaches from one position of the text to a later one. -/
def Token.Spans (t : Text) (tok : Token) : Prop :=
  ∃ i j, i < j ∧ j ≤ t.length ∧ tok.start = t.offset i ∧ tok.stop = t.offset j

theorem spans_tokenOf {t : Text} {span : Pattern.Span} {kind : TokenKind} {scopes : ScopePath} {tok : Token}
    (hspan : span.stop ≤ t.length) (h : tok ∈ tokenOf t span kind scopes) : tok.Spans t := by
  unfold tokenOf at h
  split at h
  next hlt =>
    obtain rfl := List.mem_singleton.1 h
    exact ⟨span.start, span.stop, hlt, hspan, rfl, rfl⟩
  next => cases h

theorem spans_captureTokens {t : Text} {m : Pattern.Match} {pos : Nat} (hwithin : m.Within pos t.length)
    {captures : Captures} {base : ScopePath} {tok : Token} (h : tok ∈ captureTokens t m captures base) :
    tok.Spans t := by
  obtain ⟨group, span, scope, -, hspan, hlt, rfl⟩ := mem_captureTokens h
  exact ⟨span.start, span.stop, hlt, (hwithin.group? hspan).2.trans hwithin.stop_le, rfl, rfl⟩

/-- All tokens of a match inside the text reach from one position of it to a later one. -/
theorem spans_of_within {t : Text} {m : Pattern.Match} {pos : Nat} (hwithin : m.Within pos t.length)
    {kind : TokenKind} {scopes base : ScopePath} {captures : Captures} {tok : Token}
    (h : tok ∈ tokenOf t m.span kind scopes ++ captureTokens t m captures base) : tok.Spans t := by
  rcases List.mem_append.1 h with h | h
  · exact spans_tokenOf hwithin.stop_le h
  · exact spans_captureTokens hwithin h

/-- **One step** delivers tokens that reach from one position of the text to a later one. -/
theorem PlainState.spans_step {g : Grammar} {t : Text} {s : PlainState} (hs : s.pos ≤ t.length) :
    ∀ tok ∈ (s.step g t).1.getD [], tok.Spans t := by
  intro tok htok
  generalize hout : s.step g t = out at htok
  have houtcome := s.step_outcome g t
  rw [hout] at houtcome
  cases houtcome with
  | stop hend => cases htok
  | close hpos hf hm => exact spans_of_within (Grammar.freshMatch_within hs hm) htok
  | single hpos hc hw hid hr hm => exact spans_of_within (Grammar.freshMatch_within hs hm) htok
  | region hpos hc hw hid hr hm => exact spans_of_within (Grammar.freshMatch_within hs hm) htok
  | fallback hpos hc hw =>
    have hstop : (⟨s.pos, s.pos + 1⟩ : Pattern.Span).stop ≤ t.length := hpos
    exact spans_tokenOf hstop htok

/-- **Any number of steps** deliver tokens that reach from one position of the text to a later one. -/
theorem plainRun_spans (g : Grammar) (t : Text) : ∀ n : Nat, ∀ tok ∈ (plainRun g t n).1, tok.Spans t
  | 0 => by simp [plainRun, steps]
  | n + 1 => by
    intro tok htok
    rcases List.mem_append.1 (show tok ∈ (plainRun g t n).1 ++ ((plainRun g t n).2.step g t).1.getD [] from htok)
      with htok | htok
    · exact plainRun_spans g t n tok htok
    · exact PlainState.spans_step (plainRun_tiles g t n).1 tok htok

/-- The only tokens for single characters are those of steps where nothing matches. -/
theorem PlainState.fallback_step {g : Grammar} {t : Text} {s : PlainState} {tok : Token}
    (htok : tok ∈ (s.step g t).1.getD []) (hkind : tok.kind = .fallback) :
    tok.start = t.offset s.pos ∧ tok.stop = t.offset (s.pos + 1) := by
  have hmatch : ∀ {m : Pattern.Match} {kind : TokenKind} {scopes base : ScopePath} {captures : Captures},
      kind ≠ .fallback → tok ∉ tokenOf t m.span kind scopes ++ captureTokens t m captures base := by
    intro m kind scopes base captures hne hmem
    rcases List.mem_append.1 hmem with hmem | hmem
    · unfold tokenOf at hmem
      split at hmem
      · obtain rfl := List.mem_singleton.1 hmem
        exact hne hkind
      · cases hmem
    · obtain ⟨group, span, scope, -, -, -, rfl⟩ := mem_captureTokens hmem
      cases hkind
  generalize hout : s.step g t = out at htok
  have houtcome := s.step_outcome g t
  rw [hout] at houtcome
  cases houtcome with
  | stop hend => cases htok
  | close hpos hf hm => exact absurd htok (hmatch (by decide))
  | single hpos hc hw hid hr hm => exact absurd htok (hmatch (by decide))
  | region hpos hc hw hid hr hm => exact absurd htok (hmatch (by decide))
  | fallback hpos hc hw =>
    rw [Option.getD_some, tokenOf, if_pos (Nat.lt_succ_self s.pos)] at htok
    obtain rfl := List.mem_singleton.1 htok
    exact ⟨rfl, rfl⟩

namespace Text

variable {source : String} {pos : Nat}

theorem toList_chars_ofString (source : String) : (ofString source).chars.toList = source.toList := by
  simp [ofString, ofList]

theorem boundary_offset (h : pos ≤ (ofString source).length) : Boundary source ((ofString source).offset pos) := by
  rw [boundary_iff, offset_eq _ h, toList_chars_ofString]
  exact ⟨source.toList.take pos, source.toList.drop pos, (List.take_append_drop ..).symm, rfl⟩

/-- Before the end there is a character, and the next position is behind its bytes. -/
theorem exists_char_at_offset (h : pos < (ofString source).length) :
    ∃ c rest, dropBytes? ((ofString source).offset pos) source.toList = some (c :: rest) ∧
      (ofString source).offset (pos + 1) = (ofString source).offset pos + c.utf8Size := by
  have hlt : pos < source.toList.length := by rwa [String.length_toList, ← length_ofString]
  refine ⟨source.toList[pos], source.toList.drop (pos + 1), ?_, ?_⟩
  · rw [offset_eq _ h.le, toList_chars_ofString, dropBytes?_utf8Len_take, List.drop_eq_getElem_cons hlt]
  · rw [offset_eq _ h.le, offset_eq _ (Nat.succ_le_of_lt h), toList_chars_ofString,
      List.take_succ_eq_append_getElem hlt, String.utf8Len_append, String.utf8Len_cons, String.utf8Len_nil,
      Nat.zero_add]

end Text

/-! ## Reports and expectations -/

/-- The token can be cut out of the source: it is not empty, lies inside of the source, and both ends are boundaries. -/
structure Token.Sliceable (source : String) (tok : Token) : Prop where
  lt : tok.start < tok.stop
  le : tok.stop ≤ source.utf8ByteSize
  start : Boundary source tok.start
  stop : Boundary source tok.stop

theorem Token.Spans.sliceable {source : String} {tok : Token} (h : tok.Spans (Text.ofString source)) :
    tok.Sliceable source := by
  obtain ⟨i, j, hij, hj, hstart, hstop⟩ := h
  refine ⟨?_, ?_, ?_, ?_⟩
  · rw [hstart, hstop]
    exact Text.offset_lt_offset _ hij hj
  · rw [hstop, ← Text.offset_length_ofString]
    exact Text.offset_le_offset _ hj (Nat.le_refl _)
  · rw [hstart]
    exact Text.boundary_offset (hij.le.trans hj)
  · rw [hstop]
    exact Text.boundary_offset hj

theorem exists_mapM_eq_some {α β : Type} {f : α → Option β} : ∀ {xs : List α}, (∀ x ∈ xs, ∃ y, f x = some y) →
    ∃ ys, xs.mapM f = some ys
  | [], _ => ⟨[], rfl⟩
  | x :: xs, h => by
    obtain ⟨⟨y, hy⟩, hxs⟩ := List.forall_mem_cons.1 h
    obtain ⟨ys, hys⟩ := exists_mapM_eq_some hxs
    exact ⟨y :: ys, by rw [List.mapM_cons, hy, hys]; rfl⟩

namespace Token.Sliceable

variable {source : String} {tok : Token} {tokens : List Token}

theorem exists_text (h : tok.Sliceable source) : ∃ text, tok.text? source = some text :=
  Option.isSome_iff_exists.1 (isSome_text?_iff.2 ⟨h.lt.le, h.start, h.stop⟩)

theorem length? (h : tok.Sliceable source) : tok.length? = some (tok.stop - tok.start) := if_pos h.lt.le

theorem exists_lines (h : ∀ tok ∈ tokens, tok.Sliceable source) :
    ∃ lines, tokens.mapM (fun tok : Token => tok.line? source) = some lines := by
  refine exists_mapM_eq_some fun tok htok => ?_
  obtain ⟨text, htext⟩ := (h tok htok).exists_text
  exact ⟨_, by rw [line?, htext, Option.map_some]⟩

/-- **Reports**: tokens that can be cut out can be written in every format. -/
theorem render? (h : ∀ tok ∈ tokens, tok.Sliceable source) (format : ReportFormat) :
    ∃ report, format.render? source tokens = some report := by
  cases format with
  | json => exact ⟨_, rfl⟩
  | simple =>
    obtain ⟨lines, hlines⟩ := exists_lines h
    exact ⟨_, by rw [ReportFormat.render?, simpleReport?, hlines, Option.map_some]⟩

theorem failShowing (h : ∀ tok ∈ tokens, tok.Sliceable source) (message : String → String) :
    failShowing source tokens message ≠ .outOfRange := by
  obtain ⟨lines, hlines⟩ := exists_lines h
  simp [Highlight.failShowing, describeAll?, hlines]

theorem checkOne (h : tok.Sliceable source) (context : String) (e : TokenExpectation) :
    e.check source context tok ≠ .outOfRange := by
  obtain ⟨text, htext⟩ := h.exists_text
  cases e with
  | text expected =>
    simp only [TokenExpectation.check, htext]
    split <;> simp
  | _ =>
    simp only [TokenExpectation.check]
    split <;> simp

theorem checkToken (h : tok.Sliceable source) (context : String) : ∀ checks : List TokenExpectation,
    checkToken source context tok checks ≠ .outOfRange
  | [] => by simp [Highlight.checkToken]
  | e :: es => by
    have hfirst := h.checkOne context e
    unfold Highlight.checkToken
    split
    · exact checkToken h context es
    · exact hfirst

theorem findText (text : String) : ∀ {tokens : List Token}, (∀ tok ∈ tokens, tok.Sliceable source) →
    (∃ tok ∈ tokens, findText source text tokens = .token tok) ∨ findText source text tokens = .nothing
  | [], _ => Or.inr rfl
  | tok :: tokens, h => by
    obtain ⟨hfirst, hrest⟩ := List.forall_mem_cons.1 h
    obtain ⟨covered, hcovered⟩ := hfirst.exists_text
    unfold Highlight.findText
    rw [hcovered]
    dsimp only
    split
    · exact Or.inl ⟨tok, List.mem_cons_self, rfl⟩
    · rcases findText text hrest with ⟨found, hmem, hfound⟩ | hnothing
      · exact Or.inl ⟨found, List.mem_cons_of_mem _ hmem, hfound⟩
      · exact Or.inr hnothing

/-- **Expectations** on tokens that can be cut out are met or fail, but never meet a token without a text. -/
theorem check (h : ∀ tok ∈ tokens, tok.Sliceable source) (e : Expectation) : e.check source tokens ≠ .outOfRange := by
  cases e with
  | count | primaryCount | coversSource =>
    simp only [Expectation.check]
    split
    · simp
    · exact failShowing h _
  | token index checks =>
    simp only [Expectation.check]
    split
    next tok htok => exact (h tok (List.mem_of_getElem? htok)).checkToken _ checks
    next => exact failShowing h _
  | find text checks =>
    simp only [Expectation.check]
    rcases findText text h with ⟨tok, htok, hfound⟩ | hnothing
    · rw [hfound]
      exact (h tok htok).checkToken _ checks
    · rw [hnothing]
      exact failShowing h _

end Token.Sliceable

/-- **Every span is sliceable.** After any number of steps, and after any number of pulls, the offset of the run is a
boundary of the source, and every token delivered so far can be cut out of it. Before the end there is a character at
the offset, and a step that takes one character as it is goes on behind its bytes. Hence every token has a text and a
length, and any of the tokens can be written in every format and be checked against any expectation. -/
theorem spans_are_sliceable (g : Grammar) (source : String) :
    let t := Text.ofString source
    (∀ n,
      let c := (cursorRun g t n).2
      Boundary source (t.offset c.pos) ∧
      (∀ tok ∈ (cursorRun g t n).1, tok.Sliceable source) ∧
      (t.offset c.pos < source.utf8ByteSize →
        ∃ ch rest, dropBytes? (t.offset c.pos) source.toList = some (ch :: rest) ∧
          ∀ tok ∈ (c.step g t).1.getD [], tok.kind = .fallback →
            tok.start = t.offset c.pos ∧ tok.stop = t.offset c.pos + ch.utf8Size)) ∧
    (∀ tokens r, (Run.start g source).Pulled tokens r →
      Boundary source r.offset ∧ ∀ tok ∈ tokens ++ r.pending, tok.Sliceable source) ∧
    ∀ n tokens, tokens ⊆ (cursorRun g t n).1 →
      (∀ tok ∈ tokens, tok.length? = some (tok.stop - tok.start) ∧ ∃ text, tok.text? source = some text ∧
        text.toByteArray = source.toByteArray.extract tok.start tok.stop) ∧
      (∀ format : ReportFormat, ∃ report, format.render? source tokens = some report) ∧
      ∀ e : Expectation, e.check source tokens ≠ .outOfRange := by
  intro t
  have hsliceable : ∀ n, ∀ tok ∈ (cursorRun g t n).1, tok.Sliceable source := by
    intro n tok htok
    rw [(cursorRun_eq_plainRun g t n).1] at htok
    exact (plainRun_spans g t n tok htok).sliceable
  have hboundary : ∀ n, Boundary source (t.offset (cursorRun g t n).2.pos) := by
    intro n
    rw [(cursorRun_eq_plainRun g t n).2.pos]
    exact Text.boundary_offset (plainRun_tiles g t n).1
  refine ⟨fun n => ⟨hboundary n, hsliceable n, fun hbefore => ?_⟩, fun tokens r hpulled => ?_, fun n tokens hsub => ?_⟩
  · have hpos : (plainRun g t n).2.pos < t.length := by
      by_contra hend
      have hlast : (cursorRun g t n).2.pos = t.length := by
        rw [(cursorRun_eq_plainRun g t n).2.pos]
        exact Nat.le_antisymm (plainRun_tiles g t n).1 (Nat.le_of_not_lt hend)
      rw [hlast, Text.offset_length_ofString] at hbefore
      exact Nat.lt_irrefl _ hbefore
    obtain ⟨ch, rest, hdrop, hnext⟩ := Text.exists_char_at_offset hpos
    rw [(cursorRun_eq_plainRun g t n).2.pos, step_cursorRun]
    refine ⟨ch, rest, hdrop, fun tok htok hkind => ?_⟩
    rw [← hnext]
    exact PlainState.fallback_step htok hkind
  · obtain ⟨n, hafter⟩ := hpulled.after
    have hrun := hafter.run
    refine ⟨?_, fun tok htok => hsliceable n tok (by rwa [hrun])⟩
    have hoffset := hboundary n
    rw [hrun] at hoffset
    rwa [Run.offset, hafter.text]
  · have hall : ∀ tok ∈ tokens, tok.Sliceable source := fun tok htok => hsliceable n tok (hsub htok)
    refine ⟨fun tok htok => ⟨(hall tok htok).length?, ?_⟩, Token.Sliceable.render? hall, Token.Sliceable.check hall⟩
    obtain ⟨text, htext⟩ := (hall tok htok).exists_text
    exact ⟨text, htext, Token.bytes_text? htext⟩

/-- The first character takes two bytes, and there is no boundary between them. After two pulls a capture waits. -/
theorem spans_are_sliceable_quoted :
    let source := "é\"b"
    ¬ Boundary source 1 ∧ ∃ tokens r, (Run.start .quoted source).Pulled tokens r ∧
      tokens.map (fun tok => (tok.start, tok.stop, tok.kind)) = [(0, 2, .fallback), (2, 3, .opening)] ∧
      r.pending.map (fun tok => (tok.start, tok.stop, tok.kind)) = [(2, 3, .capture)] ∧
      Boundary source r.offset ∧ ∀ tok ∈ tokens ++ r.pending, tok.Sliceable source := by
  intro source
  have hpulled := Run.pulled_take 2 (r := Run.start .quoted source) (by decide +kernel)
  obtain ⟨hboundary, hsliceable⟩ := (spans_are_sliceable .quoted source).2.1 _ _ hpulled
  refine ⟨fun hinside => ?_, _, _, hpulled, by decide +kernel, by decide +kernel, hboundary, hsliceable⟩
  have hzero : Boundary source 0 := boundary_iff.2 ⟨[], source.toList, rfl, rfl⟩
  have htext : (Token.text? ⟨0, 1, .fallback, {}⟩ source).isSome = true :=
    Token.isSome_text?_iff.2 ⟨by decide, hzero, hinside⟩
  revert htext
  decide +kernel

end Highlight
