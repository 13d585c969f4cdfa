import Highlight.Token
import Highlight.Tokenizer.Expansion
import Highlight.Tokenizer.Lookahead

/-!
# Tokenizer runs

A run walks over a text and cuts it into tokens, a step at a time. At each position the closing pattern of the innermost
open region is tried first, then the rules that apply there in order; the first match wins. Where nothing matches, one
character is taken as it is. At the end of the text the regions that are still open are dropped.

`Run.next` delivers one token. A step may deliver none (an empty match that closes a region), so several may be needed.
A pattern that matches the empty text again and again could keep a run at one position for ever; `Pull.stalled` reports
that. Steps that stay at a position first close regions and then only open them, and to close or open the same region
again at the same position means to go on for ever, so the number of open regions and of rules bounds the steps worth
trying.
-/

namespace Highlight

/-- An open region: the scopes of its two ends, and those of what lies between. -/
structure Frame where
  rule : RegionRule
  scopes : ScopePath
  content : ScopePath
deriving Repr, DecidableEq, Inhabited

/-- Where a run stands: the position, the open regions, innermost first, and what it remembers. -/
structure Cursor where
  pos : Nat
  frames : List Frame
  lookahead : LookaheadTable
  resolver : Resolver
deriving Inhabited

namespace Cursor

def start (g : Grammar) : Cursor :=
  { pos := 0, frames := [], lookahead := LookaheadTable.empty g.patterns.size,
    resolver := Resolver.fresh g.sets.size }

/-- The scopes of plain text at this place. -/
def contentScopes (c : Cursor) : ScopePath :=
  match c.frames with
  | f :: _ => f.content
  | [] => {}

/-- The match of a pattern, by its index, that starts here. -/
def matchHere (c : Cursor) (g : Grammar) (t : Text) (id : Nat) : Option Pattern.Match × Cursor :=
  match g.patterns[id]? with
  | none => (none, c)
  | some p =>
    let (found, lookahead) := c.lookahead.matchAt id p t c.pos
    (found, { c with lookahead })

/-- The first rule of a walk whose pattern matches here. The walk is left there. -/
def firstRule (c : Cursor) (g : Grammar) (t : Text) (w : Walk) : Option (Rule × Pattern.Match) × Cursor :=
  match _h : w.next g with
  | (none, w') => (none, { c with resolver := w'.leave })
  | (some id, w') =>
    match g.rules[id]? with
    | none => firstRule c g t w'
    | some rule =>
      match c.matchHere g t rule.entry with
      | (some m, c) => (some (rule, m), { c with resolver := w'.leave })
      | (none, c) => firstRule c g t w'
termination_by w.left g
decreasing_by all_goals exact Walk.left_next _h

/-- A walk over the rules that apply here. -/
def rulesHere (c : Cursor) (g : Grammar) : Walk :=
  match c.frames with
  | f :: _ => (c.resolver.begin f.rule.children).walk
  | [] => (c.resolver.beginSet g g.root).walk

end Cursor

/-- The token for the characters of a span, unless there are none. -/
def tokenOf (t : Text) (span : Pattern.Span) (kind : TokenKind) (scopes : ScopePath) : List Token :=
  if span.start < span.stop then [{ start := t.offset span.start, stop := t.offset span.stop, kind, scopes }] else []

/-- The groups that have a scope and matched some text, with their index, span and scope. -/
def scopedGroups (groups : Pattern.Groups) (whole : Pattern.Span) (captures : Captures) :
    List (Nat × Pattern.Span × String) :=
  captures.filterMap fun (group, scope) =>
    let span? := if group = 0 then some whole else (groups[group]?).join
    match span? with
    | some span => if span.isEmpty then none else some (group, span, scope)
    | none => none

/-- The tokens for the groups of a match that have a scope, by their start and then by their index. -/
def captureTokens (t : Text) (m : Pattern.Match) (captures : Captures) (base : ScopePath) : List Token :=
  let found := scopedGroups m.groups m.span captures
  let sorted := found.mergeSort fun a b =>
    decide (a.2.1.start < b.2.1.start) || (a.2.1.start == b.2.1.start && decide (a.1 ≤ b.1))
  sorted.flatMap fun (_, span, scope) => tokenOf t span .capture (base.push scope)

/-- Closes the innermost region if its closing pattern matches here. -/
def Cursor.closeRegion (g : Grammar) (t : Text) (c : Cursor) : Option (List Token) × Cursor :=
  match c.frames with
  | [] => (none, c)
  | f :: frames =>
    match c.matchHere g t f.rule.closing with
    | (none, c) => (none, c)
    | (some m, c) =>
      (some (tokenOf t m.span .closing f.scopes ++ captureTokens t m f.rule.closingCaptures f.scopes),
        { c with pos := m.span.stop, frames })

/-- Applies a rule to its match. -/
def Cursor.applyRule (t : Text) (c : Cursor) (rule : Rule) (m : Pattern.Match) : List Token × Cursor :=
  let base := c.contentScopes
  match rule with
  | .single r =>
    (tokenOf t m.span .matched (base.extend r.scope) ++ captureTokens t m r.captures base,
      { c with pos := m.span.stop })
  | .region r =>
    let scopes := base.extend r.scope
    let frame := { rule := r, scopes, content := scopes.extend r.contentScope }
    (tokenOf t m.span .opening scopes ++ captureTokens t m r.openingCaptures scopes,
      { c with pos := m.span.stop, frames := frame :: c.frames })

/-- One step of a run: the tokens it delivers and where it stands then, or nothing at the end of the text. -/
def Cursor.step (g : Grammar) (t : Text) (c : Cursor) : Option (List Token) × Cursor :=
  if t.length ≤ c.pos then (none, { c with frames := [] })
  else
    match c.closeRegion g t with
    | (some tokens, c) => (some tokens, c)
    | (none, c) =>
      match c.firstRule g t (c.rulesHere g) with
      | (some (rule, m), c) =>
        let (tokens, c) := c.applyRule t rule m
        (some tokens, c)
      | (none, c) =>
        (some (tokenOf t ⟨c.pos, c.pos + 1⟩ .fallback c.contentScopes), { c with pos := c.pos + 1 })

/-- A run over a text: where it stands, and the tokens of past steps that were not delivered yet. -/
structure Run where
  grammar : Grammar
  source : String
  text : Text
  cursor : Cursor
  pending : List Token

/-- What one pull delivers. -/
inductive Pull where
  | token (t : Token) (run : Run)
  | finished (run : Run)
  /-- The run can never deliver another token. -/
  | stalled (run : Run)

namespace Run

def start (g : Grammar) (source : String) : Run :=
  { grammar := g, source, text := Text.ofString source, cursor := Cursor.start g, pending := [] }

/-- How many bytes the run has walked over; tokens before that may still be pending. -/
def offset (r : Run) : Nat := r.text.offset r.cursor.pos

/-- How many regions are open. -/
def depth (r : Run) : Nat := r.cursor.frames.length

/-- Steps until one delivers a token, at most `n` times. -/
def stepUntilToken : Nat → Run → Pull
  | 0, r => .stalled r
  | n + 1, r =>
    match r.cursor.step r.grammar r.text with
    | (none, cursor) => .finished { r with cursor }
    | (some [], cursor) => stepUntilToken n { r with cursor }
    | (some (t :: ts), cursor) => .token t { r with cursor, pending := ts }

/-- More steps than this without a token stay at one position for ever. -/
def silentSteps (r : Run) : Nat := r.cursor.frames.length + r.grammar.rules.size + 2

/-- Delivers the next token. -/
def next (r : Run) : Pull :=
  match r.pending with
  | t :: ts => .token t { r with pending := ts }
  | [] => stepUntilToken r.silentSteps r

/-- Why no more tokens were taken. -/
inductive Halt where
  | enough
  | finished
  | stalled
deriving Repr, DecidableEq, Inhabited

/-- Takes up to `n` tokens. -/
def take : Nat → Run → List Token × Run × Halt
  | 0, r => ([], r, .enough)
  | n + 1, r =>
    match r.next with
    | .token t r =>
      let (ts, r, halt) := take n r
      (t :: ts, r, halt)
    | .finished r => ([], r, .finished)
    | .stalled r => ([], r, .stalled)

/-- A bound on the tokens that a step can deliver. -/
def tokensPerStep (g : Grammar) : Nat :=
  g.rules.foldl (fun n rule => match rule with
    | .single r => max n (r.captures.length + 1)
    | .region r => max n (max r.openingCaptures.length r.closingCaptures.length + 1)) 1

/-- A bound on the tokens that are left: between two positions, every rule can open a region at most once. -/
def tokensLeft (r : Run) : Nat :=
  let steps := r.cursor.frames.length + 2 * (r.grammar.rules.size + 2) * (r.text.length + 1 - r.cursor.pos)
  r.pending.length + tokensPerStep r.grammar * steps + 1

/-- Takes all tokens that are left. -/
def rest (r : Run) : List Token × Run × Halt := r.take r.tokensLeft

end Run

/-- All tokens of a text. -/
def Grammar.tokenize (g : Grammar) (source : String) : List Token := (Run.start g source).rest.1

end Highlight
