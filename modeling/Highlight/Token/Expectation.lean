import Highlight.Token.Stream

/-!
# Expectations on token streams

Statements about a stream of tokens or about one token of it, with a message that says what was found instead. To say
what was found, all tokens are shown with their texts, which fails for a token that covers no part of the source.
-/

namespace Highlight

/-- The result of checking an expectation. -/
inductive Verdict where
  | ok
  | failed (message : String)
  /-- A token covers no part of the source. -/
  | outOfRange
deriving Repr, DecidableEq, Inhabited

/-- What is expected of one token. -/
inductive TokenExpectation where
  | span (start stop : Nat)
  | text (text : String)
  | scopes (scopes : List String)
  | innermost (scope : String)
  | hasScope (selector : String)
  | kind (kind : TokenKind)
deriving Repr, DecidableEq, Inhabited

/-- What is expected of a stream of tokens. -/
inductive Expectation where
  | count (n : Nat)
  | primaryCount (n : Nat)
  | coversSource
  | token (index : Nat) (checks : List TokenExpectation)
  | find (text : String) (checks : List TokenExpectation)
deriving Repr, Inhabited

/-- What is said where two values should be equal. -/
def mismatch (message left right : String) : String :=
  s!"assertion `left == right` failed: {message}\n  left: {left}\n right: {right}"

/-- Lines in quotes, each on a line of its own. -/
def quoteLines (lines : List String) : String :=
  if lines.isEmpty then "[]"
  else "[\n" ++ String.join (lines.map fun l => "    " ++ quoteString l ++ ",\n") ++ "]"

/-- All tokens with their texts. -/
def describeAll? (source : String) (tokens : List Token) : Option String :=
  (tokens.mapM fun t : Token => t.line? source).map quoteLines

/-- A failure whose message shows all tokens. -/
def failShowing (source : String) (tokens : List Token) (message : String → String) : Verdict :=
  match describeAll? source tokens with
  | some shown => .failed (message shown)
  | none => .outOfRange

def quoteOption : Option String → String
  | some s => s!"Some({quoteString s})"
  | none => "None"

/-- Checks one expectation on a token; `context` tells which token it is. -/
def TokenExpectation.check (source context : String) (t : Token) : TokenExpectation → Verdict
  | .span start stop =>
    if t.start = start ∧ t.stop = stop then .ok
    else .failed (mismatch s!"{context}: span mismatch in {t.describe}" s!"{t.start}..{t.stop}" s!"{start}..{stop}")
  | .text expected => match t.text? source with
    | none => .outOfRange
    | some covered =>
      if covered = expected then .ok
      else .failed (mismatch s!"{context}: text mismatch in {t.describe}" (quoteString covered) (quoteString expected))
  | .scopes expected =>
    if t.scopes.scopes = expected then .ok
    else .failed (mismatch s!"{context}: scope path mismatch" (Token.quoteList t.scopes.scopes)
      (Token.quoteList expected))
  | .innermost expected =>
    if t.scopes.innermost? = some expected then .ok
    else .failed (mismatch s!"{context}: innermost scope mismatch in {t.describe}"
      (quoteOption t.scopes.innermost?) (quoteOption (some expected)))
  | .hasScope selector =>
    if t.scopes.hasScope selector then .ok
    else .failed s!"{context}: expected scope {quoteString selector} in {t.scopes.display}"
  | .kind expected =>
    if t.kind = expected then .ok
    else .failed (mismatch s!"{context}: kind mismatch in {t.describe}" t.kind.title expected.title)

/-- Checks expectations on a token in order, up to the first that fails. -/
def checkToken (source context : String) (t : Token) : List TokenExpectation → Verdict
  | [] => .ok
  | e :: es => match e.check source context t with
    | .ok => checkToken source context t es
    | verdict => verdict

/-- The first token with the given text. -/
inductive Found where
  | token (t : Token)
  | nothing
  | outOfRange

def findText (source text : String) : List Token → Found
  | [] => .nothing
  | t :: ts => match t.text? source with
    | none => .outOfRange
    | some s => if s = text then .token t else findText source text ts

/-- Checks an expectation on the tokens of a source. -/
def Expectation.check (source : String) (tokens : List Token) : Expectation → Verdict
  | .count n =>
    if tokens.length = n then .ok
    else failShowing source tokens fun shown =>
      mismatch s!"Expected {n} tokens, found {tokens.length}: {shown}" s!"{tokens.length}" s!"{n}"
  | .primaryCount n =>
    let found := (primaryTokens tokens).length
    if found = n then .ok
    else failShowing source tokens fun shown =>
      mismatch s!"Expected {n} primary tokens, found {found}: {shown}" s!"{found}" s!"{n}"
  | .coversSource =>
    match (checkPartition tokens source.utf8ByteSize).or (checkCaptures tokens) with
    | none => .ok
    | some fault => failShowing source tokens fun shown => s!"{fault.message}: {shown}"
  | .token index checks =>
    match tokens[index]? with
    | some t => checkToken source s!"token[{index}]" t checks
    | none => failShowing source tokens fun shown =>
        s!"Token index {index} out of bounds ({tokens.length} tokens): {shown}"
  | .find text checks =>
    match findText source text tokens with
    | .token t => checkToken source s!"token {quoteString text}" t checks
    | .outOfRange => .outOfRange
    | .nothing => failShowing source tokens fun shown => s!"No token with text {quoteString text}: {shown}"

end Highlight
