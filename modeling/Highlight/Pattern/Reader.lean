import Highlight.Pattern.Expr
import Highlight.Unicode.Case

/-!
# Reading patterns

`Pattern.read` turns the written form of a pattern into an `Expr`. Flags in force (`(?i)`, `(?x)`, ...) are part of the
reader's state, so that letters, classes and assertions are resolved where they stand. Groups and bracketed classes are
kept on explicit stacks; every round of the two main loops consumes a character, so the length of the text bounds them.
-/

namespace Highlight.Pattern

/-- Why a written pattern is refused. -/
inductive SyntaxError where
  | unexpectedEnd
  | unclosedGroup
  | unopenedGroup
  | unclosedClass
  | nothingToRepeat
  | badRepetitionCount
  | badEscape
  | badClassItem
  | badRange
  | badFlag
  | badGroupName
  | duplicateGroupName
  | lookAround
  | unknownProperty
  | notUnicode
  | tooDeep
  | tooLarge
deriving Repr, DecidableEq, Inhabited

def SyntaxError.message : SyntaxError → String
  | unexpectedEnd => "the pattern ends too early"
  | unclosedGroup => "a group is not closed"
  | unopenedGroup => "a group is closed that was not opened"
  | unclosedClass => "a character class is not closed"
  | nothingToRepeat => "there is nothing to repeat"
  | badRepetitionCount => "a repetition count is not valid"
  | badEscape => "an escape sequence is not valid"
  | badClassItem => "a character class holds something that is no set of characters"
  | badRange => "a character range is not valid"
  | badFlag => "a flag is not valid"
  | badGroupName => "a group name is not valid"
  | duplicateGroupName => "a group name is used twice"
  | lookAround => "look-around is not supported"
  | unknownProperty => "a character property is not known"
  | notUnicode => "a part that is not about Unicode could match half a character"
  | tooDeep => "the pattern is nested too deeply"
  | tooLarge => "the pattern is too large"

/-- The flags in force. -/
structure Flags where
  insensitive : Bool := false
  multiLine : Bool := true
  dotAll : Bool := false
  swapGreed : Bool := false
  unicode : Bool := true
  carriageReturn : Bool := false
  verbose : Bool := false
deriving Repr, DecidableEq, Inhabited

/-- What `^` asserts. -/
def Flags.startAssertion (flags : Flags) : Assertion :=
  if !flags.multiLine then .textStart else if flags.carriageReturn then .anyLineStart else .lineStart

/-- What `$` asserts. -/
def Flags.endAssertion (flags : Flags) : Assertion :=
  if !flags.multiLine then .textEnd else if flags.carriageReturn then .anyLineEnd else .lineEnd

/-- What is left to read, the flags in force, and the groups met so far. -/
structure Scan where
  rest : List Char
  flags : Flags := {}
  groups : Nat := 0
  names : List String := []
deriving Inhabited

abbrev Reader := StateT Scan (Except SyntaxError)

/-- Skips white space and comments; `comment` tells whether a comment has started. -/
def dropBlanks : Bool → List Char → List Char
  | _, [] => []
  | true, c :: cs => dropBlanks (c != '\n') cs
  | false, c :: cs =>
    if Unicode.whiteSpace.contains c then dropBlanks false cs
    else if c == '#' then dropBlanks true cs
    else c :: cs

namespace Reader

def peek? : Reader (Option Char) := return (← get).rest.head?

/-- The next character; the pattern may not end here. -/
def peek (error : SyntaxError) : Reader Char := do
  match (← get).rest with
  | c :: _ => return c
  | [] => throw error

def setRest (cs : List Char) : Reader Unit := modify fun s => { s with rest := cs }

def skip : Reader Unit := modify fun s => { s with rest := s.rest.drop 1 }

/-- Skips blanks and comments where the verbose flag makes them so. -/
def skipBlanks : Reader Unit :=
  modify fun s => if s.flags.verbose then { s with rest := dropBlanks false s.rest } else s

def skipWithBlanks : Reader Unit := do
  skip
  skipBlanks

/-- Skips the given characters if they come next. -/
def skipIf (cs : List Char) : Reader Bool := do
  let s ← get
  if cs.isPrefixOf s.rest then
    set { s with rest := s.rest.drop cs.length }
    return true
  else return false

/-- Reads characters while `p` holds of them, ignoring blanks after each. -/
def takeWhile (p : Char → Bool) : Nat → Reader (List Char)
  | 0 => return []
  | fuel + 1 => do
    match ← peek? with
    | some c =>
      if p c then
        skipWithBlanks
        return c :: (← takeWhile p fuel)
      else return []
    | none => return []

/-- The number of characters left bounds every loop. -/
def fuel : Reader Nat := return (← get).rest.length + 1

end Reader

open Reader

/-- A number in decimal digits. White space around it, and in verbose patterns inside it, does not count. -/
def readDecimal : Reader (Option Nat) := do
  modify fun s => { s with rest := s.rest.dropWhile Unicode.whiteSpace.contains }
  let digits ← takeWhile Char.isDigit (← fuel)
  let _ ← takeWhile Unicode.whiteSpace.contains (← fuel)
  if digits.isEmpty then return none
  let n := Nat.ofDigitChars 10 digits 0
  if n < UInt32.size then return some n else throw .badRepetitionCount

/-- The bounds of a counted repetition, after its opening brace. -/
def readBounds : Reader (Nat × Option Nat) := do
  let least ← readDecimal
  let c ← peek .badRepetitionCount
  if c == ',' then
    skipWithBlanks
    let c ← peek .badRepetitionCount
    match least with
    | none => throw .badRepetitionCount
    | some least =>
      if c == '\x7d' then return (least, none)
      match ← readDecimal with
      | some most => return (least, some most)
      | none => throw .badRepetitionCount
  else match least with
    | some n => return (n, some n)
    | none => throw .badRepetitionCount

/-- A character as written: `hexByte` marks one that two hexadecimal digits give. -/
structure Literal where
  char : Char
  hexByte : Bool := false
deriving Repr, DecidableEq, Inhabited

/-- The three classes with letters of their own. -/
inductive ShortClass where
  | digit
  | space
  | word
deriving Repr, DecidableEq

def ShortClass.set (unicode : Bool) : ShortClass → CharSet
  | .digit => if unicode then Unicode.decimalDigits else CharSet.ofTable "30-39"
  | .space => if unicode then Unicode.whiteSpace else CharSet.ofTable "9-d 20"
  | .word => if unicode then Unicode.wordChars else CharSet.ofTable "30-39 41-5a 5f 61-7a"

/-- What an escape sequence, or a plain character, stands for. -/
inductive Primitive where
  | literal (l : Literal)
  | set (s : CharSet)
  | assertion (a : Assertion)
  | dot

/-- The character with the given code point, if there is one. -/
def charOfCode? (n : Nat) : Option Char :=
  if h : n.isValidChar then some (Char.ofNatAux n h) else none

/-- Hexadecimal digits with a fixed count. -/
def readHexDigits : Nat → Reader (List Char)
  | 0 => return []
  | n + 1 => do
    let c ← peek .unexpectedEnd
    if (hexDigit? c).isNone then throw .badEscape
    skipWithBlanks
    return c :: (← readHexDigits n)

/-- A character by its number, after the letter that announces it. -/
def readHex (letter : Char) : Reader Literal := do
  skipWithBlanks
  let c ← peek .unexpectedEnd
  if c == '\x7b' then
    skipWithBlanks
    let digits ← takeWhile (· != '\x7d') (← fuel)
    let _ ← peek .unexpectedEnd
    skipWithBlanks
    if digits.isEmpty || digits.any (fun c => (hexDigit? c).isNone) then throw .badEscape
    match charOfCode? (hexValue digits) with
    | some c => return { char := c }
    | none => throw .badEscape
  else
    let digits ← readHexDigits (if letter == 'x' then 2 else if letter == 'u' then 4 else 8)
    match charOfCode? (hexValue digits) with
    | some c => return { char := c, hexByte := letter == 'x' }
    | none => throw .badEscape

/-- Splits at the first occurrence of `mark`. -/
def splitAtMark? (mark : List Char) : List Char → Option (List Char × List Char)
  | [] => none
  | c :: cs =>
    if mark.isPrefixOf (c :: cs) then some ([], (c :: cs).drop mark.length)
    else (splitAtMark? mark cs).map fun (front, back) => (c :: front, back)

/-- Closes a set under case where the flags ask for it. -/
def foldSet (flags : Flags) (s : CharSet) : CharSet :=
  if flags.insensitive then (if flags.unicode then s.foldCase else s.foldAsciiCase) else s

/-- Closes a set under case, then negates it. Without Unicode a negated set would match parts of characters. -/
def foldAndNegate (flags : Flags) (negated : Bool) (s : CharSet) : Except SyntaxError CharSet :=
  let s := foldSet flags s
  if negated then (if flags.unicode then .ok s.compl else .error .notUnicode) else .ok s

/-- The set named in a property escape: a name, or a name and a value; `!=` negates. -/
def namedProperty (text : List Char) : Option (CharSet × Bool) :=
  match splitAtMark? ['!', '='] text with
  | some (name, value) => (Unicode.propertyValue? name value).map (·, true)
  | none => match splitAtMark? [':'] text with
    | some (name, value) => (Unicode.propertyValue? name value).map (·, false)
    | none => match splitAtMark? ['='] text with
      | some (name, value) => (Unicode.propertyValue? name value).map (·, false)
      | none => (Unicode.property? text).map (·, false)

/-- A set of characters by property, after the letter `p` or `P`. -/
def readProperty (negated : Bool) : Reader CharSet := do
  skipWithBlanks
  let c ← peek .unexpectedEnd
  let name ← if c == '\x7b' then do
      skipWithBlanks
      let name ← takeWhile (· != '\x7d') (← fuel)
      let _ ← peek .unexpectedEnd
      skip
      pure name
    else if c == '\\' then throw .unknownProperty
    else do
      skipWithBlanks
      pure [c]
  let flags := (← get).flags
  if !flags.unicode then throw .notUnicode
  match namedProperty name with
  | some (s, flip) => foldAndNegate flags (negated != flip) s
  | none => throw .unknownProperty

/-- Characters that a backslash makes plain. -/
def isMeta (c : Char) : Bool :=
  ['\\', '.', '+', '*', '?', '(', ')', '|', '[', ']', '\x7b', '\x7d', '^', '$', '#', '&', '-', '~'].contains c

/-- Other characters that may stand after a backslash without need. -/
def isEscapable (c : Char) : Bool :=
  c.toNat < 128 && !c.isAlphanum && c != '<' && c != '>'

/-- The braced name after a word boundary escape. The brace may also open a repetition, which is left unread. -/
def readBoundaryKind (unicode : Bool) : Reader Assertion := do
  let start := (← get).rest
  if start.head? != some '\x7b' then return .wordBoundary unicode
  skipWithBlanks
  let isNameChar (c : Char) : Bool := c.isAlpha || c == '-'
  let c ← peek .unexpectedEnd
  if !isNameChar c then
    setRest start
    return .wordBoundary unicode
  let name ← takeWhile isNameChar (← fuel)
  if (← peek?) != some '\x7d' then throw .badEscape
  skip
  match String.ofList name with
  | "start" => return .wordStart unicode
  | "end" => return .wordEnd unicode
  | "start-half" => return .wordStartHalf unicode
  | "end-half" => return .wordEndHalf unicode
  | _ => throw .badEscape

/-- An escape sequence. -/
def readEscape : Reader Primitive := do
  skip
  let c ← peek .unexpectedEnd
  let flags := (← get).flags
  if c.isDigit then throw .badEscape
  if c == 'x' || c == 'u' || c == 'U' then return .literal (← readHex c)
  if c == 'p' || c == 'P' then return .set (← readProperty (c == 'P'))
  skip
  let short (k : ShortClass) (negated : Bool) : Reader Primitive := do
    let s := k.set flags.unicode
    if !negated then return .set s
    if flags.unicode then return .set s.compl
    throw .notUnicode
  match c with
  | 'd' => short .digit false
  | 's' => short .space false
  | 'w' => short .word false
  | 'D' => short .digit true
  | 'S' => short .space true
  | 'W' => short .word true
  | 'a' => return .literal { char := '\x07' }
  | 'f' => return .literal { char := '\x0c' }
  | 't' => return .literal { char := '\t' }
  | 'n' => return .literal { char := '\n' }
  | 'r' => return .literal { char := '\r' }
  | 'v' => return .literal { char := '\x0b' }
  | 'A' => return .assertion .textStart
  | 'z' => return .assertion .textEnd
  | 'b' => return .assertion (← readBoundaryKind flags.unicode)
  | 'B' => return .assertion (.notWordBoundary flags.unicode)
  | '<' => return .assertion (.wordStart flags.unicode)
  | '>' => return .assertion (.wordEnd flags.unicode)
  | _ => if isMeta c || isEscapable c then return .literal { char := c } else throw .badEscape

/-- A plain character or an escape sequence, outside of classes. -/
def readPrimitive : Reader Primitive := do
  let c ← peek .unexpectedEnd
  if c == '\\' then return ← readEscape
  skip
  let flags := (← get).flags
  match c with
  | '.' => return .dot
  | '^' => return .assertion flags.startAssertion
  | '$' => return .assertion flags.endAssertion
  | c => return .literal { char := c }

/-- Without Unicode, a byte above the ASCII range is no character. -/
def literalChar (flags : Flags) (l : Literal) : Except SyntaxError Char :=
  if !flags.unicode && l.hexByte && l.char.toNat > 0x7f then .error .notUnicode else .ok l.char

/-- The expression for one primitive. -/
def Primitive.expr (flags : Flags) : Primitive → Except SyntaxError Expr
  | .literal l => do
    let c ← literalChar flags l
    return .set (foldSet flags (CharSet.singleton c))
  | .set s => return .set s
  | .assertion a => return .assertion a
  | .dot =>
    if !flags.unicode then .error .notUnicode
    else if flags.dotAll then return .set CharSet.full
    else if flags.carriageReturn then return .set (CharSet.ofTable "a d").compl
    else return .set (CharSet.ofTable "a").compl

/-! ## Bracketed classes -/

inductive SetOperator where
  | inter
  | diff
  | symmDiff
deriving Repr, DecidableEq

def SetOperator.apply : SetOperator → CharSet → CharSet → CharSet
  | .inter => CharSet.inter
  | .diff => CharSet.diff
  | .symmDiff => CharSet.symmDiff

/-- A set of characters with the nesting depth of its written form. -/
structure DeepSet where
  set : CharSet
  depth : Nat

/-- The items of a class read so far. -/
structure Items where
  set : CharSet := CharSet.empty
  count : Nat := 0
  depth : Nat := 0

def Items.push (items : Items) (s : CharSet) (depth : Nat) : Items :=
  { set := items.set.union s, count := items.count + 1, depth := max items.depth depth }

def Items.finish (items : Items) : DeepSet :=
  { set := items.set, depth := if items.count ≤ 1 then items.depth else items.depth + 1 }

/-- What waits while an inner class or a right operand is read. -/
inductive ClassFrame where
  | opened (outer : Items) (negated : Bool)
  | operand (op : SetOperator) (left : DeepSet)

/-- The classes that have a name inside brackets. -/
def posixClass? : String → Option CharSet
  | "alnum" => some (CharSet.ofTable "30-39 41-5a 61-7a")
  | "alpha" => some (CharSet.ofTable "41-5a 61-7a")
  | "ascii" => some (CharSet.ofTable "0-7f")
  | "blank" => some (CharSet.ofTable "9 20")
  | "cntrl" => some (CharSet.ofTable "0-1f 7f")
  | "digit" => some (CharSet.ofTable "30-39")
  | "graph" => some (CharSet.ofTable "21-7e")
  | "lower" => some (CharSet.ofTable "61-7a")
  | "print" => some (CharSet.ofTable "20-7e")
  | "punct" => some (CharSet.ofTable "21-2f 3a-40 5b-60 7b-7e")
  | "space" => some (CharSet.ofTable "9-d 20")
  | "upper" => some (CharSet.ofTable "41-5a")
  | "word" => some (CharSet.ofTable "30-39 41-5a 5f 61-7a")
  | "xdigit" => some (CharSet.ofTable "30-39 41-46 61-66")
  | _ => none

/-- A named class such as `[:alpha:]` or `[:^alpha:]`, if one comes next; its set, whether it is negated, and what
follows. -/
def namedClass? (rest : List Char) : Option (CharSet × Bool × List Char) :=
  match rest with
  | '[' :: ':' :: cs =>
    let (negated, cs) := match cs with
      | '^' :: cs => (true, cs)
      | cs => (false, cs)
    let (name, cs) := cs.span (· != ':')
    match cs with
    | ':' :: ']' :: cs => (posixClass? (String.ofList name)).map (·, negated, cs)
    | _ => none
  | _ => none

/-- An item of a class: a plain character or an escape sequence. -/
def readClassItem : Reader Primitive := do
  let c ← peek .unclosedClass
  if c == '\\' then readEscape
  else
    skip
    return .literal { char := c }

def Primitive.classSet (flags : Flags) : Primitive → Except SyntaxError CharSet
  | .literal l => do
    let c ← literalChar flags l
    if !flags.unicode && c.toNat > 0x7f then .error .notUnicode else return CharSet.singleton c
  | .set s => .ok s
  | .assertion _ | .dot => .error .badClassItem

/-- The character after the next one, looking past what a verbose pattern ignores. -/
def peekSecond : Reader (Option Char) := do
  let s ← get
  match s.rest with
  | [] => return none
  | _ :: cs =>
    if !s.flags.verbose then return cs.head?
    match cs.dropWhile Unicode.whiteSpace.contains with
    | [] => return cs.head?
    | '#' :: more => match more.dropWhile Unicode.whiteSpace.contains with
      | [] => return cs.head?
      | c :: _ => return some c
    | c :: _ => return some c

/-- One item or a range of characters. -/
def readClassRange : Reader CharSet := do
  let flags := (← get).flags
  let first ← readClassItem
  skipBlanks
  let c ← peek .unclosedClass
  let after ← peekSecond
  if c != '-' || after == some ']' || after == some '-' then return ← first.classSet flags
  skipWithBlanks
  let _ ← peek .unclosedClass
  let last ← readClassItem
  match first, last with
  | .literal a, .literal b =>
    if b.char < a.char then throw .badRange
    let _ ← (Primitive.literal a).classSet flags
    let _ ← (Primitive.literal b).classSet flags
    return CharSet.ofRange a.char.toNat b.char.toNat
  | _, _ => throw .badRange

/-- Leading hyphens of a class stand for themselves. -/
def readHyphens : Nat → Items → Reader Items
  | 0, items => return items
  | fuel + 1, items => do
    let c ← peek .unclosedClass
    if c == '-' then
      skipWithBlanks
      readHyphens fuel (items.push (CharSet.singleton '-') 0)
    else return items

/-- Opens a class: an optional `^`, leading hyphens, and a bracket that, in first place, stands for itself. -/
def openClass : Reader (Bool × Items) := do
  skipWithBlanks
  let c ← peek .unclosedClass
  let negated := c == '^'
  if negated then skipWithBlanks
  let items ← readHyphens (← fuel) {}
  let c ← peek .unclosedClass
  if items.count == 0 && c == ']' then
    skipWithBlanks
    let _ ← peek .unclosedClass
    return (negated, items.push (CharSet.singleton ']') 0)
  return (negated, items)

/-- Applies the operator that waits for its right operand, if one does. -/
def closeOperand (flags : Flags) (right : DeepSet) : List ClassFrame → DeepSet × List ClassFrame
  | .operand op left :: frames =>
    let joined := op.apply (foldSet flags left.set) (foldSet flags right.set)
    ({ set := joined, depth := max left.depth right.depth + 1 }, frames)
  | frames => (right, frames)

/-- Reads on in a class until its closing bracket. -/
def readClassItems : Nat → List ClassFrame → Items → Reader DeepSet
  | 0, _, _ => throw .unclosedClass
  | fuel + 1, frames, items => do
    skipBlanks
    let s ← get
    let flags := s.flags
    let operator (op : SetOperator) : Reader DeepSet := do
      modify fun s => { s with rest := s.rest.drop 2 }
      let (left, frames) := closeOperand flags items.finish frames
      readClassItems fuel (.operand op left :: frames) {}
    match s.rest with
    | [] => throw .unclosedClass
    | '[' :: _ =>
      match (if frames.isEmpty then none else namedClass? s.rest) with
      | some (named, negated, rest) =>
        setRest rest
        readClassItems fuel frames (items.push (← foldAndNegate flags negated named) 0)
      | none =>
        let (negated, inner) ← openClass
        readClassItems fuel (.opened items negated :: frames) inner
    | ']' :: rest =>
      setRest rest
      let (body, frames) := closeOperand flags items.finish frames
      match frames with
      | .opened outer negated :: frames =>
        let closed ← foldAndNegate flags negated body.set
        if frames.isEmpty then return { set := closed, depth := body.depth + 1 }
        readClassItems fuel frames (outer.push closed (body.depth + 1))
      | _ => throw .unclosedClass
    | '&' :: '&' :: _ => operator .inter
    | '-' :: '-' :: _ => operator .diff
    | '~' :: '~' :: _ => operator .symmDiff
    | _ =>
      let s ← readClassRange
      readClassItems fuel frames (items.push s 0)

/-! ## Groups, alternatives and repetitions -/

/-- An expression with the nesting depth of its written form. -/
structure Piece where
  expr : Expr
  depth : Nat := 0
  /-- A change of flags cannot be repeated. -/
  repeatable : Bool := true

/-- The pieces of the alternative that is being read, latest first, and the finished alternatives, latest first. -/
structure Level where
  pieces : List Piece := []
  finished : List Piece := []

/-- What waits while a group is read. -/
structure GroupFrame where
  level : Level
  index : Option Nat
  flags : Flags

/-- The pieces in sequence. -/
def joinPieces (pieces : List Piece) : Piece :=
  match pieces with
  | [p] => p
  | ps =>
    { expr := Expr.sequence (ps.reverse.map (·.expr)),
      depth := if ps.isEmpty then 0 else ps.foldl (fun d p => max d p.depth) 0 + 1 }

/-- The alternatives in order. -/
def Level.finish (level : Level) : Piece :=
  match joinPieces level.pieces :: level.finished with
  | [p] => p
  | ps =>
    { expr := Expr.choice (ps.reverse.map (·.expr)),
      depth := ps.foldl (fun d p => max d p.depth) 0 + 1 }

def Level.push (level : Level) (p : Piece) : Level := { level with pieces := p :: level.pieces }

/-- Sets or clears the flag of a letter. -/
def Flags.assign (flags : Flags) (letter : Char) (value : Bool) : Flags :=
  match letter with
  | 'i' => { flags with insensitive := value }
  | 'm' => { flags with multiLine := value }
  | 's' => { flags with dotAll := value }
  | 'U' => { flags with swapGreed := value }
  | 'u' => { flags with unicode := value }
  | 'R' => { flags with carriageReturn := value }
  | 'x' => { flags with verbose := value }
  | _ => flags

/-- Reads flag letters up to a colon or closing parenthesis: the letters in order, a hyphen among them at most once and
not last, each letter at most once. -/
def readFlagLetters : Nat → List Char → Reader (List Char)
  | 0, _ => throw .badFlag
  | fuel + 1, seen => do
    let c ← peek .badFlag
    if c == ':' || c == ')' then
      if seen.head? == some '-' then throw .badFlag else return seen.reverse
    if !"imsUuRx-".toList.contains c || seen.contains c then throw .badFlag
    skip
    readFlagLetters fuel (c :: seen)

/-- The flags after the letters: those after a hyphen are cleared. -/
def applyFlagLetters (flags : Flags) (letters : List Char) : Flags :=
  let (on, off) := letters.span (· != '-')
  (off.drop 1).foldl (·.assign · false) (on.foldl (·.assign · true) flags)

def isNameStart (c : Char) : Bool := c == '_' || Unicode.alphabetic.contains c

def isNameChar (c : Char) : Bool :=
  c == '_' || c == '.' || c == '[' || c == ']' || Unicode.alphanumeric.contains c

/-- A group name up to its closing angle bracket. -/
def readGroupName : Reader String := do
  let (name, rest) := (← get).rest.span (· != '>')
  match name, rest with
  | c :: cs, _ :: rest =>
    if !isNameStart c || !cs.all isNameChar then throw .badGroupName
    setRest rest
    return String.ofList name
  | _, _ => throw .badGroupName

/-- What an opening parenthesis starts. -/
inductive Opening where
  /-- A change of flags up to the end of the enclosing group. -/
  | flags (flags : Flags)
  | group (index : Option Nat) (flags : Flags)

/-- The number of the next group. -/
def nextGroup : Reader Nat := do
  modify fun s => { s with groups := s.groups + 1 }
  return (← get).groups

/-- Reads what follows an opening parenthesis up to the body of the group. -/
def readOpening : Reader Opening := do
  skipWithBlanks
  for mark in [['?', '='], ['?', '!'], ['?', '<', '='], ['?', '<', '!']] do
    if ← skipIf mark then throw .lookAround
  let flags := (← get).flags
  if (← skipIf ['?', 'P', '<']) || (← skipIf ['?', '<']) then
    let index ← nextGroup
    let name ← readGroupName
    let s ← get
    if s.names.contains name then throw .duplicateGroupName
    set { s with names := name :: s.names }
    return .group (some index) flags
  if ← skipIf ['?'] then
    let letters ← readFlagLetters (← fuel) []
    let last ← peek .badFlag
    skip
    let changed := applyFlagLetters flags letters
    if last == ')' then
      if letters.isEmpty then throw .nothingToRepeat else return .flags changed
    return .group none changed
  return .group (some (← nextGroup)) flags

/-- Replaces the latest piece by its repetition. -/
def repeatLatest (level : Level) (least : Nat) (most : Option Nat) (lazy : Bool) : Reader Level := do
  let flags := (← get).flags
  match level.pieces with
  | p :: ps =>
    if !p.repeatable then throw .nothingToRepeat
    let expr := Expr.repeated least most (lazy == flags.swapGreed) p.expr
    return { level with pieces := { expr, depth := p.depth + 1 } :: ps }
  | [] => throw .nothingToRepeat

/-- A question mark after a repetition. -/
def readLazy : Reader Bool := skipIf ['?']

/-- Reads on until the pattern ends. -/
def readLevel : Nat → List GroupFrame → Level → Reader Piece
  | 0, _, _ => throw .unexpectedEnd
  | fuel + 1, frames, level => do
    skipBlanks
    let s ← get
    match s.rest with
    | [] => if frames.isEmpty then return level.finish else throw .unclosedGroup
    | '(' :: _ =>
      match ← readOpening with
      | .flags flags =>
        modify fun s => { s with flags }
        readLevel fuel frames (level.push { expr := .empty, repeatable := false })
      | .group index flags =>
        let saved := s.flags
        modify fun s => { s with flags }
        readLevel fuel ({ level, index, flags := saved } :: frames) {}
    | ')' :: rest =>
      match frames with
      | [] => throw .unopenedGroup
      | frame :: frames =>
        modify fun s => { s with rest, flags := frame.flags }
        let body := level.finish
        let expr := match frame.index with
          | some i => .group i body.expr
          | none => body.expr
        readLevel fuel frames (frame.level.push { expr, depth := body.depth + 1 })
    | '|' :: rest =>
      setRest rest
      readLevel fuel frames { pieces := [], finished := joinPieces level.pieces :: level.finished }
    | '[' :: _ =>
      let c ← readClassItems (fuel + 1) [] {}
      readLevel fuel frames (level.push { expr := .set c.set, depth := c.depth })
    | '?' :: rest =>
      setRest rest
      readLevel fuel frames (← repeatLatest level 0 (some 1) (← readLazy))
    | '*' :: rest =>
      setRest rest
      readLevel fuel frames (← repeatLatest level 0 none (← readLazy))
    | '+' :: rest =>
      setRest rest
      readLevel fuel frames (← repeatLatest level 1 none (← readLazy))
    | '\x7b' :: _ =>
      skipWithBlanks
      let _ ← peek .badRepetitionCount
      let (least, most) ← readBounds
      let c ← peek .badRepetitionCount
      if c != '\x7d' then throw .badRepetitionCount
      skipWithBlanks
      let lazy ← readLazy
      if (most.getD least) < least then throw .badRepetitionCount
      readLevel fuel frames (← repeatLatest level least most lazy)
    | _ =>
      let p ← readPrimitive
      readLevel fuel frames (level.push { expr := ← p.expr s.flags })

/-- How deep the parts of a pattern may be nested. -/
def maxDepth : Nat := 250

/-- The expression that a pattern writes. -/
def read (source : String) : Except SyntaxError Expr := do
  let cs := source.toList
  let (p, _) ← (readLevel (cs.length + 1) [] {}).run { rest := cs }
  if p.depth > maxDepth then throw .tooDeep
  return p.expr

end Highlight.Pattern
