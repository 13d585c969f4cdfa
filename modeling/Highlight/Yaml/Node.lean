import Highlight.Yaml.Lexer

/-!
# From tokens to nodes

A document is a tree of scalars, lists and tables. A node may carry an anchor, and an alias stands for the node with an
anchor. Anchors are numbered as they are met: the number is how many different names have been used before. A name that
is used again gets a new number, and aliases after it mean that one.
-/

namespace Highlight.Yaml

/-- The properties of a node: the number of its anchor, and its tag. -/
structure Properties where
  anchor : Option Nat := none
  tag : Option String := none
deriving Repr, DecidableEq, Inhabited

inductive Node where
  | alias (anchor : Nat)
  | scalar (properties : Properties) (isPlain : Bool) (text : String)
  | list (properties : Properties) (items : List Node)
  | table (properties : Properties) (entries : List (Node × Node))
deriving Repr, Inhabited

/-- A value that is not written. -/
def Node.blank : Node := .scalar {} true ""

/-- What is known while nodes are read: the declared tag handles and the numbers of the anchors. -/
structure Names where
  handles : List (String × String) := []
  anchors : List (String × Nat) := []

/-- A reader of nodes takes tokens and returns what follows. -/
abbrev NodeReader := StateT (Names × List Token) (Except ReadError)

namespace NodeReader

def peek : NodeReader (Option Token) := do return (← get).2.head?

def skip : NodeReader Unit := modify fun (names, ts) => (names, ts.drop 1)

/-- Whether one of the given tokens is next. -/
def sees (expected : List Token) : NodeReader Bool := do
  match ← peek with
  | some t => return expected.contains t
  | none => return false

/-- Takes the next token if it is the given one. -/
def takes (t : Token) : NodeReader Bool := do
  if ← sees [t] then
    skip
    return true
  else return false

def unexpected {α : Type} : NodeReader α := do
  match ← peek with
  | some t => throw (.unexpectedToken t)
  | none => throw .missingToken

/-- Numbers an anchor. -/
def declareAnchor (name : String) : NodeReader Nat := do
  let (names, ts) ← get
  let n := names.anchors.length
  set ({ names with anchors := (name, n) :: names.anchors.filter (·.1 != name) }, ts)
  return n

/-- The number that an anchor has now. -/
def anchorNumber (name : String) : NodeReader Nat := do
  match (← get).1.anchors.lookup name with
  | some n => return n
  | none => throw (.unknownAnchor name)

/-- The whole tag, with the text that its handle stands for. -/
def resolveTag (name : TagName) : NodeReader String := do
  if name.handle.isEmpty then return name.suffix
  match (← get).1.handles.lookup name.handle with
  | some start => return start ++ name.suffix
  | none => throw (.unknownTagHandle name.handle)

/-- Reads an anchor and a tag, in either order. -/
def properties : NodeReader Properties := do
  match ← peek with
  | some (.anchor a) =>
    skip
    match ← peek with
    | some (.tag t) =>
      skip
      let tag ← resolveTag t
      return { anchor := some (← declareAnchor a), tag := some tag }
    | _ => return { anchor := some (← declareAnchor a) }
  | some (.tag t) =>
    skip
    let tag ← resolveTag t
    match ← peek with
    | some (.anchor a) =>
      skip
      return { anchor := some (← declareAnchor a), tag := some tag }
    | _ => return { tag := some tag }
  | _ => return {}

/-- Where a node stands: what kinds of collections it may be. -/
inductive Place where
  | flow
  | block
  /-- The key or value of a block table, where a block list need not be indented. -/
  | entry
deriving Repr, DecidableEq

/-- The tag that says that a scalar has none. -/
def noTag : String := "!"

mutual

/-- Reads a node. -/
def node (place : Place) : Nat → NodeReader Node
  | 0 => unexpected
  | fuel + 1 => do
    match ← peek with
    | some (.alias name) =>
      skip
      return .alias (← anchorNumber name)
    | _ =>
      let p ← properties
      if place == .entry && (← sees [.blockEntry]) then return .list p (← openItems fuel)
      match ← peek with
      | some (.scalar isPlain text) =>
        skip
        let p := if p.tag == some noTag then { p with tag := none } else p
        return .scalar p isPlain text
      | some .flowListStart =>
        skip
        return .list p (← flowItems true fuel)
      | some .flowTableStart =>
        skip
        return .table p (← flowEntries true fuel)
      | t =>
        if t == some .blockListStart && place != .flow then
          skip
          return .list p (← blockItems fuel)
        else if t == some .blockTableStart && place != .flow then
          skip
          return .table p (← blockEntries fuel)
        else if p.anchor.isSome || p.tag.isSome then return .scalar p true ""
        else unexpected

/-- Reads a node, unless a token that may follow it is next. -/
def nodeUnless (place : Place) (following : List Token) : Nat → NodeReader Node
  | 0 => unexpected
  | fuel + 1 => do
    if ← sees following then return .blank else node place fuel

/-- The items of a block list, to its end. -/
def blockItems : Nat → NodeReader (List Node)
  | 0 => unexpected
  | fuel + 1 => do
    if ← takes .blockEntry then
      let item ← nodeUnless .block [.blockEntry, .blockEnd] fuel
      return item :: (← blockItems fuel)
    else if ← takes .blockEnd then return []
    else unexpected

/-- The items of a block list that is not indented; it has no end of its own. -/
def openItems : Nat → NodeReader (List Node)
  | 0 => unexpected
  | fuel + 1 => do
    if ← takes .blockEntry then
      let item ← nodeUnless .block [.blockEntry, .key, .value, .blockEnd] fuel
      return item :: (← openItems fuel)
    else return []

/-- The entries of a block table, to its end. -/
def blockEntries : Nat → NodeReader (List (Node × Node))
  | 0 => unexpected
  | fuel + 1 => do
    let following := [Token.key, .value, .blockEnd]
    if ← takes .key then
      let key ← nodeUnless .entry following fuel
      let value ← if ← takes .value then nodeUnless .entry following fuel else pure .blank
      return (key, value) :: (← blockEntries fuel)
    else if ← takes .blockEnd then return []
    else unexpected

/-- The items of a flow list, to its end. A key starts a table of one entry; a key without text takes the token after
it. -/
def flowItems (isFirst : Bool) : Nat → NodeReader (List Node)
  | 0 => unexpected
  | fuel + 1 => do
    if ← takes .flowListEnd then return []
    if !isFirst && !(← takes .flowEntry) then unexpected
    else if ← takes .key then
      let key ← if ← sees [.value, .flowEntry, .flowListEnd] then do
          skip
          pure Node.blank
        else node .flow fuel
      let value ← if ← takes .value then nodeUnless .flow [.flowEntry, .flowListEnd] fuel else pure .blank
      return .table {} [(key, value)] :: (← flowItems false fuel)
    else if ← takes .flowListEnd then return []
    else
      let item ← node .flow fuel
      return item :: (← flowItems false fuel)

/-- The entries of a flow table, to its end. -/
def flowEntries (isFirst : Bool) : Nat → NodeReader (List (Node × Node))
  | 0 => unexpected
  | fuel + 1 => do
    if ← takes .flowTableEnd then return []
    if !isFirst && !(← takes .flowEntry) then unexpected
    else if ← takes .key then
      let key ← nodeUnless .flow [.value, .flowEntry, .flowTableEnd] fuel
      let value ← if ← takes .value then nodeUnless .flow [.flowEntry, .flowTableEnd] fuel else pure .blank
      return (key, value) :: (← flowEntries false fuel)
    else if ← takes .flowTableEnd then return []
    else
      let key ← node .flow fuel
      return (key, .blank) :: (← flowEntries false fuel)

end

/-- The handles that need not be declared. -/
def defaultHandles : List (String × String) := [("!", "!"), ("!!", "tag:yaml.org,2002:")]

/-- Reads directives; the version and each handle may be given once. -/
def directives (hasVersion : Bool) (handles : List (String × String)) : Nat → NodeReader Unit
  | 0 => unexpected
  | fuel + 1 => do
    match ← peek with
    | some (.versionDirective major minor) =>
      if hasVersion || major != 1 || !(minor == 1 || minor == 2) then throw .badDirective
      skip
      directives true handles fuel
    | some (.tagDirective handle start) =>
      if (handles.lookup handle).isSome then throw .badDirective
      skip
      directives hasVersion ((handle, start) :: handles) fuel
    | _ => modify fun (names, ts) => ({ names with handles := handles ++ defaultHandles }, ts)

def isDirective : Token → Bool
  | .versionDirective _ _ => true
  | .tagDirective _ _ => true
  | _ => false

/-- Reads the only document of a stream. -/
def document (fuel : Nat) : NodeReader Node := do
  let isExplicit ← do
    match ← peek with
    | some t => pure (isDirective t || t == .documentStart)
    | none => pure false
  directives false [] fuel
  if isExplicit && !(← takes .documentStart) then unexpected
  let root ← match ← peek with
    | none => pure Node.blank
    | some t =>
      if isExplicit && (isDirective t || t == .documentStart || t == .documentEnd) then pure Node.blank
      else node .block fuel
  modify fun (names, ts) => (names, ts.dropWhile (· == .documentEnd))
  if (← peek).isSome then throw .moreThanOneDocument
  return root

end NodeReader

/-- The node that a text with one document holds. -/
def parse (source : String) : Except ReadError Node := do
  let ts := (← tokens source).toList
  let (root, _) ← (NodeReader.document (4 * ts.length + 4)).run ({}, ts)
  return root

end Highlight.Yaml
