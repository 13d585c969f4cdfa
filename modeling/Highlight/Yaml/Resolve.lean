import Highlight.Decimal
import Highlight.Grammar.Datum
import Highlight.Yaml.Node

/-!
# From nodes to data

A plain scalar without a tag is null, a truth value, a number or a text, depending on how it is written; a quoted one is
a text. Aliases are replaced by the nodes they stand for. Two limits keep that finite and small: how deep collections
may be nested, and how often an alias may be followed.
-/

namespace Highlight.Yaml

/-! ## Scalars -/

/-- Decimal digits with a leading zero, after an optional sign, are no number. -/
def isPaddedNumber (cs : List Char) : Bool :=
  let digits := (Decimal.readSign cs).2
  1 < digits.length && digits.head? == some '0' && digits.all Char.isDigit

/-- The number with the given digits in a base up to 16. -/
def digitsInBase? (base : Nat) (ds : List Char) : Option Nat :=
  if ds.isEmpty then none
  else ds.foldlM (fun n c => do
    let d ← hexDigit? c
    if d < base then some (base * n + d) else none) 0

/-- The integer without a sign that is written in decimal, or in another base after its mark. -/
def magnitude? (cs : List Char) : Option Nat :=
  let marked := match cs with
    | '0' :: 'x' :: ds => digitsInBase? 16 ds
    | '0' :: 'o' :: ds => digitsInBase? 8 ds
    | '0' :: 'b' :: ds => digitsInBase? 2 ds
    | _ => none
  marked.or (if isPaddedNumber cs then none else digitsInBase? 10 cs)

/-- An integer. One that does not fit in 64 bits is not told apart from other numbers, and one that does not fit in 128
bits is none. -/
def integer? (cs : List Char) : Option Datum :=
  match cs with
  | '-' :: ds => do
    let n ← magnitude? ds
    if n ≤ Nat.pow 2 63 then some (.negative n) else if n ≤ Nat.pow 2 127 then some .real else none
  | _ => do
    let n ← magnitude? (if cs.head? == some '+' then cs.drop 1 else cs)
    if n < Nat.pow 2 64 then some (.nat n) else if n < Nat.pow 2 128 then some .real else none

/-- Whether the text writes a number that is not an integer: infinite, none at all, or within the range of
floating-point numbers. -/
def isReal (cs : List Char) : Bool :=
  let unsigned := if cs.head? == some '+' then cs.drop 1 else cs
  let isDoubleSigned := cs.head? == some '+' && (unsigned.head? == some '+' || unsigned.head? == some '-')
  !isDoubleSigned && ([".inf", ".Inf", ".INF"].contains (String.ofList unsigned) ||
    ["-.inf", "-.Inf", "-.INF", ".nan", ".NaN", ".NAN"].contains (String.ofList cs) ||
    (Decimal.parse? unsigned).any fun d => d.toFloat.isFinite)

def isNull (s : String) : Bool := ["null", "Null", "NULL", "~"].contains s

def boolean? (s : String) : Option Bool :=
  if ["true", "True", "TRUE"].contains s then some true
  else if ["false", "False", "FALSE"].contains s then some false
  else none

/-- What a plain scalar stands for. -/
def plainDatum (s : String) : Datum :=
  let cs := s.toList
  if cs.isEmpty || isNull s then .null
  else match boolean? s, integer? cs with
    | some b, _ => .bool b
    | none, some n => n
    | none, none => if !isPaddedNumber cs && isReal cs then .real else .text s

/-- The tag of the standard types with the given name. -/
def standardTag (name : String) : String := "tag:yaml.org,2002:" ++ name

/-- Whether a tag is one of the document's own. Such a node has no meaning as data. -/
def isLocalTag (tag : String) : Bool :=
  tag.toList.head? == some '!' &&
    (String.fromUTF8? (ByteArray.mk (tag.toList.map fun c => c.toNat.toUInt8).toArray)).isSome

/-- What a scalar stands for. The tag of a standard type demands that the text writes a value of it. -/
def scalarDatum? (tag : Option String) (isPlain : Bool) (s : String) : Option Datum :=
  match tag with
  | none => some (if isPlain then plainDatum s else .text s)
  | some tag =>
    if isLocalTag tag then none
    else if tag == standardTag "bool" then (boolean? s).map .bool
    else if tag == standardTag "int" then integer? s.toList
    else if tag == standardTag "float" then if isReal s.toList then some .real else none
    else if tag == standardTag "null" then if isNull s then some .null else none
    else some (if isPlain && tag.toList.head? == some '!' then plainDatum s else .text s)

/-! ## Nodes -/

mutual

/-- The nodes with anchors, in the order in which they start. -/
def Node.anchored (n : Node) : List (Nat × Node) :=
  match n with
  | .alias _ => []
  | .scalar p _ _ => (p.anchor.map fun a => (a, n)).toList
  | .list p items => (p.anchor.map fun a => (a, n)).toList ++ anchoredItems items
  | .table p entries => (p.anchor.map fun a => (a, n)).toList ++ anchoredEntries entries

def anchoredItems : List Node → List (Nat × Node)
  | [] => []
  | n :: ns => n.anchored ++ anchoredItems ns

def anchoredEntries : List (Node × Node) → List (Nat × Node)
  | [] => []
  | (k, v) :: es => k.anchored ++ (v.anchored ++ anchoredEntries es)

end

mutual

/-- The size of a node: one for a scalar or an alias, two more than its parts for a collection. -/
def Node.weight : Node → Nat
  | .alias _ => 1
  | .scalar _ _ _ => 1
  | .list _ items => 2 + weightItems items
  | .table _ entries => 2 + weightEntries entries

def weightItems : List Node → Nat
  | [] => 0
  | n :: ns => n.weight + weightItems ns

def weightEntries : List (Node × Node) → Nat
  | [] => 0
  | (k, v) :: es => k.weight + (v.weight + weightEntries es)

end

/-- A document: its node, and the nodes that aliases stand for. -/
structure Document where
  root : Node
  targets : List (Nat × Node)

/-- Of two nodes with the same number, aliases stand for the one that starts later. -/
def Document.ofNode (root : Node) : Document := { root, targets := root.anchored.reverse }

/-- Reads a part of a document, counting down how often an alias may still be followed. -/
abbrev DocumentReader := ReaderT Document (StateT Nat Option)

/-- How deep collections may be nested. -/
def maxDepth : Nat := 128

namespace DocumentReader

/-- The node itself, or the one that the alias stands for. -/
def follow : Node → DocumentReader Node
  | .alias a => do
    match ← get, (← read).targets.lookup a with
    | jumps + 1, some target =>
      set jumps
      return target
    | _, _ => failure
  | n => return n

/-- The text of a scalar, whatever it stands for. -/
def text (n : Node) : DocumentReader String := do
  match ← follow n with
  | .scalar _ _ s => return s
  | _ => failure

/-- The items of a list; a value that is not written has none. -/
def items (n : Node) : DocumentReader (List Node) := do
  match ← follow n with
  | .list _ ns => return ns
  | .scalar _ true "" => return []
  | _ => failure

/-- The entries of a table; a value that is not written has none. -/
def entries (n : Node) : DocumentReader (List (Node × Node)) := do
  match ← follow n with
  | .table _ es => return es
  | .scalar _ true "" => return []
  | _ => failure

/-- A collection with a tag of its own document has no meaning as data. -/
def checkTag (p : Properties) : DocumentReader Unit :=
  if p.tag.any isLocalTag then failure else return ()

/-- The data that a node writes, with at most the given number of levels. -/
def datum : Nat → Node → DocumentReader Datum
  | depth, n => do
    match ← follow n with
    | .alias _ => failure
    | .scalar p isPlain s => match scalarDatum? p.tag isPlain s with
      | some d => return d
      | none => failure
    | .list p ns =>
      checkTag p
      match depth with
      | 0 => failure
      | depth + 1 => return .list (← ns.mapM (datum depth))
    | .table p es =>
      checkTag p
      match depth with
      | 0 => failure
      | depth + 1 => return .table (← es.mapM fun e => do return (← datum depth e.1, ← datum depth e.2))

/-- Reads a document from its node. -/
def run {α : Type} (r : Node → DocumentReader α) (root : Node) : Option α :=
  ((ReaderT.run (r root) (Document.ofNode root)).run (100 * root.weight)).map (·.1)

end DocumentReader

end Highlight.Yaml
