import Highlight.Toml.Basic

/-!
# Documents under construction

The tables of a document are filled by headers and by dotted keys in any order, and how a table came to be decides what
may be added to it. A table that a header names is complete once; one that only a longer header implies may still be
named; one that dotted keys made is open to dotted keys only.
-/

namespace Highlight.Toml

/-- How a table came to be. -/
inductive TableOrigin where
  | header
  | implied
  | dotted
deriving Repr, DecidableEq, Inhabited

/-- What a key stands for while a document is read. -/
inductive Item where
  | value (v : Toml)
  | table (origin : TableOrigin) (entries : List (String × Item))
  /-- A list of tables, each with a header of its own, last to first. -/
  | tables (last : List (String × Item)) (before : List (List (String × Item)))
deriving Inhabited

/-- The entries of a table under construction. -/
abbrev Entries := List (String × Item)

/-- Sets the value of a key, at its place if it has one. -/
def setEntry (key : String) (item : Item) : Entries → Entries
  | [] => [(key, item)]
  | (k, i) :: es => if k == key then (k, item) :: es else (k, i) :: setEntry key item es

/-- Changes the table that a path of headers leads to; tables on the way that are missing are implied. -/
def changeTable (change : Entries → Except ReadError Entries) : List String → Entries → Except ReadError Entries
  | [], es => change es
  | key :: path, es => do
    match es.lookup key with
    | none => return setEntry key (.table .implied (← changeTable change path [])) es
    | some (.table origin inner) => return setEntry key (.table origin (← changeTable change path inner)) es
    | some (.tables last before) => return setEntry key (.tables (← changeTable change path last) before) es
    | some (.value _) => throw (.notTable key)

/-- Starts the table of a header. -/
def startTable (key : String) (es : Entries) : Except ReadError Entries :=
  match es.lookup key with
  | none => .ok (setEntry key (.table .header []) es)
  | some (.table .implied inner) => .ok (setEntry key (.table .header inner) es)
  | some _ => .error (.duplicateKey key)

/-- Starts the next table in a list of tables. -/
def startListTable (key : String) (es : Entries) : Except ReadError Entries :=
  match es.lookup key with
  | none => .ok (setEntry key (.tables [] []) es)
  | some (.tables last before) => .ok (setEntry key (.tables [] (last :: before)) es)
  | some _ => .error (.duplicateKey key)

/-- Adds the value of a dotted key. -/
def addValue (key : String) (v : Toml) : List String → Entries → Except ReadError Entries
  | [], es => if (es.lookup key).isSome then .error (.duplicateKey key) else .ok (setEntry key (.value v) es)
  | part :: path, es => do
    match es.lookup part with
    | none => return setEntry part (.table .dotted (← addValue key v path [])) es
    | some (.table origin inner) =>
      if origin == .header || (path.isEmpty && origin != .dotted) then throw (.duplicateKey part)
      return setEntry part (.table origin (← addValue key v path inner)) es
    | some (.tables last before) =>
      if path.isEmpty then throw (.duplicateKey part)
      return setEntry part (.tables (← addValue key v path last) before) es
    | some (.value _) => throw (.notTable part)

mutual

/-- The finished value of an item. -/
def Item.finish : Item → Toml
  | .value v => v
  | .table _ es => .table (finishEntries es)
  | .tables last before => .array (finishTables before [.table (finishEntries last)])

def finishEntries : List (String × Item) → List (String × Toml)
  | [] => []
  | (key, item) :: es => (key, item.finish) :: finishEntries es

def finishTables : List (List (String × Item)) → List Toml → List Toml
  | [], done => done
  | es :: before, done => finishTables before (.table (finishEntries es) :: done)

end

end Highlight.Toml
