import Highlight.Settings.KeyPath

/-!
# Merging settings

A value is merged into a table under a name: a table is merged entry by entry into the one that is there, and anything
else replaces it. The names of entries do not depend on case, and are kept in lower case; what is inside of a list is
kept as it was written.
-/

namespace Highlight

/-- Sets the value of a key, at its place if it has one. -/
def putEntry (key : String) (v : Setting) : List (String × Setting) → List (String × Setting)
  | [] => [(key, v)]
  | (k, old) :: es => if k == key then (k, v) :: es else (k, old) :: putEntry key v es

namespace Setting

/-- The form of a name that does not depend on case. -/
def keyOf (name : String) : String := Unicode.lowercaseString name

mutual

/-- Merges a value into a table under a name. What is not a table becomes one. -/
def merge (name : String) (target : Setting) : Setting → Setting
  | table incoming =>
    let key := keyOf name
    let inner := (target.entries.lookup key).getD (table [])
    table (putEntry key (mergeAll inner incoming) target.entries)
  | nil => table (putEntry (keyOf name) nil target.entries)
  | bool b => table (putEntry (keyOf name) (bool b) target.entries)
  | int n => table (putEntry (keyOf name) (int n) target.entries)
  | real x => table (putEntry (keyOf name) (real x) target.entries)
  | text s => table (putEntry (keyOf name) (text s) target.entries)
  | list vs => table (putEntry (keyOf name) (list vs) target.entries)

/-- Merges entries into a value one after the other. Without entries it stays what it is. -/
def mergeAll (target : Setting) : List (String × Setting) → Setting
  | [] => target
  | (name, v) :: es => mergeAll (merge name target v) es

end

/-- Lists are shorter than this. -/
def lengthBound : Nat := Nat.pow 2 56

/-- The place in a list of the given length that an index means. -/
def place (index : Int) (length : Nat) : Except SettingsError Nat :=
  if 0 ≤ index then if index.toNat < lengthBound then .ok index.toNat else .error (.noSuchIndex index)
  else if index.natAbs ≤ length then .ok (length - index.natAbs)
  else .error (.noSuchIndex index)

/-- The items of a list, with empty ones added up to a place. -/
def extended (v : Setting) (place : Nat) : List Setting :=
  v.items ++ List.replicate (place + 1 - v.items.length) nil

/-- Sets the value at the end of some steps, making tables and lists on the way. An entry is merged, an item
replaced. -/
def setAt (value : Setting) : List KeyStep → Setting → Except SettingsError Setting
  | [], _ => .ok value
  | [.entry name], target => .ok (merge name target value)
  | .entry name :: steps, target => do
    let key := keyOf name
    let inner ← setAt value steps ((target.entries.lookup key).getD nil)
    return table (putEntry key inner target.entries)
  | .item index :: steps, target => do
    let i ← place index target.items.length
    let items := target.extended i
    let inner ← setAt value steps ((items[i]?).getD nil)
    return list (items.set i inner)

/-- Sets the value at a path. -/
def set (target : Setting) (path : KeyPath) (value : Setting) : Except SettingsError Setting :=
  setAt value (.entry path.name :: path.steps) target

/-- Merges a layer of named values. A name that is a path means the place it leads to. -/
def mergeLayer (target : Setting) (layer : List (String × Setting)) : Except SettingsError Setting :=
  layer.foldlM (fun target (name, v) =>
    match KeyPath.ofString? name with
    | some path => target.set path v
    | none => .ok (merge name target v)) target

end Setting

end Highlight
