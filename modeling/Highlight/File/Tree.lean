import Highlight.File.Path

/-!
# Files

Files are read through a function from paths to their text, in whatever monad the files are found. `FileTree` holds
files in memory, and `FileTree.read` is such a function.
-/

namespace Highlight

/-- Why a file cannot be read. -/
inductive FileFault where
  | missing
  | isDirectory
  /-- A part of the path that is not the last one is a file. -/
  | notDirectory
  /-- The content is no text. -/
  | notText
  /-- The path holds a character that no path may hold. -/
  | badName
deriving Repr, DecidableEq, Inhabited

def FileFault.reason : FileFault → String
  | missing => "No such file or directory (os error 2)"
  | isDirectory => "Is a directory (os error 21)"
  | notDirectory => "Not a directory (os error 20)"
  | notText => "stream did not contain valid UTF-8"
  | badName => "file name contained an unexpected NUL byte"

/-- Reads the text of a file. -/
abbrev ReadFile (m : Type → Type) := String → m (Except FileFault String)

/-- Files and directories in memory. -/
inductive FileTree where
  | file (content : ByteArray)
  | directory (entries : List (String × FileTree))
deriving Inhabited

namespace FileTree

def empty : FileTree := directory []

/-- Sets what a name stands for, at its place if it has one. -/
def putChild (name : String) (child : FileTree) : List (String × FileTree) → List (String × FileTree)
  | [] => [(name, child)]
  | (n, c) :: es => if n == name then (n, child) :: es else (n, c) :: putChild name child es

/-- Puts something at the end of a path of names, making directories on the way. -/
def insert (item : FileTree) : List String → FileTree → FileTree
  | [], file content => file content
  | [], directory es => match item with
    | directory _ => directory es
    | file content => file content
  | name :: names, tree =>
    let es := match tree with
      | directory es => es
      | file _ => []
    let child := match es.lookup name, names with
      | some child, _ => insert item names child
      | none, [] => item
      | none, _ => insert item names empty
    directory (putChild name child es)

/-- The tree with the given files and directories, by their paths. -/
def ofFiles (files : List (String × FileTree)) : FileTree :=
  files.foldl (fun tree (path, item) => insert item ((FilePath.parts path).filter fun p => p != "" && p != ".") tree)
    empty

/-- Follows the parts of a path from a place; `above` are the directories around it, innermost first. -/
def follow (above : List FileTree) : List String → FileTree → Except FileFault FileTree
  | [], tree => .ok tree
  | part :: parts, tree =>
    match tree with
    | file _ => .error .notDirectory
    | directory es =>
      if part == "" || part == "." then follow above parts tree
      else if part == ".." then match above with
        | parent :: above => follow above parts parent
        | [] => .error .missing
      else match es.lookup part with
        | some child => follow (tree :: above) parts child
        | none => .error .missing

/-- Reads the file at a path that starts at the top of the tree. -/
def read (tree : FileTree) (path : String) : Except FileFault String :=
  if path.toList.contains '\x00' then .error .badName
  else if path.isEmpty then .error .missing
  else if path.toList.head? == some '/' then
    if path.toList.all (· == '/') then .error .isDirectory else .error .missing
  else match follow [] (FilePath.parts path) tree with
    | .error fault => .error fault
    | .ok (directory _) => .error .isDirectory
    | .ok (file content) => match String.fromUTF8? content with
      | some s => .ok s
      | none => .error .notText

end FileTree

end Highlight
