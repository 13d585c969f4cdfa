/-!
# Paths

A path is a text whose parts are divided by slashes. Empty parts and single dots do not count; the last part that counts
is the name of the file, unless it is two dots.
-/

namespace Highlight.FilePath

/-- The parts of a text between slashes, last to first in `parts`, with the characters of the last part in `part`. -/
def splitAux (parts : List (List Char)) (part : List Char) : List Char → List (List Char)
  | [] => part.reverse :: parts
  | c :: cs => if c == '/' then splitAux (part.reverse :: parts) [] cs else splitAux parts (c :: part) cs

/-- The parts of a path, last to first. -/
def reversedParts (path : String) : List (List Char) := splitAux [] [] path.toList

/-- The parts of a path, first to last. -/
def parts (path : String) : List String := (reversedParts path).reverse.map String.ofList

def isSkipped (part : List Char) : Bool := part.isEmpty || part == ['.']

/-- The name of the file that a path leads to. -/
def fileName? (path : String) : Option (List Char) :=
  match (reversedParts path).dropWhile isSkipped with
  | [] => none
  | name :: _ => if name == ['.', '.'] then none else some name

/-- The name up to its last dot, and what follows the dot. A dot at the start does not count. -/
def splitName (name : List Char) : List Char × Option (List Char) :=
  let (extension, before) := name.reverse.span (· != '.')
  match before with
  | [] => (name, none)
  | [_] => (name, none)
  | _ :: stem => (stem.reverse, some extension.reverse)

/-- The extension of the file that a path leads to. -/
def extension? (path : String) : Option String :=
  ((fileName? path).bind fun name => (splitName name).2).map String.ofList

/-- The name of the file that a path leads to, without its extension. -/
def stem? (path : String) : Option String :=
  (fileName? path).map fun name => String.ofList (splitName name).1

/-- The path with something added to the name of the file. -/
def withSuffix? (path suffix : String) : Option String :=
  match (reversedParts path).dropWhile isSkipped with
  | [] => none
  | name :: before =>
    if name == ['.', '.'] then none
    else some ("/".intercalate ((name :: before).reverse.map String.ofList) ++ suffix)

end Highlight.FilePath
