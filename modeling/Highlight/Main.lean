import Highlight.Command

/-!
# The program

Reads files from disk and prints the answer to a request.
-/

namespace Highlight

/-- The fault behind an error of the system. -/
def faultOf : IO.Error → FileFault
  | .inappropriateType _ 21 _ => .isDirectory
  | .inappropriateType _ 20 _ => .notDirectory
  | .otherError 20 _ => .notDirectory
  | .otherError 21 _ => .isDirectory
  | _ => .missing

/-- Reads a file from disk. -/
def readFromDisk : ReadFile IO := fun path => do
  try
    let content ← IO.FS.readBinFile path
    match String.fromUTF8? content with
    | some s => return .ok s
    | none => return .error .notText
  catch e => return .error (faultOf e)

end Highlight

open Highlight in
def main (arguments : List String) : IO UInt32 := do
  match Request.ofArguments arguments with
  | .error e =>
    IO.eprintln s!"error: {e.message}"
    return 2
  | .ok request => match ← request.answer readFromDisk with
    | .ok answer =>
      IO.print answer
      return 0
    | .error e =>
      IO.eprintln s!"Error: {e.message.full}"
      return 1
