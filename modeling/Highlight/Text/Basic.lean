/-!
# Text

A `Text` is a string laid out for random access: its characters in an array, with the byte offset at which each one
starts in the UTF-8 form. Positions inside the library count characters; the offsets that tokens show count bytes, and
`Text.offset` leads from one to the other.
-/

namespace Highlight

/-- A space or a tab. -/
def isBlank (c : Char) : Bool := c == ' ' || c == '\t'

/-- The byte offsets at which the characters start, from `n` on, and the offset after the last one. -/
def byteOffsets (n : Nat) : List Char → List Nat
  | [] => [n]
  | c :: cs => n :: byteOffsets (n + c.utf8Size) cs

/-- A string with its characters and their byte offsets in arrays. -/
structure Text where
  chars : Array Char
  starts : Array Nat
  /-- The offsets are those of the characters. -/
  starts_eq : starts = (byteOffsets 0 chars.toList).toArray

namespace Text

def ofList (cs : List Char) : Text :=
  { chars := cs.toArray, starts := (byteOffsets 0 cs).toArray, starts_eq := by simp }

def ofString (s : String) : Text := ofList s.toList

/-- How many characters the text has. -/
def length (t : Text) : Nat := t.chars.size

/-- The byte offset of the character at a position; past the last character, the byte length of the text. -/
def offset (t : Text) (pos : Nat) : Nat :=
  (t.starts[pos]?).getD ((t.starts[t.chars.size]?).getD 0)

/-- The character at a position. -/
def get? (t : Text) (pos : Nat) : Option Char := t.chars[pos]?

/-- The character in front of a position. -/
def before? (t : Text) (pos : Nat) : Option Char :=
  if pos = 0 then none else t.chars[pos - 1]?

end Text

/-- What remains after `n` bytes, if they end where a character ends. -/
def dropBytes? : Nat → List Char → Option (List Char)
  | 0, cs => some cs
  | _ + 1, [] => none
  | n + 1, c :: cs => if c.utf8Size ≤ n + 1 then dropBytes? (n + 1 - c.utf8Size) cs else none

/-- The first `n` bytes, if they end where a character ends. -/
def takeBytes? : Nat → List Char → Option (List Char)
  | 0, _ => some []
  | _ + 1, [] => none
  | n + 1, c :: cs =>
    if c.utf8Size ≤ n + 1 then (takeBytes? (n + 1 - c.utf8Size) cs).map (c :: ·) else none

/-- The bytes from `start` to `stop`, if both are places between characters of the text. -/
def byteSlice? (cs : List Char) (start stop : Nat) : Option (List Char) :=
  if start ≤ stop then (dropBytes? start cs).bind (takeBytes? (stop - start)) else none

end Highlight
