import Highlight.Unicode.Property

/-!
# Quoted text

Text in double quotes, on one line and in visible characters: quotes, backslashes and the common controls are written
with a backslash, and what leaves no mark of its own, or sits on the character before it, by its number.
-/

namespace Highlight

/-- Lower-case hexadecimal digits of a number. -/
def hexDigits (n : Nat) : List Char := Nat.toDigits 16 n

/-- Characters that are written by their number: those that are not printable, and those that extend the one before. -/
def Unicode.hidden : CharSet := Unicode.printable.compl.union Unicode.graphemeExtend

/-- How one character is written inside quotes. -/
def quoteChar (c : Char) : List Char :=
  if c == '"' then ['\\', '"']
  else if c == '\\' then ['\\', '\\']
  else if c == '\n' then ['\\', 'n']
  else if c == '\r' then ['\\', 'r']
  else if c == '\t' then ['\\', 't']
  else if c == '\x00' then ['\\', '0']
  else if Unicode.hidden.contains c then ['\\', 'u', '\x7b'] ++ hexDigits c.toNat ++ ['\x7d']
  else [c]

/-- The text in quotes. -/
def quote (cs : List Char) : List Char :=
  '"' :: (cs.flatMap quoteChar ++ ['"'])

def quoteString (s : String) : String := String.ofList (quote s.toList)

end Highlight
