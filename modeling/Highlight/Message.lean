/-!
# Messages

What is said about an error. Errors found while reading some notation (a pattern, YAML, JSON, settings) end in a detail
in the words of that reader; the part before it says what was being read.
-/

namespace Highlight

/-- The text of an error, and the detail that follows it. -/
structure Message where
  text : String
  detail : Option String := none
deriving Repr, DecidableEq, Inhabited

namespace Message

/-- The whole message. -/
def full (m : Message) : String := m.text ++ m.detail.getD ""

/-- The message after an introduction. -/
def after (m : Message) (introduction : String) : Message := { m with text := introduction ++ m.text }

end Message

end Highlight
