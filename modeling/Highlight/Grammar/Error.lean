import Highlight.Message
import Highlight.Pattern.Reader

/-!
# Faults of a grammar definition

Building a grammar is all or nothing: the first fault is reported and no grammar is made.
-/

namespace Highlight

/-- Why a pattern cannot be used. -/
inductive PatternFault where
  | unreadable (error : Pattern.SyntaxError)
  | missingGroup (group available : Nat)
deriving Repr, DecidableEq, Inhabited

/-- Why a definition is no grammar. -/
inductive GrammarError where
  | unresolvedReference (referrer name : String)
  | emptyPattern (ruleSet pattern : String)
  | invalidPattern (ruleSet pattern : String) (fault : PatternFault)
deriving Repr, DecidableEq, Inhabited

namespace GrammarError

/-- The rule set in which the fault was found. -/
def ruleSet : GrammarError → String
  | unresolvedReference referrer _ => referrer
  | emptyPattern set _ | invalidPattern set _ _ => set

def message : GrammarError → Message
  | unresolvedReference referrer name => { text := s!"rule set `{referrer}` references undefined rule set `{name}`" }
  | emptyPattern set pattern => { text := s!"pattern `{pattern}` in rule set `{set}` can match an empty string" }
  | invalidPattern set pattern (.unreadable error) =>
    { text := s!"invalid pattern `{pattern}` in rule set `{set}`: ", detail := some error.message }
  | invalidPattern set pattern (.missingGroup group available) =>
    { text := s!"invalid pattern `{pattern}` in rule set `{set}`: " ++
        s!"capture group {group} does not exist (pattern has {available})" }

end GrammarError

end Highlight
