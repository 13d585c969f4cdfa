import Highlight.Token

/-!
# Checks on token streams

Primary tokens should partition the text, and captures should lie inside the primary token before them. Each check
reports the first token that breaks the rule.
-/

namespace Highlight

/-- How a stream of tokens breaks a rule. -/
inductive StreamFault where
  | startsAt (token : Token) (expected : Nat)
  | empty (token : Token)
  | endsAt (stop expected : Nat)
  | escapes (capture parent : Token)
  | orphan (capture : Token)
deriving Repr, DecidableEq, Inhabited

def StreamFault.message : StreamFault → String
  | startsAt t expected => s!"token {t.describe} starts at {t.start}, expected {expected}"
  | empty t => s!"empty primary token {t.describe}"
  | endsAt stop expected => s!"primary tokens end at {stop}, source length is {expected}"
  | escapes t parent => s!"capture {t.describe} escapes its parent {parent.describe}"
  | orphan t => s!"capture {t.describe} has no parent"

/-- The tokens that are no captures. -/
def primaryTokens (tokens : List Token) : List Token := tokens.filter Token.isPrimary

/-- Checks that tokens follow one another without gaps, none of them empty, from `start` to `length`. -/
def checkAdjacent (length : Nat) : Nat → List Token → Option StreamFault
  | start, [] => if start = length then none else some (.endsAt start length)
  | start, t :: ts =>
    if t.start ≠ start then some (.startsAt t start)
    else if t.isEmpty then some (.empty t)
    else checkAdjacent length t.stop ts

/-- Checks that the primary tokens partition a text of the given length. -/
def checkPartition (tokens : List Token) (length : Nat) : Option StreamFault :=
  checkAdjacent length 0 (primaryTokens tokens)

/-- Checks that captures lie inside the primary token before them, which is `parent` at the start. -/
def checkInside : Option Token → List Token → Option StreamFault
  | _, [] => none
  | parent, t :: ts =>
    if t.isPrimary then checkInside (some t) ts
    else match parent with
      | some p => if p.start ≤ t.start ∧ t.stop ≤ p.stop then checkInside parent ts else some (.escapes t p)
      | none => some (.orphan t)

def checkCaptures (tokens : List Token) : Option StreamFault := checkInside none tokens

end Highlight
