/-!
# Tokens of YAML

The tokens between the characters of a YAML text and its nodes. The structure that indentation expresses appears as
tokens of its own: a block opens before its first entry and closes where the indentation falls back.
-/

namespace Highlight.Yaml

/-- A tag as written: the handle, if any, stands for the start of the tag. -/
structure TagName where
  handle : String
  suffix : String
deriving Repr, DecidableEq, Inhabited

inductive Token where
  | versionDirective (major minor : Nat)
  | tagDirective (handle start : String)
  | documentStart
  | documentEnd
  | blockListStart
  | blockTableStart
  | blockEnd
  | flowListStart
  | flowListEnd
  | flowTableStart
  | flowTableEnd
  | blockEntry
  | flowEntry
  | key
  | value
  | alias (name : String)
  | anchor (name : String)
  | tag (name : TagName)
  | scalar (isPlain : Bool) (text : String)
deriving Repr, DecidableEq, Inhabited

/-- Why a text is no YAML document. -/
inductive ReadError where
  /-- A character that no text may hold, or that starts no token. -/
  | unexpectedCharacter (c : Char)
  | unexpectedEnd
  /-- A tab among the blanks that indent a line. -/
  | tabIndentation
  /-- A list entry, a key or a value where none may start. -/
  | misplacedEntry
  | keyWithoutValue
  | documentMarkInScalar
  | badEscape
  | badBlockHeader
  | badDirective
  | badAnchor
  | badTag
  | unknownTagHandle (handle : String)
  | unknownAnchor (name : String)
  | unexpectedToken (t : Token)
  | missingToken
  | moreThanOneDocument
deriving Repr, DecidableEq, Inhabited

def ReadError.message : ReadError → String
  | unexpectedCharacter c => s!"the character {c} is not expected"
  | unexpectedEnd => "the text ends inside a scalar"
  | tabIndentation => "a tab stands where blanks indent a line"
  | misplacedEntry => "an entry starts where none may start"
  | keyWithoutValue => "a key has no value"
  | documentMarkInScalar => "a document ends inside a scalar"
  | badEscape => "a scalar holds an unknown escape"
  | badBlockHeader => "the first line of a block scalar is not valid"
  | badDirective => "a directive is not valid"
  | badAnchor => "an anchor is not valid"
  | badTag => "a tag is not valid"
  | unknownTagHandle handle => s!"the tag handle {handle} is not declared"
  | unknownAnchor name => s!"the anchor {name} is not declared"
  | unexpectedToken _ => "the nodes are not nested properly"
  | missingToken => "the document is not complete"
  | moreThanOneDocument => "there is more than one document"

end Highlight.Yaml
