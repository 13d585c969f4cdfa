import Highlight.Unicode.AgeTable
import Highlight.Unicode.BinaryTable
import Highlight.Unicode.BreakTable
import Highlight.Unicode.CategoryTable
import Highlight.Unicode.CharSet
import Highlight.Unicode.ScriptExtensionTable
import Highlight.Unicode.ScriptTable
import Highlight.Unicode.WordTable

/-!
# Character properties by name

`Unicode.property?` finds the set of characters that a property name stands for, such as `Letter`, `Greek` or
`White_Space`, and `Unicode.propertyValue?` the set for a property with a value, such as `Script=Greek`. Names are
compared loosely: case, blanks, underscores, hyphens and a leading `is` do not count.
-/

namespace Highlight.Unicode

/-- The words of a text, which single blanks separate. -/
def words (s : String) : List String := (s.toList.splitOn ' ').map String.ofList

/-- The set in the row of a table that has the given name among its names. -/
def tableRow? (table : List (String × List String)) (name : String) : Option CharSet :=
  (table.find? fun row => (words row.1).contains name).map fun row => CharSet.ofLines row.2

/-- The characters of one two-letter general category. -/
def category (code : String) : CharSet :=
  (tableRow? categoryTable code).getD CharSet.empty

/-- The characters of any of the two-letter general categories. -/
def categories (codes : List String) : CharSet :=
  CharSet.unions (codes.map category)

/-- The characters of a listed binary property. -/
def listed (name : String) : CharSet :=
  (tableRow? binaryTable name).getD CharSet.empty

/-- The characters that are assigned at all. -/
def assigned : CharSet :=
  CharSet.unions (categoryTable.map fun row => CharSet.ofLines row.2)

def lowercase : CharSet := (category "Ll").union (listed "otherlowercase")

def uppercase : CharSet := (category "Lu").union (listed "otheruppercase")

def alphabetic : CharSet :=
  CharSet.unions [lowercase, uppercase, categories ["Lt", "Lm", "Lo", "Nl"], listed "otheralphabetic"]

def graphemeExtend : CharSet := (categories ["Me", "Mn"]).union (listed "othergraphemeextend")

/-- Characters that no identifier may hold, whatever their category. -/
def patternReserved : CharSet := (listed "patternsyntax").union (listed "patternwhitespace")

def idStart : CharSet :=
  (CharSet.unions [categories ["Lu", "Ll", "Lt", "Lm", "Lo", "Nl"], listed "otheridstart"]).diff patternReserved

def idContinue : CharSet :=
  (CharSet.unions [idStart, categories ["Mn", "Mc", "Nd", "Pc"], listed "otheridcontinue"]).diff patternReserved

/-- Identifier characters whose compatibility forms could not start an identifier. -/
def unstableStart : CharSet :=
  CharSet.ofTable "37a e33 eb3 309b-309c fc5e-fc63 fdfa-fdfb fe70 fe72 fe74 fe76 fe78 fe7a fe7c fe7e ff9e-ff9f"

/-- Identifier characters whose compatibility forms could not continue an identifier. -/
def unstableContinue : CharSet :=
  CharSet.ofTable "37a 309b-309c fc5e-fc63 fdfa-fdfb fe70 fe72 fe74 fe76 fe78 fe7a fe7c fe7e"

/-- Punctuation that may stand inside a word without ending it. -/
def midWord : CharSet :=
  CharSet.ofTable "27 2e 3a b7 387 55f 5f4 2018-2019 2024 2027 fe13 fe52 fe55 ff07 ff0e ff1a"

/-- The binary properties that follow from others, by their names. -/
def derived? (name : String) : Option CharSet :=
  if ["lowercase", "lower"].contains name then some lowercase
  else if ["uppercase", "upper"].contains name then some uppercase
  else if ["alphabetic", "alpha"].contains name then some alphabetic
  else if name == "cased" then some (CharSet.unions [lowercase, uppercase, category "Lt"])
  else if ["caseignorable", "ci"].contains name then
    some ((categories ["Mn", "Me", "Cf", "Lm", "Sk"]).union midWord)
  else if ["changeswhencasemapped", "cwcm"].contains name then
    some (CharSet.unions [listed "cwl", listed "cwu", listed "cwt"])
  else if name == "math" then some ((category "Sm").union (listed "othermath"))
  else if ["graphemeextend", "grext"].contains name then some graphemeExtend
  else if ["graphemebase", "grbase"].contains name then
    some ((assigned.diff (categories ["Cc", "Cf", "Co", "Zl", "Zp"])).diff graphemeExtend)
  else if ["idstart", "ids"].contains name then some idStart
  else if ["idcontinue", "idc"].contains name then some idContinue
  else if ["xidstart", "xids"].contains name then some (idStart.diff unstableStart)
  else if ["xidcontinue", "xidc"].contains name then some (idContinue.diff unstableContinue)
  else none

/-- The characters of a binary property. -/
def binary? (name : String) : Option CharSet :=
  (derived? name).or (tableRow? binaryTable name)

/-- The names of general categories and of their unions, with the two-letter categories they cover. -/
def categoryNames : List (String × List String) := [
  ("lu uppercaseletter", ["Lu"]), ("ll lowercaseletter", ["Ll"]), ("lt titlecaseletter", ["Lt"]),
  ("lm modifierletter", ["Lm"]), ("lo otherletter", ["Lo"]), ("mn nonspacingmark", ["Mn"]), ("mc spacingmark", ["Mc"]),
  ("me enclosingmark", ["Me"]), ("nd decimalnumber digit", ["Nd"]), ("nl letternumber", ["Nl"]),
  ("no othernumber", ["No"]), ("pc connectorpunctuation", ["Pc"]), ("pd dashpunctuation", ["Pd"]),
  ("ps openpunctuation", ["Ps"]), ("pe closepunctuation", ["Pe"]), ("pi initialpunctuation", ["Pi"]),
  ("pf finalpunctuation", ["Pf"]), ("po otherpunctuation", ["Po"]), ("sm mathsymbol", ["Sm"]),
  ("sc currencysymbol", ["Sc"]), ("sk modifiersymbol", ["Sk"]), ("so othersymbol", ["So"]),
  ("zs spaceseparator", ["Zs"]), ("zl lineseparator", ["Zl"]), ("zp paragraphseparator", ["Zp"]),
  ("cc control cntrl", ["Cc"]), ("cf format", ["Cf"]), ("co privateuse", ["Co"]),
  ("lc casedletter", ["Lu", "Ll", "Lt"]), ("l letter", ["Lu", "Ll", "Lt", "Lm", "Lo"]),
  ("m mark combiningmark", ["Mn", "Mc", "Me"]), ("n number", ["Nd", "Nl", "No"]),
  ("p punctuation punct", ["Pc", "Pd", "Ps", "Pe", "Pi", "Pf", "Po"]), ("s symbol", ["Sm", "Sc", "Sk", "So"]),
  ("z separator", ["Zs", "Zl", "Zp"])]

/-- The characters of a general category, or of a union of categories, by its name. -/
def categoryByName? (name : String) : Option CharSet :=
  if name == "any" then some CharSet.full
  else if name == "assigned" then some assigned
  else if name == "ascii" then some (CharSet.ofRange 0 0x7f)
  else if ["cn", "unassigned"].contains name then some assigned.compl
  else if ["c", "other"].contains name then
    some ((assigned.diff (categories ["Cc", "Cf", "Co"])).compl)
  else (categoryNames.find? fun row => (words row.1).contains name).map fun row => categories row.2

/-- The characters of a script. -/
def script? (name : String) : Option CharSet :=
  tableRow? scriptTable name

/-- The short name of a script that is known by the given name. -/
def scriptCode? (name : String) : Option String :=
  (scriptTable.find? fun row => (words row.1).contains name).bind fun row => (words row.1).head?

/-- The characters used with a script: its own, less those shared by an explicit list, and the lists that name it. -/
def scriptExtension? (name : String) : Option CharSet :=
  match script? name, scriptCode? name with
  | some own, some code =>
    let shared := CharSet.unions (scriptExtensionTable.map fun row => CharSet.ofLines row.2)
    let named := scriptExtensionTable.filter fun row => (words row.1).contains code
    some ((own.diff shared).union (CharSet.unions (named.map fun row => CharSet.ofLines row.2)))
  | _, _ => none

/-- The characters assigned in the named version or before. -/
def age? (name : String) : Option CharSet :=
  let upTo := ageTable.span fun row => !(words row.1).contains name
  match upTo.2 with
  | [] => none
  | row :: _ => some (CharSet.unions ((row :: upTo.1).map fun row => CharSet.ofLines row.2))

/-- The Hangul syllables: `withFinal` selects those that have a final consonant, the others being every 28th. -/
def hangulSyllables (withFinal : Bool) : CharSet :=
  ⟨(List.range 399).map fun i =>
    let first := 0xac00 + 28 * i
    if withFinal then ⟨first + 1, first + 27⟩ else ⟨first, first⟩⟩

/-- The characters by their role in grapheme clusters. -/
def graphemeBreak? (name : String) : Option CharSet :=
  if name == "lv" then some (hangulSyllables false)
  else if name == "lvt" then some (hangulSyllables true)
  else tableRow? graphemeBreakTable name

/-- Drops what does not count in a property name. A lone `isc` is the name of a property of its own and stays. -/
def normalizeName (name : List Char) : String :=
  let stem := match name with
    | i :: s :: rest => if (i == 'i' || i == 'I') && (s == 's' || s == 'S') then some rest else none
    | _ => none
  let kept := (stem.getD name).filter fun c => c.toNat < 128 && c != ' ' && c != '_' && c != '-'
  let lower := String.ofList (kept.map Char.toLower)
  if stem.isSome && lower == "c" then "isc" else lower

/-- The characters that a property name alone stands for: a binary property, a general category or a script. -/
def property? (name : List Char) : Option CharSet :=
  let name := normalizeName name
  ((binary? name).or (categoryByName? name)).or (script? name)

/-- The characters for which the named property has the given value. -/
def propertyValue? (name value : List Char) : Option CharSet :=
  let name := normalizeName name
  let value := normalizeName value
  if ["gc", "generalcategory"].contains name then categoryByName? value
  else if ["sc", "script"].contains name then script? value
  else if ["scx", "scriptextensions"].contains name then scriptExtension? value
  else if name == "age" then age? value
  else if ["gcb", "graphemeclusterbreak"].contains name then graphemeBreak? value
  else if ["wb", "wordbreak"].contains name then tableRow? wordBreakTable value
  else if ["sb", "sentencebreak"].contains name then tableRow? sentenceBreakTable value
  else none

/-- Letters, marks, decimal digits, connectors and joiners: what words are made of. -/
def wordChars : CharSet := ⟨wordRanges⟩

def decimalDigits : CharSet := category "Nd"

def whiteSpace : CharSet := CharSet.ofLines whiteSpaceLines

/-- Letters and numbers of every kind. -/
def alphanumeric : CharSet := alphabetic.union (categories ["Nd", "Nl", "No"])

/-- Characters that leave a visible mark of their own, and the plain blank. -/
def printable : CharSet :=
  (assigned.diff (categories ["Cc", "Cf", "Co", "Zs", "Zl", "Zp"])).union (CharSet.singleton ' ')

end Highlight.Unicode
