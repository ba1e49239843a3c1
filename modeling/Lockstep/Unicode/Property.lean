import Lockstep.Text.Basic
import Lockstep.Unicode.Age
import Lockstep.Unicode.Category
import Lockstep.Unicode.PropertyList
import Lockstep.Unicode.ScriptExtension
import Lockstep.Unicode.Segmentation

set_option autoImplicit false
set_option relaxedAutoImplicit false

/-!
The properties of characters that follow from their categories and from listed properties, and the
lookup of any property by a loose name.
-/

namespace Lockstep.Unicode

private def listed (name : String) : CharSet :=
  (setNamed? listedProperties name).getD []

def alphabetic : CharSet :=
  .normalize (categoryUnion (.letterNumber :: Category.letters) ++ listed "otheralphabetic")

def lowercase : CharSet :=
  .union Category.lowercaseLetter.chars (listed "otherlowercase")

def uppercase : CharSet :=
  .union Category.uppercaseLetter.chars (listed "otheruppercase")

def cased : CharSet :=
  .normalize (lowercase ++ uppercase ++ Category.titlecaseLetter.chars)

def caseIgnorable : CharSet :=
  .normalize (categoryUnion
      [.nonspacingMark, .enclosingMark, .format, .modifierLetter, .modifierSymbol] ++
    CharSet.ofHex ["27 2E 3A B7 387 55F 5F4 2018-2019 2024 2027 FE13 FE52 FE55 FF07 FF0E FF1A"])

private def patternCharacters : CharSet :=
  .union (listed "patternsyntax") (listed "patternwhitespace")

def identifierStart : CharSet :=
  .diff (.normalize (categoryUnion (.letterNumber :: Category.letters) ++ listed "otheridstart"))
    patternCharacters

def identifierContinue : CharSet :=
  .diff (.normalize (identifierStart ++ listed "otheridcontinue" ++ categoryUnion
      [.nonspacingMark, .spacingMark, .decimalNumber, .connectorPunctuation]))
    patternCharacters

def stableIdentifierStart : CharSet :=
  .diff identifierStart (.ofHex ["37A E33 EB3 309B-309C FC5E-FC63 FDFA-FDFB FE70 FE72 FE74 FE76",
    "FE78 FE7A FE7C FE7E FF9E-FF9F"])

def stableIdentifierContinue : CharSet :=
  .diff identifierContinue (.ofHex ["37A 309B-309C FC5E-FC63 FDFA-FDFB FE70 FE72 FE74 FE76 FE78",
    "FE7A FE7C FE7E"])

def mathematical : CharSet :=
  .union Category.mathSymbol.chars (listed "othermath")

def graphemeExtend : CharSet :=
  .normalize (categoryUnion [.enclosingMark, .nonspacingMark] ++ listed "othergraphemeextend")

def graphemeBase : CharSet :=
  .complement (.normalize (unassigned ++ graphemeExtend ++ categoryUnion
    [.control, .format, .surrogate, .privateUse, .lineSeparator, .paragraphSeparator]))

def defaultIgnorable : CharSet :=
  .diff
    (.normalize (listed "otherdefaultignorablecodepoint" ++ Category.format.chars ++
      listed "variationselector"))
    (.normalize (Text.blanks ++ listed "prependedconcatenationmark" ++
      CharSet.ofHex ["FFF9-FFFB 13430-13440"]))

def changesWhenCasemapped : CharSet :=
  .normalize (listed "changeswhenlowercased" ++ listed "changeswhentitlecased" ++
    listed "changeswhenuppercased")

def decimalDigits : CharSet :=
  Category.decimalNumber.chars

/-- Characters that words are made of: letters, marks, digits, connectors and joiners. -/
def wordCharacters : CharSet :=
  .normalize (alphabetic ++ categoryUnion (.decimalNumber :: .connectorPunctuation ::
    Category.marks) ++ listed "joincontrol")

private def derivedNamed? (name : String) : Option CharSet :=
  match name with
  | "alpha" | "alphabetic" => some alphabetic
  | "lower" | "lowercase" => some lowercase
  | "upper" | "uppercase" => some uppercase
  | "cased" => some cased
  | "ci" | "caseignorable" => some caseIgnorable
  | "ids" | "idstart" => some identifierStart
  | "idc" | "idcontinue" => some identifierContinue
  | "xids" | "xidstart" => some stableIdentifierStart
  | "xidc" | "xidcontinue" => some stableIdentifierContinue
  | "math" => some mathematical
  | "grext" | "graphemeextend" => some graphemeExtend
  | "grbase" | "graphemebase" => some graphemeBase
  | "di" | "defaultignorablecodepoint" => some defaultIgnorable
  | "cwcm" | "changeswhencasemapped" => some changesWhenCasemapped
  | "wspace" | "whitespace" | "space" => some Text.blanks
  | _ => none

def propertyNamed? (name : String) : Option CharSet :=
  (derivedNamed? name).or (setNamed? listedProperties name)

/-!
Classes of characters by name: a property, a general category or a script by itself, or a value of a
named property.
-/

private def extensionNamed? (name : String) : Option CharSet :=
  (setNamed? sharedScripts name).or (setNamed? scripts name)

private def assignedBy? (version : String) : Option CharSet :=
  let earlier := ages.takeWhile fun a => !a.names.contains version
  match ages.drop earlier.length with
  | [] => none
  | last :: _ => some (.normalize ((earlier ++ [last]).flatMap fun a => CharSet.ofHex a.ranges))

/-- The class with a name of its own. The short names `cf`, `sc` and `lc` mean categories, although
properties have them too. -/
def classNamed? (name : String) : Option CharSet :=
  let loose := looseName name
  let property := if ["cf", "sc", "lc"].contains loose then none else propertyNamed? loose
  (property.or (categoryNamed? loose)).or (setNamed? scripts loose)

def classOfValue? (property value : String) : Option CharSet :=
  let value := looseName value
  match looseName property with
  | "gc" | "generalcategory" => categoryNamed? value
  | "sc" | "script" => setNamed? scripts value
  | "scx" | "scriptextensions" => extensionNamed? value
  | "age" => assignedBy? value
  | "gcb" | "graphemeclusterbreak" => setNamed? graphemeClusterBreaks value
  | "wb" | "wordbreak" => setNamed? wordBreaks value
  | "sb" | "sentencebreak" => setNamed? sentenceBreaks value
  | _ => none

end Lockstep.Unicode
