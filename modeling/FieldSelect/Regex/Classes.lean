import FieldSelect.Property.Age
import FieldSelect.Property.Extension
import FieldSelect.Property.Segment

/-! The named sets of characters that a regular expression can refer to. -/
namespace FieldSelect
namespace Regex

/-! ### Sets of the first 128 characters -/

def asciiDigit : CharSet := CharSet.range '0' '9'

def asciiLower : CharSet := CharSet.range 'a' 'z'

def asciiUpper : CharSet := CharSet.range 'A' 'Z'

def asciiLetter : CharSet := asciiUpper.union asciiLower

def asciiAlphanumeric : CharSet := asciiDigit.union asciiLetter

def asciiWord : CharSet := asciiAlphanumeric.union (CharSet.single '_')

def asciiBlank : CharSet := (CharSet.range '\t' '\r').union (CharSet.single ' ')

def asciiSeen : CharSet := CharSet.range '!' '~'

/-- The sets written as `[:name:]` inside brackets. -/
def posix? (name : String) : Option CharSet :=
  match name with
  | "alnum" => some asciiAlphanumeric
  | "alpha" => some asciiLetter
  | "ascii" => some CharSet.ascii
  | "blank" => some ((CharSet.single '\t').union (CharSet.single ' '))
  | "cntrl" => some ((CharSet.range '\x00' '\x1f').union (CharSet.single '\x7f'))
  | "digit" => some asciiDigit
  | "graph" => some asciiSeen
  | "lower" => some asciiLower
  | "print" => some (asciiSeen.union (CharSet.single ' '))
  | "punct" => some (asciiSeen.without asciiAlphanumeric)
  | "space" => some asciiBlank
  | "upper" => some asciiUpper
  | "word" => some asciiWord
  | "xdigit" => some Property.asciiHexDigit
  | _ => none

/-! ### Properties -/

/-- The letters of a property name that count: case, blanks, hyphens and underscores do not matter, and
characters past the first 128 are passed over. -/
def plainLetters (name : List Char) : List Char :=
  (name.filter fun c => c.toNat < 128 && !(c == ' ' || c == '_' || c == '-')).map Char.toLower

/-- The two letters `is` right at the start are dropped, unless only a `c` would be left. -/
def looseName (name : List Char) : String :=
  match name with
  | i :: s :: rest =>
    if i.toLower == 'i' && s.toLower == 's' then
      if plainLetters rest == ['c'] then "isc" else String.ofList (plainLetters rest)
    else String.ofList (plainLetters name)
  | short => String.ofList (plainLetters short)

/-- Properties that a character has or has not. -/
def property? (name : String) : Option CharSet :=
  match name with
  | "asciihexdigit" | "ahex" => some Property.asciiHexDigit
  | "alphabetic" | "alpha" => some Property.alphabetic
  | "bidicontrol" | "bidic" => some Property.bidiControl
  | "bidimirrored" | "bidim" => some Property.bidiMirrored
  | "caseignorable" | "ci" => some Property.caseIgnorable
  | "cased" => some Property.cased
  | "changeswhencasefolded" | "cwcf" => some Property.changesCasefolded
  | "changeswhencasemapped" | "cwcm" => some Property.changesCasemapped
  | "changeswhenlowercased" | "cwl" => some Property.changesLowercased
  | "changeswhentitlecased" | "cwt" => some Property.changesTitlecased
  | "changeswhenuppercased" | "cwu" => some Property.changesUppercased
  | "dash" => some Property.dash
  | "defaultignorablecodepoint" | "di" => some Property.defaultIgnorable
  | "deprecated" | "dep" => some Property.deprecated
  | "diacritic" | "dia" => some Property.diacritic
  | "emoji" => some Property.emoji
  | "emojicomponent" | "ecomp" => some Property.emojiComponent
  | "emojimodifier" | "emod" => some Property.emojiModifier
  | "emojimodifierbase" | "ebase" => some Property.emojiModifierBase
  | "emojipresentation" | "epres" => some Property.emojiPresentation
  | "extendedpictographic" | "extpict" => some Property.extendedPictographic
  | "extender" | "ext" => some Property.extender
  | "graphemebase" | "grbase" => some Property.graphemeBase
  | "graphemeextend" | "grext" => some Property.graphemeExtend
  | "graphemelink" | "grlink" => some Property.graphemeLink
  | "hexdigit" | "hex" => some Property.hexDigit
  | "hyphen" => some Property.hyphen
  | "idcompatmathcontinue" => some Property.mathIdentifierContinue
  | "idcompatmathstart" => some Property.mathIdentifierStart
  | "idcontinue" | "idc" => some Property.idContinue
  | "idstart" | "ids" => some Property.idStart
  | "ideographic" | "ideo" => some Property.ideographic
  | "idsbinaryoperator" | "idsb" => some Property.twoPartOperator
  | "idstrinaryoperator" | "idst" => some Property.threePartOperator
  | "idsunaryoperator" | "idsu" => some Property.onePartOperator
  | "joincontrol" | "joinc" => some Property.joinControl
  | "logicalorderexception" | "loe" => some Property.logicalOrderException
  | "lowercase" | "lower" => some Property.lowercase
  | "math" => some Property.math
  | "modifiercombiningmark" | "mcm" => some Property.modifierCombiningMark
  | "noncharactercodepoint" | "nchar" => some Property.noncharacter
  | "otheralphabetic" | "oalpha" => some Property.otherAlphabetic
  | "otherdefaultignorablecodepoint" | "odi" => some Property.otherDefaultIgnorable
  | "othergraphemeextend" | "ogrext" => some Property.otherGraphemeExtend
  | "otheridcontinue" | "oidc" => some Property.otherIdContinue
  | "otheridstart" | "oids" => some Property.otherIdStart
  | "otherlowercase" | "olower" => some Property.otherLowercase
  | "othermath" | "omath" => some Property.otherMath
  | "otheruppercase" | "oupper" => some Property.otherUppercase
  | "patternsyntax" | "patsyn" => some Property.patternSigns
  | "patternwhitespace" | "patws" => some Property.patternWhiteSpace
  | "prependedconcatenationmark" | "pcm" => some Property.prependedConcatenationMark
  | "quotationmark" | "qmark" => some Property.quotationMark
  | "radical" => some Property.radical
  | "regionalindicator" | "ri" => some Property.regionalIndicator
  | "sentenceterminal" | "sterm" => some Property.sentenceTerminal
  | "softdotted" | "sd" => some Property.softDotted
  | "terminalpunctuation" | "term" => some Property.terminalPunctuation
  | "unifiedideograph" | "uideo" => some Property.unifiedIdeograph
  | "uppercase" | "upper" => some Property.uppercase
  | "variationselector" | "vs" => some Property.variationSelector
  | "whitespace" | "wspace" | "space" => some Property.whiteSpace
  | "xidcontinue" | "xidc" => some Property.stableIdContinue
  | "xidstart" | "xids" => some Property.stableIdStart
  | _ => none

/-- An edition is written with a point, or with a leading `v` and no point. -/
def age? (name : String) : Option CharSet :=
  (Property.ages.find? fun (major, minor, _) =>
    name == s!"{major}.{minor}" || name == s!"v{major}{minor}").bind
    fun (major, minor, _) => Property.age? major minor

/-- A bare name is a property, a category or a script, in this order. -/
def named? (name : List Char) : Option CharSet :=
  let loose := looseName name
  (property? loose <|> Property.category? loose) <|> Property.script? loose

/-- A name with a value picks one value of a property that has many. -/
def valued? (name value : List Char) : Option CharSet :=
  let value := looseName value
  match looseName name with
  | "gc" | "generalcategory" => Property.category? value
  | "sc" | "script" => Property.script? value
  | "scx" | "scriptextensions" => Property.scriptUse? value
  | "age" => age? value
  | "gcb" | "graphemeclusterbreak" => Property.Cluster.find? value
  | "wb" | "wordbreak" => Property.Word.find? value
  | "sb" | "sentencebreak" => Property.Sentence.find? value
  | _ => none

end Regex
end FieldSelect
