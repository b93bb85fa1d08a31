import FieldSelect.Property.CaseChange
import FieldSelect.Property.Script

/-! The classes of characters by which a text is cut into clusters, words and sentences. -/
namespace FieldSelect
namespace Property

def point (n : Nat) : CharSet := ⟨[n, n + 1]⟩

def lineFeed : CharSet := point 0x0A

def carriageReturn : CharSet := point 0x0D

def nonJoiner : CharSet := point 0x200C

def joiner : CharSet := point 0x200D

def marksBesideLetters : CharSet := graphemeExtend.union (category .spacingMark)

/-- The members of a script, which is known by its short name. -/
def scriptSet (short : String) : CharSet := (script? short).getD CharSet.empty

/-! ### Clusters -/

namespace Cluster

/-- Letters that go with the consonant behind them. -/
private def prefixedLetterRuns : List Stretch :=
  [⟨0x0D4E, 0x0D4E, 1⟩, ⟨0x111C2, 0x111C3, 1⟩, ⟨0x113D1, 0x113D1, 1⟩, ⟨0x1193F, 0x11941, 2⟩,
   ⟨0x11A3A, 0x11A3A, 1⟩, ⟨0x11A84, 0x11A89, 1⟩, ⟨0x11D46, 0x11D46, 1⟩, ⟨0x11F02, 0x11F02, 1⟩]

def prepend : CharSet := prependedConcatenationMark.union (CharSet.ofRuns prefixedLetterRuns)

def extend : CharSet := graphemeExtend.union emojiModifier

def control : CharSet :=
  (CharSet.join [categories [.lineSeparator, .paragraphSeparator, .control, .format],
    (category .unassigned).inter defaultIgnorable]).without
    (CharSet.join [lineFeed, carriageReturn, joiner, prependedConcatenationMark, graphemeExtend])

/-- Spacing marks that stand for themselves. -/
private def looseMarkRuns : List Stretch :=
  [⟨0x102B, 0x102C, 1⟩, ⟨0x1038, 0x1038, 1⟩, ⟨0x1062, 0x1064, 1⟩, ⟨0x1067, 0x106D, 1⟩,
   ⟨0x1083, 0x1083, 1⟩, ⟨0x1087, 0x108C, 1⟩, ⟨0x108F, 0x108F, 1⟩, ⟨0x109A, 0x109C, 1⟩,
   ⟨0x1A61, 0x1A61, 1⟩, ⟨0x1A63, 0x1A64, 1⟩, ⟨0xAA7B, 0xAA7D, 2⟩, ⟨0x11720, 0x11721, 1⟩]

/-- Two vowels that are written as spacing marks are. -/
private def spacingVowelRuns : List Stretch := [⟨0x0E33, 0x0E33, 1⟩, ⟨0x0EB3, 0x0EB3, 1⟩]

def spacingMark : CharSet :=
  ((category .spacingMark).without (graphemeExtend.union (CharSet.ofRuns looseMarkRuns))).union
    (CharSet.ofRuns spacingVowelRuns)

private def leadingJamoRuns : List Stretch := [⟨0x1100, 0x115F, 1⟩, ⟨0xA960, 0xA97C, 1⟩]

private def vowelJamoRuns : List Stretch :=
  [⟨0x1160, 0x11A7, 1⟩, ⟨0xD7B0, 0xD7C6, 1⟩, ⟨0x16D63, 0x16D63, 1⟩, ⟨0x16D67, 0x16D6A, 1⟩]

private def trailingJamoRuns : List Stretch := [⟨0x11A8, 0x11FF, 1⟩, ⟨0xD7CB, 0xD7FB, 1⟩]

/-- Every syllable without a trailing consonant is followed by the 27 with one. -/
private def openSyllableRuns : List Stretch := [⟨0xAC00, 0xD788, 28⟩]

private def syllableRuns : List Stretch := [⟨0xAC00, 0xD7A3, 1⟩]

def openSyllable : CharSet := CharSet.ofRuns openSyllableRuns

def closedSyllable : CharSet := (CharSet.ofRuns syllableRuns).without openSyllable

def find? (name : String) : Option CharSet :=
  match name with
  | "cr" => some carriageReturn
  | "lf" => some lineFeed
  | "cn" | "control" => some control
  | "ex" | "extend" => some extend
  | "pp" | "prepend" => some prepend
  | "sm" | "spacingmark" => some spacingMark
  | "l" => some (CharSet.ofRuns leadingJamoRuns)
  | "v" => some (CharSet.ofRuns vowelJamoRuns)
  | "t" => some (CharSet.ofRuns trailingJamoRuns)
  | "lv" => some openSyllable
  | "lvt" => some closedSyllable
  | "ri" | "regionalindicator" => some regionalIndicator
  | "zwj" => some joiner
  | _ => none

end Cluster

/-- Decimal digits but for the wide ones, separators of digits, and signs that embrace digits. -/
private def lineDigitRuns : List Stretch := [⟨0x066B, 0x066C, 1⟩, ⟨0x19DA, 0x19DA, 1⟩]

private def wideDigitRuns : List Stretch := [⟨0xFF10, 0xFF19, 1⟩]

/-- A sign that embraces letters, as the others of its kind embrace digits. -/
def abbreviationMark : CharSet := point 0x070F

def digitSigns : CharSet := prependedConcatenationMark.without abbreviationMark

def numeric : CharSet := CharSet.join [decimalDigit, CharSet.ofRuns lineDigitRuns, digitSigns]

/-! ### Words -/

namespace Word

def extend : CharSet := (marksBesideLetters.union emojiModifier).without joiner

def format : CharSet :=
  (category .format).without
    (CharSet.join [point 0x200B, nonJoiner, joiner, prependedConcatenationMark, extend])

private def kanaSignRuns : List Stretch :=
  [⟨0x3031, 0x3035, 1⟩, ⟨0x309B, 0x309C, 1⟩, ⟨0x30A0, 0x30A0, 1⟩, ⟨0x30FC, 0x30FC, 1⟩,
   ⟨0xFF70, 0xFF70, 1⟩]

def katakana : CharSet := (scriptSet "kana").union (CharSet.ofRuns kanaSignRuns)

def hebrewLetter : CharSet := (scriptSet "hebr").inter (category .otherLetter)

/-- Scripts whose words are not set apart by anything that can be seen. -/
def unspacedScripts : CharSet :=
  CharSet.join
    ((["thai", "laoo", "mymr", "khmr", "tale", "talu", "lana", "tavt", "ahom"]).map scriptSet)

/-- Signs that are used as letters are. -/
private def letterSignRuns : List Stretch :=
  [⟨0x00B8, 0x00B8, 1⟩, ⟨0x02C2, 0x02C5, 1⟩, ⟨0x02D2, 0x02D7, 1⟩, ⟨0x02DE, 0x02DF, 1⟩,
   ⟨0x02E5, 0x02EB, 1⟩, ⟨0x02ED, 0x02ED, 1⟩, ⟨0x02EF, 0x02FF, 1⟩, ⟨0x055A, 0x055C, 1⟩,
   ⟨0x055E, 0x055E, 1⟩, ⟨0x058A, 0x058A, 1⟩, ⟨0x05F3, 0x05F3, 1⟩, ⟨0x070F, 0x070F, 1⟩,
   ⟨0xA708, 0xA716, 1⟩, ⟨0xA720, 0xA721, 1⟩, ⟨0xA789, 0xA78A, 1⟩, ⟨0xAB5B, 0xAB5B, 1⟩]

def letter : CharSet :=
  (alphabetic.union (CharSet.ofRuns letterSignRuns)).without
    (CharSet.join [ideographic, katakana, unspacedScripts, scriptSet "hira", extend, hebrewLetter])

def number : CharSet := (numeric.union (CharSet.ofRuns wideDigitRuns)).without (point 0x066C)

def connector : CharSet := (category .connectorPunctuation).union (point 0x202F)

private def midLetterRuns : List Stretch :=
  [⟨0x003A, 0x003A, 1⟩, ⟨0x00B7, 0x00B7, 1⟩, ⟨0x0387, 0x0387, 1⟩, ⟨0x055F, 0x055F, 1⟩,
   ⟨0x05F4, 0x05F4, 1⟩, ⟨0x2027, 0x2027, 1⟩, ⟨0xFE13, 0xFE13, 1⟩, ⟨0xFE55, 0xFE55, 1⟩,
   ⟨0xFF1A, 0xFF1A, 1⟩]

private def midNumberRuns : List Stretch :=
  [⟨0x002C, 0x002C, 1⟩, ⟨0x003B, 0x003B, 1⟩, ⟨0x037E, 0x037E, 1⟩, ⟨0x0589, 0x0589, 1⟩,
   ⟨0x060C, 0x060D, 1⟩, ⟨0x066C, 0x066C, 1⟩, ⟨0x07F8, 0x07F8, 1⟩, ⟨0x2044, 0x2044, 1⟩,
   ⟨0xFE10, 0xFE14, 4⟩, ⟨0xFE50, 0xFE54, 4⟩, ⟨0xFF0C, 0xFF0C, 1⟩, ⟨0xFF1B, 0xFF1B, 1⟩]

private def midBothRuns : List Stretch :=
  [⟨0x002E, 0x002E, 1⟩, ⟨0x2018, 0x2019, 1⟩, ⟨0x2024, 0x2024, 1⟩, ⟨0xFE52, 0xFE52, 1⟩,
   ⟨0xFF07, 0xFF07, 1⟩, ⟨0xFF0E, 0xFF0E, 1⟩]

private def newLineRuns : List Stretch :=
  [⟨0x000B, 0x000C, 1⟩, ⟨0x0085, 0x0085, 1⟩, ⟨0x2028, 0x2029, 1⟩]

private def wordSpaceRuns : List Stretch :=
  [⟨0x0020, 0x0020, 1⟩, ⟨0x1680, 0x1680, 1⟩, ⟨0x2000, 0x2006, 1⟩, ⟨0x2008, 0x200A, 1⟩,
   ⟨0x205F, 0x205F, 1⟩, ⟨0x3000, 0x3000, 1⟩]

def find? (name : String) : Option CharSet :=
  match name with
  | "cr" => some carriageReturn
  | "lf" => some lineFeed
  | "nl" | "newline" => some (CharSet.ofRuns newLineRuns)
  | "extend" => some extend
  | "zwj" => some joiner
  | "fo" | "format" => some format
  | "ka" | "katakana" => some katakana
  | "hl" | "hebrewletter" => some hebrewLetter
  | "le" | "aletter" => some letter
  | "sq" | "singlequote" => some (point 0x27)
  | "dq" | "doublequote" => some (point 0x22)
  | "ml" | "midletter" => some (CharSet.ofRuns midLetterRuns)
  | "mn" | "midnum" => some (CharSet.ofRuns midNumberRuns)
  | "mb" | "midnumlet" => some (CharSet.ofRuns midBothRuns)
  | "nu" | "numeric" => some number
  | "ex" | "extendnumlet" => some connector
  | "wsegspace" => some (CharSet.ofRuns wordSpaceRuns)
  | "ri" | "regionalindicator" => some regionalIndicator
  | _ => none

end Word

/-! ### Sentences -/

namespace Sentence

private def georgianRuns : List Stretch :=
  [⟨0x10D0, 0x10FA, 1⟩, ⟨0x10FD, 0x10FF, 1⟩, ⟨0x1C90, 0x1CBA, 1⟩, ⟨0x1CBD, 0x1CBF, 1⟩]

/-- Georgian sentences do not start with a large letter. -/
def georgian : CharSet := CharSet.ofRuns georgianRuns

def extend : CharSet := marksBesideLetters.union joiner

def format : CharSet :=
  (category .format).without (CharSet.join [nonJoiner, digitSigns, extend])

private def separatorRuns : List Stretch := [⟨0x0085, 0x0085, 1⟩, ⟨0x2028, 0x2029, 1⟩]

def separator : CharSet := CharSet.ofRuns separatorRuns

def space : CharSet := whiteSpace.without (CharSet.join [separator, lineFeed, carriageReturn])

def lower : CharSet := lowercase.without (graphemeExtend.union georgian)

def upper : CharSet := (uppercase.union (category .titlecaseLetter)).without georgian

def letter : CharSet :=
  (alphabetic.union (point 0x05F3)).without (CharSet.join [lower, upper, extend])

private def fullStopRuns : List Stretch :=
  [⟨0x002E, 0x002E, 1⟩, ⟨0x2024, 0x2024, 1⟩, ⟨0xFE52, 0xFE52, 1⟩, ⟨0xFF0E, 0xFF0E, 1⟩]

def fullStop : CharSet := CharSet.ofRuns fullStopRuns

def terminator : CharSet := sentenceTerminal.without fullStop

private def continueRuns : List Stretch :=
  [⟨0x002C, 0x002D, 1⟩, ⟨0x003A, 0x003B, 1⟩, ⟨0x037E, 0x037E, 1⟩, ⟨0x055D, 0x055D, 1⟩,
   ⟨0x060C, 0x060D, 1⟩, ⟨0x07F8, 0x07F8, 1⟩, ⟨0x1802, 0x1808, 6⟩, ⟨0x2013, 0x2014, 1⟩,
   ⟨0x3001, 0x3001, 1⟩, ⟨0xFE10, 0xFE11, 1⟩, ⟨0xFE13, 0xFE14, 1⟩, ⟨0xFE31, 0xFE32, 1⟩,
   ⟨0xFE50, 0xFE51, 1⟩, ⟨0xFE54, 0xFE55, 1⟩, ⟨0xFE58, 0xFE58, 1⟩, ⟨0xFE63, 0xFE63, 1⟩,
   ⟨0xFF0C, 0xFF0D, 1⟩, ⟨0xFF1A, 0xFF1B, 1⟩, ⟨0xFF64, 0xFF64, 1⟩]

/-- Quotation marks that are no opening and no closing punctuation. -/
private def plainQuoteRuns : List Stretch :=
  [⟨0x0022, 0x0022, 1⟩, ⟨0x0027, 0x0027, 1⟩, ⟨0x275B, 0x2760, 1⟩, ⟨0x2E00, 0x2E01, 1⟩,
   ⟨0x2E06, 0x2E08, 1⟩, ⟨0x2E0B, 0x2E0B, 1⟩, ⟨0x1F676, 0x1F678, 1⟩]

def close : CharSet :=
  ((categories [.openPunctuation, .closePunctuation, .initialPunctuation, .finalPunctuation]).union
    (CharSet.ofRuns plainQuoteRuns)).without (fullStop.union terminator)

def find? (name : String) : Option CharSet :=
  match name with
  | "cr" => some carriageReturn
  | "lf" => some lineFeed
  | "ex" | "extend" => some extend
  | "se" | "sep" => some separator
  | "fo" | "format" => some format
  | "sp" => some space
  | "lo" | "lower" => some lower
  | "up" | "upper" => some upper
  | "le" | "oletter" => some letter
  | "nu" | "numeric" => some (numeric.union (CharSet.ofRuns wideDigitRuns))
  | "at" | "aterm" => some fullStop
  | "sc" | "scontinue" => some (CharSet.ofRuns continueRuns)
  | "st" | "sterm" => some terminator
  | "cl" | "close" => some close
  | _ => none

end Sentence
end Property
end FieldSelect
