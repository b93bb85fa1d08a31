import FieldSelect.Property.Category
import FieldSelect.Property.Listed
import FieldSelect.Text.Blank

/-! Properties that follow from the category and the listed properties of a character. -/
namespace FieldSelect
namespace Property

def letters : CharSet := categories Category.letters

def whiteSpace : CharSet := CharSet.ofRuns blankRuns

def decimalDigit : CharSet := category .decimalNumber

/-! ### Letters and case -/

def otherAlphabetic : CharSet := settled alphabeticMarkRuns

def alphabetic : CharSet := CharSet.join [letters, category .letterNumber, otherAlphabetic]

def otherLowercase : CharSet := settled otherLowercaseRuns

def otherUppercase : CharSet := settled otherUppercaseRuns

def lowercase : CharSet := (category .lowercaseLetter).union otherLowercase

def uppercase : CharSet := (category .uppercaseLetter).union otherUppercase

def cased : CharSet := CharSet.join [lowercase, uppercase, category .titlecaseLetter]

def caseIgnorable : CharSet :=
  (categories [.nonspacingMark, .enclosingMark, .format, .modifierLetter, .modifierSymbol]).union
    (settled midWordRuns)

def math : CharSet := (category .mathSymbol).union otherMath

/-! ### Identifiers -/

def patternReserved : CharSet := patternSigns.union patternWhiteSpace

def idStart : CharSet :=
  (CharSet.join [letters, category .letterNumber, otherIdStart]).without patternReserved

def idContinue : CharSet :=
  (CharSet.join [idStart, categories [.nonspacingMark, .spacingMark, .decimalNumber, .connectorPunctuation],
    otherIdContinue]).without patternReserved

/-- Characters that are no part of an identifier once compatible ones have been put in their place. -/
private def unstablePartRuns : List Stretch :=
  [⟨0x037A, 0x037A, 1⟩, ⟨0x309B, 0x309C, 1⟩, ⟨0xFC5E, 0xFC63, 1⟩, ⟨0xFDFA, 0xFDFB, 1⟩,
   ⟨0xFE70, 0xFE7E, 2⟩]

/-- Characters that become marks, and so start no identifier, in the same way. -/
private def unstableStartRuns : List Stretch :=
  [⟨0x0E33, 0x0E33, 1⟩, ⟨0x0EB3, 0x0EB3, 1⟩, ⟨0xFF9E, 0xFF9F, 1⟩]

def stableIdContinue : CharSet := idContinue.without (CharSet.ofRuns unstablePartRuns)

def stableIdStart : CharSet :=
  idStart.without ((CharSet.ofRuns unstablePartRuns).union (CharSet.ofRuns unstableStartRuns))

/-! ### Clusters -/

def graphemeExtend : CharSet :=
  (categories [.nonspacingMark, .enclosingMark]).union otherGraphemeExtend

def graphemeBase : CharSet :=
  (CharSet.join [categories others, categories [.lineSeparator, .paragraphSeparator], graphemeExtend]).compl

/-- Formats that are seen, or that stand for something seen. -/
private def visibleFormatRuns : List Stretch := [⟨0xFFF9, 0xFFFB, 1⟩, ⟨0x13430, 0x1343F, 1⟩]

def defaultIgnorable : CharSet :=
  (CharSet.join [otherDefaultIgnorable, category .format, variationSelector]).without
    (CharSet.join [whiteSpace, CharSet.ofRuns visibleFormatRuns, prependedConcatenationMark])

/-- Letters, marks, decimal digits, connectors and the two joiners make up words. -/
def word : CharSet :=
  CharSet.join
    [alphabetic, categories (.decimalNumber :: .connectorPunctuation :: Category.marks), joinControl]

end Property
end FieldSelect
