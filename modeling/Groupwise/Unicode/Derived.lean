import Groupwise.Text.Letter
import Groupwise.Unicode.CaseFolding
import Groupwise.Unicode.Category
import Groupwise.Unicode.Listed

/-!
# Derived properties

The properties that follow from general categories and listed properties by a rule. Where a rule
has exceptions, they are given beside it.
-/
namespace Groupwise.Unicode

open Text (CodePointSet)

def ofCategories (categories : List Category) : CodePointSet := Category.setOf categories

/-! ## Letters and case -/

def alphabetic : CodePointSet := Text.letters

def lowercase : CodePointSet := (ofCategories [.lowercaseLetter]).union otherLowercase

def uppercase : CodePointSet := (ofCategories [.uppercaseLetter]).union otherUppercase

def titlecase : CodePointSet := ofCategories [.titlecaseLetter]

def cased : CodePointSet := .unionAll [lowercase, uppercase, titlecase]

def changesWhenLowercased : CodePointSet :=
  ((uppercase.union titlecase).intersection CaseFolding.variants).union (.single 0x130)

/-- Letters that change when they become capital, those included that become several. -/
def changesWhenUppercased : CodePointSet :=
  ((lowercase.union titlecase).intersection CaseFolding.variants).union (setOfTable [
    "131 149 1f0 587 1e96-1e9a 1f50 1f52 1f54 1f56 1fb2 1fb4 1fb6-1fb7 1fc2 1fc4 1fc6-1fc7 1fd2",
    "1fd6-1fd7 1fe2 1fe4 1fe6-1fe7 1ff2 1ff4 1ff6-1ff7 fb00-fb04 fb13-fb17"])

/-- Letters that change at the start of a title. -/
def changesWhenTitlecased : CodePointSet :=
  (changesWhenUppercased.union (setOfTable ["1c4 1c7 1ca 1f1"])).difference (setOfTable [
    "1c5 1c8 1cb 1f2 10d0-10fa 10fd-10ff 1f88-1f8f 1f98-1f9f 1fa8-1faf 1fbc 1fcc 1ffc"])

def changesWhenCasefolded : CodePointSet :=
  (changesWhenLowercased.union (setOfTable [
    "b5 df 149 17f 345 3c2 3d0-3d1 3d5-3d6 3f0-3f1 3f5 587 13f8-13fd 1c80-1c88 1e9a-1e9b",
    "1f80-1f87 1f90-1f97 1fa0-1fa7 1fb2-1fb4 1fb7 1fc2-1fc4 1fc7 1ff2-1ff4 1ff7 ab70-abbf",
    "fb00-fb06 fb13-fb17"])).difference (setOfTable ["13a0-13f5"])

/-- Letters that change under some mapping of case. -/
def changesWhenCasemapped : CodePointSet :=
  .unionAll [changesWhenLowercased, changesWhenUppercased, changesWhenTitlecased]

/-! ## Marks and invisible characters -/

def graphemeExtend : CodePointSet :=
  (ofCategories [.enclosingMark, .nonspacingMark]).union otherGraphemeExtend

def graphemeBase : CodePointSet :=
  (ofCategories [.control, .format, .surrogate, .privateUse, .unassigned, .lineSeparator,
    .paragraphSeparator] |>.union graphemeExtend).complement

/-- Characters that are not shown where they are not supported. -/
def defaultIgnorable : CodePointSet :=
  (CodePointSet.unionAll
      [otherDefaultIgnorable, ofCategories [.format], variationSelector]).difference
    (.unionAll [whiteSpace, prependedConcatenationMark, setOfTable ["fff9-fffb 13430-13440"]])

/-- Punctuation that may stand inside a word. -/
def midLetter : CodePointSet := setOfTable ["3a b7 387 55f 5f4 2027 fe13 fe55 ff1a"]

/-- Punctuation that may stand inside a word or a number. -/
def midNumberLetter : CodePointSet := setOfTable ["2e 2018-2019 2024 fe52 ff07 ff0e"]

/-- Characters that are passed over when the context of a letter decides its case. -/
def caseIgnorable : CodePointSet :=
  .unionAll [ofCategories [.nonspacingMark, .enclosingMark, .format, .modifierLetter,
    .modifierSymbol], midLetter, midNumberLetter, .single 0x27]

def math : CodePointSet := (ofCategories [.mathSymbol]).union otherMath

/-! ## Names and words -/

def outsideNames : CodePointSet := patternSyntax.union patternWhiteSpace

/-- Characters with which a name may start. -/
def idStart : CodePointSet :=
  (CodePointSet.unionAll [ofCategories Category.letters, ofCategories [.letterNumber],
    otherIdStart]).difference outsideNames

/-- Characters with which a name may go on. -/
def idContinue : CodePointSet :=
  (CodePointSet.unionAll [idStart, ofCategories [.nonspacingMark, .spacingMark, .decimalNumber,
    .connectorPunctuation], otherIdContinue]).difference outsideNames

/-- Characters that compatibility turns into something that is not part of a name. -/
def unstableInNames : CodePointSet := setOfTable [
  "37a 309b-309c fc5e-fc63 fdfa-fdfb fe70 fe72 fe74 fe76 fe78 fe7a fe7c fe7e"]

def xidStart : CodePointSet :=
  idStart.difference (unstableInNames.union (setOfTable ["e33 eb3 ff9e-ff9f"]))

def xidContinue : CodePointSet := idContinue.difference unstableInNames

def decimalDigits : CodePointSet := ofCategories [.decimalNumber]

def wordCharacters : CodePointSet :=
  .unionAll [alphabetic, ofCategories Category.marks, decimalDigits,
    ofCategories [.connectorPunctuation], joinControl]

end Groupwise.Unicode
