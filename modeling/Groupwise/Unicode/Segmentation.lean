import Groupwise.Unicode.Derived

/-!
# Boundaries of characters, words and sentences

Three properties say how text is cut: into characters as they are seen, into words and into
sentences. Each has a few values, known by names.
-/
namespace Groupwise.Unicode

open Text (CodePointSet)

/-! ## Characters -/

namespace GraphemeBreak

/-- The syllables of a first and a second letter, in a block that has 28 syllables for each such
pair. -/
def openSyllables : CodePointSet :=
  .ofCodes ((List.range 399).map fun i => 0xac00 + 28 * i)

def syllables : CodePointSet := .range 0xac00 0xd7a3

def control : CodePointSet :=
  (CodePointSet.unionAll [ofCategories [.lineSeparator, .paragraphSeparator, .control, .format],
      (ofCategories [.unassigned]).intersection defaultIgnorable]).difference
    (.unionAll [setOfTable ["a d 200c-200d"], prependedConcatenationMark, graphemeExtend])

def extend : CodePointSet := graphemeExtend.union emojiModifier

/-- Marks that start a character. -/
def prepend : CodePointSet :=
  prependedConcatenationMark.union
    (setOfTable ["d4e 111c2-111c3 113d1 1193f 11941 11a84-11a89 11d46 11f02"])

def spacingMark : CodePointSet :=
  (((ofCategories [.spacingMark]).difference graphemeExtend).union
    (setOfTable ["e33 eb3"])).difference (setOfTable [
      "102b-102c 1038 1062-1064 1067-106d 1083 1087-108c 108f 109a-109c 1a61 1a63-1a64 aa7b aa7d",
      "11720-11721"])

/-- The code points that have the value with a name in lower case. -/
def named? : String → Option CodePointSet
  | "cn" | "control" => some control
  | "cr" => some (.single 0xd)
  | "ex" | "extend" => some extend
  | "l" => some (setOfTable ["1100-115f a960-a97c"])
  | "lf" => some (.single 0xa)
  | "lv" => some openSyllables
  | "lvt" => some (syllables.difference openSyllables)
  | "pp" | "prepend" => some prepend
  | "ri" | "regionalindicator" => some regionalIndicator
  | "sm" | "spacingmark" => some spacingMark
  | "t" => some (setOfTable ["11a8-11ff d7cb-d7fb"])
  | "v" => some (setOfTable ["1160-11a7 d7b0-d7c6 16d63 16d67-16d6a"])
  | "zwj" => some (.single 0x200d)
  | _ => none

end GraphemeBreak

/-! ## Words -/

namespace WordBreak

def extend : CodePointSet :=
  (CodePointSet.unionAll [graphemeExtend, ofCategories [.spacingMark], emojiModifier]).difference
    (.single 0x200d)

/-- Format characters that take no part in words. -/
def plainFormat : CodePointSet :=
  (ofCategories [.format]).difference (graphemeExtend.union (setOfTable ["200b-200d"]))

/-- Format characters that stand before a number. -/
def numberSign : CodePointSet := setOfTable ["600-605 6dd 890-891 8e2 110bd 110cd"]

def format : CodePointSet := plainFormat.difference (numberSign.union (.single 0x70f))

def numeric : CodePointSet := .unionAll [decimalDigits, numberSign, setOfTable ["66b 19da"]]

def hebrewLetter : CodePointSet := setOfTable [
  "5d0-5ea 5ef-5f2 fb1d fb1f-fb28 fb2a-fb36 fb38-fb3c fb3e fb40-fb41 fb43-fb44 fb46-fb4f"]

def katakana : CodePointSet := setOfTable [
  "3031-3035 309b-309c 30a0-30fa 30fc-30ff 31f0-31ff 32d0-32fe 3300-3357 ff66-ff9d 1aff0-1aff3",
  "1aff5-1affb 1affd-1affe 1b000 1b120-1b122 1b155 1b164-1b167"]

/-- Letters of scripts that are written without blanks between words. -/
def withoutBlanks : CodePointSet := setOfTable [
  "e01-e30 e32-e33 e40-e46 e81-e82 e84 e86-e8a e8c-ea3 ea5 ea7-eb0 eb2-eb3 ebd ec0-ec4 ec6",
  "edc-edf 1000-102a 103f 1050-1055 105a-105d 1061 1065-1066 106e-1070 1075-1081 108e 1780-17b3",
  "17d7 17dc 1950-196d 1970-1974 1980-19ab 19b0-19c9 1a20-1a54 1aa7 3041-3096 309d-309f",
  "a9e0-a9e4 a9e6-a9ef a9fa-a9fe aa60-aa76 aa7a aa7e-aaaf aab1 aab5-aab6 aab9-aabd aac0 aac2",
  "aadb-aadd 11700-1171a 11740-11746 1b001-1b11f 1b132 1b150-1b152"]

/-- Characters that count as letters inside words only. -/
def likeLetters : CodePointSet := setOfTable [
  "b8 2c2-2c5 2d2-2d7 2de-2df 2e5-2eb 2ed 2ef-2ff 55a-55c 55e 58a 5f3 70f a708-a716 a720-a721",
  "a789-a78a ab5b"]

def letter : CodePointSet :=
  (alphabetic.difference
    (.unionAll [ideographic, extend, katakana, hebrewLetter, withoutBlanks])).union likeLetters

/-- The code points that have the value with a name in lower case. -/
def named? : String → Option CodePointSet
  | "cr" => some (.single 0xd)
  | "dq" | "doublequote" => some (.single 0x22)
  | "ex" | "extendnumlet" => some (setOfTable ["5f 202f 203f-2040 2054 fe33-fe34 fe4d-fe4f ff3f"])
  | "extend" => some extend
  | "fo" | "format" => some format
  | "hl" | "hebrewletter" => some hebrewLetter
  | "ka" | "katakana" => some katakana
  | "le" | "aletter" => some letter
  | "lf" => some (.single 0xa)
  | "mb" | "midnumlet" => some midNumberLetter
  | "ml" | "midletter" => some midLetter
  | "mn" | "midnum" =>
    some (setOfTable ["2c 3b 37e 589 60c-60d 66c 7f8 2044 fe50 fe54 ff0c ff1b"])
  | "nl" | "newline" => some (setOfTable ["b-c 85 2028-2029"])
  | "nu" | "numeric" => some numeric
  | "ri" | "regionalindicator" => some regionalIndicator
  | "sq" | "singlequote" => some (.single 0x27)
  | "wsegspace" => some (setOfTable ["20 1680 2000-2006 2008-200a 205f 3000"])
  | "zwj" => some (.single 0x200d)
  | _ => none

end WordBreak

/-! ## Sentences -/

namespace SentenceBreak

/-- Marks that are passed over. -/
def marks : CodePointSet := WordBreak.extend.union (.single 0x200d)

def extend : CodePointSet := marks.difference emojiModifier

def lower : CodePointSet :=
  lowercase.difference (marks.union (setOfTable ["10d0-10fa 10fd-10ff"]))

def upper : CodePointSet :=
  (uppercase.union titlecase).difference (setOfTable ["1c90-1cba 1cbd-1cbf"])

def otherLetter : CodePointSet :=
  (alphabetic.difference (.unionAll [lower, upper, marks])).union (.single 0x5f3)

def format : CodePointSet :=
  (WordBreak.plainFormat.difference WordBreak.numberSign).union (.single 0x200b)

/-- Full stops, which may also end an abbreviation. -/
def fullStop : CodePointSet := setOfTable ["2e 2024 fe52 ff0e"]

def separator : CodePointSet := setOfTable ["85 2028-2029"]

/-- Brackets and quotation marks. -/
def closing : CodePointSet :=
  ((ofCategories [.openPunctuation, .closePunctuation, .initialPunctuation,
    .finalPunctuation]).union quotationMark).symmetricDifference
    (setOfTable ["275b-2760 2e00-2e01 2e06-2e08 2e0b ff02 ff07 1f676-1f678"])

/-- The code points that have the value with a name in lower case. -/
def named? : String → Option CodePointSet
  | "at" | "aterm" => some fullStop
  | "cl" | "close" => some closing
  | "cr" => some (.single 0xd)
  | "ex" | "extend" => some extend
  | "fo" | "format" => some format
  | "le" | "oletter" => some otherLetter
  | "lf" => some (.single 0xa)
  | "lo" | "lower" => some lower
  | "nu" | "numeric" => some (WordBreak.numeric.union (.single 0x66c))
  | "sc" | "scontinue" => some (setOfTable [
      "2c-2d 3a-3b 37e 55d 60c-60d 7f8 1802 1808 2013-2014 3001 fe10-fe11 fe13-fe14 fe31-fe32",
      "fe50-fe51 fe54-fe55 fe58 fe63 ff0c-ff0d ff1a-ff1b ff64"])
  | "se" | "sep" => some separator
  | "sp" => some (whiteSpace.difference (separator.union (setOfTable ["a d"])))
  | "st" | "sterm" => some (sentenceTerminal.difference fullStop)
  | "up" | "upper" => some upper
  | _ => none

end SentenceBreak

end Groupwise.Unicode
