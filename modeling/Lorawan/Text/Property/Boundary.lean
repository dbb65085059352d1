import Lorawan.Text.Property.Binary
import Lorawan.Text.Property.WritingSystem

/-!
# Boundaries

The classes of characters that tell where letters as people see them, words and sentences end.
-/

namespace Lorawan.Text.Boundary

open CharSet (ofText unionAll)

/-- The line separator of the control characters and the mark before it. -/
def carriageReturn : CharSet := ofText "D"

/-- The line feed. -/
def lineFeed : CharSet := ofText "A"

/-- The character that joins the two beside it. -/
def joiner : CharSet := ofText "200D"

/-- The marks that extend a letter. -/
def graphemeExtend : CharSet :=
  (unionAll [BinaryProperty.members .graphemeExtend, BinaryProperty.members .emojiModifier]).diff joiner

/-- The controls, which stand alone. -/
def graphemeControl : CharSet :=
  let unassigned := (Category.members .unassigned).inter (BinaryProperty.members .defaultIgnorable)
  let controls := Category.membersOf [.lineSeparator, .paragraphSeparator, .control, .format]
  (controls.union unassigned).diff
    (unionAll
      [carriageReturn, lineFeed, BinaryProperty.members .joinControl,
        BinaryProperty.members .prependedConcatenationMark, graphemeExtend])

/-- The signs that belong to the letter behind them. -/
def graphemePrepend : CharSet :=
  (BinaryProperty.members .prependedConcatenationMark).union
    (ofText "D4E 111C2-111C3 113D1 1193F 11941 11A3A 11A84-11A89 11D46 11F02")

/-- The vowels of syllable blocks. -/
def vowelJamo : CharSet := ofText "1160-11A7 D7B0-D7C6 16D63 16D67-16D6A"

/-- The spacing marks that belong to the letter before them. -/
def graphemeSpacing : CharSet :=
  let apart := ofText
    "102B-102C 1038 1062-1064 1067-106D 1083 1087-108C 108F 109A-109C 1A61 1A63-1A64 AA7B AA7D
     11720-11721"
  ((Category.members .spacingMark).union (ofText "E33 EB3")).diff
    (unionAll [graphemeExtend, apart, vowelJamo, graphemePrepend])

/-- The syllable blocks without a final consonant: of the blocks in a row, one in twenty-eight. -/
def openSyllables : CharSet :=
  CharSet.ofOrdinals ((List.range 399).map fun i => 0xac00 + 28 * i)

/-- The class of characters in a letter that a name stands for. -/
def grapheme? (name : String) : Option CharSet :=
  match name with
  | "cr" => some carriageReturn
  | "lf" => some lineFeed
  | "control" | "cn" => some graphemeControl
  | "extend" | "ex" => some graphemeExtend
  | "zwj" => some joiner
  | "regionalindicator" | "ri" => some (BinaryProperty.members .regionalIndicator)
  | "prepend" | "pp" => some graphemePrepend
  | "spacingmark" | "sm" => some graphemeSpacing
  | "l" => some (ofText "1100-115F A960-A97C")
  | "v" => some vowelJamo
  | "t" => some (ofText "11A8-11FF D7CB-D7FB")
  | "lv" => some openSyllables
  | "lvt" => some ((ofText "AC00-D7A3").diff openSyllables)
  | _ => none

/-- The marks that extend a word. -/
def wordExtend : CharSet :=
  (unionAll
    [BinaryProperty.members .graphemeExtend, Category.members .spacingMark,
      BinaryProperty.members .emojiModifier]).diff joiner

/-- The characters of numbers in words. -/
def wordNumeric : CharSet :=
  (unionAll
    [Category.members .decimalNumber, ofText "66B",
      BinaryProperty.members .prependedConcatenationMark]).diff (ofText "70F")

/-- The characters of Japanese words in the angular script. -/
def wordKatakana : CharSet :=
  match WritingSystem.named? "kana" with
  | some kana => (kana.members.union (ofText "3031-3035 309B-309C 30A0 30FC FF70")).diff wordExtend
  | none => CharSet.empty

/-- The characters that belong to a writing system and are other letters. -/
def otherLettersOf (code : String) : CharSet :=
  match WritingSystem.named? code with
  | some w => w.members.inter (Category.members .otherLetter)
  | none => CharSet.empty

/-- The letters of scripts that are written without blanks between words. -/
def unspaced : CharSet := ofText
  "E01-E30 E32-E33 E40-E46 E81-E82 E84 E86-E8A E8C-EA3 EA5 EA7-EB0 EB2-EB3 EBD EC0-EC4 EC6
   EDC-EDF 1000-102A 103F 1050-1055 105A-105D 1061 1065-1066 106E-1070 1075-1081 108E 1780-17B3
   17D7 17DC 1950-196D 1970-1974 1980-19AB 19B0-19C9 1A20-1A54 1AA7 A9E0-A9E4 A9E6-A9EF A9FA-A9FE
   AA60-AA76 AA7A AA7E-AAAF AAB1 AAB5-AAB6 AAB9-AABD AAC0 AAC2 AADB-AADD 11700-1171A 11740-11746"

/-- The letters of words. -/
def wordLetter : CharSet :=
  let more := ofText
    "2C2-2C5 2D2-2D7 2DE-2DF 2E5-2EB 2ED 2EF-2FF 55A-55C 55E 58A 5F3 70F A708-A716 A720-A721
     A789-A78A AB5B"
  let hiragana := ((WritingSystem.named? "hira").map WritingSystem.members).getD CharSet.empty
  ((BinaryProperty.members .alphabetic).union more).diff
    (unionAll
      [BinaryProperty.members .ideographic, wordKatakana, unspaced, hiragana, wordExtend,
        otherLettersOf "hebr", wordNumeric])

/-- The class of characters in a word that a name stands for. -/
def word? (name : String) : Option CharSet :=
  match name with
  | "cr" => some carriageReturn
  | "lf" => some lineFeed
  | "newline" | "nl" => some (ofText "B-C 85 2028-2029")
  | "extend" => some wordExtend
  | "zwj" => some joiner
  | "format" | "fo" =>
    some ((Category.members .format).diff
      (unionAll
        [ofText "200B-200D", wordExtend, BinaryProperty.members .prependedConcatenationMark]))
  | "katakana" | "ka" => some wordKatakana
  | "hebrewletter" | "hl" => some (otherLettersOf "hebr")
  | "aletter" | "le" => some wordLetter
  | "singlequote" | "sq" => some (ofText "27")
  | "doublequote" | "dq" => some (ofText "22")
  | "midnumlet" | "mb" => some (ofText "2E 2018-2019 2024 FE52 FF07 FF0E")
  | "midletter" | "ml" => some (ofText "3A B7 387 55F 5F4 2027 FE13 FE55 FF1A")
  | "midnum" | "mn" =>
    some (ofText "2C 3B 37E 589 60C-60D 66C 7F8 2044 FE10 FE14 FE50 FE54 FF0C FF1B")
  | "numeric" | "nu" => some wordNumeric
  | "extendnumlet" | "ex" => some (ofText "5F 202F 203F-2040 2054 FE33-FE34 FE4D-FE4F FF3F")
  | "regionalindicator" | "ri" => some (BinaryProperty.members .regionalIndicator)
  | "wsegspace" => some (ofText "20 1680 2000-2006 2008-200A 205F 3000")
  | _ => none

/-- The marks that extend a part of a sentence. -/
def sentenceExtend : CharSet :=
  (wordExtend.diff (BinaryProperty.members .emojiModifier)).union joiner

/-- The small letters in sentences. -/
def sentenceLower : CharSet :=
  (BinaryProperty.members .lowercase).diff (wordExtend.union (ofText "10D0-10FA 10FD-10FF"))

/-- The capital letters in sentences. -/
def sentenceUpper : CharSet :=
  ((Category.members .titlecaseLetter).union (BinaryProperty.members .uppercase)).diff
    (ofText "1C90-1CBA 1CBD-1CBF")

/-- The dots that may end a sentence or an abbreviation. -/
def sentenceDot : CharSet := ofText "2E 2024 FE52 FF0E"

/-- The class of characters in a sentence that a name stands for. -/
def sentence? (name : String) : Option CharSet :=
  match name with
  | "cr" => some carriageReturn
  | "lf" => some lineFeed
  | "extend" | "ex" => some sentenceExtend
  | "sep" | "se" => some (ofText "85 2028-2029")
  | "format" | "fo" =>
    some ((Category.members .format).diff
      (unionAll
        [BinaryProperty.members .joinControl, wordExtend,
          (BinaryProperty.members .prependedConcatenationMark).diff (ofText "70F")]))
  | "sp" => some (ofText "9 B-C 20 A0 1680 2000-200A 202F 205F 3000")
  | "lower" | "lo" => some sentenceLower
  | "upper" | "up" => some sentenceUpper
  | "oletter" | "le" =>
    some (((BinaryProperty.members .alphabetic).union (ofText "5F3")).diff
      (unionAll [sentenceLower, sentenceUpper, wordExtend]))
  | "numeric" | "nu" => some (wordNumeric.union (ofText "66C"))
  | "aterm" | "at" => some sentenceDot
  | "scontinue" | "sc" =>
    some (ofText
      "2C-2D 3A-3B 37E 55D 60C-60D 7F8 1802 1808 2013-2014 3001 FE10-FE11 FE13-FE14 FE31-FE32
       FE50-FE51 FE54-FE55 FE58 FE63 FF0C-FF0D FF1A-FF1B FF64")
  | "sterm" | "st" => some ((BinaryProperty.members .sentenceTerminal).diff sentenceDot)
  | "close" | "cl" =>
    some ((Category.membersOf
      [.openPunctuation, .closePunctuation, .initialPunctuation, .finalPunctuation]).union
      (ofText "22 27 275B-2760 2E00-2E01 2E06-2E08 2E0B 1F676-1F678"))
  | _ => none

end Lorawan.Text.Boundary
