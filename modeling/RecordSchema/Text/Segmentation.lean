import RecordSchema.Text.DerivedProperties
import RecordSchema.Text.Scripts

/-!
# Where texts may be divided

The Unicode standard divides a text into characters as they are perceived, into words and into
sentences. To that end each character has one value for each of the three; the values are defined
here as the standard does, from properties and categories. A character that no value is meant for
has none.

## Main definitions

* `clusterBreak?`: the characters with a value for perceived characters.
* `wordBreak?`: the characters with a value for words.
* `sentenceBreak?`: the characters with a value for sentences.
-/

namespace RecordSchema

/-- The members of a script with a four-letter name. -/
def scriptSet (name : String) : CharSet :=
  .ofRows (((scripts.find? (·.1.head? = some name)).map Prod.snd).getD [])

/-- The syllables that start a run of 28 with one vowel: those without a last consonant. -/
def openSyllables : CharSet :=
  .ofRanges ((List.range 399).map fun i => (0xAC00 + 28 * i, 0xAC00 + 28 * i))

/-- Characters that are drawn with the one before or change its look. -/
def clusterExtend : CharSet :=
  graphemeExtend.union (propertySet "Emoji_Modifier")

/-- Signs that are drawn with the character after. -/
def clusterPrepend : CharSet :=
  .unions [propertySet "Prepended_Concatenation_Mark",
    .ofText "d4e 111c2-111c3 113d1 1193f 11941 11a3a 11a84-11a89 11d46 11f02"]

/-- The names of the values for perceived characters, short and long. -/
def clusterBreakNames : List String := [
  "CR", "LF", "Control", "CN", "Extend", "EX", "L", "V", "T", "LV", "LVT", "Prepend", "PP",
  "Regional_Indicator", "RI", "SpacingMark", "SM", "ZWJ"]

/-- The characters with a value for perceived characters. -/
def clusterBreak? (value : String) : Option CharSet :=
  match value with
  | "CR" => some (.ofText "d")
  | "LF" => some (.ofText "a")
  | "Control" | "CN" => some
      (.diff (.unions [categoriesSet ["Zl", "Zp", "Cc", "Cf"], .diff defaultIgnorable assignedSet])
        (.unions [.ofText "a d 200d", clusterExtend, clusterPrepend]))
  | "Extend" | "EX" => some clusterExtend
  | "L" => some (.ofText "1100-115f a960-a97c")
  | "V" => some (.ofText "1160-11a7 d7b0-d7c6 16d63 16d67-16d6a")
  | "T" => some (.ofText "11a8-11ff d7cb-d7fb")
  | "LV" => some openSyllables
  | "LVT" => some (.diff (.ofText "ac00-d7a3") openSyllables)
  | "Prepend" | "PP" => some clusterPrepend
  | "Regional_Indicator" | "RI" => some (propertySet "Regional_Indicator")
  | "SpacingMark" | "SM" => some
      (.diff (.union (categorySet "Mc") (.ofText "e33 eb3"))
        (.union clusterExtend (.ofRows ["102b-102c 1038 1062-1064 1067-106d 1083 1087-108c 108f",
          "109a-109c 1a61 1a63-1a64 aa7b aa7d 11720-11721"])))
  | "ZWJ" => some (.ofText "200d")
  | _ => none

/-- Signs before a number that count as a part of it. -/
def numberSigns : CharSet :=
  .diff (propertySet "Prepended_Concatenation_Mark") (.ofText "70f")

/-- Digits and the signs inside numbers. -/
def numeric : CharSet :=
  .unions [categorySet "Nd", .ofText "66b-66c", numberSigns]

/-- Characters that stay with the one before when a text is divided into words. -/
def wordExtend : CharSet :=
  .diff (.unions [clusterExtend, categorySet "Mc"]) (.ofText "200d")

/-- Hebrew letters. -/
def hebrewLetters : CharSet :=
  (scriptSet "Hebr").inter (categorySet "Lo")

/-- Katakana and the signs used with it. -/
def katakanaLetters : CharSet :=
  (scriptSet "Kana").union (.ofText "3031-3035 309b-309c 30a0 30fc ff70")

/-- Letters of scripts whose words are told apart by a dictionary. -/
def dictionaryScripts : CharSet :=
  .ofRows ["e01-e3a e40-e4e e81-e82 e84 e86-e8a e8c-ea3 ea5 ea7-ebd ec0-ec4 ec6 ec8-ece edc-edf",
    "1000-103f 1050-108f 109a-109f 1780-17d3 17d7 17dc-17dd 1950-196d 1970-1974 1980-19ab",
    "19b0-19c9 19da 19de-19df 1a20-1a5e 1a60-1a7c 1aa0-1aad a9e0-a9ef a9fa-a9fe aa60-aac2",
    "aadb-aadf 11700-1171a 1171d-1172b 1173a-1173b 1173f-11746"]

/-- Letters that are written together as words. -/
def wordLetters : CharSet :=
  .diff (.union alphabetic (.ofRows ["2c2-2c5 2d2-2d7 2de-2df 2e5-2eb 2ed 2ef-2ff 55a-55c 55e 58a",
      "5f3 70f a708-a716 a720-a721 a789-a78a ab5b"]))
    (.unions [propertySet "Ideographic", katakanaLetters, dictionaryScripts, scriptSet "Hira",
      wordExtend, hebrewLetters])

/-- The names of the values for words, short and long. -/
def wordBreakNames : List String := [
  "ALetter", "LE", "CR", "Double_Quote", "DQ", "Extend", "ExtendNumLet", "EX", "Format", "FO",
  "Hebrew_Letter", "HL", "Katakana", "KA", "LF", "MidLetter", "ML", "MidNum", "MN", "MidNumLet",
  "MB", "Newline", "NL", "Numeric", "NU", "Regional_Indicator", "RI", "Single_Quote", "SQ",
  "WSegSpace", "ZWJ"]

/-- The characters with a value for words. -/
def wordBreak? (value : String) : Option CharSet :=
  match value with
  | "ALetter" | "LE" => some wordLetters
  | "CR" => some (.ofText "d")
  | "Double_Quote" | "DQ" => some (.ofText "22")
  | "Extend" => some wordExtend
  | "ExtendNumLet" | "EX" => some (.union (categorySet "Pc") (.ofText "202f"))
  | "Format" | "FO" => some
      (.diff (categorySet "Cf") (.unions [.ofText "200b-200d", wordExtend, clusterPrepend]))
  | "Hebrew_Letter" | "HL" => some hebrewLetters
  | "Katakana" | "KA" => some katakanaLetters
  | "LF" => some (.ofText "a")
  | "MidLetter" | "ML" => some (.ofText "3a b7 387 55f 5f4 2027 fe13 fe55 ff1a")
  | "MidNum" | "MN" => some
      (.ofText "2c 3b 37e 589 60c-60d 66c 7f8 2044 fe10 fe14 fe50 fe54 ff0c ff1b")
  | "MidNumLet" | "MB" => some (.ofText "2e 2018-2019 2024 fe52 ff07 ff0e")
  | "Newline" | "NL" => some (.ofText "b-c 85 2028-2029")
  | "Numeric" | "NU" => some (.diff numeric (.ofText "66c"))
  | "Regional_Indicator" | "RI" => some (propertySet "Regional_Indicator")
  | "Single_Quote" | "SQ" => some (.ofText "27")
  | "WSegSpace" => some (.diff (categorySet "Zs") (.ofText "a0 2007 202f"))
  | "ZWJ" => some (.ofText "200d")
  | _ => none

/-- Characters that stay with the one before when a text is divided into sentences. -/
def sentenceExtend : CharSet :=
  .unions [graphemeExtend, categorySet "Mc", .ofText "200d"]

/-- Lower-case letters that a sentence does not start with. -/
def sentenceLower : CharSet :=
  .diff lowercase (.unions [graphemeExtend, .ofText "10d0-10fa 10fd-10ff"])

/-- Upper-case letters with which a sentence may start. -/
def sentenceUpper : CharSet :=
  .diff (.union uppercase (categorySet "Lt")) (.ofText "1c90-1cba 1cbd-1cbf")

/-- Full stops that may be part of an abbreviation. -/
def fullStops : CharSet := .ofText "2e 2024 fe52 ff0e"

/-- Signs at which a sentence ends. -/
def sentenceEnds : CharSet :=
  .diff (propertySet "Sentence_Terminal") fullStops

/-- The names of the values for sentences, short and long. -/
def sentenceBreakNames : List String := [
  "ATerm", "AT", "CR", "Close", "CL", "Extend", "EX", "Format", "FO", "LF", "Lower", "LO",
  "Numeric", "NU", "OLetter", "LE", "SContinue", "SC", "STerm", "ST", "Sep", "SE", "Sp", "SP",
  "Upper", "UP"]

/-- The characters with a value for sentences. -/
def sentenceBreak? (value : String) : Option CharSet :=
  match value with
  | "ATerm" | "AT" => some fullStops
  | "CR" => some (.ofText "d")
  | "Close" | "CL" => some
      (.diff (.union (categoriesSet ["Ps", "Pe", "Pi", "Pf"])
        (.ofText "22 27 275b-2760 2e00-2e01 2e06-2e08 2e0b 1f676-1f678"))
        (.unions [.ofText "5f3", fullStops, sentenceEnds]))
  | "Extend" | "EX" => some sentenceExtend
  | "Format" | "FO" => some
      (.diff (categorySet "Cf") (.unions [.ofText "200c-200d", sentenceExtend, clusterPrepend]))
  | "LF" => some (.ofText "a")
  | "Lower" | "LO" => some sentenceLower
  | "Numeric" | "NU" => some numeric
  | "OLetter" | "LE" => some
      (.diff (.union alphabetic (.ofText "5f3 70f"))
        (.unions [sentenceLower, sentenceUpper, sentenceExtend]))
  | "SContinue" | "SC" => some
      (.ofRows ["2c-2d 3a-3b 37e 55d 60c-60d 7f8 1802 1808 2013-2014 3001 fe10-fe11 fe13-fe14",
        "fe31-fe32 fe50-fe51 fe54-fe55 fe58 fe63 ff0c-ff0d ff1a-ff1b ff64"])
  | "STerm" | "ST" => some sentenceEnds
  | "Sep" | "SE" => some (.ofText "85 2028-2029")
  | "Sp" | "SP" => some (.diff (propertySet "White_Space") (.ofText "a d 85 2028-2029"))
  | "Upper" | "UP" => some sentenceUpper
  | _ => none

end RecordSchema
