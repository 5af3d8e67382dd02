import FilterQuery.Unicode.Binary
import FilterQuery.Unicode.Script

/-!
# Boundaries in a text

How characters behave at the boundaries of graphemes, words and sentences.
The classes follow version 16 of the standard.
-/

namespace FilterQuery.Unicode

open Category Binary

/-- The characters of a script, by its name. -/
def scriptCodes (name : String) : CodeSet := (Script.codes? name).getD .empty

/-! ## Graphemes -/

namespace Grapheme

/-- Extenders of the grapheme before them. -/
def extend : CodeSet := graphemeExtend ∪ emojiModifier

/-- Characters apart from all others. -/
def control : CodeSet :=
  CodeSet.unions
    [Category.control, format, lineSeparator, paragraphSeparator,
      unassigned ∩ defaultIgnorable] \
    .unions [extend, prependedConcatenationMark, .ofText "A D 200C-200D"]

/-- Characters that belong to the grapheme after them. -/
def prepend : CodeSet :=
  .ofLines
    ["600-605 6DD 70F 890-891 8E2 D4E 110BD 110CD 111C2-111C3 113D1 1193F 11941 11A3A 11A84-11A89",
      "11D46 11F02"]

/-- Marks with space that belong to the grapheme before them. -/
def spacing : CodeSet :=
  (spacingMark ∪ .ofText "E33 EB3") \
    (extend ∪ .ofLines
      ["102B-102C 1038 1062-1064 1067-106D 1083 1087-108C 108F 109A-109C 1A61 1A63-1A64 AA7B AA7D",
        "11720-11721"])

/-- Syllables of Korean without a final consonant: the first of every 28. -/
def openSyllables : CodeSet :=
  .ofCodes ((List.range 399).map fun i => 0xAC00 + 28 * i)

/-- All syllables of Korean. -/
def syllables : CodeSet := .ofText "AC00-D7A3"

/-- The classes of characters at the boundaries of graphemes. -/
def table : List NamedSet :=
  [⟨["cn", "control"], control⟩,
    ⟨["cr"], .ofText "D"⟩,
    ⟨["ex", "extend"], extend⟩,
    ⟨["l"], .ofText "1100-115F A960-A97C"⟩,
    ⟨["lf"], .ofText "A"⟩,
    ⟨["lv"], openSyllables⟩,
    ⟨["lvt"], syllables \ openSyllables⟩,
    ⟨["pp", "prepend"], prepend⟩,
    ⟨["ri", "regionalindicator"], regionalIndicator⟩,
    ⟨["sm", "spacingmark"], spacing⟩,
    ⟨["t"], .ofText "11A8-11FF D7CB-D7FB"⟩,
    ⟨["v"], .ofText "1160-11A7 D7B0-D7C6 16D63 16D67-16D6A"⟩,
    ⟨["zwj"], .ofText "200D"⟩]

end Grapheme

/-! ## Words -/

namespace Word

/-- Extenders of the word before them. -/
def extend : CodeSet := .unions [graphemeExtend, spacingMark, emojiModifier]

/-- Katakana, and marks used with it. -/
def katakana : CodeSet :=
  scriptCodes "katakana" ∪ .ofText "3031-3035 309B-309C 30A0 30FC FF70"

/-- Letters of Hebrew. -/
def hebrewLetter : CodeSet := scriptCodes "hebrew" ∩ otherLetter

/-- Signs that count as letters of a word. -/
def letterLike : CodeSet :=
  .ofLines
    ["2C2-2C5 2D2-2D7 2DE-2DF 2E5-2EB 2ED 2EF-2FF 55A-55C 55E 58A 5F3 70F A708-A716 A720-A721",
      "A789-A78A AB5B"]

/-- Letters of scripts that do not divide words. -/
def undivided : CodeSet :=
  .ofLines
    ["E01-E30 E32-E33 E40-E46 E81-E82 E84 E86-E8A E8C-EA3 EA5 EA7-EB0 EB2-EB3 EBD EC0-EC4 EC6",
      "EDC-EDF 1000-102A 103F 1050-1055 105A-105D 1061 1065-1066 106E-1070 1075-1081 108E",
      "1780-17B3 17D7 17DC 1950-196D 1970-1974 1980-19AB 19B0-19C9 1A20-1A54 1AA7 A9E0-A9E4",
      "A9E6-A9EF A9FA-A9FE AA60-AA76 AA7A AA7E-AAAF AAB1 AAB5-AAB6 AAB9-AABD AAC0 AAC2 AADB-AADD",
      "11700-1171A 11740-11746"]

/-- Letters of words. -/
def letter : CodeSet :=
  (alphabetic ∪ letterLike) \
    .unions [ideographic, katakana, scriptCodes "hiragana", extend, hebrewLetter, undivided]

/-- Characters of numbers. -/
def numeric : CodeSet :=
  .unions [decimalNumber, .ofText "66B", prependedConcatenationMark \ .ofText "70F"]

/-- Characters that control formatting in a word. -/
def formatting : CodeSet :=
  format \ .unions [extend, prependedConcatenationMark, .ofText "200B-200D"]

/-- The classes of characters at the boundaries of words. -/
def table : List NamedSet :=
  [⟨["aletter", "le"], letter⟩,
    ⟨["cr"], .ofText "D"⟩,
    ⟨["doublequote", "dq"], .ofText "22"⟩,
    ⟨["extend"], extend⟩,
    ⟨["extendnumlet", "ex"], .ofText "5F 202F 203F-2040 2054 FE33-FE34 FE4D-FE4F FF3F"⟩,
    ⟨["format", "fo"], formatting⟩,
    ⟨["hebrewletter", "hl"], hebrewLetter⟩,
    ⟨["katakana", "ka"], katakana⟩,
    ⟨["lf"], .ofText "A"⟩,
    ⟨["midletter", "ml"], .ofText "3A B7 387 55F 5F4 2027 FE13 FE55 FF1A"⟩,
    ⟨["midnum", "mn"],
      .ofText "2C 3B 37E 589 60C-60D 66C 7F8 2044 FE10 FE14 FE50 FE54 FF0C FF1B"⟩,
    ⟨["midnumlet", "mb"], .ofText "2E 2018-2019 2024 FE52 FF07 FF0E"⟩,
    ⟨["newline", "nl"], .ofText "B-C 85 2028-2029"⟩,
    ⟨["numeric", "nu"], numeric⟩,
    ⟨["regionalindicator", "ri"], regionalIndicator⟩,
    ⟨["singlequote", "sq"], .ofText "27"⟩,
    ⟨["wsegspace"], .ofText "20 1680 2000-2006 2008-200A 205F 3000"⟩,
    ⟨["zwj"], .ofText "200D"⟩]

end Word

/-! ## Sentences -/

namespace Sentence

/-- Extenders of the character before them. -/
def extend : CodeSet := .unions [graphemeExtend, spacingMark, .ofText "200D"]

/-- Characters in lower case.  Georgian has no case in this sense. -/
def lower : CodeSet := lowercase \ (graphemeExtend ∪ .ofText "10D0-10FA 10FD-10FF")

/-- Characters in upper or title case, without those of Georgian. -/
def upper : CodeSet := (uppercase ∪ titlecaseLetter) \ .ofText "1C90-1CBA 1CBD-1CBF"

/-- Letters without case. -/
def caseless : CodeSet := (alphabetic ∪ .ofText "5F3") \ .unions [lower, upper, extend]

/-- Full stops, which need not end a sentence. -/
def fullStop : CodeSet := .ofText "2E 2024 FE52 FF0E"

/-- Signs that end a sentence. -/
def terminal : CodeSet := sentenceTerminal \ fullStop

/-- Brackets and quotation marks. -/
def close : CodeSet :=
  .unions
    [openPunctuation, closePunctuation, initialPunctuation, finalPunctuation,
      .ofText "22 27 275B-2760 2E00-2E01 2E06-2E08 2E0B 1F676-1F678"]

/-- Characters of numbers. -/
def numeric : CodeSet := Word.numeric ∪ .ofText "66C"

/-- Characters that control formatting in a sentence. -/
def formatting : CodeSet := format \ .unions [extend, numeric, .ofText "200C-200D"]

/-- The classes of characters at the boundaries of sentences. -/
def table : List NamedSet :=
  [⟨["aterm", "at"], fullStop⟩,
    ⟨["close", "cl"], close⟩,
    ⟨["cr"], .ofText "D"⟩,
    ⟨["extend", "ex"], extend⟩,
    ⟨["format", "fo"], formatting⟩,
    ⟨["lf"], .ofText "A"⟩,
    ⟨["lower", "lo"], lower⟩,
    ⟨["numeric", "nu"], numeric⟩,
    ⟨["oletter", "le"], caseless⟩,
    ⟨["scontinue", "sc"],
      .ofLines
        ["2C-2D 3A-3B 37E 55D 60C-60D 7F8 1802 1808 2013-2014 3001 FE10-FE11 FE13-FE14 FE31-FE32",
          "FE50-FE51 FE54-FE55 FE58 FE63 FF0C-FF0D FF1A-FF1B FF64"]⟩,
    ⟨["sep", "se"], .ofText "85 2028-2029"⟩,
    ⟨["sp"], whiteSpace \ .ofText "A D 85 2028-2029"⟩,
    ⟨["sterm", "st"], terminal⟩,
    ⟨["upper", "up"], upper⟩]

end Sentence

end FilterQuery.Unicode
