import FilterQuery.Regex.CharSet.Script
import FilterQuery.Regex.CharSet.Trait

/-!
# Where texts may be divided

The classes of characters by which texts are divided into graphemes, words and sentences.
A class leaves out what the classes before it in its rule take.
-/
namespace FilterQuery.Regex

/-- The characters of a script by its short name. -/
def scriptSet (name : String) : CharSet := (NamedSet.lookup? scripts name).getD .empty

def carriageReturn : CharSet := .codes "D"

def lineFeed : CharSet := .codes "A"

def zeroWidthJoiner : CharSet := .codes "200D"

/-- The characters of digits and of signs within or before numbers. -/
def numeric : CharSet :=
  Category.decimalNumber ∪ (Trait.prependedConcatenationMark \ .codes "70F") ∪ .codes "66B-66C"

/-! ## Graphemes -/

namespace GraphemeBreak

def extend : CharSet := Trait.graphemeExtend ∪ Trait.emojiModifier

def control : CharSet :=
  (Category.lineSeparator ∪ Category.paragraphSeparator ∪ Category.control ∪
      Category.format ∪ .codes "2065 FFF0-FFF8 E0000 E0002-E001F E0080-E00FF E01F0-E0FFF") \
    (carriageReturn ∪ lineFeed ∪ .codes "200C-200D" ∪ Trait.prependedConcatenationMark ∪
      extend)

def prepend : CharSet := .codes
  "600-605 6DD 70F 890-891 8E2 D4E 110BD 110CD 111C2-111C3 113D1 1193F 11941 11A3A
    11A84-11A89 11D46 11F02"

def spacingMark : CharSet :=
  (Category.spacingMark ∪ .codes "E33 EB3") \ (extend ∪
    .codes "102B-102C 1038 1062-1064 1067-106D 1083 1087-108C 108F 109A-109C 1A61
      1A63-1A64 AA7B AA7D 11720-11721")

/-- Hangul syllables without a final consonant. -/
def openSyllable : CharSet := .every 28 0xAC00 0xD7A3

end GraphemeBreak

def graphemeBreaks : List NamedSet := [
  ⟨["control", "cn"], GraphemeBreak.control⟩,
  ⟨["cr"], carriageReturn⟩,
  ⟨["extend", "ex"], GraphemeBreak.extend⟩,
  ⟨["l"], .codes "1100-115F A960-A97C"⟩,
  ⟨["lf"], lineFeed⟩,
  ⟨["lv"], GraphemeBreak.openSyllable⟩,
  ⟨["lvt"], .codes "AC00-D7A3" \ GraphemeBreak.openSyllable⟩,
  ⟨["prepend", "pp"], GraphemeBreak.prepend⟩,
  ⟨["regionalindicator", "ri"], Trait.regionalIndicator⟩,
  ⟨["spacingmark", "sm"], GraphemeBreak.spacingMark⟩,
  ⟨["t"], .codes "11A8-11FF D7CB-D7FB"⟩,
  ⟨["v"], .codes "1160-11A7 D7B0-D7C6 16D63 16D67-16D6A"⟩,
  ⟨["zwj"], zeroWidthJoiner⟩]

/-! ## Words -/

namespace WordBreak

def extend : CharSet :=
  (Trait.graphemeExtend ∪ Category.spacingMark ∪ Trait.emojiModifier) \ zeroWidthJoiner

def format : CharSet :=
  Category.format \ (.codes "200B-200D" ∪ extend ∪ Trait.prependedConcatenationMark)

def hebrewLetter : CharSet := scriptSet "hebr" \ (.all \ Category.otherLetter)

def katakana : CharSet := scriptSet "kana" ∪ .codes "3031-3035 309B-309C 30A0 30FC FF70"

/-- The letters of scripts that are written without blanks between words. -/
def unspaced : CharSet := .codes
  "E01-E3A E40-E4E E81-E82 E84 E86-E8A E8C-EA3 EA5 EA7-EBD EC0-EC4 EC6 EC8-ECE EDC-EDF
    1000-103F 1050-108F 109A-109F 1780-17D3 17D7 17DC-17DD 1950-196D 1970-1974 1980-19AB
    19B0-19C9 19DA 19DE-19DF 1A20-1A5E 1A60-1A7C 1AA0-1AAD A9E0-A9EF A9FA-A9FE AA60-AAC2
    AADB-AADF 11700-1171A 1171D-1172B 1173A-1173B 1173F-11746"

def letter : CharSet :=
  (Trait.alphabetic ∪
      .codes "2C2-2C5 2D2-2D7 2DE-2DF 2E5-2EB 2ED 2EF-2FF 55A-55C 55E 58A 5F3 70F A708-A716
        A720-A721 A789-A78A AB5B") \
    (Trait.ideographic ∪ katakana ∪ unspaced ∪ scriptSet "hira" ∪ extend ∪ hebrewLetter)

end WordBreak

def wordBreaks : List NamedSet := [
  ⟨["aletter", "le"], WordBreak.letter⟩,
  ⟨["cr"], carriageReturn⟩,
  ⟨["doublequote", "dq"], .codes "22"⟩,
  ⟨["extend"], WordBreak.extend⟩,
  ⟨["extendnumlet", "ex"], Category.connectorPunctuation ∪ .codes "202F"⟩,
  ⟨["format", "fo"], WordBreak.format⟩,
  ⟨["hebrewletter", "hl"], WordBreak.hebrewLetter⟩,
  ⟨["katakana", "ka"], WordBreak.katakana⟩,
  ⟨["lf"], lineFeed⟩,
  ⟨["midletter", "ml"], .codes "3A B7 387 55F 5F4 2027 FE13 FE55 FF1A"⟩,
  ⟨["midnum", "mn"],
    .codes "2C 3B 37E 589 60C-60D 66C 7F8 2044 FE10 FE14 FE50 FE54 FF0C FF1B"⟩,
  ⟨["midnumlet", "mb"], .codes "2E 2018-2019 2024 FE52 FF07 FF0E"⟩,
  ⟨["newline", "nl"], .codes "B-C 85 2028-2029"⟩,
  ⟨["numeric", "nu"], numeric \ .codes "66C"⟩,
  ⟨["regionalindicator", "ri"], Trait.regionalIndicator⟩,
  ⟨["singlequote", "sq"], .codes "27"⟩,
  ⟨["wsegspace"], .codes "20 1680 2000-2006 2008-200A 205F 3000"⟩,
  ⟨["zwj"], zeroWidthJoiner⟩]

/-! ## Sentences -/

namespace SentenceBreak

def extend : CharSet := Trait.graphemeExtend ∪ Category.spacingMark ∪ zeroWidthJoiner

def separator : CharSet := .codes "85 2028-2029"

def lower : CharSet := Trait.lowercase \ (extend ∪ .codes "10D0-10FA 10FD-10FF")

def upper : CharSet :=
  (Category.titlecaseLetter ∪ Trait.uppercase) \ .codes "1C90-1CBA 1CBD-1CBF"

def letter : CharSet := (Trait.alphabetic ∪ .codes "5F3 70F") \ (lower ∪ upper ∪ extend)

def fullStop : CharSet := .codes "2E 2024 FE52 FF0E"

def terminal : CharSet := Trait.sentenceTerminal \ fullStop

def close : CharSet :=
  (Category.openPunctuation ∪ Category.closePunctuation ∪ Category.initialPunctuation ∪
      Category.finalPunctuation ∪
      .codes "22 27 275B-2760 2E00-2E01 2E06-2E08 2E0B 1F676-1F678") \ (fullStop ∪ terminal)

end SentenceBreak

def sentenceBreaks : List NamedSet := [
  ⟨["aterm", "at"], SentenceBreak.fullStop⟩,
  ⟨["close", "cl"], SentenceBreak.close⟩,
  ⟨["cr"], carriageReturn⟩,
  ⟨["extend", "ex"], SentenceBreak.extend⟩,
  ⟨["format", "fo"],
    Category.format \
      (.codes "200C-200D" ∪ Trait.prependedConcatenationMark ∪ SentenceBreak.extend)⟩,
  ⟨["lf"], lineFeed⟩,
  ⟨["lower", "lo"], SentenceBreak.lower⟩,
  ⟨["numeric", "nu"], numeric⟩,
  ⟨["oletter", "le"], SentenceBreak.letter⟩,
  ⟨["scontinue", "sc"],
    .codes "2C-2D 3A 55D 60C-60D 7F8 1802 1808 2013-2014 3001 FE10-FE11 FE13 FE31-FE32
      FE50-FE51 FE55 FE58 FE63 FF0C-FF0D FF1A FF64"⟩,
  ⟨["sterm", "st"], SentenceBreak.terminal⟩,
  ⟨["sep", "se"], SentenceBreak.separator⟩,
  ⟨["sp"], Trait.whiteSpace \ (SentenceBreak.separator ∪ carriageReturn ∪ lineFeed)⟩,
  ⟨["upper", "up"], SentenceBreak.upper⟩]

end FilterQuery.Regex
