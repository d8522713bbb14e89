import SchemaFilter.Unicode.Property
import SchemaFilter.Unicode.ScriptTable

/-!
# Where texts may be broken

Unicode divides the characters into classes by which the places between graphemes, words and
sentences are found.  The characters that no class lists have no part in that.

* `BreakClass` — a class: its names and its characters;
* `GraphemeBreak.table`, `WordBreak.table`, `SentenceBreak.table` — the classes.
-/

namespace SchemaFilter

/-- A class of characters: its names, and the characters. -/
structure BreakClass where
  names : List String
  members : CharSet

/-- The zero width joiner. -/
def zeroWidthJoiner : CharSet := .ofHex "200D"

/-! ### Graphemes -/

namespace GraphemeBreak

/-- What extends a grapheme. -/
def extend : CharSet := Property.graphemeExtend.union Property.emojiModifier

/-- What stands between graphemes and belongs to none. -/
def control : CharSet :=
  (CharSet.unions [Category.control, Category.format, Category.lineSeparator,
    Category.paragraphSeparator,
    Category.unassigned.inter Property.defaultIgnorableCodePoint]).diff
    (.ofHex "A D 600-605 6DD 70F 890-891 8E2 200C-200D 110BD 110CD E0020-E007F")

/-- What belongs to the grapheme behind it. -/
def prepend : CharSet :=
  Property.prependedConcatenationMark.union
    (.ofHex "D4E 111C2-111C3 113D1 1193F 11941 11A3A 11A84-11A89 11D46 11F02")

/-- What takes room of its own and belongs to the grapheme before it. -/
def spacingMark : CharSet :=
  (Category.spacingMark.diff (extend.union (.ofHex
    "102B-102C 1038 1062-1064 1067-106D 1083 1087-108C 108F 109A-109C 1A61 1A63-1A64 AA7B AA7D
    11720-11721"))).union (.ofHex "E33 EB3")

/-- The Hangul syllables. -/
def syllable : CharSet := .range 0xAC00 0xD7A3

/-- The Hangul syllables without a final consonant, of which there is one in 28. -/
def openSyllable : CharSet :=
  ⟨(List.range 399).map fun n => ⟨0xAC00 + 28 * n, 0xAC00 + 28 * n⟩⟩

/-- The classes. -/
def table : List BreakClass := [
  ⟨["CR"], .single '\r'⟩,
  ⟨["Control", "CN"], control⟩,
  ⟨["Extend", "EX"], extend⟩,
  ⟨["L"], .ofHex "1100-115F A960-A97C"⟩,
  ⟨["LF"], .single '\n'⟩,
  ⟨["LV"], openSyllable⟩,
  ⟨["LVT"], syllable.diff openSyllable⟩,
  ⟨["Prepend", "PP"], prepend⟩,
  ⟨["Regional_Indicator", "RI"], Property.regionalIndicator⟩,
  ⟨["SpacingMark", "SM"], spacingMark⟩,
  ⟨["T"], .ofHex "11A8-11FF D7CB-D7FB"⟩,
  ⟨["V"], .ofHex "1160-11A7 D7B0-D7C6 16D63 16D67-16D6A"⟩,
  ⟨["ZWJ"], zeroWidthJoiner⟩]

end GraphemeBreak

/-! ### Sentences -/

namespace SentenceBreak

/-- What may end a sentence or an abbreviation. -/
def ambiguousTerminal : CharSet := .ofHex "2E 2024 FE52 FF0E"

/-- What extends the character before it. -/
def extend : CharSet :=
  .unions [Property.graphemeExtend, zeroWidthJoiner, Category.spacingMark]

/-- Lowercase letters. -/
def lower : CharSet :=
  Property.lowercase.diff (Property.graphemeExtend.union (.ofHex "10D0-10FA 10FD-10FF"))

/-- Uppercase and titlecase letters. -/
def upper : CharSet :=
  (Property.uppercase.union Category.titlecaseLetter).diff (.ofHex "1C90-1CBA 1CBD-1CBF")

/-- The other letters. -/
def otherLetter : CharSet :=
  (Property.alphabetic.union (.ofHex "5F3")).diff (.unions [lower, upper, extend])

/-- Digits, and what stands in numbers. -/
def numeric : CharSet :=
  Category.decimalNumber.union
    (.ofHex "600-605 66B-66C 6DD 890-891 8E2 19DA 110BD 110CD")

/-- Brackets and quotation marks. -/
def close : CharSet :=
  .unions [Category.openPunctuation, Category.closePunctuation, Category.initialPunctuation,
    Category.finalPunctuation,
    .ofHex "22 27 275B-2760 2E00-2E01 2E06-2E08 2E0B 1F676-1F678"]

/-- The classes. -/
def table : List BreakClass := [
  ⟨["ATerm", "AT"], ambiguousTerminal⟩,
  ⟨["CR"], .single '\r'⟩,
  ⟨["Close", "CL"], close⟩,
  ⟨["Extend", "EX"], extend⟩,
  ⟨["Format", "FO"], Category.format.diff
    (.ofHex "600-605 6DD 890-891 8E2 200C-200D 110BD 110CD E0020-E007F")⟩,
  ⟨["LF"], .single '\n'⟩,
  ⟨["Lower", "LO"], lower⟩,
  ⟨["Numeric", "NU"], numeric⟩,
  ⟨["OLetter", "LE"], otherLetter⟩,
  ⟨["SContinue", "SC"], .ofHex
    "2C-2D 3A-3B 37E 55D 60C-60D 7F8 1802 1808 2013-2014 3001 FE10-FE11 FE13-FE14 FE31-FE32
    FE50-FE51 FE54-FE55 FE58 FE63 FF0C-FF0D FF1A-FF1B FF64"⟩,
  ⟨["STerm", "ST"], Property.sentenceTerminal.diff ambiguousTerminal⟩,
  ⟨["Sep", "SE"], .ofHex "85 2028-2029"⟩,
  ⟨["Sp"], Property.whiteSpace.diff (.ofHex "A D 85 2028-2029")⟩,
  ⟨["Upper", "UP"], upper⟩]

end SentenceBreak

/-! ### Words -/

namespace WordBreak

/-- What extends the character before it. -/
def extend : CharSet :=
  .unions [Property.graphemeExtend, Category.spacingMark, Property.emojiModifier]

/-- Katakana, and what stands between them. -/
def katakana : CharSet :=
  Script.katakana.union (.ofHex "3031-3035 309B-309C 30A0 30FC FF70")

/-- The letters of Hebrew. -/
def hebrewLetter : CharSet := Script.hebrew.inter Category.otherLetter

/-- The letters of the scripts that put no blanks between words, as far as their scripts do not
    tell. -/
def unspacedLetter : CharSet := .ofHex
    "1000-102A 103F 1050-1055 105A-105D 1061 1065-1066 106E-1070 1075-1081 108E 1780-17B3 17D7
    17DC 1950-196D 1970-1974 1980-19AB 19B0-19C9 1A20-1A54 1AA7 A9E0-A9E4 A9E6-A9EF A9FA-A9FE
    AA60-AA76 AA7A AA7E-AAAF AAB1 AAB5-AAB6 AAB9-AABD AAC0 AAC2 AADB-AADD 11700-1171A
    11740-11746"

/-- The other letters. -/
def letter : CharSet :=
  (Property.alphabetic.diff (.unions [Property.ideographic, katakana, hebrewLetter, extend,
    Script.hiragana, Script.thai, Script.lao, unspacedLetter])).union (.ofHex
    "2C2-2C5 2D2-2D7 2DE-2DF 2E5-2EB 2ED 2EF-2FF 55A-55C 55E 58A 5F3 70F A708-A716 A720-A721
    A789-A78A AB5B")

/-- The classes. -/
def table : List BreakClass := [
  ⟨["ALetter", "LE"], letter⟩,
  ⟨["CR"], .single '\r'⟩,
  ⟨["Double_Quote", "DQ"], .ofHex "22"⟩,
  ⟨["Extend"], extend⟩,
  ⟨["ExtendNumLet", "EX"], Category.connectorPunctuation.union (.ofHex "202F")⟩,
  ⟨["Format", "FO"], Category.format.diff
    (.ofHex "600-605 6DD 70F 890-891 8E2 200B-200D 110BD 110CD E0020-E007F")⟩,
  ⟨["Hebrew_Letter", "HL"], hebrewLetter⟩,
  ⟨["Katakana", "KA"], katakana⟩,
  ⟨["LF"], .single '\n'⟩,
  ⟨["MidLetter", "ML"], .ofHex "3A B7 387 55F 5F4 2027 FE13 FE55 FF1A"⟩,
  ⟨["MidNum", "MN"], .ofHex "2C 3B 37E 589 60C-60D 66C 7F8 2044 FE50 FE54 FF0C FF1B"⟩,
  ⟨["MidNumLet", "MB"], .ofHex "2E 2018-2019 2024 FE52 FF07 FF0E"⟩,
  ⟨["Newline", "NL"], .ofHex "B-C 85 2028-2029"⟩,
  ⟨["Numeric", "NU"], SentenceBreak.numeric.diff (.ofHex "66C")⟩,
  ⟨["Regional_Indicator", "RI"], Property.regionalIndicator⟩,
  ⟨["Single_Quote", "SQ"], .ofHex "27"⟩,
  ⟨["WSegSpace"], .ofHex "20 1680 2000-2006 2008-200A 205F 3000"⟩,
  ⟨["ZWJ"], zeroWidthJoiner⟩]

end WordBreak

end SchemaFilter
