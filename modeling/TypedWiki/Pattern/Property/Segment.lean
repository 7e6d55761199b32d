import TypedWiki.Pattern.Property
import TypedWiki.Text.Script

/-!
# Segments — the parts of characters in the segmentation of text

What a character does where text is cut into graphemes, words and sentences, by the names of these parts.  They follow
from the other properties and a few characters more; what has none of the parts has no name.
-/

namespace TypedWiki.Pattern.Property

open Text (CodeSet)

/-- A yes-or-no property with a table. -/
def listed (name : String) : CodeSet := (find? Text.propertyTable name).getD ⟨[]⟩

/-- A script. -/
def script (name : String) : CodeSet := (find? Text.scriptTable name).getD ⟨[]⟩

/-- Carriage return and line feed. -/
def lineEnds : CodeSet := .ofList [0x0A, 0x0D]

/-- The joiner of width zero. -/
def joiner : CodeSet := .ofList [0x200D]

/-- Format characters that precede a number; U+070F precedes letters. -/
def numberSigns : CodeSet := (listed "pcm").diff (.ofList [0x70F])

/-- Decimal digits and the signs of numbers, without the separator of thousands U+066C. -/
def numerals : CodeSet := unionOf [categories ["nd"], .ofList [0x66B], numberSigns]

/-- What extends a grapheme. -/
def graphemeTails : CodeSet := (extenders.diff joiner).union (listed "emod")

/-- What extends a word: also marks that take up space. -/
def wordTails : CodeSet := graphemeTails.union (categories ["mc"])

/-- What extends a sentence. -/
def sentenceTails : CodeSet := unionOf [extenders, joiner, categories ["mc"]]

/-! ### Graphemes -/

/-- The jamos that a syllable of Hangul starts with. -/
def leadingJamos : CodeSet := (CodeSet.interval 0x1100 0x115F).union (.interval 0xA960 0xA97C)

/-- The vowels of Hangul, and those of Kirat Rai that behave alike. -/
def vowelJamos : CodeSet :=
  unionOf [.interval 0x1160 0x11A7, .interval 0xD7B0 0xD7C6, .ofList [0x16D63], .interval 0x16D67 0x16D6A]

/-- The jamos that a syllable of Hangul ends with. -/
def trailingJamos : CodeSet := (CodeSet.interval 0x11A8 0x11FF).union (.interval 0xD7CB 0xD7FB)

/-- The syllables of Hangul without a trailing jamo. -/
def openSyllables : CodeSet := .ofList ((List.range 399).map fun k => 0xAC00 + 28 * k)

/-- What belongs to the grapheme after it. -/
def heads : CodeSet :=
  unionOf [listed "pcm", .ofList [0xD4E, 0x111C2, 0x111C3, 0x113D1, 0x1193F, 0x11941, 0x11A3A, 0x11D46, 0x11F02],
    .interval 0x11A84 0x11A89]

/-- Characters that control the text around them, with unassigned ones that are ignorable. -/
def controls : CodeSet :=
  (unionOf [categories ["zl", "zp", "cc", "cf"], (listed "di").diff assigned]).diff
    (unionOf [lineEnds, joiner, .ofList [0x200C], listed "pcm", graphemeTails])

/-- Marks that take up space, without those that do not go on with a grapheme. -/
def spacingMarks : CodeSet :=
  ((categories ["mc"]).union (.ofList [0xE33, 0xEB3])).diff
    (unionOf [graphemeTails, .ofList [0x102B, 0x102C, 0x1038, 0x1083, 0x108F, 0x1A61, 0x1A63, 0x1A64, 0xAA7B, 0xAA7D],
      .interval 0x1062 0x1064, .interval 0x1067 0x106D, .interval 0x1087 0x108C, .interval 0x109A 0x109C,
      .interval 0x11720 0x11721])

/-- The part of a character in graphemes. -/
def grapheme? (part : String) : Option CodeSet :=
  match part with
  | "cr" => some (.ofList [0x0D])
  | "lf" => some (.ofList [0x0A])
  | "zwj" => some joiner
  | "control" | "cn" => some controls
  | "extend" | "ex" => some graphemeTails
  | "prepend" | "pp" => some heads
  | "spacingmark" | "sm" => some spacingMarks
  | "regionalindicator" | "ri" => some (listed "ri")
  | "l" => some leadingJamos
  | "v" => some vowelJamos
  | "t" => some trailingJamos
  | "lv" => some openSyllables
  | "lvt" => some ((CodeSet.interval 0xAC00 0xD7A3).diff openSyllables)
  | _ => none

/-! ### Words -/

/-- Syllables and other Katakana of words. -/
def katakana : CodeSet :=
  unionOf [script "katakana", .interval 0x3031 0x3035, .ofList [0x309B, 0x309C, 0x30A0, 0x30FC, 0xFF70]]

/-- The letters of Hebrew. -/
def hebrewLetters : CodeSet := (script "hebrew").inter (categories ["lo"])

/-- The scripts whose words are found with a dictionary, with their marks. -/
def unspaced : CodeSet :=
  .ofGaps "
    3585 58 5 15 50 2 1 1 1 5 1 24 1 1 1 23 2 5 1 1 1 7 13 4 288 64 16 64 10 6 1760 84 3 1 4 2 370 30 2 5 11 44 4 26
    16 1 3 2 64 63 1 29 35 14 36658 16 10 5 97 99 24 5 27680 27 2 15 14 2 3 8"

/-- Signs that are letters of words. -/
def letterSigns : CodeSet :=
  unionOf [.interval 0x2C2 0x2C5, .interval 0x2D2 0x2D7, .interval 0x2E5 0x2EB, .interval 0x2EF 0x2FF,
    .interval 0x55A 0x55C, .interval 0xA708 0xA716,
    .ofList [0x2DE, 0x2DF, 0x2ED, 0x55E, 0x58A, 0x5F3, 0x70F, 0xA720, 0xA721, 0xA789, 0xA78A, 0xAB5B]]

/-- The letters of words that are written with spaces. -/
def wordLetters : CodeSet :=
  (letters.union letterSigns).diff
    (unionOf [listed "ideo", katakana, unspaced, script "hiragana", wordTails, hebrewLetters])

/-- The part of a character in words. -/
def word? (part : String) : Option CodeSet :=
  match part with
  | "cr" => some (.ofList [0x0D])
  | "lf" => some (.ofList [0x0A])
  | "newline" | "nl" => some (.ofList [0x0B, 0x0C, 0x85, 0x2028, 0x2029])
  | "zwj" => some joiner
  | "extend" => some wordTails
  | "format" | "fo" =>
    some ((categories ["cf"]).diff (unionOf [joiner, .ofList [0x200B, 0x200C], listed "pcm", wordTails]))
  | "regionalindicator" | "ri" => some (listed "ri")
  | "katakana" | "ka" => some katakana
  | "hebrewletter" | "hl" => some hebrewLetters
  | "aletter" | "le" => some wordLetters
  | "singlequote" | "sq" => some (.ofList [0x27])
  | "doublequote" | "dq" => some (.ofList [0x22])
  | "midnumlet" | "mb" => some (.ofList [0x2E, 0x2018, 0x2019, 0x2024, 0xFE52, 0xFF07, 0xFF0E])
  | "midletter" | "ml" =>
    some (.ofList [0x3A, 0xB7, 0x387, 0x55F, 0x5F4, 0x2027, 0xFE13, 0xFE55, 0xFF1A])
  | "midnum" | "mn" =>
    some (.ofList [0x2C, 0x3B, 0x37E, 0x589, 0x60C, 0x60D, 0x66C, 0x7F8, 0x2044, 0xFE10, 0xFE14, 0xFE50, 0xFE54,
      0xFF0C, 0xFF1B])
  | "numeric" | "nu" => some numerals
  | "extendnumlet" | "ex" => some ((categories ["pc"]).union (.ofList [0x202F]))
  | "wsegspace" => some ((categories ["zs"]).diff (.ofList [0xA0, 0x2007, 0x202F]))
  | _ => none

/-! ### Sentences -/

/-- Line and paragraph separators. -/
def separators : CodeSet := .ofList [0x85, 0x2028, 0x2029]

/-- Small letters of sentences: all but those of Georgian. -/
def sentenceSmalls : CodeSet :=
  smalls.diff (unionOf [extenders, .interval 0x10D0 0x10FA, .interval 0x10FD 0x10FF])

/-- Capital letters of sentences: all but those of Georgian. -/
def sentenceCapitals : CodeSet :=
  (capitals.union (categories ["lt"])).diff ((CodeSet.interval 0x1C90 0x1CBA).union (.interval 0x1CBD 0x1CBF))

/-- Full stops, which can also belong to an abbreviation. -/
def fullStops : CodeSet := .ofList [0x2E, 0x2024, 0xFE52, 0xFF0E]

/-- Brackets and quotation marks. -/
def enclosers : CodeSet :=
  (categories ["ps", "pe", "pi", "pf"]).union (.ofGaps "34 1 4 1 10035 6 1695 2 4 3 2 1 116842 3")

/-- The part of a character in sentences. -/
def sentence? (part : String) : Option CodeSet :=
  match part with
  | "cr" => some (.ofList [0x0D])
  | "lf" => some (.ofList [0x0A])
  | "extend" | "ex" => some sentenceTails
  | "sep" | "se" => some separators
  | "format" | "fo" =>
    some ((categories ["cf"]).diff (unionOf [.ofList [0x200C, 0x200D], listed "pcm", sentenceTails]))
  | "sp" => some (Text.spaceTable.diff (separators.union lineEnds))
  | "lower" | "lo" => some sentenceSmalls
  | "upper" | "up" => some sentenceCapitals
  | "oletter" | "le" =>
    some ((letters.union (.ofList [0x5F3, 0x70F])).diff
      (unionOf [sentenceSmalls, sentenceCapitals, sentenceTails]))
  | "numeric" | "nu" => some (numerals.union (.ofList [0x66C]))
  | "aterm" | "at" => some fullStops
  | "sterm" | "st" => some ((listed "sterm").diff fullStops)
  | "close" | "cl" => some enclosers
  | "scontinue" | "sc" =>
    some (.ofList [0x2C, 0x2D, 0x3A, 0x3B, 0x37E, 0x55D, 0x60C, 0x60D, 0x7F8, 0x1802, 0x1808, 0x2013, 0x2014, 0x3001,
      0xFE10, 0xFE11, 0xFE13, 0xFE14, 0xFE31, 0xFE32, 0xFE50, 0xFE51, 0xFE54, 0xFE55, 0xFE58, 0xFE63, 0xFF0C, 0xFF0D,
      0xFF1A, 0xFF1B, 0xFF64])
  | _ => none

end TypedWiki.Pattern.Property
