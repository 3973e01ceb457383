import Verdict.Text.Property
import Verdict.Text.Script

/-!
# Where a text may be cut

The classes of code points by which the Unicode standard cuts a text into characters as a reader sees them, into
words and into sentences. Each class is made of categories and properties, but for a few code points.
-/

namespace Verdict.Text.Segment

open Category Property

/-- What goes with the character before it: extending marks and the tones of faces. -/
def extending : CodeSet := graphemeExtend.union (ofName "emojimodifier")

/-- Marks, spacing ones too, and the tones of faces; the joiner apart. -/
def wordExtending : CodeSet := (CodeSet.unions [extending, spacingMark]).diff (.singleton 0x200d)

/-- Digits and the signs written between them in Arabic. -/
def sentenceNumeric : CodeSet := .unions [decimalNumber, .ofText "66b-66c"]

/-- Format characters that do not extend, without the two joining controls. -/
def plainFormat : CodeSet := (format.diff graphemeExtend).diff (.ofText "200c-200d")

/-- The syllables of Korean. -/
def syllable : CodeSet := .ofText "ac00-d7a3"

/-- The syllables of Korean that do not end in a consonant. -/
def openSyllable : CodeSet :=
  .ofRuns ((List.range 399).map fun i => (0xac00 + 28 * i, 0xac00 + 28 * i))

/-! ## Characters as a reader sees them -/

namespace Grapheme

def control : CodeSet :=
  (CodeSet.unions [lineSeparator, paragraphSeparator, Category.control, format,
    unassigned.inter (ofName "defaultignorablecodepoint")]).diff
    (.unions [.ofText "a d 200c-200d", ofName "prependedconcatenationmark", graphemeExtend])

/-- What goes with the character after it. -/
def beforeOther : CodeSet :=
  .ofText "
    600-605 6dd 70f 890-891 8e2 d4e 110bd 110cd 111c2-111c3 113d1 1193f 11941 11a3a 11a84-11a89 11d46 11f02"

/-- Spacing marks that go with the character before them. -/
def spacing : CodeSet :=
  ((spacingMark.union (.ofText "e33 eb3")).diff extending).diff (.ofText "
    102b-102c 1038 1062-1064 1067-106d 1083 1087-108c 108f 109a-109c 1a61 1a63-1a64 aa7b aa7d 11720-11721")

/-- The classes by name. -/
def named : List (List String × CodeSet) :=
  [(["cn", "control"], control),
   (["cr"], .singleton 0xd),
   (["ex", "extend"], extending),
   (["l"], .ofText "1100-115f a960-a97c"),
   (["lf"], .singleton 0xa),
   (["lv"], openSyllable),
   (["lvt"], syllable.diff openSyllable),
   (["pp", "prepend"], beforeOther),
   (["ri", "regionalindicator"], ofName "regionalindicator"),
   (["sm", "spacingmark"], spacing),
   (["t"], .ofText "11a8-11ff d7cb-d7fb"),
   (["v"], .ofText "1160-11a7 d7b0-d7c6 16d63 16d67-16d6a"),
   (["zwj"], .singleton 0x200d)]

end Grapheme

/-! ## Words -/

namespace Word

def katakana : CodeSet :=
  .ofText "
    3031-3035 309b-309c 30a0-30fa 30fc-30ff 31f0-31ff 32d0-32fe 3300-3357 ff66-ff9d 1aff0-1aff3 1aff5-1affb
    1affd-1affe 1b000 1b120-1b122 1b155 1b164-1b167"

def hebrewLetter : CodeSet :=
  .ofText "5d0-5ea 5ef-5f2 fb1d fb1f-fb28 fb2a-fb36 fb38-fb3c fb3e fb40-fb41 fb43-fb44 fb46-fb4f"

/-- The letters of scripts whose words are not told apart by blanks. -/
def unspacedLetter : CodeSet :=
  .ofText "
    e01-e30 e32-e33 e40-e46 e81-e82 e84 e86-e8a e8c-ea3 ea5 ea7-eb0 eb2-eb3 ebd ec0-ec4 ec6 edc-edf
    1000-102a 103f 1050-1055 105a-105d 1061 1065-1066 106e-1070 1075-1081 108e 1780-17b3 17d7 17dc
    1950-196d 1970-1974 1980-19ab 19b0-19c9 1a20-1a54 1aa7 a9e0-a9e4 a9e6-a9ef a9fa-a9fe aa60-aa76 aa7a
    aa7e-aaaf aab1 aab5-aab6 aab9-aabd aac0 aac2 aadb-aadd 11700-1171a 11740-11746"

/-- Letters of alphabets, and signs that stand in words like letters. -/
def letter : CodeSet :=
  (alphabetic.union (.ofText "
    2c2-2c5 2d2-2d7 2de-2df 2e5-2eb 2ed 2ef-2ff 55a-55c 55e 58a 5f3 a708-a716 a720-a721 a789-a78a
    ab5b")).diff
    (.unions [ofName "ideographic", (Script.named? "hiragana").getD .empty, katakana, hebrewLetter,
      unspacedLetter, wordExtending])

/-- The classes by name. -/
def named : List (List String × CodeSet) :=
  [(["cr"], .singleton 0xd),
   (["dq", "doublequote"], .singleton 0x22),
   (["ex", "extendnumlet"], .ofText "5f 202f 203f-2040 2054 fe33-fe34 fe4d-fe4f ff3f"),
   (["extend"], wordExtending),
   (["fo", "format"], plainFormat.diff (.singleton 0x200b)),
   (["hl", "hebrewletter"], hebrewLetter),
   (["ka", "katakana"], katakana),
   (["le", "aletter"], letter),
   (["lf"], .singleton 0xa),
   (["mb", "midnumlet"], .ofText "2e 2018-2019 2024 fe52 ff07 ff0e"),
   (["ml", "midletter"], .ofText "3a b7 387 55f 5f4 2027 fe13 fe55 ff1a"),
   (["mn", "midnum"], .ofText "2c 3b 37e 589 60c-60d 66c 7f8 2044 fe10 fe14 fe50 fe54 ff0c ff1b"),
   (["nl", "newline"], .ofText "b-c 85 2028-2029"),
   (["nu", "numeric"], decimalNumber.union (.singleton 0x66b)),
   (["ri", "regionalindicator"], ofName "regionalindicator"),
   (["sq", "singlequote"], .singleton 0x27),
   (["wsegspace"], .ofText "20 1680 2000-2006 2008-200a 205f 3000"),
   (["zwj"], .singleton 0x200d)]

end Word

/-! ## Sentences -/

namespace Sentence

/-- Marks, spacing ones too, and the joiner. -/
def extending : CodeSet := .unions [graphemeExtend, spacingMark, .singleton 0x200d]

def lower : CodeSet := (lowercase.diff graphemeExtend).diff (.ofText "10d0-10fa 10fd-10ff")

def upper : CodeSet := (titlecaseLetter.union uppercase).diff (.ofText "1c90-1cbf")

/-- Full stops, which do not always end a sentence. -/
def fullStop : CodeSet := .ofText "2e 2024 fe52 ff0e"

/-- What always ends a sentence. -/
def terminator : CodeSet := (ofName "sentenceterminal").diff fullStop

/-- Brackets and quotes. -/
def bracket : CodeSet :=
  (CodeSet.unions [openPunctuation, closePunctuation, initialPunctuation, finalPunctuation,
    ofName "quotationmark", .ofText "275b-2760 2e00-2e01 2e06-2e08 2e0b 1f676-1f678"]).diff
    (.unions [.ofText "5f3 ff02 ff07", fullStop, terminator])

/-- Letters without a case. -/
def otherLetter : CodeSet :=
  (alphabetic.union (.singleton 0x5f3)).diff (.unions [lower, upper, extending])

/-- The classes by name. -/
def named : List (List String × CodeSet) :=
  [(["at", "aterm"], fullStop),
   (["cl", "close"], bracket),
   (["cr"], .singleton 0xd),
   (["ex", "extend"], extending),
   (["fo", "format"], plainFormat),
   (["le", "oletter"], otherLetter),
   (["lf"], .singleton 0xa),
   (["lo", "lower"], lower),
   (["nu", "numeric"], sentenceNumeric),
   (["sc", "scontinue"], .ofText "
    2c-2d 3a-3b 37e 55d 60c-60d 7f8 1802 1808 2013-2014 3001 fe10-fe11 fe13-fe14 fe31-fe32 fe50-fe51 fe54-fe55
    fe58 fe63 ff0c-ff0d ff1a-ff1b ff64"),
   (["se", "sep"], .ofText "85 2028-2029"),
   (["sp"], .ofText "9 b-c 20 a0 1680 2000-200a 202f 205f 3000"),
   (["st", "sterm"], terminator),
   (["up", "upper"], upper)]

end Sentence

/-- The class of a name among some classes. -/
def find? (classes : List (List String × CodeSet)) (name : String) : Option CodeSet :=
  (classes.find? fun row => row.1.contains name).map (·.2)

end Verdict.Text.Segment
