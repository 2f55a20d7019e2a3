import StateNest.Unicode.Property
import StateNest.Unicode.Script

/-!
# Segmentation classes

The classes by which the Unicode standard finds the boundaries of grapheme
clusters, words and sentences. Each kind of boundary puts a character in at
most one of its classes; the class `Other` for the rest is not named here.
-/

set_option autoImplicit false

namespace StateNest
namespace Segmentation

def carriageReturn : CodePointSet := .singleton 0xD
def lineFeed : CodePointSet := .singleton 0xA
def joiner : CodePointSet := .singleton 0x200D

/-! Grapheme clusters. -/

def clusterExtend : CodePointSet := Property.graphemeExtend ++ Property.emojiModifier

def clusterControl : CodePointSet :=
  (Category.union [.zl, .zp, .cc, .cf] ++
      .inter Category.cn.points Property.defaultIgnorableCodePoint) \
    (.ofText "A D 200C 200D" ++ Property.prependedConcatenationMark ++ Property.graphemeExtend)

def clusterPrepend : CodePointSet :=
  .ofText ("600-605 6DD 70F 890-891 8E2 D4E 110BD 110CD 111C2-111C3 113D1 1193F 11941 11A3A " ++
    "11A84-11A89 11D46 11F02")

/-- Spacing marks that stand apart from the letter before them. -/
def looseMarks : CodePointSet :=
  .ofText ("102B-102C 1038 1062-1064 1067-106D 1083 1087-108C 108F 109A-109C 1A61 1A63-1A64 " ++
    "AA7B AA7D 11720-11721")

def clusterSpacingMark : CodePointSet :=
  (Category.mc.points ++ .ofText "E33 EB3") \ (clusterExtend ++ looseMarks)

def hangulSyllables : CodePointSet := .range 0xAC00 0xD7A3

/-- The syllables without a final consonant, one in every twenty-eight. -/
def openSyllables : CodePointSet :=
  .ofRanges ((List.range 399).map fun block => (0xAC00 + 28 * block, 0xAC00 + 28 * block))

def clusters : List (List String × CodePointSet) :=
  [(["CN", "Control"], clusterControl),
   (["CR"], carriageReturn),
   (["EX", "Extend"], clusterExtend),
   (["L"], .ofText "1100-115F A960-A97C"),
   (["LF"], lineFeed),
   (["LV"], openSyllables),
   (["LVT"], hangulSyllables \ openSyllables),
   (["PP", "Prepend"], clusterPrepend),
   (["RI", "Regional_Indicator"], Property.regionalIndicator),
   (["SM", "SpacingMark"], clusterSpacingMark),
   (["T"], .ofText "11A8-11FF D7CB-D7FB"),
   (["V"], .ofText "1160-11A7 D7B0-D7C6 16D63 16D67-16D6A"),
   (["ZWJ"], joiner)]

/-! Words. -/

def scriptPoints (codes : List String) : CodePointSet :=
  .unions ((Script.all.filter fun script => codes.contains script.code).map Script.points)

def wordExtend : CodePointSet := (clusterExtend ++ Category.mc.points) \ joiner

def wordKatakana : CodePointSet :=
  scriptPoints ["Kana"] ++ .ofText "3031-3035 309B-309C 30A0 30FC FF70"

def wordHebrew : CodePointSet := .inter (scriptPoints ["Hebr"]) Category.lo.points

/-- Scripts whose words are not set apart by spaces. -/
def unspacedScripts : CodePointSet :=
  scriptPoints ["Thai", "Laoo", "Khmr", "Mymr", "Talu", "Tale", "Lana", "Tavt", "Ahom", "Hira"]

def wordLetter : CodePointSet :=
  (Property.alphabetic ++ .ofText ("2C2-2C5 2D2-2D7 2DE-2DF 2E5-2EB 2ED 2EF-2FF 55A-55C 55E 58A " ++
      "5F3 70F A708-A716 A720-A721 A789-A78A AB5B")) \
    (Property.ideographic ++ wordKatakana ++ wordHebrew ++ wordExtend ++ unspacedScripts)

def numeric : CodePointSet :=
  Category.nd.points ++ .ofText "66B-66C" ++
    (Property.prependedConcatenationMark \ .singleton 0x70F)

def words : List (List String × CodePointSet) :=
  [(["CR"], carriageReturn),
   (["DQ", "Double_Quote"], .singleton 0x22),
   (["EX", "ExtendNumLet"], .ofText "5F 202F 203F-2040 2054 FE33-FE34 FE4D-FE4F FF3F"),
   (["Extend"], wordExtend),
   (["FO", "Format"], Category.cf.points \ (.ofText "200B-200D" ++ Property.graphemeExtend ++
      Property.prependedConcatenationMark)),
   (["HL", "Hebrew_Letter"], wordHebrew),
   (["KA", "Katakana"], wordKatakana),
   (["LE", "ALetter"], wordLetter),
   (["LF"], lineFeed),
   (["MB", "MidNumLet"], .ofText "2E 2018-2019 2024 FE52 FF07 FF0E"),
   (["ML", "MidLetter"], .ofText "3A B7 387 55F 5F4 2027 FE13 FE55 FF1A"),
   (["MN", "MidNum"], .ofText "2C 3B 37E 589 60C-60D 66C 7F8 2044 FE10 FE14 FE50 FE54 FF0C FF1B"),
   (["NL", "Newline"], .ofText "B-C 85 2028-2029"),
   (["NU", "Numeric"], numeric \ .singleton 0x66C),
   (["RI", "Regional_Indicator"], Property.regionalIndicator),
   (["SQ", "Single_Quote"], .singleton 0x27),
   (["WSegSpace"], Category.zs.points \ .ofText "A0 2007 202F"),
   (["ZWJ"], joiner)]

/-! Sentences. -/

def sentenceExtend : CodePointSet := Property.graphemeExtend ++ Category.mc.points ++ joiner

def sentenceLower : CodePointSet :=
  Property.lowercase \ (.ofText "10D0-10FA 10FD-10FF" ++ Property.graphemeExtend)

def sentenceUpper : CodePointSet :=
  (Property.uppercase ++ Category.lt.points) \ .ofText "1C90-1CBA 1CBD-1CBF"

def fullStop : CodePointSet := .ofText "2E 2024 FE52 FF0E"

def sentenceSeparator : CodePointSet := .ofText "85 2028-2029"

def sentences : List (List String × CodePointSet) :=
  [(["AT", "ATerm"], fullStop),
   (["CL", "Close"], Category.union [.ps, .pe, .pi, .pf] ++
      .ofText "22 27 275B-2760 2E00-2E01 2E06-2E08 2E0B 1F676-1F678"),
   (["CR"], carriageReturn),
   (["EX", "Extend"], sentenceExtend),
   (["FO", "Format"], Category.cf.points \ (Property.graphemeExtend ++ joiner ++ numeric)),
   (["LE", "OLetter"], (Property.alphabetic ++ .singleton 0x5F3) \
      (sentenceLower ++ sentenceUpper ++ sentenceExtend)),
   (["LF"], lineFeed),
   (["LO", "Lower"], sentenceLower),
   (["NU", "Numeric"], numeric),
   (["SC", "SContinue"], .ofText ("2C-2D 3A-3B 37E 55D 60C-60D 7F8 1802 1808 2013-2014 3001 " ++
      "FE10-FE11 FE13-FE14 FE31-FE32 FE50-FE51 FE54-FE55 FE58 FE63 FF0C-FF0D FF1A-FF1B FF64")),
   (["SE", "Sep"], sentenceSeparator),
   (["SP", "Sp"], Property.whiteSpace \ (sentenceSeparator ++ carriageReturn ++ lineFeed)),
   (["ST", "STerm"], Property.sentenceTerminal \ fullStop),
   (["UP", "Upper"], sentenceUpper)]

end Segmentation
end StateNest
