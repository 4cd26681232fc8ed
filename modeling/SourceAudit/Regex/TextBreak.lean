import SourceAudit.Regex.BinaryProperty
import SourceAudit.Regex.Script

/-!
# Text segmentation

The classes of code points by which a text is cut into grapheme clusters, words and sentences. Large classes are derived
from general categories, properties and scripts.
-/

namespace SourceAudit.Regex

set_option maxRecDepth 20000

/-- The first of the syllables that end with a vowel, by its number among them. Each has 27 syllables behind it that
add a consonant. -/
def syllable (i : Nat) : Nat := 0xAC00 + 28 * i

def graphemeBreakTables : List NamedTable :=
  [⟨["ex", "extend"], (CodeRanges.named binaryTables ["grext", "emod"]).toArray⟩,
    ⟨["lv"], (Array.range 399).map fun i => (syllable i, syllable i)⟩,
    ⟨["lvt"], (Array.range 399).map fun i => (syllable i + 1, syllable i + 27)⟩] ++ [
  (["cr"], ["D"]),
  (["cn", "control"],
    ["0-9 B-C E-1F 7F-9F AD 61C 180E 200B 200E-200F 2028-202E 2060-206F FEFF FFF0-FFFB 13430-1343F 1BCA0-1BCA3",
     "1D173-1D17A E0000-E001F E0080-E00FF E01F0-E0FFF"]),
  (["l"], ["1100-115F A960-A97C"]),
  (["lf"], ["A"]),
  (["pp", "prepend"],
    ["600-605 6DD 70F 890-891 8E2 D4E 110BD 110CD 111C2-111C3 113D1 1193F 11941 11A3A 11A84-11A89 11D46 11F02"]),
  (["ri", "regionalindicator"], ["1F1E6-1F1FF"]),
  (["sm", "spacingmark"],
    ["903 93B 93E-940 949-94C 94E-94F 982-983 9BF-9C0 9C7-9C8 9CB-9CC A03 A3E-A40 A83 ABE-AC0 AC9 ACB-ACC B02-B03 B40",
     "B47-B48 B4B-B4C BBF BC1-BC2 BC6-BC8 BCA-BCC C01-C03 C41-C44 C82-C83 CBE CC1 CC3-CC4 CF3 D02-D03 D3F-D40 D46-D48",
     "D4A-D4C D82-D83 DD0-DD1 DD8-DDE DF2-DF3 E33 EB3 F3E-F3F F7F 1031 103B-103C 1056-1057 1084 17B6 17BE-17C5",
     "17C7-17C8 1923-1926 1929-192B 1930-1931 1933-1938 1A19-1A1A 1A55 1A57 1A6D-1A72 1B04 1B3E-1B41 1B82 1BA1",
     "1BA6-1BA7 1BE7 1BEA-1BEC 1BEE 1C24-1C2B 1C34-1C35 1CE1 1CF7 A823-A824 A827 A880-A881 A8B4-A8C3 A952 A983",
     "A9B4-A9B5 A9BA-A9BB A9BE-A9BF AA2F-AA30 AA33-AA34 AA4D AAEB AAEE-AAEF AAF5 ABE3-ABE4 ABE6-ABE7 ABE9-ABEA ABEC",
     "11000 11002 11082 110B0-110B2 110B7-110B8 1112C 11145-11146 11182 111B3-111B5 111BF 111CE 1122C-1122E",
     "11232-11233 112E0-112E2 11302-11303 1133F 11341-11344 11347-11348 1134B-1134C 11362-11363 113B9-113BA 113CA",
     "113CC-113CD 11435-11437 11440-11441 11445 114B1-114B2 114B9 114BB-114BC 114BE 114C1 115B0-115B1 115B8-115BB",
     "115BE 11630-11632 1163B-1163C 1163E 116AC 116AE-116AF 1171E 11726 1182C-1182E 11838 11931-11935 11937-11938",
     "11940 11942 119D1-119D3 119DC-119DF 119E4 11A39 11A57-11A58 11A97 11C2F 11C3E 11CA9 11CB1 11CB4 11D8A-11D8E",
     "11D93-11D94 11D96 11EF5-11EF6 11F03 11F34-11F35 11F3E-11F3F 1612A-1612C 16F51-16F87"]),
  (["t"], ["11A8-11FF D7CB-D7FB"]),
  (["v"], ["1160-11A7 D7B0-D7C6 16D63 16D67-16D6A"]),
  (["zwj"], ["200D"])].map NamedTable.ofText

/-- Numerals that are no decimal digits, and signs within numbers. -/
def numericSigns : CodeRanges := (NamedTable.tableOfText ["600-605 66B 6DD 890-891 8E2 19DA 110BD 110CD"]).toList

def wordBreakListed : List NamedTable := [
  (["cr"], ["D"]),
  (["dq", "doublequote"], ["22"]),
  (["ex", "extendnumlet"], ["5F 202F 203F-2040 2054 FE33-FE34 FE4D-FE4F FF3F"]),
  (["fo", "format"],
    ["AD 61C 180E 200E-200F 202A-202E 2060-2064 2066-206F FEFF FFF9-FFFB 13430-1343F 1BCA0-1BCA3 1D173-1D17A E0001"]),
  (["hl", "hebrewletter"], ["5D0-5EA 5EF-5F2 FB1D FB1F-FB28 FB2A-FB36 FB38-FB3C FB3E FB40-FB41 FB43-FB44 FB46-FB4F"]),
  (["ka", "katakana"],
    ["3031-3035 309B-309C 30A0-30FA 30FC-30FF 31F0-31FF 32D0-32FE 3300-3357 FF66-FF9D 1AFF0-1AFF3 1AFF5-1AFFB",
     "1AFFD-1AFFE 1B000 1B120-1B122 1B155 1B164-1B167"]),
  (["lf"], ["A"]),
  (["ml", "midletter"], ["3A B7 387 55F 5F4 2027 FE13 FE55 FF1A"]),
  (["mn", "midnum"], ["2C 3B 37E 589 60C-60D 66C 7F8 2044 FE50 FE54 FF0C FF1B"]),
  (["mb", "midnumlet"], ["2E 2018-2019 2024 FE52 FF07 FF0E"]),
  (["nl", "newline"], ["B-C 85 2028-2029"]),
  (["ri", "regionalindicator"], ["1F1E6-1F1FF"]),
  (["sq", "singlequote"], ["27"]),
  (["wsegspace"], ["20 1680 2000-2006 2008-200A 205F 3000"]),
  (["zwj"], ["200D"])].map NamedTable.ofText

/-- The classes for words. Letters of scripts that are written without blanks are no letters here. -/
def wordBreakTables : List NamedTable :=
  let extend := (CodeRanges.named binaryTables ["grext", "emod"]).union (CodeRanges.named categoryTables ["mc"])
  let numeric := (CodeRanges.named categoryTables ["nd"]).union numericSigns
  let others := ((CodeRanges.named binaryTables ["ideo"]).union
    (CodeRanges.named wordBreakListed ["katakana", "hl"])).union
    (CodeRanges.named scriptTables ["ahom", "hira", "khmr", "laoo", "mymr", "talu", "tale", "lana", "tavt", "thai"])
  let signs := NamedTable.tableOfText
    ["2C2-2C5 2D2-2D7 2DE-2DF 2E5-2EB 2ED 2EF-2FF 55A-55C 55E 58A 5F3 70F A708-A716 A720-A721 A789-A78A AB5B"]
  let letter := (((CodeRanges.named binaryTables ["alpha"]).diff others).diff extend).union signs.toList
  [⟨["le", "aletter"], letter.toArray⟩, ⟨["extend"], extend.toArray⟩, ⟨["nu", "numeric"], numeric.toArray⟩] ++
    wordBreakListed

def sentenceBreakListed : List NamedTable := [
  (["at", "aterm"], ["2E 2024 FE52 FF0E"]),
  (["cr"], ["D"]),
  (["cl", "close"],
    ["22 27-29 5B 5D 7B 7D AB BB F3A-F3D 169B-169C 2018-201F 2039-203A 2045-2046 207D-207E 208D-208E 2308-230B",
     "2329-232A 275B-2760 2768-2775 27C5-27C6 27E6-27EF 2983-2998 29D8-29DB 29FC-29FD 2E00-2E0D 2E1C-2E1D 2E20-2E29",
     "2E42 2E55-2E5C 3008-3011 3014-301B 301D-301F FD3E-FD3F FE17-FE18 FE35-FE44 FE47-FE48 FE59-FE5E FF08-FF09 FF3B",
     "FF3D FF5B FF5D FF5F-FF60 FF62-FF63 1F676-1F678"]),
  (["fo", "format"],
    ["AD 61C 70F 180E 200B 200E-200F 202A-202E 2060-2064 2066-206F FEFF FFF9-FFFB 13430-1343F 1BCA0-1BCA3 1D173-1D17A",
     "E0001"]),
  (["lf"], ["A"]),
  (["sc", "scontinue"],
    ["2C-2D 3A-3B 37E 55D 60C-60D 7F8 1802 1808 2013-2014 3001 FE10-FE11 FE13-FE14 FE31-FE32 FE50-FE51 FE54-FE55 FE58",
     "FE63 FF0C-FF0D FF1A-FF1B FF64"]),
  (["se", "sep"], ["85 2028-2029"]),
  (["sp"], ["9 B-C 20 A0 1680 2000-200A 202F 205F 3000"])].map NamedTable.ofText

/-- The classes for sentences. The cases of Georgian letters do not tell where a sentence starts. -/
def sentenceBreakTables : List NamedTable :=
  let extend := ((CodeRanges.named binaryTables ["grext", "joinc"]).union (CodeRanges.named categoryTables ["mc"]))
  let lower := ((CodeRanges.named binaryTables ["lower"]).diff (CodeRanges.named binaryTables ["grext"])).diff
    [(0x10D0, 0x10FA), (0x10FD, 0x10FF)]
  let upper := ((CodeRanges.named binaryTables ["upper"]).union (CodeRanges.named categoryTables ["lt"])).diff
    [(0x1C90, 0x1CBA), (0x1CBD, 0x1CBF)]
  let letter := (((CodeRanges.named binaryTables ["alpha"]).union [(0x5F3, 0x5F3)]).diff (lower.union upper)).diff
    extend
  let numeric := ((CodeRanges.named categoryTables ["nd"]).union numericSigns).union [(0x66C, 0x66C)]
  let terminal := (CodeRanges.named binaryTables ["sterm"]).diff (CodeRanges.named sentenceBreakListed ["aterm"])
  [⟨["ex", "extend"], extend.toArray⟩, ⟨["lo", "lower"], lower.toArray⟩, ⟨["nu", "numeric"], numeric.toArray⟩,
    ⟨["le", "oletter"], letter.toArray⟩, ⟨["st", "sterm"], terminal.toArray⟩, ⟨["up", "upper"], upper.toArray⟩] ++
    sentenceBreakListed

end SourceAudit.Regex
