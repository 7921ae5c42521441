import TreePath.Regex.Category
import TreePath.Regex.PropertyTable
import TreePath.Regex.ScriptTable
import TreePath.Regex.ScriptExtensionTable
import TreePath.Regex.AgeTable
import TreePath.Regex.BreakTable
namespace TreePath.Regex

def propertyEntries : List NamedRanges := tableEntries propertyTable

def listed (names : List String) : CodeRanges := tableUnion propertyEntries names

def lowercase : CodeRanges := (categories ["Ll"]).union (listed ["Other_Lowercase"])

def uppercase : CodeRanges := (categories ["Lu"]).union (listed ["Other_Uppercase"])

def cased : CodeRanges := (lowercase.union uppercase).union (categories ["Lt"])

def alphabetic : CodeRanges :=
  cased.union ((categories ["Lm", "Lo", "Nl"]).union (listed ["Other_Alphabetic"]))

def mathematical : CodeRanges := (categories ["Sm"]).union (listed ["Other_Math"])

def graphemeExtend : CodeRanges :=
  (categories ["Me", "Mn"]).union (listed ["Other_Grapheme_Extend"])

def graphemeBase : CodeRanges :=
  ((unassigned.union surrogates).union
    ((categories ["Cc", "Cf", "Co", "Zl", "Zp"]).union graphemeExtend)).complement

def patternMarks : CodeRanges := listed ["Pattern_Syntax", "Pattern_White_Space"]

def identifierStart : CodeRanges :=
  ((letters.union (categories ["Nl"])).union (listed ["Other_ID_Start"])).difference patternMarks

def identifierContinue : CodeRanges :=
  ((identifierStart.union (categories ["Mn", "Mc", "Nd", "Pc"])).union
    (listed ["Other_ID_Continue"])).difference patternMarks

def unstableInIdentifiers : CodeRanges :=
  CodeRanges.ofText
    "37A 309B-309C FC5E-FC63 FDFA-FDFB FE70 FE72 FE74 FE76 FE78 FE7A FE7C FE7E"

def stableIdentifierStart : CodeRanges :=
  identifierStart.difference
    (unstableInIdentifiers.union (CodeRanges.ofText "E33 EB3 FF9E-FF9F"))

def stableIdentifierContinue : CodeRanges := identifierContinue.difference unstableInIdentifiers

def ignorableByDefault : CodeRanges :=
  ((categories ["Cf"]).union
    (listed ["Other_Default_Ignorable_Code_Point", "Variation_Selector"])).difference
    ((listed ["White_Space", "Prepended_Concatenation_Mark"]).union
      (CodeRanges.ofText "FFF9-FFFB 13430-1343F"))

-- What ignoring case changes: what lower case changes, without the Cherokee letters, whose capitals are the plain
-- ones, and with lower case letters that have another plain form.
def changedByFolding : CodeRanges :=
  ((listed ["Changes_When_Lowercased"]).difference (CodeRanges.ofText "13A0-13F5")).union
    (CodeRanges.ofText "B5 DF 149 17F 345 3C2 3D0-3D1 3D5-3D6 3F0-3F1 3F5 587 13F8-13FD
      1C80-1C88 1E9A-1E9B 1F80-1F87 1F90-1F97 1FA0-1FA7 1FB2-1FB4 1FB7 1FC2-1FC4 1FC7
      1FF2-1FF4 1FF7 AB70-ABBF FB00-FB06 FB13-FB17")

-- What title case changes: what upper case changes, without titlecase letters and the Georgian letters, which have no
-- titlecase, and with the capitals of digraphs.
def changedByTitlecase : CodeRanges :=
  ((listed ["Changes_When_Uppercased"]).difference
    (CodeRanges.ofText "1C5 1C8 1CB 1F2 10D0-10FA 10FD-10FF 1F88-1F8F 1F98-1F9F 1FA8-1FAF 1FBC
      1FCC 1FFC")).union
    (CodeRanges.ofText "1C4 1C7 1CA 1F1")

def changedByCase : CodeRanges :=
  (listed ["Changes_When_Lowercased", "Changes_When_Uppercased"]).union changedByTitlecase

def scriptEntries : List NamedRanges := tableEntries scriptTable
def graphemeBreakEntries : List NamedRanges := tableEntries graphemeBreakTable
def wordBreakEntries : List NamedRanges := tableEntries wordBreakTable
def sentenceBreakEntries : List NamedRanges := tableEntries sentenceBreakTable

def caseIgnorable : CodeRanges :=
  (categories ["Mn", "Me", "Cf", "Lm", "Sk"]).union
    (tableUnion wordBreakEntries ["MidLetter", "MidNumLet", "Single_Quote"])

def numberSigns : CodeRanges := CodeRanges.ofText "600-605 6DD 890-891 8E2 110BD 110CD E0020-E007F"

def joiner : CodeRanges := CodeRanges.single 0x200D

-- A precomposed Hangul syllable of two letters stands at every twenty-eighth place.
def hangulPairs : CodeRanges :=
  CodeRanges.ofList ((List.range 399).map fun n => (0xAC00 + 28 * n, 0xAC00 + 28 * n))

def hangulTriples : CodeRanges := CodeRanges.difference ⟨#[(0xAC00, 0xD7A3)]⟩ hangulPairs

def graphemeBreak? (name : List Char) : Option CodeRanges :=
  match String.ofList name with
  | "extend" | "ex" =>
    some ((graphemeExtend.union (listed ["Emoji_Modifier"])).difference joiner)
  | "control" | "cn" =>
    some (((categories ["Zl", "Zp", "Cc", "Cf"]).union
      (unassigned.intersection ignorableByDefault)).difference
      ((CodeRanges.ofText "A D 200C-200D E0020-E007F").union
        (tableUnion graphemeBreakEntries ["Prepend"])))
  | "spacingmark" | "sm" =>
    some (((categories ["Mc"]).difference (graphemeExtend.union
      (CodeRanges.ofText "102B-102C 1038 1062-1064 1067-106D 1083 1087-108C 108F 109A-109C 1A61
        1A63-1A64 AA7B AA7D 11720-11721"))).union
      (CodeRanges.ofText "E33 EB3"))
  | "lv" => some hangulPairs
  | "lvt" => some hangulTriples
  | _ => tableSet? graphemeBreakEntries name

def wordBreakExtend : CodeRanges :=
  ((graphemeExtend.union (categories ["Mc"])).union (listed ["Emoji_Modifier"])).difference joiner

def hebrewLetters : CodeRanges :=
  (tableUnion scriptEntries ["Hebrew"]).intersection (categories ["Lo"])

def wordBreakLetters : CodeRanges :=
  let apart :=
    ((listed ["Ideographic"]).union (tableUnion wordBreakEntries ["Katakana"])).union
      ((tableUnion scriptEntries ["Hiragana"]).union
        (hebrewLetters.union wordBreakExtend))
  let withoutBlanks := CodeRanges.ofText "E01-E30 E32-E33 E40-E46 E81-E82 E84 E86-E8A E8C-EA3 EA5
    EA7-EB0 EB2-EB3 EBD EC0-EC4 EC6 EDC-EDF 1000-102A 103F 1050-1055 105A-105D 1061 1065-1066
    106E-1070 1075-1081 108E 1780-17B3 17D7 17DC 1950-196D 1970-1974 1980-19AB 19B0-19C9
    1A20-1A54 1AA7 A9E0-A9E4 A9E6-A9EF A9FA-A9FE AA60-AA76 AA7A AA7E-AAAF AAB1 AAB5-AAB6
    AAB9-AABD AAC0 AAC2 AADB-AADD 11700-1171A 11740-11746"
  (alphabetic.difference (apart.union withoutBlanks)).union
    (CodeRanges.ofText "2C2-2C5 2D2-2D7 2DE-2DF 2E5-2EB 2ED 2EF-2FF 55A-55C 55E 58A 5F3 70F
      A708-A716 A720-A721 A789-A78A AB5B")

def wordBreak? (name : List Char) : Option CodeRanges :=
  match String.ofList name with
  | "extend" => some wordBreakExtend
  | "format" | "fo" =>
    some ((categories ["Cf"]).difference (numberSigns.union (CodeRanges.ofText "70F 200B-200D")))
  | "hebrewletter" | "hl" => some hebrewLetters
  | "aletter" | "le" => some wordBreakLetters
  | _ => tableSet? wordBreakEntries name

def sentenceBreakExtend : CodeRanges :=
  (graphemeExtend.union (categories ["Mc"])).union joiner

def sentenceBreakLower : CodeRanges :=
  lowercase.difference (graphemeExtend.union (CodeRanges.ofText "10D0-10FA 10FD-10FF"))

def sentenceBreakUpper : CodeRanges :=
  ((categories ["Lt"]).union uppercase).difference (CodeRanges.ofText "1C90-1CBA 1CBD-1CBF")

def sentenceBreak? (name : List Char) : Option CodeRanges :=
  match String.ofList name with
  | "extend" | "ex" => some sentenceBreakExtend
  | "lower" | "lo" => some sentenceBreakLower
  | "upper" | "up" => some sentenceBreakUpper
  | "oletter" | "le" =>
    some ((alphabetic.union (CodeRanges.single 0x5F3)).difference
      ((sentenceBreakLower.union sentenceBreakUpper).union sentenceBreakExtend))
  | "format" | "fo" =>
    some ((categories ["Cf"]).difference (numberSigns.union (CodeRanges.ofText "200C-200D")))
  | "close" | "cl" =>
    some ((categories ["Ps", "Pe", "Pi", "Pf"]).union
      (CodeRanges.ofText "22 27 275B-2760 2E00-2E01 2E06-2E08 2E0B 1F676-1F678"))
  | _ => tableSet? sentenceBreakEntries name

def property? (name : List Char) : Option CodeRanges :=
  match String.ofList name with
  | "lowercase" | "lower" => some lowercase
  | "uppercase" | "upper" => some uppercase
  | "cased" => some cased
  | "alphabetic" | "alpha" => some alphabetic
  | "caseignorable" | "ci" => some caseIgnorable
  | "math" => some mathematical
  | "graphemeextend" | "grext" => some graphemeExtend
  | "graphemebase" | "grbase" => some graphemeBase
  | "idstart" | "ids" => some identifierStart
  | "idcontinue" | "idc" => some identifierContinue
  | "xidstart" | "xids" => some stableIdentifierStart
  | "xidcontinue" | "xidc" => some stableIdentifierContinue
  | "defaultignorablecodepoint" | "di" => some ignorableByDefault
  | "changeswhencasefolded" | "cwcf" => some changedByFolding
  | "changeswhentitlecased" | "cwt" => some changedByTitlecase
  | "changeswhencasemapped" | "cwcm" => some changedByCase
  | _ => tableSet? propertyEntries name

def script? (name : List Char) : Option CodeRanges := tableSet? scriptEntries name

def scriptExtensionEntries : List NamedRanges := tableEntries scriptExtensionTable

-- The two scripts that stand for no script at all are listed as they are; every other one has its own characters too.
def scriptExtension? (name : List Char) : Option CodeRanges :=
  let shared := tableSet? scriptExtensionEntries name
  match String.ofList name with
  | "common" | "zyyy" | "inherited" | "zinh" | "qaai" => shared
  | _ => (script? name).map fun own => own.union (shared.getD CodeRanges.empty)

def ageEntries : List NamedRanges := tableEntries ageTable

def age? (name : List Char) : Option CodeRanges :=
  let before := ageEntries.takeWhile (fun entry => !entry.1.contains name)
  (ageEntries[before.length]?).map fun entry =>
    CodeRanges.ofList ((before ++ [entry]).flatMap fun e => (setOfText e.2).ranges.toList)

def namedSet? (name : List Char) : Option CodeRanges :=
  let loose := looseName name
  property? loose <|> category? loose <|> script? loose

def namedValue? (property value : List Char) : Option CodeRanges :=
  let value := looseName value
  match String.ofList (looseName property) with
  | "gc" | "generalcategory" => category? value
  | "sc" | "script" => script? value
  | "scx" | "scriptextensions" => scriptExtension? value
  | "age" => age? value
  | "gcb" | "graphemeclusterbreak" => graphemeBreak? value
  | "wb" | "wordbreak" => wordBreak? value
  | "sb" | "sentencebreak" => sentenceBreak? value
  | _ => none

end TreePath.Regex
