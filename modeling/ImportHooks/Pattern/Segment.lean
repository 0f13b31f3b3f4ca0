import ImportHooks.Pattern.Property

namespace ImportHooks.Pattern
open Text

def extenders (all : Bool) : Charset := gathered (if all then ["mn", "mc", "me"] else ["mn", "me"]) ["ogrext"] ""

-- Signs in front of a number take part in it, but for one abbreviation mark.
def numberSigns : String := "600.605 6DD 890.891 8E2 110BD 110CD"

def graphemePart? (name : String) : Option Charset :=
  match name with
  | "cr" => some (.char '\r')
  | "lf" => some (.char '\n')
  | "control" | "cn" =>
    some ((gathered ["zl", "zp", "cc", "cf"] [] "" |>.union ((listed ["di"]).less (without []))).less
      (.unions [.ofRows "A D 200C.200D", listed ["pcm"], extenders false]))
  | "extend" | "ex" => some ((extenders false).union (listed ["emod"]))
  | "zwj" => some (.char '\u200d')
  | "regionalindicator" | "ri" => some (listed ["ri"])
  | "prepend" | "pp" =>
    some (gathered [] ["pcm"] "D4E 111C2.111C3 113D1 1193F 11941 11A3A 11A84.11A89 11D46 11F02")
  | "spacingmark" | "sm" =>
    some ((gathered ["mc"] [] "E33 EB3").less
      ((extenders false).union (.ofRows
        "102B.102C 1038 1062.1064 1067.106D 1083 1087.108C 108F 109A.109C 1A61 1A63.1A64 AA7B AA7D 11720.11721")))
  | "l" => some (.ofRows "1100.115F A960.A97C")
  | "v" => some (.ofRows "1160.11A7 D7B0.D7C6 16D63 16D67.16D6A")
  | "t" => some (.ofRows "11A8.11FF D7CB.D7FB")
  | "lv" => some (.ofRows "AC00.D788.1C")
  | "lvt" => some ((Charset.ofRows "AC00.D7A3").less (.ofRows "AC00.D788.1C"))
  | _ => none

def hebrewLetters : String :=
  "5D0.5EA 5EF.5F2 FB1D FB1F.FB28 FB2A.FB36 FB38.FB3C FB3E FB40.FB41 FB43.FB44 FB46.FB4F"
def katakanaLetters : String :=
  "3031.3035 309B.309C 30A0.30FA 30FC.30FF 31F0.31FF 32D0.32FE 3300.3357 FF66.FF9D 1AFF0.1AFF3 1AFF5.1AFFB
   1AFFD.1AFFE 1B000 1B120.1B122 1B155 1B164.1B167"

def unspacedLetters : String :=
  "E01.E30 E32.E33 E40.E46 E81.E82 E84 E86.E8A E8C.EA3 EA5 EA7.EB0 EB2.EB3 EBD EC0.EC4 EC6 EDC.EDF 1000.102A 103F
   1050.1055 105A.105D 1061 1065.1066 106E.1070 1075.1081 108E 1780.17B3 17D7 17DC 1950.196D 1970.1974 1980.19AB
   19B0.19C9 1A20.1A54 1AA7 A9E0.A9E4 A9E6.A9EF A9FA.A9FE AA60.AA76 AA7A AA7E.AAAF AAB1 AAB5.AAB6 AAB9.AABD AAC0
   AAC2 AADB.AADD 11700.1171A 11740.11746"

def wordPart? (name : String) : Option Charset :=
  match name with
  | "cr" => some (.char '\r')
  | "lf" => some (.char '\n')
  | "newline" | "nl" => some (.ofRows "B.C 85 2028.2029")
  | "singlequote" | "sq" => some (.char '\'')
  | "doublequote" | "dq" => some (.char '\x22')
  | "extend" => some ((extenders true).union (listed ["emod"]))
  | "zwj" => some (.char '\u200d')
  | "regionalindicator" | "ri" => some (listed ["ri"])
  | "format" | "fo" =>
    some ((within ["cf"]).less (.unions [.ofRows "200B 200D", listed ["pcm"], extenders false]))
  | "hebrewletter" | "hl" => some (.ofRows hebrewLetters)
  | "katakana" | "ka" => some (.ofRows katakanaLetters)
  | "aletter" | "le" =>
    some ((gathered (letters ++ ["nl"]) ["oalpha"]
      "2C2.2C5 2D2.2D7 2DE.2DF 2E5.2EB 2ED 2EF.2FF 55A.55C 55E 58A 5F3 70F A708.A716 A720.A721 A789.A78A AB5B").less
      (.unions [extenders true, listed ["ideo"], .ofRows hebrewLetters, .ofRows katakanaLetters,
        .ofRows unspacedLetters, (script? "hiragana").getD .none]))
  | "midletter" | "ml" => some (.ofRows "3A B7 387 55F 5F4 2027 FE13 FE55 FF1A")
  | "midnum" | "mn" => some (.ofRows "2C 3B 37E 589 60C.60D 66C 7F8 2044 FE10 FE14 FE50 FE54 FF0C FF1B")
  | "midnumlet" | "mb" => some (.ofRows "2E 2018.2019 2024 FE52 FF07 FF0E")
  | "numeric" | "nu" => some ((within ["nd"]).union (.ofRows (numberSigns ++ " 66B")))
  | "extendnumlet" | "ex" => some (.ofRows "5F 202F 203F.2040 2054 FE33.FE34 FE4D.FE4F FF3F")
  | "wsegspace" => some (.ofRows "20 1680 2000.2006 2008.200A 205F 3000")
  | _ => none

def georgianLower : String := "10D0.10FA 10FD.10FF"
def georgianUpper : String := "1C90.1CBA 1CBD.1CBF"
def periods : String := "2E 2024 FE52 FF0E"

def sentencePart? (name : String) : Option Charset :=
  match name with
  | "cr" => some (.char '\r')
  | "lf" => some (.char '\n')
  | "sep" | "se" => some (.ofRows "85 2028.2029")
  | "sp" => some (.ofRows "9 B.C 20 A0 1680 2000.200A 202F 205F 3000")
  | "extend" | "ex" => some ((extenders true).union (.char '\u200d'))
  | "format" | "fo" =>
    some ((within ["cf"]).less (.unions [.char '\u200d', listed ["pcm"], extenders false]))
  | "lower" | "lo" => some ((gathered ["ll"] ["olower"] "").less ((extenders false).union (.ofRows georgianLower)))
  | "upper" | "up" => some ((gathered ["lu", "lt"] ["oupper"] "").less (.ofRows georgianUpper))
  | "oletter" | "le" =>
    let capitals := gathered ["ll", "lu", "lt"] ["olower", "oupper"] ""
    some ((gathered ["lm", "lo", "nl"] ["oalpha"] ("5F3 " ++ georgianLower ++ " " ++ georgianUpper)).less
      ((extenders true).union (capitals.less (.ofRows (georgianLower ++ " " ++ georgianUpper)))))
  | "numeric" | "nu" => some ((within ["nd"]).union (.ofRows (numberSigns ++ " 66B.66C")))
  | "aterm" | "at" => some (.ofRows periods)
  | "sterm" | "st" => some ((listed ["sterm"]).less (.ofRows periods))
  | "close" | "cl" =>
    some (gathered ["ps", "pe", "pi", "pf"] [] "22 27 275B.2760 2E00.2E01 2E06.2E08 2E0B 1F676.1F678")
  | "scontinue" | "sc" =>
    some (.ofRows "2C.2D 3A.3B 37E 55D 60C.60D 7F8 1802 1808 2013.2014 3001 FE10.FE11 FE13.FE14 FE31.FE32 FE50.FE51
      FE54.FE55 FE58 FE63 FF0C.FF0D FF1A.FF1B FF64")
  | _ => none

end ImportHooks.Pattern
