import HttpExchange.Text.Category
import HttpExchange.Text.Edition
import HttpExchange.Text.Script
import HttpExchange.Text.TraitTable

/-!
Properties of characters by name: traits that follow from categories and listed traits, the classes
that the limits of graphemes, words and sentences are found by, and the loose spelling of names.
-/
namespace HttpExchange.Text.Property

/-! ## Traits -/

/-- The characters with a listed trait, none if there is no such trait. -/
def listed (name : String) : Runs := (listedTrait? name).getD .empty

/-- Letters and numbers that letters write. -/
def lettersAndNumerals : Runs := categories ["lu", "ll", "lt", "lm", "lo", "nl"]

/-- Letters, and what stands for them. -/
def alphabetic : Runs := lettersAndNumerals.union (listed "oalpha")

/-- Small letters, and what looks like them. -/
def lowercase : Runs := (categories ["ll"]).union (listed "olower")

/-- Capital letters, and what looks like them. -/
def uppercase : Runs := (categories ["lu"]).union (listed "oupper")

/-- Characters that belong to the grapheme before them. -/
def graphemeExtend : Runs := (categories ["mn", "me"]).union (listed "ogrext")

/-- Characters that show nothing where they are not known. -/
def defaultIgnorable : Runs :=
  (Runs.unions [listed "odi", categories ["cf"], listed "vs"]).diff
    (.ofText "600-605 6DD 70F 890-891 8E2 FFF9-FFFB 110BD 110CD 13430-1343F")

/-- Characters that begin an identifier. -/
def idStart : Runs :=
  (lettersAndNumerals.union (listed "oids")).diff (.union (listed "patsyn") (listed "patws"))

/-- Characters that stand in an identifier. -/
def idContinue : Runs := .unions [idStart, categories ["mn", "mc", "nd", "pc"], listed "oidc"]

/-- Characters of identifiers that fall apart into others. -/
def unstable : Runs := .ofText "37A 309B-309C FC5E-FC63 FDFA-FDFB FE70-FE7E/2"

def digit : Runs := categories ["nd"]

def blank : Runs := listed "wspace"

/-- Characters of words: letters, marks, digits, connectors and joiners. -/
def word : Runs := .unions [alphabetic, categories ["mn", "mc", "me", "nd", "pc"], listed "joinc"]

/-- The characters with a trait, by its name in loose spelling. -/
def trait? (name : String) : Option Runs :=
  match name with
  | "alpha" | "alphabetic" => some alphabetic
  | "lower" | "lowercase" => some lowercase
  | "upper" | "uppercase" => some uppercase
  | "cased" => some (.unions [lowercase, uppercase, categories ["lt"]])
  | "ci" | "caseignorable" =>
    some (.union (categories ["mn", "me", "cf", "lm", "sk"])
      (.ofText "27 2E 3A B7 387 55F 5F4 2018-2019 2024 2027 FE13 FE52 FE55 FF07 FF0E FF1A"))
  | "math" => some (.union (categories ["sm"]) (listed "omath"))
  | "di" | "defaultignorablecodepoint" => some defaultIgnorable
  | "grext" | "graphemeextend" => some graphemeExtend
  | "grbase" | "graphemebase" =>
    some (((assigned.diff (categories ["cc", "cf", "co", "zl", "zp"]))).diff graphemeExtend)
  | "ids" | "idstart" => some idStart
  | "idc" | "idcontinue" => some idContinue
  | "xids" | "xidstart" => some ((idStart.diff unstable).diff (.ofText "E33 EB3 FF9E-FF9F"))
  | "xidc" | "xidcontinue" => some (idContinue.diff unstable)
  | _ => listedTrait? name

/-! ## Limits of graphemes, words and sentences -/

/-- Characters that extend a grapheme to the one before. -/
def extender : Runs := graphemeExtend.union (listed "emod")

/-- Syllables of two letters. -/
def syllables : Runs := .ofText "AC00-D788/1C"

/-- The classes that the limits of graphemes are found by. -/
def graphemeClass? (name : String) : Option Runs :=
  match name with
  | "cr" => some (.single 0xD)
  | "lf" => some (.single 0xA)
  | "cn" | "control" =>
    let ignored := defaultIgnorable.diff assigned
    some ((Runs.unions [categories ["zl", "zp", "cc", "cf"], ignored]).diff
      (.unions [listed "pcm", extender, .ofText "A D 200C-200D"]))
  | "ex" | "extend" => some extender
  | "zwj" => some (.single 0x200D)
  | "ri" | "regionalindicator" => some (listed "ri")
  | "pp" | "prepend" =>
    some (.union (listed "pcm") (.ofText "D4E 111C2-111C3 113D1 1193F 11941 11A84-11A89 11D46 11F02"))
  | "sm" | "spacingmark" =>
    some (((categories ["mc"]).diff (.union extender
      (.ofText "102B-102C 1038 1062-1064 1067-106D 1083 1087-108C 108F 109A-109C 1A61 1A63-1A64 AA7B AA7D
        11720-11721"))).union (.ofText "E33 EB3"))
  | "l" => some (.ofText "1100-115F A960-A97C")
  | "v" => some (.ofText "1160-11A7 D7B0-D7C6 16D63 16D67-16D6A")
  | "t" => some (.ofText "11A8-11FF D7CB-D7FB")
  | "lv" => some syllables
  | "lvt" => some ((Runs.range 0xAC00 0xD7A3).diff syllables)
  | _ => none

/-- Digits, and the numbers and marks of number that stand among them. -/
def numeric : Runs := digit.union (.ofText "600-605 66B 6DD 890-891 8E2 19DA 110BD 110CD")

/-- Controls of format that stand for nothing in a text. -/
def formats : Runs :=
  (categories ["cf"]).diff (.ofText "600-605 6DD 890-891 8E2 200C-200D 110BD 110CD E0020-E007F")

/-- Marks that follow a letter. -/
def marks : Runs := .unions [graphemeExtend, categories ["mc"], listed "emod"]

def hebrewLetters : Runs := ((script? "hebrew").getD .empty).inter (categories ["lo"])

/-- Syllables of Katakana, and their marks. -/
def katakana : Runs := ((script? "katakana").getD .empty).union (.ofText "3031-3035 309B-309C 30A0 30FC FF70")

/-- Letters of scripts that put no space between words. -/
def unspacedLetters : Runs :=
  .ofText "E01-E30 E32-E33 E40-E46 E81-E82 E84 E86-E8A E8C-EA3 EA5 EA7-EB0 EB2-EB3 EBD EC0-EC4 EC6 EDC-EDF
    1000-102A 103F 1050-1055 105A-105D 1061 1065-1066 106E-1070 1075-1081 108E 1780-17B3 17D7 17DC 1950-196D
    1970-1974 1980-19AB 19B0-19C9 1A20-1A54 1AA7 A9E0-A9E4 A9E6-A9EF A9FA-A9FE AA60-AA76 AA7A AA7E-AAAF
    AAB1 AAB5-AAB6 AAB9-AABD AAC0 AAC2 AADB-AADD 11700-1171A 11740-11746"

/-- Marks that count as letters. -/
def letterMarks : Runs :=
  .ofText "B8 2C2-2C5 2D2-2D7 2DE-2DF 2E5-2EB 2ED 2EF-2FF 55A-55C 55E 58A 5F3 70F A708-A716 A720-A721
    A789-A78A AB5B"

/-- The classes that the limits of words are found by. -/
def wordClass? (name : String) : Option Runs :=
  match name with
  | "cr" => some (.single 0xD)
  | "lf" => some (.single 0xA)
  | "nl" | "newline" => some (.ofText "B-C 85 2028-2029")
  | "extend" => some marks
  | "zwj" => some (.single 0x200D)
  | "fo" | "format" => some (formats.diff (.ofText "70F 200B"))
  | "ka" | "katakana" => some katakana
  | "hl" | "hebrewletter" => some hebrewLetters
  | "le" | "aletter" =>
    let others := .unions [marks, hebrewLetters, katakana, listed "ideo", (script? "hiragana").getD .empty,
      unspacedLetters]
    some ((alphabetic.diff others).union letterMarks)
  | "sq" | "singlequote" => some (.single 0x27)
  | "dq" | "doublequote" => some (.single 0x22)
  | "mb" | "midnumlet" => some (.ofText "2E 2018-2019 2024 FE52 FF07 FF0E")
  | "ml" | "midletter" => some (.ofText "3A B7 387 55F 5F4 2027 FE13 FE55 FF1A")
  | "mn" | "midnum" => some (.ofText "2C 3B 37E 589 60C-60D 66C 7F8 2044 FE50 FE54 FF0C FF1B")
  | "nu" | "numeric" => some numeric
  | "ex" | "extendnumlet" => some (.union (categories ["pc"]) (.single 0x202F))
  | "ri" | "regionalindicator" => some (listed "ri")
  | "wsegspace" => some ((categories ["zs"]).diff (.ofText "A0 2007 202F"))
  | _ => none

/-- Small letters of a sentence. -/
def sentenceLower : Runs := (lowercase.diff graphemeExtend).diff (.ofText "10D0-10FA 10FD-10FF")

/-- Capital letters of a sentence. -/
def sentenceUpper : Runs := (uppercase.union (categories ["lt"])).diff (.ofText "1C90-1CBA 1CBD-1CBF")

/-- Marks of a sentence. -/
def sentenceExtend : Runs := .unions [graphemeExtend, categories ["mc"], .single 0x200D]

def fullStops : Runs := .ofText "2E 2024 FE52 FF0E"

/-- The classes that the limits of sentences are found by. -/
def sentenceClass? (name : String) : Option Runs :=
  match name with
  | "cr" => some (.single 0xD)
  | "lf" => some (.single 0xA)
  | "se" | "sep" => some (.ofText "85 2028-2029")
  | "ex" | "extend" => some sentenceExtend
  | "fo" | "format" => some formats
  | "sp" => some (blank.diff (.ofText "A D 85 2028-2029"))
  | "lo" | "lower" => some sentenceLower
  | "up" | "upper" => some sentenceUpper
  | "le" | "oletter" =>
    some ((alphabetic.union (.single 0x5F3)).diff (.unions [sentenceLower, sentenceUpper, sentenceExtend]))
  | "nu" | "numeric" => some (numeric.union (.single 0x66C))
  | "at" | "aterm" => some fullStops
  | "st" | "sterm" => some ((listed "sterm").diff fullStops)
  | "sc" | "scontinue" =>
    some (.ofText "2C-2D 3A-3B 37E 55D 60C-60D 7F8 1802 1808 2013-2014 3001 FE10-FE11 FE13-FE14 FE31-FE32
      FE50-FE51 FE54-FE55 FE58 FE63 FF0C-FF0D FF1A-FF1B FF64")
  | "cl" | "close" =>
    some (.union (categories ["ps", "pe", "pi", "pf"])
      (.ofText "22 27 275B-2760 2E00-2E01 2E06-2E08 2E0B 1F676-1F678"))
  | _ => none

/-! ## Names -/

/-- A name in loose spelling: in small letters, without blanks, hyphens and lows, characters outside
ASCII, and an `is` before it. The name `isc` is kept. -/
def looseName (name : String) : String :=
  let isKept (c : Char) : Bool := c.toNat < 128 && c != ' ' && c != '_' && c != '-'
  let spelled (cs : List Char) : String := .ofList ((cs.filter isKept).map Char.toLower)
  match name.toList with
  | i :: s :: rest =>
    if i.toLower = 'i' ∧ s.toLower = 's' then
      if spelled rest = "c" then "isc" else spelled rest
    else spelled (i :: s :: rest)
  | cs => spelled cs

/-- The characters of all categories, of those that are assigned, of ASCII, or of one category. -/
def generalCategory? (name : String) : Option Runs :=
  match name with
  | "any" => some .all
  | "assigned" => some assigned
  | "ascii" => some (.range 0 0x7F)
  | _ => category? name

/-- The characters of a property that is named by one name: a trait, a category or a script. Three
names that are short for other properties stand for categories. -/
def ofName? (name : String) : Option Runs :=
  let name := looseName name
  if ["cf", "sc", "lc"].contains name then generalCategory? name
  else trait? name <|> generalCategory? name <|> script? name

/-- The characters for which the property has the value. -/
def ofNameAndValue? (name value : String) : Option Runs :=
  let value := looseName value
  match looseName name with
  | "gc" | "generalcategory" => generalCategory? value
  | "sc" | "script" => script? value
  | "scx" | "scriptextensions" => scriptExtension? value
  | "age" => edition? value
  | "gcb" | "graphemeclusterbreak" => graphemeClass? value
  | "wb" | "wordbreak" => wordClass? value
  | "sb" | "sentencebreak" => sentenceClass? value
  | _ => none

end HttpExchange.Text.Property
