import Stencil.Regex.CharClass
import Stencil.Text.Age
import Stencil.Text.Cluster
import Stencil.Text.Feature
import Stencil.Text.ScriptExtension

/-! The properties of characters that an expression may name. -/
namespace Stencil
namespace Regex
namespace Property

open Text

/-- The characters of some categories. -/
def categories (names : List String) : CharClass :=
  .among ((Category.all.filter fun c => names.contains c.1).flatMap (·.2.2))

def assigned : CharClass := .among (Category.all.flatMap (·.2.2))

def blank : CharClass := .among (runs "9-D 20 85 A0 1680 2000-200A 2028-2029 202F 205F 3000")

def letters : CharClass := categories ["lu", "ll", "lt", "lm", "lo"]

def marks : CharClass := categories ["mn", "mc", "me"]

def digits : CharClass := categories ["nd"]

def alphabetic : CharClass :=
  .union [letters, categories ["nl"], .among Text.Property.otherAlphabetic]

def uppercase : CharClass :=
  .either (categories ["lu"]) (.among Text.Property.otherUppercase)

def lowercase : CharClass :=
  .either (categories ["ll"]) (.among Text.Property.otherLowercase)

def cased : CharClass := .union [uppercase, lowercase, categories ["lt"]]

/-- Marks and signs that the search for a letter passes over. -/
def caseIgnorable : CharClass :=
  .either (categories ["mn", "me", "cf", "lm", "sk"])
    (.among (runs "27 2E 3A AD B7 387 55F 5F4 2018-2019 2024 2027 FE13 FE52 FE55 FF07 FF0E FF1A"))

/-- What words are made of. -/
def word : CharClass :=
  .union [alphabetic, marks, digits, categories ["pc"], .range 0x200C 0x200D]

def joinControl : CharClass := .range 0x200C 0x200D

def graphemeExtend : CharClass :=
  .either (categories ["mn", "me"]) (.among Text.Property.otherGraphemeExtend)

/-- Marks of every kind. -/
def extend : CharClass := .either graphemeExtend (categories ["mc"])

def graphemeBase : CharClass :=
  .without assigned (.either (categories ["cc", "cf", "co", "zl", "zp"]) graphemeExtend)

def skinColours : CharClass := .range 0x1F3FB 0x1F3FF

def regional : CharClass := .range 0x1F1E6 0x1F1FF

def otherIdStart : CharClass := .among (runs "1885-1886 2118 212E 309B-309C")

def otherIdContinue : CharClass := .among (runs "B7 387 1369-1371 19DA 200C-200D 30FB FF65")

/-- What names start with. -/
def idStart : CharClass :=
  .without (.union [letters, categories ["nl"], otherIdStart]) (.among (runs "2E2F"))

/-- What names go on with. -/
def idContinue : CharClass :=
  .union [idStart, categories ["mn", "mc", "nd", "pc"], otherIdContinue]

/-- Characters that no name has in every form it can be written in. -/
def unstable : String := "37A 309B-309C FC5E-FC63 FDFA-FDFB FE70-FE7E/2"

def xidStart : CharClass := .without idStart (.among (runs (unstable ++ " E33 EB3 FF9E-FF9F")))

def xidContinue : CharClass := .without idContinue (.among (runs unstable))

/-- Characters that a mapping of cases changes. -/
def changedBy (rows : List Case.Row) (expansions : List (Nat × List Nat)) (ascii : CharClass) :
    CharClass :=
  .union [ascii, .among (rows.map fun r => (r.1, r.2.1, r.2.2.1)),
    .among (expansions.map fun e => (e.1, e.1, 1))]

def capitals : CharClass := .range 65 90

def smallLetters : CharClass := .range 97 122

def lowered : CharClass := changedBy Case.lowerRows Case.lowerExpansions capitals

def raised : CharClass := changedBy Case.upperRows Case.upperExpansions smallLetters

/-- The front of a word has letters of its own, which do not change there. -/
def titled : CharClass :=
  .either
    (.without raised (.among (runs "1C5 1C8 1CB 1F2 10D0-10FA 10FD-10FF 1F88-1F8F 1F98-1F9F
      1FA8-1FAF 1FBC 1FCC 1FFC")))
    (.among (runs "1C4 1C7 1CA 1F1"))

/-- What is not its own representative among the cases. -/
def folded : CharClass :=
  .either (.without lowered (.among (runs "13A0-13F5")))
    (.among (runs "B5 DF 149 17F 345 3C2 3D0-3D1 3D5-3D6 3F0-3F1 3F5 587 13F8-13FD 1C80-1C88
      1E9A-1E9B 1F80-1F87 1F90-1F97 1FA0-1FA7 1FB2-1FB4 1FB7 1FC2-1FC4 1FC7 1FF2-1FF4 1FF7
      AB70-ABBF FB00-FB06 FB13-FB17"))

/-- Properties that a character has or has not, by their names. -/
def binary : List (List String × CharClass) := [
    (["asciihexdigit", "ahex"], .union [.range 48 57, .range 65 70, .range 97 102]),
    (["alphabetic", "alpha"], alphabetic),
    (["bidicontrol", "bidic"], .among Feature.bidiControl),
    (["caseignorable", "ci"], caseIgnorable),
    (["cased"], cased),
    (["changeswhencasefolded", "cwcf"], folded),
    (["changeswhencasemapped", "cwcm"], .either lowered raised),
    (["changeswhenlowercased", "cwl"], lowered),
    (["changeswhentitlecased", "cwt"], titled),
    (["changeswhenuppercased", "cwu"], raised),
    (["dash"], .among Feature.dash),
    (["defaultignorablecodepoint", "di"], .among Feature.defaultIgnorable),
    (["deprecated", "dep"], .among Feature.deprecated),
    (["diacritic", "dia"], .among Feature.diacritic),
    (["emoji"], .among Feature.emoji),
    (["emojicomponent", "ecomp"], .among Feature.emojiComponent),
    (["emojimodifier", "emod"], skinColours),
    (["emojimodifierbase", "ebase"], .among Feature.emojiBase),
    (["emojipresentation", "epres"], .among Feature.emojiPresentation),
    (["extendedpictographic", "extpict"], .among Feature.pictographic),
    (["extender", "ext"], .among Feature.extender),
    (["graphemebase", "grbase"], graphemeBase),
    (["graphemeextend", "grext"], graphemeExtend),
    (["graphemelink", "grlink"], .among Feature.graphemeLink),
    (["hexdigit", "hex"], .among (runs "30-39 41-46 61-66 FF10-FF19 FF21-FF26 FF41-FF46")),
    (["hyphen"], .among Feature.hyphen),
    (["idsbinaryoperator", "idsb"], .among (runs "2FF0-2FF1 2FF4-2FFD 31EF")),
    (["idstrinaryoperator", "idst"], .range 0x2FF2 0x2FF3),
    (["idsunaryoperator", "idsu"], .range 0x2FFE 0x2FFF),
    (["idcontinue", "idc"], idContinue),
    (["idstart", "ids"], idStart),
    (["ideographic", "ideo"], .among Feature.ideographic),
    (["joincontrol", "joinc"], joinControl),
    (["logicalorderexception", "loe"], .among Feature.logicalOrderException),
    (["lowercase", "lower"], lowercase),
    (["math"], .among Feature.math),
    (["noncharactercodepoint", "nchar"], .among Feature.noncharacter),
    (["otheralphabetic", "oalpha"], .among Text.Property.otherAlphabetic),
    (["othergraphemeextend", "ogrext"], .among Text.Property.otherGraphemeExtend),
    (["otheridcontinue", "oidc"], otherIdContinue),
    (["otheridstart", "oids"], otherIdStart),
    (["otherlowercase", "olower"], .among Text.Property.otherLowercase),
    (["otheruppercase", "oupper"], .among Text.Property.otherUppercase),
    (["othermath", "omath"], .without (.among Feature.math) (categories ["sm"])),
    (["patternsyntax", "patsyn"], .among Feature.patternSyntax),
    (["patternwhitespace", "patws"], .among (runs "9-D 20 85 200E-200F 2028-2029")),
    (["prependedconcatenationmark", "pcm"], .among Feature.prependedMark),
    (["quotationmark", "qmark"], .among Feature.quotationMark),
    (["radical"], .among Feature.radical),
    (["regionalindicator", "ri"], regional),
    (["sentenceterminal", "sterm"], .among Feature.sentenceTerminal),
    (["softdotted", "sd"], .among Feature.softDotted),
    (["terminalpunctuation", "term"], .among Feature.terminalPunctuation),
    (["unifiedideograph", "uideo"], .among Feature.unifiedIdeograph),
    (["uppercase", "upper"], uppercase),
    (["variationselector", "vs"], .among Feature.variationSelector),
    (["whitespace", "wspace", "space"], blank),
    (["xidcontinue", "xidc"], xidContinue),
    (["xidstart", "xids"], xidStart)]

/-- Groups of categories. -/
def groups : List (List String × List String) := [
    (["l", "letter"], ["lu", "ll", "lt", "lm", "lo"]),
    (["lc", "casedletter"], ["lu", "ll", "lt"]),
    (["m", "mark", "combiningmark"], ["mn", "mc", "me"]),
    (["n", "number"], ["nd", "nl", "no"]),
    (["p", "punctuation", "punct"], ["pc", "pd", "ps", "pe", "pi", "pf", "po"]),
    (["s", "symbol"], ["sm", "sc", "sk", "so"]),
    (["z", "separator"], ["zs", "zl", "zp"]),
    (["digit"], ["nd"]),
    (["cntrl"], ["cc"])]

def unassigned : CharClass := .outside assigned

def category? (name : String) : Option CharClass :=
  match groups.find? fun g => g.1.contains name with
  | some g => some (categories g.2)
  | none =>
    if name = "any" then some (.range 0 0x10FFFF)
    else if name = "ascii" then some (.range 0 127)
    else if name = "assigned" then some assigned
    else if name = "cn" ∨ name = "unassigned" then some unassigned
    else if name = "c" ∨ name = "other" then
      some (.either unassigned (categories ["cc", "cf", "co"]))
    else (Category.all.find? fun c => c.1 == name || c.2.1 == name).map fun c => .among c.2.2

def script? (name : String) : Option CharClass :=
  (Script.all.find? fun s => s.1 == name || s.2.1 == name).map fun s => .among s.2.2

def scriptExtension? (name : String) : Option CharClass :=
  (Script.users? name).map fun (users, claimed) => .without (.among users) (.among claimed)

/-! ### Where clusters, words and sentences break -/

def syllables : CharClass := .range 0xAC00 0xD7A3

def openSyllables : CharClass := .among [(0xAC00, 0xD788, 28)]

def spacingMark : CharClass :=
  .either (.without (categories ["mc"]) (.either (.among Joining.separateMarks) graphemeExtend))
    (.among (runs "E33 EB3"))

def clusterBreak : List (List String × CharClass) := [
    (["cn", "control"], .among Joining.controls),
    (["cr"], .range 13 13),
    (["ex", "extend"], .either graphemeExtend skinColours),
    (["l"], .among (runs "1100-115F A960-A97C")),
    (["lf"], .range 10 10),
    (["lv"], openSyllables),
    (["lvt"], .without syllables openSyllables),
    (["pp", "prepend"], .among Joining.leadings),
    (["ri", "regionalindicator"], regional),
    (["sm", "spacingmark"], spacingMark),
    (["t"], .among (runs "11A8-11FF D7CB-D7FB")),
    (["v"], .among (runs "1160-11A7 D7B0-D7C6")),
    (["zwj"], .range 0x200D 0x200D)]

def formatSigns : CharClass :=
  .without (categories ["cf"]) (.among (runs "200C-200D E0020-E007F"))

def hebrewLetter : CharClass :=
  .both (categories ["lo"]) ((script? "hebrew").getD .nothing)

def kanaWord : CharClass := .among Feature.kanaWord

/-- Letters that words are made of where spaces stand between words. -/
def wordLetter : CharClass :=
  .either
    (.without alphabetic (.union [.among Feature.ideographic, kanaWord, hebrewLetter, extend,
      .among Feature.complexContext, (script? "hiragana").getD .nothing]))
    (.among Feature.letterLike)

def wordBreak : List (List String × CharClass) := [
    (["le", "aletter"], wordLetter),
    (["cr"], .range 13 13),
    (["dq", "doublequote"], .range 34 34),
    (["extend"], .either extend skinColours),
    (["ex", "extendnumlet"], .either (categories ["pc"]) (.range 0x202F 0x202F)),
    (["fo", "format"], .without formatSigns (.range 0x200B 0x200B)),
    (["hl", "hebrewletter"], hebrewLetter),
    (["ka", "katakana"], kanaWord),
    (["lf"], .range 10 10),
    (["ml", "midletter"], .among Feature.midLetter),
    (["mn", "midnum"], .among Feature.midNumber),
    (["mb", "midnumlet"], .among (runs "2E 2018-2019 2024 FE52 FF07 FF0E")),
    (["nl", "newline"], .among (runs "B-C 85 2028-2029")),
    (["nu", "numeric"], .either digits (.range 0x66B 0x66B)),
    (["ri", "regionalindicator"], regional),
    (["sq", "singlequote"], .range 39 39),
    (["wsegspace"], .among (runs "20 1680 2000-2006 2008-200A 205F 3000")),
    (["zwj"], .range 0x200D 0x200D)]

/-- Full stops that need not end a sentence. -/
def stops : CharClass := .among (runs "2E 2024 FE52 FF0E")

def georgianSmall : CharClass := .among (runs "10D0-10FA 10FD-10FF")

def sentenceLower : CharClass := .without lowercase (.either extend georgianSmall)

def sentenceUpper : CharClass :=
  .without (.either uppercase (categories ["lt"])) (.among (runs "1C90-1CBA 1CBD-1CBF"))

def sentenceBreak : List (List String × CharClass) := [
    (["at", "aterm"], stops),
    (["cr"], .range 13 13),
    (["cl", "close"],
      .either (categories ["ps", "pe", "pi", "pf"]) (.among Feature.closing)),
    (["ex", "extend"], .either extend (.range 0x200D 0x200D)),
    (["fo", "format"], formatSigns),
    (["lf"], .range 10 10),
    (["lo", "lower"], sentenceLower),
    (["nu", "numeric"], .either digits (.range 0x66B 0x66C)),
    (["le", "oletter"],
      .without (.either alphabetic (.range 0x5F3 0x5F3))
        (.union [sentenceLower, sentenceUpper, extend])),
    (["sc", "scontinue"], .among Feature.sentenceContinue),
    (["st", "sterm"], .without (.among Feature.sentenceTerminal) stops),
    (["se", "sep"], .among (runs "85 2028-2029")),
    (["sp"], .without blank (.among (runs "A D 85 2028-2029"))),
    (["up", "upper"], sentenceUpper)]

def among? (table : List (List String × CharClass)) (name : String) : Option CharClass :=
  (table.find? fun e => e.1.contains name).map (·.2)

/-- A property by its name: one that a character has or has not, a category or a script. -/
def named? (name : String) : Option CharClass :=
  ((among? binary name).or (category? name)).or (script? name)

/-- A property that has one of several values. -/
def valued? (name value : String) : Option CharClass :=
  if name = "gc" ∨ name = "generalcategory" then category? value
  else if name = "sc" ∨ name = "script" then script? value
  else if name = "scx" ∨ name = "scriptextensions" then scriptExtension? value
  else if name = "age" then (Age.upTo? value).map .among
  else if name = "gcb" ∨ name = "graphemeclusterbreak" then among? clusterBreak value
  else if name = "wb" ∨ name = "wordbreak" then among? wordBreak value
  else if name = "sb" ∨ name = "sentencebreak" then among? sentenceBreak value
  else none

end Property
end Regex
end Stencil
