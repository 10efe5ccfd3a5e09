namespace Monitor8080.Pattern

/-!
# Names of character properties

A set of characters may be given by a property of Unicode: by a property that
holds or does not, by a general category or a script, or by a property and its
value. Names are compared without blanks, hyphens, underscores and an `is` in
front, in either letter case. Surrogates are no characters, so their category
has no name here.
-/

/-- A property as it is named, with its value if one is given. -/
structure PropertyName where
  name : List Char
  value? : Option (List Char)
  deriving Repr, DecidableEq

namespace PropertyName

/-- The names of the properties that hold or do not. -/
def binaryNames : List String :=
  ["ahex", "asciihexdigit", "alpha", "alphabetic", "bidic", "bidicontrol", "bidim",
    "bidimirrored", "ci", "caseignorable", "cased", "cwcf", "changeswhencasefolded", "cwcm",
    "changeswhencasemapped", "cwl", "changeswhenlowercased", "cwt", "changeswhentitlecased",
    "cwu", "changeswhenuppercased", "dash", "di", "defaultignorablecodepoint", "dep",
    "deprecated", "dia", "diacritic", "emoji", "ecomp", "emojicomponent", "emod", "emojimodifier",
    "ebase", "emojimodifierbase", "epres", "emojipresentation", "extpict", "extendedpictographic",
    "ext", "extender", "grbase", "graphemebase", "grext", "graphemeextend", "grlink",
    "graphemelink", "hex", "hexdigit", "hyphen", "idsb", "idsbinaryoperator", "idst",
    "idstrinaryoperator", "idsu", "idsunaryoperator", "idcompatmathcontinue", "idcompatmathstart",
    "idc", "idcontinue", "ids", "idstart", "ideo", "ideographic", "joinc", "joincontrol", "loe",
    "logicalorderexception", "lower", "lowercase", "math", "mcm", "modifiercombiningmark",
    "nchar", "noncharactercodepoint", "oalpha", "otheralphabetic", "odi",
    "otherdefaultignorablecodepoint", "ogrext", "othergraphemeextend", "oidc", "otheridcontinue",
    "oids", "otheridstart", "olower", "otherlowercase", "omath", "othermath", "oupper",
    "otheruppercase", "patsyn", "patternsyntax", "patws", "patternwhitespace", "pcm",
    "prependedconcatenationmark", "qmark", "quotationmark", "radical", "ri", "regionalindicator",
    "sterm", "sentenceterminal", "sd", "softdotted", "term", "terminalpunctuation", "uideo",
    "unifiedideograph", "upper", "uppercase", "vs", "variationselector", "wspace", "whitespace",
    "space", "xidc", "xidcontinue", "xids", "xidstart"]

/-- The names of the general categories and of the sets named like them. -/
def categoryNames : List String :=
  ["any", "assigned", "ascii", "c", "other", "cc", "control", "cntrl", "cf", "format", "cn",
    "unassigned", "co", "privateuse", "l", "letter", "lc", "casedletter", "ll", "lowercaseletter",
    "lm", "modifierletter", "lo", "otherletter", "lt", "titlecaseletter", "lu", "uppercaseletter",
    "m", "mark", "combiningmark", "mc", "spacingmark", "me", "enclosingmark", "mn",
    "nonspacingmark", "n", "number", "nd", "decimalnumber", "digit", "nl", "letternumber", "no",
    "othernumber", "p", "punctuation", "punct", "pc", "connectorpunctuation", "pd",
    "dashpunctuation", "pe", "closepunctuation", "pf", "finalpunctuation", "pi",
    "initialpunctuation", "po", "otherpunctuation", "ps", "openpunctuation", "s", "symbol", "sc",
    "currencysymbol", "sk", "modifiersymbol", "sm", "mathsymbol", "so", "othersymbol", "z",
    "separator", "zl", "lineseparator", "zp", "paragraphseparator", "zs", "spaceseparator"]

def scriptNames : List String :=
  ["adlam", "adlm", "aghb", "ahom", "anatolianhieroglyphs", "arab", "arabic", "armenian", "armi",
    "armn", "avestan", "avst", "bali", "balinese", "bamu", "bamum", "bass", "bassavah", "batak",
    "batk", "beng", "bengali", "bhaiksuki", "bhks", "bopo", "bopomofo", "brah", "brahmi", "brai",
    "braille", "bugi", "buginese", "buhd", "buhid", "cakm", "canadianaboriginal", "cans", "cari",
    "carian", "caucasianalbanian", "chakma", "cham", "cher", "cherokee", "chorasmian", "chrs",
    "common", "copt", "coptic", "cpmn", "cprt", "cuneiform", "cypriot", "cyprominoan", "cyrillic",
    "cyrl", "deseret", "deva", "devanagari", "diak", "divesakuru", "dogr", "dogra", "dsrt",
    "dupl", "duployan", "egyp", "egyptianhieroglyphs", "elba", "elbasan", "elym", "elymaic",
    "ethi", "ethiopic", "gara", "garay", "geor", "georgian", "glag", "glagolitic", "gong", "gonm",
    "goth", "gothic", "gran", "grantha", "greek", "grek", "gujarati", "gujr", "gukh",
    "gunjalagondi", "gurmukhi", "guru", "gurungkhema", "han", "hang", "hangul", "hani",
    "hanifirohingya", "hano", "hanunoo", "hatr", "hatran", "hebr", "hebrew", "hira", "hiragana",
    "hluw", "hmng", "hmnp", "hung", "imperialaramaic", "inherited", "inscriptionalpahlavi",
    "inscriptionalparthian", "ital", "java", "javanese", "kaithi", "kali", "kana", "kannada",
    "katakana", "kawi", "kayahli", "khar", "kharoshthi", "khitansmallscript", "khmer", "khmr",
    "khoj", "khojki", "khudawadi", "kiratrai", "kits", "knda", "krai", "kthi", "lana", "lao",
    "laoo", "latin", "latn", "lepc", "lepcha", "limb", "limbu", "lina", "linb", "lineara",
    "linearb", "lisu", "lyci", "lycian", "lydi", "lydian", "mahajani", "mahj", "maka", "makasar",
    "malayalam", "mand", "mandaic", "mani", "manichaean", "marc", "marchen", "masaramgondi",
    "medefaidrin", "medf", "meeteimayek", "mend", "mendekikakui", "merc", "mero",
    "meroiticcursive", "meroitichieroglyphs", "miao", "mlym", "modi", "mong", "mongolian", "mro",
    "mroo", "mtei", "mult", "multani", "myanmar", "mymr", "nabataean", "nagm", "nagmundari",
    "nand", "nandinagari", "narb", "nbat", "newa", "newtailue", "nko", "nkoo", "nshu", "nushu",
    "nyiakengpuachuehmong", "ogam", "ogham", "olchiki", "olck", "oldhungarian", "olditalic",
    "oldnortharabian", "oldpermic", "oldpersian", "oldsogdian", "oldsoutharabian", "oldturkic",
    "olduyghur", "olonal", "onao", "oriya", "orkh", "orya", "osage", "osge", "osma", "osmanya",
    "ougr", "pahawhhmong", "palm", "palmyrene", "pauc", "paucinhau", "perm", "phag", "phagspa",
    "phli", "phlp", "phnx", "phoenician", "plrd", "prti", "psalterpahlavi", "qaac", "qaai",
    "rejang", "rjng", "rohg", "runic", "runr", "samaritan", "samr", "sarb", "saur", "saurashtra",
    "sgnw", "sharada", "shavian", "shaw", "shrd", "sidd", "siddham", "signwriting", "sind",
    "sinh", "sinhala", "sogd", "sogdian", "sogo", "sora", "sorasompeng", "soyo", "soyombo",
    "sund", "sundanese", "sunu", "sunuwar", "sylo", "sylotinagri", "syrc", "syriac", "tagalog",
    "tagb", "tagbanwa", "taile", "taitham", "taiviet", "takr", "takri", "tale", "talu", "tamil",
    "taml", "tang", "tangsa", "tangut", "tavt", "telu", "telugu", "tfng", "tglg", "thaa",
    "thaana", "thai", "tibetan", "tibt", "tifinagh", "tirh", "tirhuta", "tnsa", "todhri", "todr",
    "toto", "tulutigalari", "tutg", "ugar", "ugaritic", "vai", "vaii", "vith", "vithkuqi",
    "wancho", "wara", "warangciti", "wcho", "xpeo", "xsux", "yezi", "yezidi", "yi", "yiii",
    "zanabazarsquare", "zanb", "zinh", "zyyy"]

/-- The versions in which characters came up. -/
def ages : List String :=
  ["1.1", "2.0", "2.1", "3.0", "3.1", "3.2", "4.0", "4.1", "5.0", "5.1", "5.2", "6.0", "6.1",
    "6.2", "6.3", "7.0", "8.0", "9.0", "10.0", "11.0", "12.0", "12.1", "13.0", "14.0", "15.0",
    "15.1", "16.0", "v11", "v20", "v21", "v30", "v31", "v32", "v40", "v41", "v50", "v51", "v52",
    "v60", "v61", "v62", "v63", "v70", "v80", "v90", "v100", "v110", "v120", "v121", "v130",
    "v140", "v150", "v151", "v160"]

/-- The names for where a grapheme ends. -/
def graphemeBreaks : List String :=
  ["cn", "control", "cr", "ex", "extend", "l", "lf", "lv", "lvt", "pp", "prepend", "ri",
    "regionalindicator", "sm", "spacingmark", "t", "v", "zwj"]

/-- The names for where a word ends. -/
def wordBreaks : List String :=
  ["le", "aletter", "cr", "dq", "doublequote", "ex", "extendnumlet", "extend", "fo", "format",
    "hl", "hebrewletter", "ka", "katakana", "lf", "ml", "midletter", "mn", "midnum", "mb",
    "midnumlet", "nl", "newline", "nu", "numeric", "ri", "regionalindicator", "sq", "singlequote",
    "wsegspace", "zwj"]

/-- The names for where a sentence ends. -/
def sentenceBreaks : List String :=
  ["at", "aterm", "cl", "close", "cr", "ex", "extend", "fo", "format", "lf", "lo", "lower", "nu",
    "numeric", "le", "oletter", "sc", "scontinue", "se", "sep", "sp", "st", "sterm", "up",
    "upper"]

/-- The values that a property may be given with. -/
def valueNames (name : String) : List String :=
  match name with
  | "gc" | "generalcategory" => categoryNames
  | "sc" | "script" | "scx" | "scriptextensions" => scriptNames
  | "age" => ages
  | "gcb" | "graphemeclusterbreak" => graphemeBreaks
  | "wb" | "wordbreak" => wordBreaks
  | "sb" | "sentencebreak" => sentenceBreaks
  | _ => []

/-- The characters of a name that count. -/
def significant (cs : List Char) : List Char :=
  (cs.filter fun c => c.toNat < 0x80 && c != ' ' && c != '_' && c != '-').map Char.toLower

/-- A name as names are compared; `isc` is a name of its own, not the category `c`. -/
def normal (cs : List Char) : String :=
  let isMarked := (cs.take 2).map Char.toLower == ['i', 's']
  let name := significant (if isMarked then cs.drop 2 else cs)
  String.ofList (if isMarked && name == ['c'] then ['i', 's', 'c'] else name)

/-- Whether there is a property of that name with that value. -/
def isKnown (property : PropertyName) : Bool :=
  let name := normal property.name
  match property.value? with
  | some value => (valueNames name).contains (normal value)
  | none =>
      binaryNames.contains name || categoryNames.contains name || scriptNames.contains name

end PropertyName

end Monitor8080.Pattern
