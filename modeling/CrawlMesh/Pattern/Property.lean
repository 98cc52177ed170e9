/-
# Named properties of characters

The names under which a pattern may ask for a property of characters: general categories,
scripts and a number of others. Case, blanks, dashes, underscores and a leading `is` do not count
in a name.
-/
import CrawlMesh.Pattern.CharSet
import CrawlMesh.Text.Case

namespace CrawlMesh.Pattern

set_option autoImplicit false

open CharSet

/-- General categories that have seven-bit members. -/
def categories : List (List String × CharSet) :=
  [(["l", "letter"], letter), (["lu", "uppercaseletter"], upper),
    (["ll", "lowercaseletter"], lower), (["lc", "casedletter"], letter),
    (["n", "number"], digit), (["nd", "decimalnumber", "digit"], digit),
    (["p", "punctuation", "punct"], punctuation), (["pc", "connectorpunctuation"], connector),
    (["pd", "dashpunctuation"], dash), (["ps", "openpunctuation"], opening),
    (["pe", "closepunctuation"], closing), (["po", "otherpunctuation"], otherPunctuation),
    (["s", "symbol"], sign), (["sc", "currencysymbol"], currency),
    (["sm", "mathsymbol"], mathSign), (["sk", "modifiersymbol"], modifier),
    (["z", "separator"], blankSign), (["zs", "spaceseparator"], blankSign),
    (["c", "other"], control), (["cc", "control", "cntrl"], control),
    (["any"], all), (["ascii"], ofPredicate (·.toNat < 0x80)), (["assigned"], all)]

/-- General categories without seven-bit members. -/
def farCategories : List String :=
  ["lt", "titlecaseletter", "lm", "modifierletter", "lo", "otherletter", "m", "mark",
    "combiningmark", "mn", "nonspacingmark", "mc", "spacingmark", "me", "enclosingmark", "nl",
    "letternumber", "no", "othernumber", "pi", "initialpunctuation", "pf", "finalpunctuation",
    "so", "othersymbol", "zl", "lineseparator", "zp", "paragraphseparator", "cf", "format", "co",
    "privateuse", "cn", "unassigned"]

/-- Other properties that have seven-bit members. -/
def properties : List (List String × CharSet) :=
  [(["alphabetic", "alpha"], letter), (["lowercase"], lower), (["uppercase"], upper),
    (["whitespace", "space", "wspace"], space), (["asciihexdigit", "ahex"], hexDigit),
    (["hexdigit", "hex"], hexDigit), (["cased"], letter), (["idstart", "ids"], letter),
    (["idcontinue", "idc"], word), (["xidstart", "xids"], letter), (["xidcontinue", "xidc"], word),
    (["dash"], dash), (["graphemebase", "grbase"], control.complement),
    (["patternwhitespace", "patws"], space),
    (["patternsyntax", "patsyn"], (punctuation.union sign).difference connector),
    (["caseignorable", "ci"], ofText "'.:^`"), (["math"], ofText "+<=>^|~"),
    (["quotationmark", "qmark"], ofText "\"'"), (["terminalpunctuation", "term"], ofText "!,.:;?"),
    (["sentenceterminal", "sterm"], ofText "!.?"), (["bidimirrored", "bidim"], ofText "()<>[]\x7b\x7d"),
    (["changeswhenlowercased", "cwl"], upper),
    (["changeswhenuppercased", "cwu"], lower), (["changeswhentitlecased", "cwt"], lower),
    (["changeswhencasefolded", "cwcf"], upper.union (single longS)),
    (["changeswhencasemapped", "cwcm"], letter), (["softdotted", "sd"], ofText "ij"),
    (["emoji"], digit.union (ofText "#*")), (["emojicomponent", "ecomp"], digit.union (ofText "#*"))]

/-- Other properties without seven-bit members. -/
def farProperties : List String :=
  ["bidicontrol", "bidic", "defaultignorablecodepoint", "di", "deprecated", "dep", "diacritic",
    "dia", "emojimodifier", "emod", "emojimodifierbase", "ebase", "emojipresentation", "epres",
    "extendedpictographic", "extpict", "extender", "ext", "graphemeextend", "grext", "ideographic",
    "ideo", "idsbinaryoperator", "idsb", "idstrinaryoperator", "idst", "joincontrol", "joinc",
    "logicalorderexception", "loe", "noncharactercodepoint", "nchar", "otheralphabetic", "oalpha",
    "othergraphemeextend", "ogrext", "otherlowercase", "olower", "othermath", "omath",
    "otheruppercase", "oupper", "prependedconcatenationmark", "pcm", "radical",
    "regionalindicator", "ri", "unifiedideograph", "uideo", "variationselector", "vs"]

/-- Scripts that have seven-bit members. -/
def scripts : List (List String × CharSet) :=
  [(["latin", "latn"], letter.difference (ofText "")),
    (["common", "zyyy"], (letter.complement.difference rest))]

/-- Scripts without seven-bit members. -/
def farScripts : List String :=
  ["adlam", "ahom", "anatolianhieroglyphs", "arabic", "arab", "armenian", "armn", "avestan",
    "balinese", "bamum", "bassavah", "batak", "bengali", "beng", "bhaiksuki", "bopomofo", "bopo",
    "brahmi", "braille", "buginese", "buhid", "canadianaboriginal", "carian",
    "caucasianalbanian", "chakma", "cham", "cherokee", "chorasmian", "coptic", "cuneiform",
    "cypriot", "cyprominoan", "cyrillic", "cyrl", "deseret", "devanagari", "deva", "divesakuru",
    "dogra", "duployan", "egyptianhieroglyphs", "elbasan", "elymaic", "ethiopic", "ethi",
    "georgian", "geor", "glagolitic", "gothic", "grantha", "greek", "grek", "gujarati", "gujr",
    "gunjalagondi", "gurmukhi", "guru", "han", "hani", "hangul", "hang", "hanifirohingya",
    "hanunoo", "hatran", "hebrew", "hebr", "hiragana", "hira", "imperialaramaic", "inherited",
    "zinh", "qaai", "inscriptionalpahlavi", "inscriptionalparthian", "javanese", "kaithi",
    "kannada", "knda", "katakana", "kana", "kawi", "kayahli", "kharoshthi", "khitansmallscript",
    "khmer", "khmr", "khojki", "khudawadi", "lao", "laoo", "lepcha", "limbu", "lineara", "linearb",
    "lisu", "lycian", "lydian", "mahajani", "makasar", "malayalam", "mlym", "mandaic",
    "manichaean", "marchen", "masaramgondi", "medefaidrin", "meeteimayek", "mendekikakui",
    "meroiticcursive", "meroitichieroglyphs", "miao", "modi", "mongolian", "mong", "mro",
    "multani", "myanmar", "mymr", "nabataean", "nagmundari", "nandinagari", "newa", "newtailue",
    "nko", "nushu", "nyiakengpuachuehmong", "ogham", "olchiki", "oldhungarian", "olditalic",
    "oldnortharabian", "oldpermic", "oldpersian", "oldsogdian", "oldsoutharabian", "oldturkic",
    "olduyghur", "oriya", "orya", "osage", "osmanya", "pahawhhmong", "palmyrene", "paucinhau",
    "phagspa", "phoenician", "psalterpahlavi", "rejang", "runic", "runr", "samaritan",
    "saurashtra", "sharada", "shavian", "siddham", "signwriting", "sinhala", "sinh", "sogdian",
    "sorasompeng", "soyombo", "sundanese", "sylotinagri", "syriac", "syrc", "tagalog", "tagbanwa",
    "taile", "taitham", "taiviet", "takri", "tamil", "taml", "tangsa", "tangut", "telugu", "telu",
    "thaana", "thaa", "thai", "tibetan", "tibt", "tifinagh", "tirhuta", "toto", "ugaritic", "vai",
    "vithkuqi", "wancho", "warangciti", "yezidi", "yi", "yiii", "zanabazarsquare"]

/-- A name without what does not count. -/
def plainName (s : String) : String :=
  let name := String.ofList ((s.toList.filter fun c => !(c == ' ' || c == '_' || c == '-')).map
    Char.toLower)
  if name.startsWith "is" && name.length > 2 then String.ofList (name.toList.drop 2) else name

/-- The set of a name among known ones; the rest is in no far set as far as can be told. -/
def lookUp? (near : List (List String × CharSet)) (far : List String) (name : String) :
    Option CharSet :=
  match near.find? (·.1.contains name) with
  | some (_, s) => some s
  | none => if far.contains name then some rest else none

def category? (name : String) : Option CharSet := lookUp? categories farCategories name

def script? (name : String) : Option CharSet := lookUp? scripts farScripts name

/-- The set of a property on its own, or of a value of a property. -/
def property? (s : String) : Option CharSet :=
  let named (name value : String) : Option CharSet :=
    if ["gc", "generalcategory", "category"].contains name then category? value
    else if ["sc", "script", "scx", "scriptextensions"].contains name then script? value
    else none
  match s.splitOn "!=", s.splitOn "=", s.splitOn ":" with
  | [name, value], _, _ => (named (plainName name) (plainName value)).map complement
  | _, [name, value], _ => named (plainName name) (plainName value)
  | _, _, [name, value] => named (plainName name) (plainName value)
  | _, _, _ =>
    let name := plainName s
    (lookUp? properties farProperties name).or ((category? name).or (script? name))

end CrawlMesh.Pattern
