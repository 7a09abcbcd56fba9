/-!
# Names of properties and their values

Names are compared after dropping case, blanks, underscores, hyphens and a leading "is". Each row
holds the stored name and the spellings that stand for it.
-/

set_option autoImplicit false

namespace MarkerSweep.Unicode

/-- A stored name and its spellings. -/
abbrev Alias := String × List String

def categoryAliases : List Alias :=
  [("C", ["c", "other"]),
   ("Cc", ["cc", "control", "cntrl"]),
   ("Cf", ["cf", "format"]),
   ("Cn", ["cn", "unassigned"]),
   ("Co", ["co", "privateuse"]),
   ("Cs", ["cs", "surrogate"]),
   ("L", ["l", "letter"]),
   ("LC", ["lc", "casedletter"]),
   ("Ll", ["ll", "lowercaseletter"]),
   ("Lm", ["lm", "modifierletter"]),
   ("Lo", ["lo", "otherletter"]),
   ("Lt", ["lt", "titlecaseletter"]),
   ("Lu", ["lu", "uppercaseletter"]),
   ("M", ["m", "mark", "combiningmark"]),
   ("Mc", ["mc", "spacingmark"]),
   ("Me", ["me", "enclosingmark"]),
   ("Mn", ["mn", "nonspacingmark"]),
   ("N", ["n", "number"]),
   ("Nd", ["nd", "decimalnumber", "digit"]),
   ("Nl", ["nl", "letternumber"]),
   ("No", ["no", "othernumber"]),
   ("P", ["p", "punctuation", "punct"]),
   ("Pc", ["pc", "connectorpunctuation"]),
   ("Pd", ["pd", "dashpunctuation"]),
   ("Pe", ["pe", "closepunctuation"]),
   ("Pf", ["pf", "finalpunctuation"]),
   ("Pi", ["pi", "initialpunctuation"]),
   ("Po", ["po", "otherpunctuation"]),
   ("Ps", ["ps", "openpunctuation"]),
   ("S", ["s", "symbol"]),
   ("Sc", ["sc", "currencysymbol"]),
   ("Sk", ["sk", "modifiersymbol"]),
   ("Sm", ["sm", "mathsymbol"]),
   ("So", ["so", "othersymbol"]),
   ("Z", ["z", "separator"]),
   ("Zl", ["zl", "lineseparator"]),
   ("Zp", ["zp", "paragraphseparator"]),
   ("Zs", ["zs", "spaceseparator"])]

def scriptAliases : List Alias :=
  [("Adlam", ["adlm", "adlam"]),
   ("Caucasian_Albanian", ["aghb", "caucasianalbanian"]),
   ("Ahom", ["ahom"]),
   ("Arabic", ["arab", "arabic"]),
   ("Imperial_Aramaic", ["armi", "imperialaramaic"]),
   ("Armenian", ["armn", "armenian"]),
   ("Avestan", ["avst", "avestan"]),
   ("Balinese", ["bali", "balinese"]),
   ("Bamum", ["bamu", "bamum"]),
   ("Bassa_Vah", ["bass", "bassavah"]),
   ("Batak", ["batk", "batak"]),
   ("Bengali", ["beng", "bengali"]),
   ("Bhaiksuki", ["bhks", "bhaiksuki"]),
   ("Bopomofo", ["bopo", "bopomofo"]),
   ("Brahmi", ["brah", "brahmi"]),
   ("Braille", ["brai", "braille"]),
   ("Buginese", ["bugi", "buginese"]),
   ("Buhid", ["buhd", "buhid"]),
   ("Chakma", ["cakm", "chakma"]),
   ("Canadian_Aboriginal", ["cans", "canadianaboriginal"]),
   ("Carian", ["cari", "carian"]),
   ("Cham", ["cham"]),
   ("Cherokee", ["cher", "cherokee"]),
   ("Chorasmian", ["chrs", "chorasmian"]),
   ("Coptic", ["copt", "coptic", "qaac"]),
   ("Cypro_Minoan", ["cpmn", "cyprominoan"]),
   ("Cypriot", ["cprt", "cypriot"]),
   ("Cyrillic", ["cyrl", "cyrillic"]),
   ("Devanagari", ["deva", "devanagari"]),
   ("Dives_Akuru", ["diak", "divesakuru"]),
   ("Dogra", ["dogr", "dogra"]),
   ("Deseret", ["dsrt", "deseret"]),
   ("Duployan", ["dupl", "duployan"]),
   ("Egyptian_Hieroglyphs", ["egyp", "egyptianhieroglyphs"]),
   ("Elbasan", ["elba", "elbasan"]),
   ("Elymaic", ["elym", "elymaic"]),
   ("Ethiopic", ["ethi", "ethiopic"]),
   ("Georgian", ["geor", "georgian"]),
   ("Glagolitic", ["glag", "glagolitic"]),
   ("Gunjala_Gondi", ["gong", "gunjalagondi"]),
   ("Masaram_Gondi", ["gonm", "masaramgondi"]),
   ("Gothic", ["goth", "gothic"]),
   ("Grantha", ["gran", "grantha"]),
   ("Greek", ["grek", "greek"]),
   ("Gujarati", ["gujr", "gujarati"]),
   ("Gurmukhi", ["guru", "gurmukhi"]),
   ("Hangul", ["hang", "hangul"]),
   ("Han", ["hani", "han"]),
   ("Hanunoo", ["hano", "hanunoo"]),
   ("Hatran", ["hatr", "hatran"]),
   ("Hebrew", ["hebr", "hebrew"]),
   ("Hiragana", ["hira", "hiragana"]),
   ("Anatolian_Hieroglyphs", ["hluw", "anatolianhieroglyphs"]),
   ("Pahawh_Hmong", ["hmng", "pahawhhmong"]),
   ("Nyiakeng_Puachue_Hmong", ["hmnp", "nyiakengpuachuehmong"]),
   ("Old_Hungarian", ["hung", "oldhungarian"]),
   ("Old_Italic", ["ital", "olditalic"]),
   ("Javanese", ["java", "javanese"]),
   ("Kayah_Li", ["kali", "kayahli"]),
   ("Katakana", ["kana", "katakana"]),
   ("Kawi", ["kawi"]),
   ("Kharoshthi", ["khar", "kharoshthi"]),
   ("Khmer", ["khmr", "khmer"]),
   ("Khojki", ["khoj", "khojki"]),
   ("Khitan_Small_Script", ["kits", "khitansmallscript"]),
   ("Kannada", ["knda", "kannada"]),
   ("Kaithi", ["kthi", "kaithi"]),
   ("Tai_Tham", ["lana", "taitham"]),
   ("Lao", ["laoo", "lao"]),
   ("Latin", ["latn", "latin"]),
   ("Lepcha", ["lepc", "lepcha"]),
   ("Limbu", ["limb", "limbu"]),
   ("Linear_A", ["lina", "lineara"]),
   ("Linear_B", ["linb", "linearb"]),
   ("Lisu", ["lisu"]),
   ("Lycian", ["lyci", "lycian"]),
   ("Lydian", ["lydi", "lydian"]),
   ("Mahajani", ["mahj", "mahajani"]),
   ("Makasar", ["maka", "makasar"]),
   ("Mandaic", ["mand", "mandaic"]),
   ("Manichaean", ["mani", "manichaean"]),
   ("Marchen", ["marc", "marchen"]),
   ("Medefaidrin", ["medf", "medefaidrin"]),
   ("Mende_Kikakui", ["mend", "mendekikakui"]),
   ("Meroitic_Cursive", ["merc", "meroiticcursive"]),
   ("Meroitic_Hieroglyphs", ["mero", "meroitichieroglyphs"]),
   ("Malayalam", ["mlym", "malayalam"]),
   ("Modi", ["modi"]),
   ("Mongolian", ["mong", "mongolian"]),
   ("Mro", ["mroo", "mro"]),
   ("Meetei_Mayek", ["mtei", "meeteimayek"]),
   ("Multani", ["mult", "multani"]),
   ("Myanmar", ["mymr", "myanmar"]),
   ("Nag_Mundari", ["nagm", "nagmundari"]),
   ("Nandinagari", ["nand", "nandinagari"]),
   ("Old_North_Arabian", ["narb", "oldnortharabian"]),
   ("Nabataean", ["nbat", "nabataean"]),
   ("Newa", ["newa"]),
   ("Nko", ["nkoo", "nko"]),
   ("Nushu", ["nshu", "nushu"]),
   ("Ogham", ["ogam", "ogham"]),
   ("Ol_Chiki", ["olck", "olchiki"]),
   ("Old_Turkic", ["orkh", "oldturkic"]),
   ("Oriya", ["orya", "oriya"]),
   ("Osage", ["osge", "osage"]),
   ("Osmanya", ["osma", "osmanya"]),
   ("Old_Uyghur", ["ougr", "olduyghur"]),
   ("Palmyrene", ["palm", "palmyrene"]),
   ("Pau_Cin_Hau", ["pauc", "paucinhau"]),
   ("Old_Permic", ["perm", "oldpermic"]),
   ("Phags_Pa", ["phag", "phagspa"]),
   ("Inscriptional_Pahlavi", ["phli", "inscriptionalpahlavi"]),
   ("Psalter_Pahlavi", ["phlp", "psalterpahlavi"]),
   ("Phoenician", ["phnx", "phoenician"]),
   ("Miao", ["plrd", "miao"]),
   ("Inscriptional_Parthian", ["prti", "inscriptionalparthian"]),
   ("Rejang", ["rjng", "rejang"]),
   ("Hanifi_Rohingya", ["rohg", "hanifirohingya"]),
   ("Runic", ["runr", "runic"]),
   ("Samaritan", ["samr", "samaritan"]),
   ("Old_South_Arabian", ["sarb", "oldsoutharabian"]),
   ("Saurashtra", ["saur", "saurashtra"]),
   ("SignWriting", ["sgnw", "signwriting"]),
   ("Shavian", ["shaw", "shavian"]),
   ("Sharada", ["shrd", "sharada"]),
   ("Siddham", ["sidd", "siddham"]),
   ("Khudawadi", ["sind", "khudawadi"]),
   ("Sinhala", ["sinh", "sinhala"]),
   ("Sogdian", ["sogd", "sogdian"]),
   ("Old_Sogdian", ["sogo", "oldsogdian"]),
   ("Sora_Sompeng", ["sora", "sorasompeng"]),
   ("Soyombo", ["soyo", "soyombo"]),
   ("Sundanese", ["sund", "sundanese"]),
   ("Syloti_Nagri", ["sylo", "sylotinagri"]),
   ("Syriac", ["syrc", "syriac"]),
   ("Tagbanwa", ["tagb", "tagbanwa"]),
   ("Takri", ["takr", "takri"]),
   ("Tai_Le", ["tale", "taile"]),
   ("New_Tai_Lue", ["talu", "newtailue"]),
   ("Tamil", ["taml", "tamil"]),
   ("Tangut", ["tang", "tangut"]),
   ("Tai_Viet", ["tavt", "taiviet"]),
   ("Telugu", ["telu", "telugu"]),
   ("Tifinagh", ["tfng", "tifinagh"]),
   ("Tagalog", ["tglg", "tagalog"]),
   ("Thaana", ["thaa", "thaana"]),
   ("Thai", ["thai"]),
   ("Tibetan", ["tibt", "tibetan"]),
   ("Tirhuta", ["tirh", "tirhuta"]),
   ("Tangsa", ["tnsa", "tangsa"]),
   ("Toto", ["toto"]),
   ("Ugaritic", ["ugar", "ugaritic"]),
   ("Vai", ["vaii", "vai"]),
   ("Vithkuqi", ["vith", "vithkuqi"]),
   ("Warang_Citi", ["wara", "warangciti"]),
   ("Wancho", ["wcho", "wancho"]),
   ("Old_Persian", ["xpeo", "oldpersian"]),
   ("Cuneiform", ["xsux", "cuneiform"]),
   ("Yezidi", ["yezi", "yezidi"]),
   ("Yi", ["yiii", "yi"]),
   ("Zanabazar_Square", ["zanb", "zanabazarsquare"]),
   ("Inherited", ["zinh", "inherited", "qaai"]),
   ("Common", ["zyyy", "common"]),
   ("Garay", ["gara", "garay"]),
   ("Gurung_Khema", ["gukh", "gurungkhema"]),
   ("Kirat_Rai", ["krai", "kiratrai"]),
   ("Ol_Onal", ["onao", "olonal"]),
   ("Sunuwar", ["sunu", "sunuwar"]),
   ("Todhri", ["todr", "todhri"]),
   ("Tulu_Tigalari", ["tutg", "tulutigalari"]),
   ("Beria_Erfe", ["berf", "beriaerfe"]),
   ("Sidetic", ["sidt", "sidetic"]),
   ("Tai_Yo", ["tayo", "taiyo"]),
   ("Tolong_Siki", ["tols", "tolongsiki"]),
   -- no character has these two
   ("Katakana_Or_Hiragana", ["hrkt", "katakanaorhiragana"]),
   ("Unknown", ["zzzz", "unknown"])]

def propertyAliases : List Alias :=
  [("ASCII_Hex_Digit", ["ahex", "asciihexdigit"]),
   ("Alphabetic", ["alpha", "alphabetic"]),
   ("Bidi_Control", ["bidic", "bidicontrol"]),
   ("Bidi_Mirrored", ["bidim", "bidimirrored"]),
   ("Case_Ignorable", ["ci", "caseignorable"]),
   ("Cased", ["cased"]),
   ("Changes_When_Casefolded", ["cwcf", "changeswhencasefolded"]),
   ("Changes_When_Casemapped", ["cwcm", "changeswhencasemapped"]),
   ("Changes_When_Lowercased", ["cwl", "changeswhenlowercased"]),
   ("Changes_When_NFKC_Casefolded", ["cwkcf", "changeswhennfkccasefolded"]),
   ("Changes_When_Titlecased", ["cwt", "changeswhentitlecased"]),
   ("Changes_When_Uppercased", ["cwu", "changeswhenuppercased"]),
   ("Dash", ["dash"]),
   ("Default_Ignorable_Code_Point", ["di", "defaultignorablecodepoint"]),
   ("Deprecated", ["dep", "deprecated"]),
   ("Diacritic", ["dia", "diacritic"]),
   ("Emoji", ["emoji"]),
   ("Emoji_Component", ["ecomp", "emojicomponent"]),
   ("Emoji_Modifier", ["emod", "emojimodifier"]),
   ("Emoji_Modifier_Base", ["ebase", "emojimodifierbase"]),
   ("Emoji_Presentation", ["epres", "emojipresentation"]),
   ("Extended_Pictographic", ["extpict", "extendedpictographic"]),
   ("Extender", ["ext", "extender"]),
   ("Grapheme_Base", ["grbase", "graphemebase"]),
   ("Grapheme_Extend", ["grext", "graphemeextend"]),
   ("Grapheme_Link", ["grlink", "graphemelink"]),
   ("Hex_Digit", ["hex", "hexdigit"]),
   ("Hyphen", ["hyphen"]),
   ("IDS_Binary_Operator", ["idsb", "idsbinaryoperator"]),
   ("IDS_Trinary_Operator", ["idst", "idstrinaryoperator"]),
   ("IDS_Unary_Operator", ["idsu", "idsunaryoperator"]),
   ("ID_Compat_Math_Continue", ["idcompatmathcontinue"]),
   ("ID_Compat_Math_Start", ["idcompatmathstart"]),
   ("ID_Continue", ["idc", "idcontinue"]),
   ("ID_Start", ["ids", "idstart"]),
   ("Ideographic", ["ideo", "ideographic"]),
   ("Join_Control", ["joinc", "joincontrol"]),
   ("Logical_Order_Exception", ["loe", "logicalorderexception"]),
   ("Lowercase", ["lower", "lowercase"]),
   ("Math", ["math"]),
   ("Modifier_Combining_Mark", ["mcm", "modifiercombiningmark"]),
   ("Noncharacter_Code_Point", ["nchar", "noncharactercodepoint"]),
   ("Other_Alphabetic", ["oalpha", "otheralphabetic"]),
   ("Other_Default_Ignorable_Code_Point", ["odi", "otherdefaultignorablecodepoint"]),
   ("Other_Grapheme_Extend", ["ogrext", "othergraphemeextend"]),
   ("Other_ID_Continue", ["oidc", "otheridcontinue"]),
   ("Other_ID_Start", ["oids", "otheridstart"]),
   ("Other_Lowercase", ["olower", "otherlowercase"]),
   ("Other_Math", ["omath", "othermath"]),
   ("Other_Uppercase", ["oupper", "otheruppercase"]),
   ("Pattern_Syntax", ["patsyn", "patternsyntax"]),
   ("Pattern_White_Space", ["patws", "patternwhitespace"]),
   ("Prepended_Concatenation_Mark", ["pcm", "prependedconcatenationmark"]),
   ("Quotation_Mark", ["qmark", "quotationmark"]),
   ("Radical", ["radical"]),
   ("Regional_Indicator", ["ri", "regionalindicator"]),
   ("Sentence_Terminal", ["sterm", "sentenceterminal"]),
   ("Soft_Dotted", ["sd", "softdotted"]),
   ("Terminal_Punctuation", ["term", "terminalpunctuation"]),
   ("Unified_Ideograph", ["uideo", "unifiedideograph"]),
   ("Uppercase", ["upper", "uppercase"]),
   ("Variation_Selector", ["vs", "variationselector"]),
   ("White_Space", ["wspace", "whitespace", "space"]),
   ("XID_Continue", ["xidc", "xidcontinue"]),
   ("XID_Start", ["xids", "xidstart"])]

/-- The versions that have an age, oldest first. -/
def ageAliases : List Alias :=
  [("V1_1", ["1.1", "v11"]),
   ("V2_0", ["2.0", "v20"]),
   ("V2_1", ["2.1", "v21"]),
   ("V3_0", ["3.0", "v30"]),
   ("V3_1", ["3.1", "v31"]),
   ("V3_2", ["3.2", "v32"]),
   ("V4_0", ["4.0", "v40"]),
   ("V4_1", ["4.1", "v41"]),
   ("V5_0", ["5.0", "v50"]),
   ("V5_1", ["5.1", "v51"]),
   ("V5_2", ["5.2", "v52"]),
   ("V6_0", ["6.0", "v60"]),
   ("V6_1", ["6.1", "v61"]),
   ("V6_2", ["6.2", "v62"]),
   ("V6_3", ["6.3", "v63"]),
   ("V7_0", ["7.0", "v70"]),
   ("V8_0", ["8.0", "v80"]),
   ("V9_0", ["9.0", "v90"]),
   ("V10_0", ["10.0", "v100"]),
   ("V11_0", ["11.0", "v110"]),
   ("V12_0", ["12.0", "v120"]),
   ("V12_1", ["12.1", "v121"]),
   ("V13_0", ["13.0", "v130"]),
   ("V14_0", ["14.0", "v140"]),
   ("V15_0", ["15.0", "v150"]),
   ("V15_1", ["15.1", "v151"]),
   ("V16_0", ["16.0", "v160"]),
   ("V17_0", ["17.0", "v170"])]

def clusterBreakAliases : List Alias :=
  [("CR", ["cr"]),
   ("Control", ["cn", "control"]),
   ("E_Base", ["eb", "ebase"]),
   ("E_Base_GAZ", ["ebg", "ebasegaz"]),
   ("E_Modifier", ["em", "emodifier"]),
   ("Extend", ["ex", "extend"]),
   ("Glue_After_Zwj", ["gaz", "glueafterzwj"]),
   ("L", ["l"]),
   ("LF", ["lf"]),
   ("LV", ["lv"]),
   ("LVT", ["lvt"]),
   ("Other", ["xx", "other"]),
   ("Prepend", ["pp", "prepend"]),
   ("Regional_Indicator", ["ri", "regionalindicator"]),
   ("SpacingMark", ["sm", "spacingmark"]),
   ("T", ["t"]),
   ("V", ["v"]),
   ("ZWJ", ["zwj"])]

def wordBreakAliases : List Alias :=
  [("ALetter", ["le", "aletter"]),
   ("CR", ["cr"]),
   ("Double_Quote", ["dq", "doublequote"]),
   ("E_Base", ["eb", "ebase"]),
   ("E_Base_GAZ", ["ebg", "ebasegaz"]),
   ("E_Modifier", ["em", "emodifier"]),
   ("Extend", ["extend"]),
   ("ExtendNumLet", ["ex", "extendnumlet"]),
   ("Format", ["fo", "format"]),
   ("Glue_After_Zwj", ["gaz", "glueafterzwj"]),
   ("Hebrew_Letter", ["hl", "hebrewletter"]),
   ("Katakana", ["ka", "katakana"]),
   ("LF", ["lf"]),
   ("MidLetter", ["ml", "midletter"]),
   ("MidNum", ["mn", "midnum"]),
   ("MidNumLet", ["mb", "midnumlet"]),
   ("Newline", ["nl", "newline"]),
   ("Numeric", ["nu", "numeric"]),
   ("Other", ["xx", "other"]),
   ("Regional_Indicator", ["ri", "regionalindicator"]),
   ("Single_Quote", ["sq", "singlequote"]),
   ("WSegSpace", ["wsegspace"]),
   ("ZWJ", ["zwj"])]

def sentenceBreakAliases : List Alias :=
  [("ATerm", ["at", "aterm"]),
   ("CR", ["cr"]),
   ("Close", ["cl", "close"]),
   ("Extend", ["ex", "extend"]),
   ("Format", ["fo", "format"]),
   ("LF", ["lf"]),
   ("Lower", ["lo", "lower"]),
   ("Numeric", ["nu", "numeric"]),
   ("OLetter", ["le", "oletter"]),
   ("Other", ["xx", "other"]),
   ("SContinue", ["sc", "scontinue"]),
   ("STerm", ["st", "sterm"]),
   ("Sep", ["se", "sep"]),
   ("Sp", ["sp"]),
   ("Upper", ["up", "upper"])]

/-- Properties that have no yes-or-no set of their own. -/
def valuedProperties : List String :=
  ["age", "blk", "block", "bc", "bidiclass", "bmg", "bidimirroringglyph", "bpb",
   "bidipairedbracket", "bpt", "bidipairedbrackettype", "ccc", "canonicalcombiningclass", "cf",
   "casefolding", "dm", "decompositionmapping", "dt", "decompositiontype", "ea", "eastasianwidth",
   "gc", "generalcategory", "gcb", "graphemeclusterbreak", "hst", "hangulsyllabletype", "inpc",
   "indicpositionalcategory", "insc", "indicsyllabiccategory", "isc", "isocomment", "jg",
   "joininggroup", "jt", "joiningtype", "lb", "linebreak", "lc", "lowercasemapping", "na", "name",
   "na1", "unicode1name", "nfcqc", "nfcquickcheck", "nfdqc", "nfdquickcheck", "nfkcqc",
   "nfkcquickcheck", "nfkdqc", "nfkdquickcheck", "nt", "numerictype", "nv", "numericvalue", "sb",
   "sentencebreak", "sc", "script", "scx", "scriptextensions", "scf", "simplecasefolding", "sfc",
   "slc", "simplelowercasemapping", "stc", "simpletitlecasemapping", "suc",
   "simpleuppercasemapping", "tc", "titlecasemapping", "uc", "uppercasemapping", "vo",
   "verticalorientation", "wb", "wordbreak", "ce", "compositionexclusion", "compex",
   "fullcompositionexclusion", "xonfc", "expandsonnfc", "xonfd", "expandsonnfd", "xonfkc",
   "expandsonnfkc", "xonfkd", "expandsonnfkd", "incb", "indicconjunctbreak", "equideo",
   "equivalentunifiedideograph", "fcnfkc", "fcnfkcclosure", "nfkccf", "nfkccasefold", "nfkcscf",
   "nfkcsimplecasefold", "jsn", "jamoshortname", "namealias", "cjkaccountingnumeric",
   "kaccountingnumeric", "cjkothernumeric", "kothernumeric", "cjkprimarynumeric",
   "kprimarynumeric", "cjkcompatibilityvariant", "kcompatibilityvariant", "cjkiicore", "kiicore",
   "cjkirggsource", "kirggsource", "cjkirghsource", "kirghsource", "cjkirgjsource", "kirgjsource",
   "cjkirgkpsource", "kirgkpsource", "cjkirgksource", "kirgksource", "cjkirgmsource",
   "kirgmsource", "cjkirgssource", "kirgssource", "cjkirgtsource", "kirgtsource", "cjkirguksource",
   "kirguksource", "cjkirgusource", "kirgusource", "cjkirgvsource", "kirgvsource", "cjkrsunicode",
   "krsunicode", "unicoderadicalstroke", "urs", "kehcat", "kehdesc", "kehhg", "kehifao",
   "kehjsesh", "kehnomirror", "kehnorotate"]

end MarkerSweep.Unicode
