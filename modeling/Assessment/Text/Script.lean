import Assessment.Text.Property

/-!
# Scripts

Every character belongs to one script of Unicode, here of version 16.  Some characters
are written in several scripts: they belong to the extensions of each of them, and no
longer to those of their own script if that is not among them.
-/

namespace Assessment.Text

/-- The characters of each script. -/
def scripts : List NamedSet :=
  [⟨["adlm", "adlam"], .ofGaps
      ["125184 75 5 9 5 1"]⟩,
    ⟨["aghb", "caucasianalbanian"], .ofGaps
      ["66864 51 12 0"]⟩,
    ⟨["ahom"], .ofGaps
      ["71424 26 3 14 5 22"]⟩,
    ⟨["arab", "arabic"], .ofGaps
      ["1536 4 2 5 2 13 2 2 2 31 2 9 12 25 2 107 2 33 81 47 241 30 2 1 6 74 2 28 62033 114",
       "17 362 3 79 3 53 8 0 33 15 113 4 2 134 3940 30 68 2 56 3 57089 3 2 26 2 1 2 0 3 0",
       "2 9 2 3 2 0 2 0 7 0 5 0 2 0 2 0 2 2 2 1 2 0 3 0 2 0 2 0 2 0 2 0 2 1 2 0 3 3 2 6 2",
       "3 2 3 2 0 2 9 2 16 6 2 2 4 2 16 53 1"]⟩,
    ⟨["armi", "imperialaramaic"], .ofGaps
      ["67648 21 2 8"]⟩,
    ⟨["armn", "armenian"], .ofGaps
      ["1329 37 3 49 3 2 62852 4"]⟩,
    ⟨["avst", "avestan"], .ofGaps
      ["68352 53 4 6"]⟩,
    ⟨["bali", "balinese"], .ofGaps
      ["6912 76 2 49"]⟩,
    ⟨["bamu", "bamum"], .ofGaps
      ["42656 87 49417 568"]⟩,
    ⟨["bass", "bassavah"], .ofGaps
      ["92880 29 3 5"]⟩,
    ⟨["batk", "batak"], .ofGaps
      ["7104 51 9 3"]⟩,
    ⟨["beng", "bengali"], .ofGaps
      ["2432 3 2 7 3 1 3 21 2 6 2 0 4 3 3 8 3 1 3 3 9 0 5 1 2 4 3 24"]⟩,
    ⟨["bhks", "bhaiksuki"], .ofGaps
      ["72704 8 2 44 2 13 11 28"]⟩,
    ⟨["bopo", "bopomofo"], .ofGaps
      ["746 1 11802 42 113 31"]⟩,
    ⟨["brah", "brahmi"], .ofGaps
      ["69632 77 5 35 10 0"]⟩,
    ⟨["brai", "braille"], .ofGaps
      ["10240 255"]⟩,
    ⟨["bugi", "buginese"], .ofGaps
      ["6656 27 3 1"]⟩,
    ⟨["buhd", "buhid"], .ofGaps
      ["5952 19"]⟩,
    ⟨["cakm", "chakma"], .ofGaps
      ["69888 52 2 17"]⟩,
    ⟨["cans", "canadianaboriginal"], .ofGaps
      ["5120 639 561 69 65979 15"]⟩,
    ⟨["cari", "carian"], .ofGaps
      ["66208 48"]⟩,
    ⟨["cham"], .ofGaps
      ["43520 54 10 13 3 9 3 3"]⟩,
    ⟨["cher", "cherokee"], .ofGaps
      ["5024 85 3 5 38771 79"]⟩,
    ⟨["chrs", "chorasmian"], .ofGaps
      ["69552 27"]⟩,
    ⟨["copt", "qaac", "coptic"], .ofGaps
      ["994 13 10385 115 6 6"]⟩,
    ⟨["cpmn", "cyprominoan"], .ofGaps
      ["77712 98"]⟩,
    ⟨["cprt", "cypriot"], .ofGaps
      ["67584 5 3 0 2 43 2 1 4 0 3 0"]⟩,
    ⟨["cyrl", "cyrillic"], .ofGaps
      ["1024 132 3 168 5969 10 161 0 77 0 4200 31 30785 95 22415 1 57857 61 34 0"]⟩,
    ⟨["deva", "devanagari"], .ofGaps
      ["2304 80 5 14 3 25 40801 31 29185 9"]⟩,
    ⟨["diak", "divesakuru"], .ofGaps
      ["71936 6 3 0 3 7 2 1 2 29 2 1 3 11 10 9"]⟩,
    ⟨["dogr", "dogra"], .ofGaps
      ["71680 59"]⟩,
    ⟨["dsrt", "deseret"], .ofGaps
      ["66560 79"]⟩,
    ⟨["dupl", "duployan"], .ofGaps
      ["113664 106 6 12 4 8 8 9 3 3"]⟩,
    ⟨["egyp", "egyptianhieroglyphs"], .ofGaps
      ["77824 1109 11 3994"]⟩,
    ⟨["elba", "elbasan"], .ofGaps
      ["66816 39"]⟩,
    ⟨["elym", "elymaic"], .ofGaps
      ["69600 22"]⟩,
    ⟨["ethi", "ethiopic"], .ofGaps
      ["4608 72 2 3 3 6 2 0 2 3 3 40 2 3 3 32 2 3 3 6 2 0 2 3 3 14 2 56 2 3 3 66 3 31 4 25",
       "6631 22 10 6 2 6 2 6 2 6 2 6 2 6 2 6 2 6 32035 5 3 5 3 5 10 6 2 6 81074 6 2 3 2 1",
       "2 14"]⟩,
    ⟨["gara", "garay"], .ofGaps
      ["68928 37 4 28 9 1"]⟩,
    ⟨["geor", "georgian"], .ofGaps
      ["4256 37 2 0 6 0 3 42 2 3 2961 42 3 2 4161 37 2 0 6 0"]⟩,
    ⟨["glag", "glagolitic"], .ofGaps
      ["11264 95 111521 6 2 16 3 6 2 1 2 4"]⟩,
    ⟨["gong", "gunjalagondi"], .ofGaps
      ["73056 5 2 1 2 36 2 1 2 5 8 9"]⟩,
    ⟨["gonm", "masaramgondi"], .ofGaps
      ["72960 6 2 1 2 43 4 0 2 1 2 8 9 9"]⟩,
    ⟨["goth", "gothic"], .ofGaps
      ["66352 26"]⟩,
    ⟨["gran", "grantha"], .ofGaps
      ["70400 3 2 7 3 1 3 21 2 6 2 1 2 4 3 8 3 1 3 2 3 0 7 0 6 6 3 6 4 4"]⟩,
    ⟨["grek", "greek"], .ofGaps
      ["880 3 2 2 3 3 2 0 5 0 2 0 2 2 2 0 2 19 2 62 15 15 6439 4 51 4 5 4 85 0 321 21 3 5",
       "3 37 3 5 3 7 2 0 2 0 2 0 2 30 3 52 2 14 2 13 3 5 2 18 3 2 2 8 296 0 35391 0 21979",
       "78 18 0 53344 69"]⟩,
    ⟨["gujr", "gujarati"], .ofGaps
      ["2689 2 2 8 2 2 2 21 2 6 2 1 2 4 3 9 2 2 2 2 3 0 16 3 3 11 8 6"]⟩,
    ⟨["gukh", "gurungkhema"], .ofGaps
      ["90368 57"]⟩,
    ⟨["guru", "gurmukhi"], .ofGaps
      ["2561 2 2 5 5 1 3 21 2 6 2 1 2 1 2 1 3 0 2 4 5 1 3 2 4 0 8 3 2 0 8 16"]⟩,
    ⟨["han", "hani"], .ofGaps
      ["11904 25 2 88 13 213 48 0 2 0 26 8 15 3 965 6591 65 20991 22785 365 3 105 29961 1",
       "13 1 36879 42719 33 4153 7 221 3 5761 15 7472 16 621 2467 541 1507 4938 6 4191"]⟩,
    ⟨["hang", "hangul"], .ofGaps
      ["4352 255 7727 1 258 93 114 30 66 30 30434 28 644 11171 13 22 5 48 10149 30 4 5 3 5",
       "3 5 3 2"]⟩,
    ⟨["hano", "hanunoo"], .ofGaps
      ["5920 20"]⟩,
    ⟨["hatr", "hatran"], .ofGaps
      ["67808 18 2 1 6 4"]⟩,
    ⟨["hebr", "hebrew"], .ofGaps
      ["1425 54 9 26 5 5 62761 25 2 4 2 0 2 1 2 1 2 9"]⟩,
    ⟨["hira", "hiragana"], .ofGaps
      ["12353 85 7 2 98146 286 19 0 30 2 16558 0"]⟩,
    ⟨["hluw", "anatolianhieroglyphs"], .ofGaps
      ["82944 582"]⟩,
    ⟨["hmng", "pahawhhmong"], .ofGaps
      ["92928 69 11 9 2 6 2 20 6 18"]⟩,
    ⟨["hmnp", "nyiakengpuachuehmong"], .ofGaps
      ["123136 44 4 13 3 9 5 1"]⟩,
    ⟨["hung", "oldhungarian"], .ofGaps
      ["68736 50 14 50 8 5"]⟩,
    ⟨["ital", "olditalic"], .ofGaps
      ["66304 35 10 2"]⟩,
    ⟨["java", "javanese"], .ofGaps
      ["43392 77 3 9 5 1"]⟩,
    ⟨["kali", "kayahli"], .ofGaps
      ["43264 45 2 0"]⟩,
    ⟨["kana", "katakana"], .ofGaps
      ["12449 89 3 2 241 15 209 46 2 87 52239 9 2 44 45139 3 2 6 2 1 2 0 288 2 51 0 15 3"]⟩,
    ⟨["kawi"], .ofGaps
      ["73472 16 2 40 4 28"]⟩,
    ⟨["khar", "kharoshthi"], .ofGaps
      ["68096 3 2 1 6 7 2 2 2 28 3 2 5 9 8 8"]⟩,
    ⟨["khmr", "khmer"], .ofGaps
      ["6016 93 3 9 7 9 487 31"]⟩,
    ⟨["khoj", "khojki"], .ofGaps
      ["70144 17 2 46"]⟩,
    ⟨["kits", "khitansmallscript"], .ofGaps
      ["94180 0 6940 469 42 0"]⟩,
    ⟨["knda", "kannada"], .ofGaps
      ["3200 12 2 2 2 22 2 9 2 4 3 8 2 2 2 3 8 1 7 1 2 3 3 9 2 2"]⟩,
    ⟨["krai", "kiratrai"], .ofGaps
      ["93504 57"]⟩,
    ⟨["kthi", "kaithi"], .ofGaps
      ["69760 66 11 0"]⟩,
    ⟨["lana", "taitham"], .ofGaps
      ["6688 62 2 28 3 10 7 9 7 13"]⟩,
    ⟨["lao", "laoo"], .ofGaps
      ["3713 1 2 0 2 4 2 23 2 0 2 22 3 4 2 0 2 6 2 9 3 3"]⟩,
    ⟨["latn", "latin"], .ofGaps
      ["65 25 7 25 48 0 16 0 6 22 2 30 2 448 40 4 6684 37 7 48 6 3 6 12 2 69 66 255 370 0",
       "14 0 17 12 142 1 7 0 28 0 18 40 2776 31 31395 101 4 66 3 1 2 0 2 7 22 13 817 42 2",
       "8 2 3 20375 6 1051 25 7 25 2086 5 2 41 2 8 55110 30 7 5"]⟩,
    ⟨["lepc", "lepcha"], .ofGaps
      ["7168 55 4 14 4 2"]⟩,
    ⟨["limb", "limbu"], .ofGaps
      ["6400 30 2 11 5 11 5 0 4 11"]⟩,
    ⟨["lina", "lineara"], .ofGaps
      ["67072 310 10 21 11 7"]⟩,
    ⟨["linb", "linearb"], .ofGaps
      ["65536 11 2 25 2 18 2 1 2 14 3 13 35 122"]⟩,
    ⟨["lisu"], .ofGaps
      ["42192 47 31409 0"]⟩,
    ⟨["lyci", "lycian"], .ofGaps
      ["66176 28"]⟩,
    ⟨["lydi", "lydian"], .ofGaps
      ["67872 25 6 0"]⟩,
    ⟨["mahj", "mahajani"], .ofGaps
      ["69968 38"]⟩,
    ⟨["maka", "makasar"], .ofGaps
      ["73440 24"]⟩,
    ⟨["mand", "mandaic"], .ofGaps
      ["2112 27 3 0"]⟩,
    ⟨["mani", "manichaean"], .ofGaps
      ["68288 38 5 11"]⟩,
    ⟨["marc", "marchen"], .ofGaps
      ["72816 31 3 21 2 13"]⟩,
    ⟨["medf", "medefaidrin"], .ofGaps
      ["93760 90"]⟩,
    ⟨["mend", "mendekikakui"], .ofGaps
      ["124928 196 3 15"]⟩,
    ⟨["merc", "meroiticcursive"], .ofGaps
      ["68000 23 5 19 3 45"]⟩,
    ⟨["mero", "meroitichieroglyphs"], .ofGaps
      ["67968 31"]⟩,
    ⟨["miao", "plrd"], .ofGaps
      ["93952 74 5 56 8 16"]⟩,
    ⟨["mlym", "malayalam"], .ofGaps
      ["3328 12 2 2 2 50 2 2 2 5 5 15 3 25"]⟩,
    ⟨["modi"], .ofGaps
      ["71168 68 12 9"]⟩,
    ⟨["mong", "mongolian"], .ofGaps
      ["6144 1 3 0 2 19 7 88 8 42 64950 12"]⟩,
    ⟨["mro", "mroo"], .ofGaps
      ["92736 30 2 9 5 1"]⟩,
    ⟨["mtei", "meeteimayek"], .ofGaps
      ["43744 22 202 45 3 9"]⟩,
    ⟨["mult", "multani"], .ofGaps
      ["70272 6 2 0 2 3 2 14 2 10"]⟩,
    ⟨["mymr", "myanmar"], .ofGaps
      ["4096 159 39233 30 98 31 27729 19"]⟩,
    ⟨["nagm", "nagmundari"], .ofGaps
      ["124112 41"]⟩,
    ⟨["nand", "nandinagari"], .ofGaps
      ["72096 7 3 45 3 10"]⟩,
    ⟨["narb", "oldnortharabian"], .ofGaps
      ["68224 31"]⟩,
    ⟨["nbat", "nabataean"], .ofGaps
      ["67712 30 9 8"]⟩,
    ⟨["newa"], .ofGaps
      ["70656 91 2 4"]⟩,
    ⟨["nko", "nkoo"], .ofGaps
      ["1984 58 3 2"]⟩,
    ⟨["nshu", "nushu"], .ofGaps
      ["94177 0 16783 395"]⟩,
    ⟨["ogam", "ogham"], .ofGaps
      ["5760 28"]⟩,
    ⟨["olck", "olchiki"], .ofGaps
      ["7248 47"]⟩,
    ⟨["onao", "olonal"], .ofGaps
      ["124368 42 5 0"]⟩,
    ⟨["orkh", "oldturkic"], .ofGaps
      ["68608 72"]⟩,
    ⟨["orya", "oriya"], .ofGaps
      ["2817 2 2 7 3 1 3 21 2 6 2 1 2 4 3 8 3 1 3 2 8 2 5 1 2 4 3 17"]⟩,
    ⟨["osge", "osage"], .ofGaps
      ["66736 35 5 35"]⟩,
    ⟨["osma", "osmanya"], .ofGaps
      ["66688 29 3 9"]⟩,
    ⟨["ougr", "olduyghur"], .ofGaps
      ["69488 25"]⟩,
    ⟨["palm", "palmyrene"], .ofGaps
      ["67680 31"]⟩,
    ⟨["pauc", "paucinhau"], .ofGaps
      ["72384 56"]⟩,
    ⟨["perm", "oldpermic"], .ofGaps
      ["66384 42"]⟩,
    ⟨["phag", "phagspa"], .ofGaps
      ["43072 55"]⟩,
    ⟨["phli", "inscriptionalpahlavi"], .ofGaps
      ["68448 18 6 7"]⟩,
    ⟨["phlp", "psalterpahlavi"], .ofGaps
      ["68480 17 8 3 13 6"]⟩,
    ⟨["phnx", "phoenician"], .ofGaps
      ["67840 27 4 0"]⟩,
    ⟨["prti", "inscriptionalparthian"], .ofGaps
      ["68416 21 3 7"]⟩,
    ⟨["qaai", "zinh", "inherited"], .ofGaps
      ["768 111 278 1 453 10 27 0 737 3 4444 30 514 2 2 12 2 6 5 0 7 0 4 1 199 63 525 1",
       "195 32 3898 3 108 1 52582 15 17 13 976 0 227 0 4187 0 48069 45 3 22 545 2 18 7 3 6",
       "31 3 798547 239"]⟩,
    ⟨["rjng", "rejang"], .ofGaps
      ["43312 35 12 0"]⟩,
    ⟨["rohg", "hanifirohingya"], .ofGaps
      ["68864 39 9 9"]⟩,
    ⟨["runr", "runic"], .ofGaps
      ["5792 74 4 10"]⟩,
    ⟨["samr", "samaritan"], .ofGaps
      ["2048 45 3 14"]⟩,
    ⟨["sarb", "oldsoutharabian"], .ofGaps
      ["68192 31"]⟩,
    ⟨["saur", "saurashtra"], .ofGaps
      ["43136 69 9 11"]⟩,
    ⟨["sgnw", "signwriting"], .ofGaps
      ["120832 651 16 4 2 14"]⟩,
    ⟨["shaw", "shavian"], .ofGaps
      ["66640 47"]⟩,
    ⟨["shrd", "sharada"], .ofGaps
      ["70016 95"]⟩,
    ⟨["sidd", "siddham"], .ofGaps
      ["71040 53 3 37"]⟩,
    ⟨["sind", "khudawadi"], .ofGaps
      ["70320 58 6 9"]⟩,
    ⟨["sinh", "sinhala"], .ofGaps
      ["3457 2 2 17 4 23 2 8 2 0 3 6 4 0 5 5 2 0 2 7 7 9 3 2 66541 19"]⟩,
    ⟨["sogd", "sogdian"], .ofGaps
      ["69424 41"]⟩,
    ⟨["sogo", "oldsogdian"], .ofGaps
      ["69376 39"]⟩,
    ⟨["sora", "sorasompeng"], .ofGaps
      ["69840 24 8 9"]⟩,
    ⟨["soyo", "soyombo"], .ofGaps
      ["72272 82"]⟩,
    ⟨["sund", "sundanese"], .ofGaps
      ["7040 63 257 7"]⟩,
    ⟨["sunu", "sunuwar"], .ofGaps
      ["72640 33 15 9"]⟩,
    ⟨["sylo", "sylotinagri"], .ofGaps
      ["43008 44"]⟩,
    ⟨["syrc", "syriac"], .ofGaps
      ["1792 13 2 59 3 2 273 10"]⟩,
    ⟨["tagb", "tagbanwa"], .ofGaps
      ["5984 12 2 2 2 1"]⟩,
    ⟨["takr", "takri"], .ofGaps
      ["71296 57 7 9"]⟩,
    ⟨["tale", "taile"], .ofGaps
      ["6480 29 3 4"]⟩,
    ⟨["talu", "newtailue"], .ofGaps
      ["6528 43 5 25 7 10 4 1"]⟩,
    ⟨["taml", "tamil"], .ofGaps
      ["2946 1 2 5 4 2 2 3 4 1 2 0 2 1 4 1 4 2 4 11 5 4 4 2 2 3 3 0 7 0 15 20 70598 49 14",
       "0"]⟩,
    ⟨["tang", "tangut"], .ofGaps
      ["94176 0 32 6135 9 767 513 8"]⟩,
    ⟨["tavt", "taiviet"], .ofGaps
      ["43648 66 25 4"]⟩,
    ⟨["telu", "telugu"], .ofGaps
      ["3072 12 2 2 2 22 2 15 3 8 2 2 2 3 8 1 2 2 3 0 3 3 3 9 8 8"]⟩,
    ⟨["tfng", "tifinagh"], .ofGaps
      ["11568 55 8 1 15 0"]⟩,
    ⟨["tglg", "tagalog"], .ofGaps
      ["5888 21 10 0"]⟩,
    ⟨["thaa", "thaana"], .ofGaps
      ["1920 49"]⟩,
    ⟨["thai"], .ofGaps
      ["3585 57 6 27"]⟩,
    ⟨["tibt", "tibetan"], .ofGaps
      ["3840 71 2 35 5 38 2 35 2 14 2 6 5 1"]⟩,
    ⟨["tirh", "tirhuta"], .ofGaps
      ["70784 71 9 9"]⟩,
    ⟨["tnsa", "tangsa"], .ofGaps
      ["92784 78 2 9"]⟩,
    ⟨["todr", "todhri"], .ofGaps
      ["67008 51"]⟩,
    ⟨["toto"], .ofGaps
      ["123536 30"]⟩,
    ⟨["tutg", "tulutigalari"], .ofGaps
      ["70528 9 2 0 3 0 2 37 2 9 2 0 3 0 2 3 2 9 2 1 9 1"]⟩,
    ⟨["ugar", "ugaritic"], .ofGaps
      ["66432 29 2 0"]⟩,
    ⟨["vai", "vaii"], .ofGaps
      ["42240 299"]⟩,
    ⟨["vith", "vithkuqi"], .ofGaps
      ["66928 10 2 14 2 6 2 1 2 10 2 14 2 6 2 1"]⟩,
    ⟨["wara", "warangciti"], .ofGaps
      ["71840 82 13 0"]⟩,
    ⟨["wcho", "wancho"], .ofGaps
      ["123584 57 6 0"]⟩,
    ⟨["xpeo", "oldpersian"], .ofGaps
      ["66464 35 5 13"]⟩,
    ⟨["xsux", "cuneiform"], .ofGaps
      ["73728 921 103 110 2 4 12 195"]⟩,
    ⟨["yezi", "yezidi"], .ofGaps
      ["69248 41 2 2 3 1"]⟩,
    ⟨["yi", "yiii"], .ofGaps
      ["40960 1164 4 54"]⟩,
    ⟨["zanb", "zanabazarsquare"], .ofGaps
      ["72192 71"]⟩,
    ⟨["zyyy", "common"], .ofGaps
      ["0 64 27 5 27 46 2 14 2 4 24 0 32 0 450 38 6 4 3 19 117 0 10 0 7 0 2 0 638 0 7 0 15",
       "0 4 0 33 0 157 0 517 0 130 1 1242 0 406 3 291 0 1520 2 72 1 204 1 2 0 1230 0 14 0",
       "8 3 2 5 2 2 3 0 774 11 3 86 2 10 4 10 2 14 18 32 64 37 2 2 3 5 2 26 2 16 42 2 5",
       "665 23 10 22 927 257 627 3 31 2 104 513 93 403 20 2 0 2 24 16 7 5 3 92 1 4 0 91 1",
       "148 15 33 37 10 0 49 63 32 80 48 0 89 167 6593 63 22785 33 103 2 166 9 245 0 161 0",
       "396 0 15 1 20947 1 209 9 23 34 2 18 2 3 148 0 2 31 27 5 27 10 11 0 46 1 65 6 2 6",
       "11 4 259 2 5 44 4 8 81 12 52 44 229 26 47525 3 3933 249 7 435 157 115 61 245 11 38",
       "3 61 4 16 9 1 8 29 5 60 214 19 13 19 13 86 10 24 136 84 2 70 2 1 3 0 3 1 3 3 2 11",
       "2 0 2 6 2 64 2 3 3 7 2 6 2 27 2 3 2 4 2 0 4 6 2 339 3 291 3 49 5234 67 77 60 707",
       "43 5 99 13 14 3 14 2 14 2 36 11 173 57 25 2 1 14 43 5 8 8 1 15 5 155 983 5 16 4 12",
       "4 118 5 94 7 11 5 0 16 11 5 55 9 9 7 39 9 29 3 11 5 1 63 339 13 13 3 12 4 9 6 55 8",
       "14 3 10 7 8 8 146 2 101 787464 0 31 95"]⟩]

/-- The extensions of the scripts for which they differ from the script itself. -/
def extendedScripts : List NamedSet :=
  [⟨["adlm", "adlam"], .ofGaps
      ["1567 0 33 0 6671 0 3570 0 113343 75 5 9 5 1"]⟩,
    ⟨["aghb", "caucasianalbanian"], .ofGaps
      ["772 0 45 0 45 0 66002 51 12 0"]⟩,
    ⟨["arab", "arabic"], .ofGaps
      ["1536 4 2 214 2 33 81 47 241 30 2 1 6 74 2 28 5968 0 3570 0 52495 114 17 444 3 53 8",
       "0 33 15 113 4 2 134 996 27 2917 30 68 2 56 3 57089 3 2 26 2 1 2 0 3 0 2 9 2 3 2 0",
       "2 0 7 0 5 0 2 0 2 0 2 2 2 1 2 0 3 0 2 0 2 0 2 0 2 0 2 1 2 0 3 3 2 6 2 3 2 3 2 0 2",
       "9 2 16 6 2 2 4 2 16 53 1"]⟩,
    ⟨["armn", "armenian"], .ofGaps
      ["776 0 553 37 3 49 3 2 62852 4"]⟩,
    ⟨["avst", "avestan"], .ofGaps
      ["183 0 11641 1 56527 53 4 6"]⟩,
    ⟨["beng", "bengali"], .ofGaps
      ["700 0 1685 1 18 1 27 3 2 7 3 1 3 21 2 6 2 0 4 3 3 8 3 1 3 3 9 0 5 1 2 4 3 24 4818",
       "0 2 0 3 1 2 0 9 0 9 0 3 0 5 0 3 2 35834 0"]⟩,
    ⟨["bopo", "bopomofo"], .ofGaps
      ["711 0 2 2 14 0 17 1 11542 2 5 9 2 12 11 3 3 0 7 0 196 0 10 42 113 31 52358 1 283 4"]⟩,
    ⟨["bugi", "buginese"], .ofGaps
      ["6656 27 3 1 36784 0"]⟩,
    ⟨["buhd", "buhid"], .ofGaps
      ["5941 1 10 19"]⟩,
    ⟨["cakm", "chakma"], .ofGaps
      ["2534 9 1617 9 65719 52 2 17"]⟩,
    ⟨["cari", "carian"], .ofGaps
      ["183 0 8099 0 3 0 3540 0 54383 48"]⟩,
    ⟨["cher", "cherokee"], .ofGaps
      ["768 2 2 0 7 1 23 1 12 1 4207 85 3 5 38771 79"]⟩,
    ⟨["copt", "qaac", "coptic"], .ofGaps
      ["183 0 585 0 4 1 2 0 109 1 109 13 10385 115 6 6 280 0 54473 27"]⟩,
    ⟨["cpmn", "cyprominoan"], .ofGaps
      ["65792 1 11919 98"]⟩,
    ⟨["cprt", "cypriot"], .ofGaps
      ["65792 2 5 44 4 8 1729 5 3 0 2 43 2 1 4 0 3 0"]⟩,
    ⟨["cyrl", "cyrillic"], .ofGaps
      ["700 0 68 2 2 0 2 0 2 0 3 0 6 0 239 303 5969 10 161 0 77 0 128 0 4072 31 68 0 30717",
       "95 22415 1 57857 61 34 0"]⟩,
    ⟨["deva", "devanagari"], .ofGaps
      ["700 0 1604 82 3 42 4945 38 2 1 1015 0 34624 9 167 31 29185 9"]⟩,
    ⟨["dogr", "dogra"], .ofGaps
      ["2404 11 40641 9 28615 59"]⟩,
    ⟨["dupl", "duployan"], .ofGaps
      ["183 0 592 1 2 0 25 1 11032 0 101828 106 6 12 4 8 8 9 3 7"]⟩,
    ⟨["elba", "elbasan"], .ofGaps
      ["183 0 590 0 66043 39"]⟩,
    ⟨["ethi", "ethiopic"], .ofGaps
      ["782 0 3826 72 2 3 3 6 2 0 2 3 3 40 2 3 3 32 2 3 3 6 2 0 2 3 3 14 2 56 2 3 3 66 3",
       "31 4 25 6631 22 10 6 2 6 2 6 2 6 2 6 2 6 2 6 2 6 32035 5 3 5 3 5 10 6 2 6 81074 6",
       "2 3 2 1 2 14"]⟩,
    ⟨["gara", "garay"], .ofGaps
      ["1548 0 15 0 4 0 67361 37 4 28 9 1"]⟩,
    ⟨["geor", "georgian"], .ofGaps
      ["183 0 1234 0 2839 37 2 0 6 0 3 47 2961 42 3 2 923 0 3238 37 2 0 6 0 260 0"]⟩,
    ⟨["glag", "glagolitic"], .ofGaps
      ["183 0 588 0 2 0 383 0 3 0 258 0 2930 0 3935 0 2982 95 484 0 30764 0 80273 6 2 16 3",
       "6 2 1 2 4"]⟩,
    ⟨["gong", "gunjalagondi"], .ofGaps
      ["183 0 2221 1 70651 5 2 1 2 36 2 1 2 5 8 9"]⟩,
    ⟨["gonm", "masaramgondi"], .ofGaps
      ["2404 1 70555 6 2 1 2 43 4 0 2 1 2 8 9 9"]⟩,
    ⟨["goth", "gothic"], .ofGaps
      ["183 0 589 1 3 0 41 0 65535 26"]⟩,
    ⟨["gran", "grantha"], .ofGaps
      ["2385 1 18 1 641 13 4317 0 2 1 31 2 4 1 1015 0 61968 3 2 7 3 1 3 21 2 6 2 1 2 4 2 9",
       "3 1 3 2 3 0 7 0 6 6 3 6 4 4 3164 1 2 0"]⟩,
    ⟨["grek", "greek"], .ofGaps
      ["183 0 585 1 3 0 2 0 2 0 11 0 47 0 3 0 43 7 3 3 2 0 5 0 2 0 2 2 2 0 2 19 2 62 15 15",
       "6439 4 51 4 5 4 85 2 319 21 3 5 3 37 3 5 3 7 2 0 2 0 2 0 2 30 3 52 2 14 2 13 3 5 2",
       "18 3 2 2 8 95 0 201 0 35391 0 21979 78 18 0 53344 69"]⟩,
    ⟨["gujr", "gujarati"], .ofGaps
      ["2385 1 18 1 284 2 2 8 2 2 2 21 2 6 2 1 2 4 3 9 2 2 2 2 3 0 16 3 3 11 8 6 40241 9"]⟩,
    ⟨["gukh", "gurungkhema"], .ofGaps
      ["2405 0 87963 57"]⟩,
    ⟨["guru", "gurmukhi"], .ofGaps
      ["2385 1 18 1 156 2 2 5 5 1 3 21 2 6 2 1 2 1 2 1 3 0 2 4 5 1 3 2 4 0 8 3 2 0 8 16",
       "40378 9"]⟩,
    ⟨["han", "hani"], .ofGaps
      ["183 0 11721 25 2 88 13 213 27 15 2 2 2 12 2 12 2 12 3 0 7 8 188 0 149 15 33 37 10",
       "0 49 39 57 48 16 11 52 0 89 24 11 4 97 30 2 6591 65 20991 1793 7 20985 365 3 105",
       "876 1 283 4 28797 1 13 1 25455 17 7903 1 3503 42719 33 4153 7 221 3 5761 15 7472",
       "16 621 2467 541 1507 4938 6 4191"]⟩,
    ⟨["hang", "hangul"], .ofGaps
      ["4352 255 7682 2 5 9 2 12 15 2 7 0 196 0 54 93 114 30 66 30 30434 28 644 11171 13",
       "22 5 48 9802 1 283 4 59 30 4 5 3 5 3 5 3 2"]⟩,
    ⟨["hano", "hanunoo"], .ofGaps
      ["5920 22"]⟩,
    ⟨["hebr", "hebrew"], .ofGaps
      ["775 1 649 54 9 26 5 5 62761 25 2 4 2 0 2 1 2 1 2 9"]⟩,
    ⟨["hira", "hiragana"], .ofGaps
      ["12289 2 5 9 2 12 17 5 2 0 5 1 4 85 3 7 91 1 52553 1 283 4 11 0 46 1 45154 286 19 0",
       "30 2 16558 0"]⟩,
    ⟨["hung", "oldhungarian"], .ofGaps
      ["8282 0 3 0 3540 0 16 0 56895 50 14 50 8 5"]⟩,
    ⟨["java", "javanese"], .ofGaps
      ["43392 77 2 10 5 1"]⟩,
    ⟨["kali", "kayahli"], .ofGaps
      ["43264 47"]⟩,
    ⟨["kana", "katakana"], .ofGaps
      ["773 0 30 0 11486 2 5 9 2 12 17 5 2 0 5 1 92 3 4 95 241 15 209 46 2 87 51950 1 283",
       "62 45137 3 2 6 2 1 2 0 288 2 51 0 15 3"]⟩,
    ⟨["khoj", "khojki"], .ofGaps
      ["2790 9 40257 9 27079 17 2 46"]⟩,
    ⟨["knda", "kannada"], .ofGaps
      ["2385 1 18 1 795 12 2 2 2 22 2 9 2 4 3 8 2 2 2 3 8 1 7 1 2 3 3 9 2 2 4061 0 2 1 7 0",
       "24 0 2 0 35644 5"]⟩,
    ⟨["kthi", "kaithi"], .ofGaps
      ["2406 9 9410 0 31231 9 26695 66 11 0"]⟩,
    ⟨["latn", "latin"], .ofGaps
      ["65 25 7 25 48 0 13 0 3 0 6 22 2 30 2 448 4 0 11 0 2 2 2 0 10 0 2 0 7 4 28 14 2 1 2",
       "0 13 0 3 2 8 1 2 1 39 0 6 0 5 12 278 1 1227 1 1961 0 3077 37 7 48 6 3 6 12 2 69 58",
       "0 8 255 304 0 66 0 14 0 17 12 84 0 58 1 7 0 28 0 18 40 2776 31 408 0 30953 7 27",
       "101 4 66 3 1 2 0 2 7 22 13 303 0 514 42 2 8 2 3 20375 6 1051 25 7 25 2086 5 2 41 2",
       "8 55110 30 7 5"]⟩,
    ⟨["limb", "limbu"], .ofGaps
      ["2405 0 3995 30 2 11 5 11 5 0 4 11"]⟩,
    ⟨["lina", "lineara"], .ofGaps
      ["65799 44 1229 310 10 21 11 7"]⟩,
    ⟨["linb", "linearb"], .ofGaps
      ["65536 11 2 25 2 18 2 1 2 14 3 13 35 122 6 2 5 44 4 8"]⟩,
    ⟨["lisu"], .ofGaps
      ["700 0 17 0 11581 1 29893 47 31409 0"]⟩,
    ⟨["lyci", "lycian"], .ofGaps
      ["8282 0 57894 28"]⟩,
    ⟨["lydi", "lydian"], .ofGaps
      ["183 0 11642 0 56047 25 6 0"]⟩,
    ⟨["mahj", "mahajani"], .ofGaps
      ["183 0 2221 11 40641 9 26903 38"]⟩,
    ⟨["mand", "mandaic"], .ofGaps
      ["1600 0 512 27 3 0"]⟩,
    ⟨["mani", "manichaean"], .ofGaps
      ["1600 0 66688 38 5 11"]⟩,
    ⟨["mero", "meroitichieroglyphs"], .ofGaps
      ["8285 0 59683 31"]⟩,
    ⟨["mlym", "malayalam"], .ofGaps
      ["2385 1 18 1 923 12 2 2 2 50 2 2 2 5 5 15 3 25 3931 0 24 0 35646 2"]⟩,
    ⟨["modi"], .ofGaps
      ["43056 9 28103 68 12 9"]⟩,
    ⟨["mong", "mongolian"], .ofGaps
      ["6144 25 7 88 8 42 1925 0 4050 1 6 3 58965 12"]⟩,
    ⟨["mult", "multani"], .ofGaps
      ["2662 9 67601 6 2 0 2 3 2 14 2 10"]⟩,
    ⟨["mymr", "myanmar"], .ofGaps
      ["4096 159 39055 0 178 30 98 31 27729 19"]⟩,
    ⟨["nand", "nandinagari"], .ofGaps
      ["2404 1 897 9 4090 0 9 0 8 0 35638 5 29035 7 3 45 3 10"]⟩,
    ⟨["nko", "nkoo"], .ofGaps
      ["1548 0 15 0 4 0 417 58 3 2 62783 1"]⟩,
    ⟨["onao", "olonal"], .ofGaps
      ["2404 1 121963 42 5 0"]⟩,
    ⟨["orkh", "oldturkic"], .ofGaps
      ["8282 0 3542 0 56784 72"]⟩,
    ⟨["orya", "oriya"], .ofGaps
      ["2385 1 18 1 412 2 2 7 3 1 3 21 2 6 2 1 2 4 3 8 3 1 3 2 8 2 5 1 2 4 3 17 4451 0 24",
       "0"]⟩,
    ⟨["osge", "osage"], .ofGaps
      ["769 0 3 0 7 0 77 0 65880 35 5 35"]⟩,
    ⟨["ougr", "olduyghur"], .ofGaps
      ["1600 0 66738 0 1150 25"]⟩,
    ⟨["perm", "oldpermic"], .ofGaps
      ["183 0 585 0 6 2 11 0 368 0 65229 42"]⟩,
    ⟨["phag", "phagspa"], .ofGaps
      ["6146 1 2 0 2090 0 4051 0 30782 55"]⟩,
    ⟨["phlp", "psalterpahlavi"], .ofGaps
      ["1600 0 66880 17 8 3 13 6"]⟩,
    ⟨["qaai", "zinh", "inherited"], .ofGaps
      ["783 0 3 0 2 11 2 1 4 6 3 0 3 15 2 1 2 17 2 4 2 3 1521 1 4444 30 756 53 2 0 2 4 525",
       "1 195 31 56593 15 17 13 976 0 52483 45 3 22 545 2 18 7 3 6 31 3 798547 239"]⟩,
    ⟨["rohg", "hanifirohingya"], .ofGaps
      ["1548 0 15 0 4 0 33 0 148 0 67116 39 9 9"]⟩,
    ⟨["runr", "runic"], .ofGaps
      ["5792 88"]⟩,
    ⟨["samr", "samaritan"], .ofGaps
      ["2048 45 3 14 9715 0"]⟩,
    ⟨["shaw", "shavian"], .ofGaps
      ["183 0 66457 47"]⟩,
    ⟨["shrd", "sharada"], .ofGaps
      ["2385 0 4998 0 2 0 3 1 3 0 35664 5 3 0 26952 95"]⟩,
    ⟨["sind", "khudawadi"], .ofGaps
      ["2404 1 40651 9 27255 58 6 9"]⟩,
    ⟨["sinh", "sinhala"], .ofGaps
      ["2404 1 1052 2 2 17 4 23 2 8 2 0 3 6 4 0 5 5 2 0 2 7 7 9 3 2 3838 0 62703 19"]⟩,
    ⟨["sogd", "sogdian"], .ofGaps
      ["1600 0 67824 41"]⟩,
    ⟨["sunu", "sunuwar"], .ofGaps
      ["768 1 2 0 10 0 3 0 29 0 4 0 71823 33 15 9"]⟩,
    ⟨["sylo", "sylotinagri"], .ofGaps
      ["2404 1 129 9 40465 44"]⟩,
    ⟨["syrc", "syriac"], .ofGaps
      ["771 1 3 1 2 0 22 0 3 2 8 1 2 0 732 0 15 1 3 0 33 0 11 10 27 0 144 13 2 59 3 2 273",
       "10 5518 0 2 0"]⟩,
    ⟨["tagb", "tagbanwa"], .ofGaps
      ["5941 1 42 12 2 2 2 1"]⟩,
    ⟨["takr", "takri"], .ofGaps
      ["2404 1 40651 9 28231 57 7 9"]⟩,
    ⟨["tale", "taile"], .ofGaps
      ["768 1 6 1 4 0 3380 9 2311 29 3 4"]⟩,
    ⟨["taml", "tamil"], .ofGaps
      ["2385 1 18 1 541 1 2 5 4 2 2 3 4 1 2 0 2 1 4 1 4 2 4 11 5 4 4 2 2 3 3 0 7 0 15 20",
       "4320 0 35865 0 27150 0 2 0 56 1 3204 49 14 0"]⟩,
    ⟨["tang", "tangut"], .ofGaps
      ["12272 15 496 0 81393 0 32 6135 9 767 513 8"]⟩,
    ⟨["telu", "telugu"], .ofGaps
      ["2385 1 18 1 667 12 2 2 2 22 2 15 3 8 2 2 2 3 8 1 2 2 3 0 3 3 3 9 8 8 4187 0 24 0"]⟩,
    ⟨["tfng", "tifinagh"], .ofGaps
      ["770 0 2 0 3 0 2 0 10791 55 8 1 15 0"]⟩,
    ⟨["tglg", "tagalog"], .ofGaps
      ["5888 21 10 0 22 1"]⟩,
    ⟨["thaa", "thaana"], .ofGaps
      ["1548 0 15 1 3 0 65 9 279 49 63041 0 11 0"]⟩,
    ⟨["thai"], .ofGaps
      ["700 0 27 0 44 0 46 0 2768 57 6 27"]⟩,
    ⟨["tibt", "tibetan"], .ofGaps
      ["3840 71 2 35 5 38 2 35 2 14 2 6 5 1 8238 3"]⟩,
    ⟨["tirh", "tirhuta"], .ofGaps
      ["2385 1 18 1 5005 0 35646 9 27719 71 9 9"]⟩,
    ⟨["todr", "todhri"], .ofGaps
      ["769 0 3 0 3 0 10 0 2 0 75 0 66146 51"]⟩,
    ⟨["toto"], .ofGaps
      ["700 0 122836 30"]⟩,
    ⟨["tutg", "tulutigalari"], .ofGaps
      ["3302 9 4099 0 2 0 35644 5 188 0 27279 9 2 0 3 0 2 37 2 9 2 0 3 0 2 3 2 9 2 1 9 1"]⟩,
    ⟨["yezi", "yezidi"], .ofGaps
      ["1548 0 15 0 4 0 65 9 67607 41 2 2 3 1"]⟩,
    ⟨["yi", "yiii"], .ofGaps
      ["12289 1 6 9 3 7 224 0 28421 1164 4 54 23195 4"]⟩,
    ⟨["zyyy", "common"], .ofGaps
      ["0 64 27 5 27 46 2 11 2 1 2 4 24 0 32 0 450 2 2 9 2 0 4 0 2 8 2 0 2 5 6 4 3 19 127",
       "0 7 0 2 0 638 0 216 0 517 0 1373 0 406 3 4136 11 3 32 2 30 2 9 2 1 2 6 2 10 4 10 2",
       "14 18 32 64 37 2 2 3 5 2 26 2 16 42 2 5 665 23 10 22 927 257 627 3 31 2 104 513 22",
       "2 23 3 9 2 3 2 0 2 25 419 0 4 0 14 0 14 0 22 0 530 23 32 0 50 14 13 3 162 9 6 95",
       "32 0 6593 63 22793 25 103 2 977 0 15 1 21157 9 23 20 3 11 2 18 2 3 148 0 2 31 27 5",
       "27 5 128 6 2 6 11 4 403 12 52 44 51716 249 7 435 157 115 61 245 11 38 3 61 4 16 9",
       "1 8 29 5 60 214 19 13 19 13 86 28 6 136 84 2 70 2 1 3 0 3 1 3 3 2 11 2 0 2 6 2 64",
       "2 3 3 7 2 6 2 27 2 3 2 4 2 0 4 6 2 339 3 291 3 49 5234 67 77 60 707 43 5 99 13 14",
       "3 14 2 14 2 36 11 173 57 25 2 1 14 43 5 8 24 5 155 983 5 16 4 12 4 118 5 94 7 11 5",
       "0 16 11 5 55 9 9 7 39 9 29 3 11 5 1 63 339 13 13 3 12 4 9 6 55 8 14 3 10 7 8 8 146",
       "2 101 787464 0 31 95"]⟩]

def script? (name : String) : Option CharacterSet :=
  NamedSet.find? name scripts

/-- The characters that are written in a script. -/
def extendedScript? (name : String) : Option CharacterSet :=
  (NamedSet.find? name extendedScripts).orElse fun _ => script? name

end Assessment.Text
