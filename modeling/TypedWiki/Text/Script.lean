import TypedWiki.Text.CodeSet

/-!
# Scripts — the scripts of characters by name

The scripts of Unicode 16.0 with their names, written in small letters only.  A character belongs to one script; the
extensions add the characters that a script shares with others.
-/

namespace TypedWiki.Text

/-- The scripts. -/
def scriptTable : List (List String × CodeSet) := [
  (["adlm", "adlam"], .ofGaps "125184 76 4 10 4 2"),
  (["ahom"], .ofGaps "71424 27 2 15 4 23"),
  (["hluw", "anatolianhieroglyphs"], .ofGaps "82944 583"),
  (["arab", "arabic"], .ofGaps "
    1536 5 1 6 1 14 1 3 1 32 1 10 11 26 1 108 1 34 80 48 240 31 1 2 5 75 1 29 62032 115 16 363 2 80 2 54 7 1 32
    16 112 5 1 135 3939 31 67 3 55 4 57088 4 1 27 1 2 1 1 2 1 1 10 1 4 1 1 1 1 6 1 4 1 1 1 1 1 1 3 1 2 1 1 2 1 1
    1 1 1 1 1 1 1 1 2 1 1 2 4 1 7 1 4 1 4 1 1 1 10 1 17 5 3 1 5 1 17 52 2"),
  (["armn", "armenian"], .ofGaps "1329 38 2 50 2 3 62851 5"),
  (["avst", "avestan"], .ofGaps "68352 54 3 7"),
  (["bali", "balinese"], .ofGaps "6912 77 1 50"),
  (["bamu", "bamum"], .ofGaps "42656 88 49416 569"),
  (["bass", "bassavah"], .ofGaps "92880 30 2 6"),
  (["batk", "batak"], .ofGaps "7104 52 8 4"),
  (["beng", "bengali"], .ofGaps "2432 4 1 8 2 2 2 22 1 7 1 1 3 4 2 9 2 2 2 4 8 1 4 2 1 5 2 25"),
  (["bhks", "bhaiksuki"], .ofGaps "72704 9 1 45 1 14 10 29"),
  (["bopo", "bopomofo"], .ofGaps "746 2 11801 43 112 32"),
  (["brah", "brahmi"], .ofGaps "69632 78 4 36 9 1"),
  (["brai", "braille"], .ofGaps "10240 256"),
  (["bugi", "buginese"], .ofGaps "6656 28 2 2"),
  (["buhd", "buhid"], .ofGaps "5952 20"),
  (["cans", "canadianaboriginal"], .ofGaps "5120 640 560 70 65978 16"),
  (["cari", "carian"], .ofGaps "66208 49"),
  (["aghb", "caucasianalbanian"], .ofGaps "66864 52 11 1"),
  (["cakm", "chakma"], .ofGaps "69888 53 1 18"),
  (["cham"], .ofGaps "43520 55 9 14 2 10 2 4"),
  (["cher", "cherokee"], .ofGaps "5024 86 2 6 38770 80"),
  (["chrs", "chorasmian"], .ofGaps "69552 28"),
  (["zyyy", "common"], .ofGaps "
    0 65 26 6 26 47 1 15 1 5 23 1 31 1 449 39 5 5 2 20 116 1 9 1 6 1 1 1 637 1 6 1 14 1 3 1 32 1 156 1 516 1 129
    2 1241 1 405 4 290 1 1519 3 71 2 203 2 1 1 1229 1 13 1 7 4 1 6 1 3 2 1 773 12 2 87 1 11 3 11 1 15 17 33 63
    38 1 3 2 6 1 27 1 17 41 3 4 666 22 11 21 928 256 628 2 32 1 105 512 94 402 21 1 1 1 25 15 8 4 4 91 2 3 1 90
    2 147 16 32 38 9 1 48 64 31 81 47 1 88 168 6592 64 22784 34 102 3 165 10 244 1 160 1 395 1 14 2 20946 2 208
    10 22 35 1 19 1 4 147 1 1 32 26 6 26 11 10 1 45 2 64 7 1 7 10 5 258 3 4 45 3 9 80 13 51 45 228 27 47524 4
    3932 250 6 436 156 116 60 246 10 39 2 62 3 17 8 2 7 30 4 61 213 20 12 20 12 87 9 25 135 85 1 71 1 2 2 1 2 2
    2 4 1 12 1 1 1 7 1 65 1 4 2 8 1 7 1 28 1 4 1 5 1 1 3 7 1 340 2 292 2 50 5233 68 76 61 706 44 4 100 12 15 2
    15 1 15 1 37 10 174 56 26 1 2 13 44 4 9 7 2 14 6 154 984 4 17 3 13 3 119 4 95 6 12 4 1 15 12 4 56 8 10 6 40
    8 30 2 12 4 2 62 340 12 14 2 13 3 10 5 56 7 15 2 11 6 9 7 147 1 102 787463 1 30 96"),
  (["copt", "coptic", "qaac"], .ofGaps "994 14 10384 116 5 7"),
  (["xsux", "cuneiform"], .ofGaps "73728 922 102 111 1 5 11 196"),
  (["cprt", "cypriot"], .ofGaps "67584 6 2 1 1 44 1 2 3 1 2 1"),
  (["cpmn", "cyprominoan"], .ofGaps "77712 99"),
  (["cyrl", "cyrillic"], .ofGaps "1024 133 2 169 5968 11 160 1 76 1 4199 32 30784 96 22414 2 57856 62 33 1"),
  (["dsrt", "deseret"], .ofGaps "66560 80"),
  (["deva", "devanagari"], .ofGaps "2304 81 4 15 2 26 40800 32 29184 10"),
  (["diak", "divesakuru"], .ofGaps "71936 7 2 1 2 8 1 2 1 30 1 2 2 12 9 10"),
  (["dogr", "dogra"], .ofGaps "71680 60"),
  (["dupl", "duployan"], .ofGaps "113664 107 5 13 3 9 7 10 2 4"),
  (["egyp", "egyptianhieroglyphs"], .ofGaps "77824 1110 10 3995"),
  (["elba", "elbasan"], .ofGaps "66816 40"),
  (["elym", "elymaic"], .ofGaps "69600 23"),
  (["ethi", "ethiopic"], .ofGaps "
    4608 73 1 4 2 7 1 1 1 4 2 41 1 4 2 33 1 4 2 7 1 1 1 4 2 15 1 57 1 4 2 67 2 32 3 26 6630 23 9 7 1 7 1 7 1 7 1
    7 1 7 1 7 1 7 32034 6 2 6 2 6 9 7 1 7 81073 7 1 4 1 2 1 15"),
  (["gara", "garay"], .ofGaps "68928 38 3 29 8 2"),
  (["geor", "georgian"], .ofGaps "4256 38 1 1 5 1 2 43 1 4 2960 43 2 3 4160 38 1 1 5 1"),
  (["glag", "glagolitic"], .ofGaps "11264 96 111520 7 1 17 2 7 1 2 1 5"),
  (["goth", "gothic"], .ofGaps "66352 27"),
  (["gran", "grantha"], .ofGaps "70400 4 1 8 2 2 2 22 1 7 1 2 1 5 2 9 2 2 2 3 2 1 6 1 5 7 2 7 3 5"),
  (["grek", "greek"], .ofGaps "
    880 4 1 3 2 4 1 1 4 1 1 1 1 3 1 1 1 20 1 63 14 16 6438 5 50 5 4 5 84 1 320 22 2 6 2 38 2 6 2 8 1 1 1 1 1 1 1
    31 2 53 1 15 1 14 2 6 1 19 2 3 1 9 295 1 35390 1 21978 79 17 1 53343 70"),
  (["gujr", "gujarati"], .ofGaps "2689 3 1 9 1 3 1 22 1 7 1 2 1 5 2 10 1 3 1 3 2 1 15 4 2 12 7 7"),
  (["gong", "gunjalagondi"], .ofGaps "73056 6 1 2 1 37 1 2 1 6 7 10"),
  (["guru", "gurmukhi"], .ofGaps "2561 3 1 6 4 2 2 22 1 7 1 2 1 2 1 2 2 1 1 5 4 2 2 3 3 1 7 4 1 1 7 17"),
  (["gukh", "gurungkhema"], .ofGaps "90368 58"),
  (["hani", "han"], .ofGaps "
    11904 26 1 89 12 214 47 1 1 1 25 9 14 4 964 6592 64 20992 22784 366 2 106 29960 2 12 2 36878 42720 32 4154 6
    222 2 5762 14 7473 15 622 2466 542 1506 4939 5 4192"),
  (["hang", "hangul"], .ofGaps "
    4352 256 7726 2 257 94 113 31 65 31 30433 29 643 11172 12 23 4 49 10148 31 3 6 2 6 2 6 2 3"),
  (["rohg", "hanifirohingya"], .ofGaps "68864 40 8 10"),
  (["hano", "hanunoo"], .ofGaps "5920 21"),
  (["hatr", "hatran"], .ofGaps "67808 19 1 2 5 5"),
  (["hebr", "hebrew"], .ofGaps "1425 55 8 27 4 6 62760 26 1 5 1 1 1 2 1 2 1 10"),
  (["hira", "hiragana"], .ofGaps "12353 86 6 3 98145 287 18 1 29 3 16557 1"),
  (["armi", "imperialaramaic"], .ofGaps "67648 22 1 9"),
  (["zinh", "inherited", "qaai"], .ofGaps "
    768 112 277 2 452 11 26 1 736 4 4443 31 513 3 1 13 1 7 4 1 6 1 3 2 198 64 524 2 194 33 3897 4 107 2 52581 16
    16 14 975 1 226 1 4186 1 48068 46 2 23 544 3 17 8 2 7 30 4 798546 240"),
  (["phli", "inscriptionalpahlavi"], .ofGaps "68448 19 5 8"),
  (["prti", "inscriptionalparthian"], .ofGaps "68416 22 2 8"),
  (["java", "javanese"], .ofGaps "43392 78 2 10 4 2"),
  (["kthi", "kaithi"], .ofGaps "69760 67 10 1"),
  (["knda", "kannada"], .ofGaps "3200 13 1 3 1 23 1 10 1 5 2 9 1 3 1 4 7 2 6 2 1 4 2 10 1 3"),
  (["kana", "katakana"], .ofGaps "
    12449 90 2 3 240 16 208 47 1 88 52238 10 1 45 45138 4 1 7 1 2 1 1 287 3 50 1 14 4"),
  (["kawi"], .ofGaps "73472 17 1 41 3 29"),
  (["kali", "kayahli"], .ofGaps "43264 46 1 1"),
  (["khar", "kharoshthi"], .ofGaps "68096 4 1 2 5 8 1 3 1 29 2 3 4 10 7 9"),
  (["kits", "khitansmallscript"], .ofGaps "94180 1 6939 470 41 1"),
  (["khmr", "khmer"], .ofGaps "6016 94 2 10 6 10 486 32"),
  (["khoj", "khojki"], .ofGaps "70144 18 1 47"),
  (["sind", "khudawadi"], .ofGaps "70320 59 5 10"),
  (["krai", "kiratrai"], .ofGaps "93504 58"),
  (["laoo", "lao"], .ofGaps "3713 2 1 1 1 5 1 24 1 1 1 23 2 5 1 1 1 7 1 10 2 4"),
  (["lepc", "lepcha"], .ofGaps "7168 56 3 15 3 3"),
  (["limb", "limbu"], .ofGaps "6400 31 1 12 4 12 4 1 3 12"),
  (["lina", "lineara"], .ofGaps "67072 311 9 22 10 8"),
  (["lisu"], .ofGaps "42192 48 31408 1"),
  (["lyci", "lycian"], .ofGaps "66176 29"),
  (["lydi", "lydian"], .ofGaps "67872 26 5 1"),
  (["maka", "makasar"], .ofGaps "73440 25"),
  (["mlym", "malayalam"], .ofGaps "3328 13 1 3 1 51 1 3 1 6 4 16 2 26"),
  (["mand", "mandaic"], .ofGaps "2112 28 2 1"),
  (["mani", "manichaean"], .ofGaps "68288 39 4 12"),
  (["medf", "medefaidrin"], .ofGaps "93760 91"),
  (["mtei", "meeteimayek"], .ofGaps "43744 23 201 46 2 10"),
  (["mend", "mendekikakui"], .ofGaps "124928 197 2 16"),
  (["merc", "meroiticcursive"], .ofGaps "68000 24 4 20 2 46"),
  (["mero", "meroitichieroglyphs"], .ofGaps "67968 32"),
  (["plrd", "miao"], .ofGaps "93952 75 4 57 7 17"),
  (["modi"], .ofGaps "71168 69 11 10"),
  (["mong", "mongolian"], .ofGaps "6144 2 2 1 1 20 6 89 7 43 64949 13"),
  (["mroo", "mro"], .ofGaps "92736 31 1 10 4 2"),
  (["mult", "multani"], .ofGaps "70272 7 1 1 1 4 1 15 1 11"),
  (["mymr", "myanmar"], .ofGaps "4096 160 39232 31 97 32 27728 20"),
  (["nbat", "nabataean"], .ofGaps "67712 31 8 9"),
  (["nagm", "nagmundari"], .ofGaps "124112 42"),
  (["nand", "nandinagari"], .ofGaps "72096 8 2 46 2 11"),
  (["talu", "newtailue"], .ofGaps "6528 44 4 26 6 11 3 2"),
  (["newa"], .ofGaps "70656 92 1 5"),
  (["nkoo", "nko"], .ofGaps "1984 59 2 3"),
  (["nshu", "nushu"], .ofGaps "94177 1 16782 396"),
  (["hmnp", "nyiakengpuachuehmong"], .ofGaps "123136 45 3 14 2 10 4 2"),
  (["ogam", "ogham"], .ofGaps "5760 29"),
  (["olck", "olchiki"], .ofGaps "7248 48"),
  (["onao", "olonal"], .ofGaps "124368 43 4 1"),
  (["ital", "olditalic"], .ofGaps "66304 36 9 3"),
  (["narb", "oldnortharabian"], .ofGaps "68224 32"),
  (["perm", "oldpermic"], .ofGaps "66384 43"),
  (["xpeo", "oldpersian"], .ofGaps "66464 36 4 14"),
  (["sogo", "oldsogdian"], .ofGaps "69376 40"),
  (["sarb", "oldsoutharabian"], .ofGaps "68192 32"),
  (["orkh", "oldturkic"], .ofGaps "68608 73"),
  (["ougr", "olduyghur"], .ofGaps "69488 26"),
  (["orya", "oriya"], .ofGaps "2817 3 1 8 2 2 2 22 1 7 1 2 1 5 2 9 2 2 2 3 7 3 4 2 1 5 2 18"),
  (["osge", "osage"], .ofGaps "66736 36 4 36"),
  (["osma", "osmanya"], .ofGaps "66688 30 2 10"),
  (["hmng", "pahawhhmong"], .ofGaps "92928 70 10 10 1 7 1 21 5 19"),
  (["latn", "latin"], .ofGaps "
    65 26 6 26 47 1 15 1 5 23 1 31 1 449 39 5 6683 38 6 49 5 4 5 13 1 70 65 256 369 1 13 1 16 13 141 2 6 1 27 1
    17 41 2775 32 31394 102 3 67 2 2 1 1 1 8 21 14 816 43 1 9 1 4 20374 7 1050 26 6 26 2085 6 1 42 1 9 55109 31
    6 6"),
  (["linb", "linearb"], .ofGaps "65536 12 1 26 1 19 1 2 1 15 2 14 34 123"),
  (["mahj", "mahajani"], .ofGaps "69968 39"),
  (["marc", "marchen"], .ofGaps "72816 32 2 22 1 14"),
  (["gonm", "masaramgondi"], .ofGaps "72960 7 1 2 1 44 3 1 1 2 1 9 8 10"),
  (["hung", "oldhungarian"], .ofGaps "68736 51 13 51 7 6"),
  (["palm", "palmyrene"], .ofGaps "67680 32"),
  (["pauc", "paucinhau"], .ofGaps "72384 57"),
  (["phag", "phagspa"], .ofGaps "43072 56"),
  (["phnx", "phoenician"], .ofGaps "67840 28 3 1"),
  (["phlp", "psalterpahlavi"], .ofGaps "68480 18 7 4 12 7"),
  (["rjng", "rejang"], .ofGaps "43312 36 11 1"),
  (["runr", "runic"], .ofGaps "5792 75 3 11"),
  (["samr", "samaritan"], .ofGaps "2048 46 2 15"),
  (["saur", "saurashtra"], .ofGaps "43136 70 8 12"),
  (["shrd", "sharada"], .ofGaps "70016 96"),
  (["shaw", "shavian"], .ofGaps "66640 48"),
  (["sidd", "siddham"], .ofGaps "71040 54 2 38"),
  (["sgnw", "signwriting"], .ofGaps "120832 652 15 5 1 15"),
  (["sinh", "sinhala"], .ofGaps "3457 3 1 18 3 24 1 9 1 1 2 7 3 1 4 6 1 1 1 8 6 10 2 3 66540 20"),
  (["sogd", "sogdian"], .ofGaps "69424 42"),
  (["sora", "sorasompeng"], .ofGaps "69840 25 7 10"),
  (["soyo", "soyombo"], .ofGaps "72272 83"),
  (["sund", "sundanese"], .ofGaps "7040 64 256 8"),
  (["sunu", "sunuwar"], .ofGaps "72640 34 14 10"),
  (["sylo", "sylotinagri"], .ofGaps "43008 45"),
  (["syrc", "syriac"], .ofGaps "1792 14 1 60 2 3 272 11"),
  (["tglg", "tagalog"], .ofGaps "5888 22 9 1"),
  (["tagb", "tagbanwa"], .ofGaps "5984 13 1 3 1 2"),
  (["tale", "taile"], .ofGaps "6480 30 2 5"),
  (["lana", "taitham"], .ofGaps "6688 63 1 29 2 11 6 10 6 14"),
  (["tavt", "taiviet"], .ofGaps "43648 67 24 5"),
  (["takr", "takri"], .ofGaps "71296 58 6 10"),
  (["taml", "tamil"], .ofGaps "
    2946 2 1 6 3 3 1 4 3 2 1 1 1 2 3 2 3 3 3 12 4 5 3 3 1 4 2 1 6 1 14 21 70597 50 13 1"),
  (["tnsa", "tangsa"], .ofGaps "92784 79 1 10"),
  (["tang", "tangut"], .ofGaps "94176 1 31 6136 8 768 512 9"),
  (["telu", "telugu"], .ofGaps "3072 13 1 3 1 23 1 16 2 9 1 3 1 4 7 2 1 3 2 1 2 4 2 10 7 9"),
  (["thaa", "thaana"], .ofGaps "1920 50"),
  (["thai"], .ofGaps "3585 58 5 28"),
  (["tibt", "tibetan"], .ofGaps "3840 72 1 36 4 39 1 36 1 15 1 7 4 2"),
  (["tfng", "tifinagh"], .ofGaps "11568 56 7 2 14 1"),
  (["tirh", "tirhuta"], .ofGaps "70784 72 8 10"),
  (["todr", "todhri"], .ofGaps "67008 52"),
  (["toto"], .ofGaps "123536 31"),
  (["tutg", "tulutigalari"], .ofGaps "70528 10 1 1 2 1 1 38 1 10 1 1 2 1 1 4 1 10 1 2 8 2"),
  (["ugar", "ugaritic"], .ofGaps "66432 30 1 1"),
  (["vaii", "vai"], .ofGaps "42240 300"),
  (["vith", "vithkuqi"], .ofGaps "66928 11 1 15 1 7 1 2 1 11 1 15 1 7 1 2"),
  (["wcho", "wancho"], .ofGaps "123584 58 5 1"),
  (["wara", "warangciti"], .ofGaps "71840 83 12 1"),
  (["yezi", "yezidi"], .ofGaps "69248 42 1 3 2 2"),
  (["yiii", "yi"], .ofGaps "40960 1165 3 55"),
  (["zanb", "zanabazarsquare"], .ofGaps "72192 72")]

/-- The scripts whose extensions differ from them. -/
def scriptExtensionTable : List (List String × CodeSet) := [
  (["adlm", "adlam"], .ofGaps "1567 1 32 1 6670 1 3569 1 113342 76 4 10 4 2"),
  (["arab", "arabic"], .ofGaps "
    1536 5 1 215 1 34 80 48 240 31 1 2 5 75 1 29 5967 1 3569 1 52494 115 16 445 2 54 7 1 32 16 112 5 1 135 995
    28 2916 31 67 3 55 4 57088 4 1 27 1 2 1 1 2 1 1 10 1 4 1 1 1 1 6 1 4 1 1 1 1 1 1 3 1 2 1 1 2 1 1 1 1 1 1 1 1
    1 1 2 1 1 2 4 1 7 1 4 1 4 1 1 1 10 1 17 5 3 1 5 1 17 52 2"),
  (["armn", "armenian"], .ofGaps "776 1 552 38 2 50 2 3 62851 5"),
  (["avst", "avestan"], .ofGaps "183 1 11640 2 56526 54 3 7"),
  (["beng", "bengali"], .ofGaps "
    700 1 1684 2 17 2 26 4 1 8 2 2 2 22 1 7 1 1 3 4 2 9 2 2 2 4 8 1 4 2 1 5 2 25 4817 1 1 1 2 2 1 1 8 1 8 1 2 1
    4 1 2 3 35833 1"),
  (["bopo", "bopomofo"], .ofGaps "
    711 1 1 3 13 1 16 2 11541 3 4 10 1 13 10 4 2 1 6 1 195 1 9 43 112 32 52357 2 282 5"),
  (["bugi", "buginese"], .ofGaps "6656 28 2 2 36783 1"),
  (["buhd", "buhid"], .ofGaps "5941 2 9 20"),
  (["cari", "carian"], .ofGaps "183 1 8098 1 2 1 3539 1 54382 49"),
  (["aghb", "caucasianalbanian"], .ofGaps "772 1 44 1 44 1 66001 52 11 1"),
  (["cakm", "chakma"], .ofGaps "2534 10 1616 10 65718 53 1 18"),
  (["cher", "cherokee"], .ofGaps "768 3 1 1 6 2 22 2 11 2 4206 86 2 6 38770 80"),
  (["zyyy", "common"], .ofGaps "
    0 65 26 6 26 47 1 12 1 2 1 5 23 1 31 1 449 3 1 10 1 1 3 1 1 9 1 1 1 6 5 5 2 20 126 1 6 1 1 1 637 1 215 1 516
    1 1372 1 405 4 4135 12 2 33 1 31 1 10 1 2 1 7 1 11 3 11 1 15 17 33 63 38 1 3 2 6 1 27 1 17 41 3 4 666 22 11
    21 928 256 628 2 32 1 105 512 23 1 24 2 10 1 4 1 1 1 26 418 1 3 1 13 1 13 1 21 1 529 24 31 1 49 15 12 4 161
    10 5 96 31 1 6592 64 22792 26 102 3 976 1 14 2 21156 10 22 21 2 12 1 19 1 4 147 1 1 32 26 6 26 6 127 7 1 7
    10 5 402 13 51 45 51715 250 6 436 156 116 60 246 10 39 2 62 3 17 8 2 7 30 4 61 213 20 12 20 12 87 27 7 135
    85 1 71 1 2 2 1 2 2 2 4 1 12 1 1 1 7 1 65 1 4 2 8 1 7 1 28 1 4 1 5 1 1 3 7 1 340 2 292 2 50 5233 68 76 61
    706 44 4 100 12 15 2 15 1 15 1 37 10 174 56 26 1 2 13 44 4 9 23 6 154 984 4 17 3 13 3 119 4 95 6 12 4 1 15
    12 4 56 8 10 6 40 8 30 2 12 4 2 62 340 12 14 2 13 3 10 5 56 7 15 2 11 6 9 7 147 1 102 787463 1 30 96"),
  (["copt", "coptic", "qaac"], .ofGaps "183 1 584 1 3 2 1 1 108 2 108 14 10384 116 5 7 279 1 54472 28"),
  (["cprt", "cypriot"], .ofGaps "65792 3 4 45 3 9 1728 6 2 1 1 44 1 2 3 1 2 1"),
  (["cpmn", "cyprominoan"], .ofGaps "65792 2 11918 99"),
  (["cyrl", "cyrillic"], .ofGaps "
    700 1 67 3 1 1 1 1 1 1 2 1 5 1 238 304 5968 11 160 1 76 1 127 1 4071 32 67 1 30716 96 22414 2 57856 62 33 1"),
  (["deva", "devanagari"], .ofGaps "700 1 1603 83 2 43 4944 39 1 2 1014 1 34623 10 166 32 29184 10"),
  (["dogr", "dogra"], .ofGaps "2404 12 40640 10 28614 60"),
  (["dupl", "duployan"], .ofGaps "183 1 591 2 1 1 24 2 11031 1 101827 107 5 13 3 9 7 10 2 8"),
  (["elba", "elbasan"], .ofGaps "183 1 589 1 66042 40"),
  (["ethi", "ethiopic"], .ofGaps "
    782 1 3825 73 1 4 2 7 1 1 1 4 2 41 1 4 2 33 1 4 2 7 1 1 1 4 2 15 1 57 1 4 2 67 2 32 3 26 6630 23 9 7 1 7 1 7
    1 7 1 7 1 7 1 7 1 7 32034 6 2 6 2 6 9 7 1 7 81073 7 1 4 1 2 1 15"),
  (["gara", "garay"], .ofGaps "1548 1 14 1 3 1 67360 38 3 29 8 2"),
  (["geor", "georgian"], .ofGaps "183 1 1233 1 2838 38 1 1 5 1 2 48 2960 43 2 3 922 1 3237 38 1 1 5 1 259 1"),
  (["glag", "glagolitic"], .ofGaps "
    183 1 587 1 1 1 382 1 2 1 257 1 2929 1 3934 1 2981 96 483 1 30763 1 80272 7 1 17 2 7 1 2 1 5"),
  (["goth", "gothic"], .ofGaps "183 1 588 2 2 1 40 1 65534 27"),
  (["gran", "grantha"], .ofGaps "
    2385 2 17 2 640 14 4316 1 1 2 30 3 3 2 1014 1 61967 4 1 8 2 2 2 22 1 7 1 2 1 5 1 10 2 2 2 3 2 1 6 1 5 7 2 7
    3 5 3163 2 1 1"),
  (["grek", "greek"], .ofGaps "
    183 1 584 2 2 1 1 1 1 1 10 1 46 1 2 1 42 8 2 4 1 1 4 1 1 1 1 3 1 1 1 20 1 63 14 16 6438 5 50 5 4 5 84 3 318
    22 2 6 2 38 2 6 2 8 1 1 1 1 1 1 1 31 2 53 1 15 1 14 2 6 1 19 2 3 1 9 94 1 200 1 35390 1 21978 79 17 1 53343
    70"),
  (["gujr", "gujarati"], .ofGaps "
    2385 2 17 2 283 3 1 9 1 3 1 22 1 7 1 2 1 5 2 10 1 3 1 3 2 1 15 4 2 12 7 7 40240 10"),
  (["gong", "gunjalagondi"], .ofGaps "183 1 2220 2 70650 6 1 2 1 37 1 2 1 6 7 10"),
  (["guru", "gurmukhi"], .ofGaps "
    2385 2 17 2 155 3 1 6 4 2 2 22 1 7 1 2 1 2 1 2 2 1 1 5 4 2 2 3 3 1 7 4 1 1 7 17 40377 10"),
  (["gukh", "gurungkhema"], .ofGaps "2405 1 87962 58"),
  (["hani", "han"], .ofGaps "
    183 1 11720 26 1 89 12 214 26 16 1 3 1 13 1 13 1 13 2 1 6 9 187 1 148 16 32 38 9 1 48 40 56 49 15 12 51 1 88
    25 10 5 96 31 1 6592 64 20992 1792 8 20984 366 2 106 875 2 282 5 28796 2 12 2 25454 18 7902 2 3502 42720 32
    4154 6 222 2 5762 14 7473 15 622 2466 542 1506 4939 5 4192"),
  (["hang", "hangul"], .ofGaps "
    4352 256 7681 3 4 10 1 13 14 3 6 1 195 1 53 94 113 31 65 31 30433 29 643 11172 12 23 4 49 9801 2 282 5 58 31
    3 6 2 6 2 6 2 3"),
  (["rohg", "hanifirohingya"], .ofGaps "1548 1 14 1 3 1 32 1 147 1 67115 40 8 10"),
  (["hano", "hanunoo"], .ofGaps "5920 23"),
  (["hebr", "hebrew"], .ofGaps "775 2 648 55 8 27 4 6 62760 26 1 5 1 1 1 2 1 2 1 10"),
  (["hira", "hiragana"], .ofGaps "
    12289 3 4 10 1 13 16 6 1 1 4 2 3 86 2 8 90 2 52552 2 282 5 10 1 45 2 45153 287 18 1 29 3 16557 1"),
  (["zinh", "inherited", "qaai"], .ofGaps "
    783 1 2 1 1 15 3 7 2 1 2 16 1 2 1 18 1 5 1 4 1520 2 4443 31 755 54 1 1 1 5 524 2 194 32 56592 16 16 14 975 1
    52482 46 2 23 544 3 17 8 2 7 30 4 798546 240"),
  (["java", "javanese"], .ofGaps "43392 78 1 11 4 2"),
  (["kthi", "kaithi"], .ofGaps "2406 10 9409 1 31230 10 26694 67 10 1"),
  (["knda", "kannada"], .ofGaps "
    2385 2 17 2 794 13 1 3 1 23 1 10 1 5 2 9 1 3 1 4 7 2 6 2 1 4 2 10 1 3 4060 1 1 2 6 1 23 1 1 1 35643 6"),
  (["kana", "katakana"], .ofGaps "
    773 1 29 1 11485 3 4 10 1 13 16 6 1 1 4 2 91 4 3 96 240 16 208 47 1 88 51949 2 282 63 45136 4 1 7 1 2 1 1
    287 3 50 1 14 4"),
  (["kali", "kayahli"], .ofGaps "43264 48"),
  (["khoj", "khojki"], .ofGaps "2790 10 40256 10 27078 18 1 47"),
  (["sind", "khudawadi"], .ofGaps "2404 2 40650 10 27254 59 5 10"),
  (["limb", "limbu"], .ofGaps "2405 1 3994 31 1 12 4 12 4 1 3 12"),
  (["lina", "lineara"], .ofGaps "65799 45 1228 311 9 22 10 8"),
  (["lisu"], .ofGaps "700 1 16 1 11580 2 29892 48 31408 1"),
  (["lyci", "lycian"], .ofGaps "8282 1 57893 29"),
  (["lydi", "lydian"], .ofGaps "183 1 11641 1 56046 26 5 1"),
  (["mlym", "malayalam"], .ofGaps "2385 2 17 2 922 13 1 3 1 51 1 3 1 6 4 16 2 26 3930 1 23 1 35645 3"),
  (["mand", "mandaic"], .ofGaps "1600 1 511 28 2 1"),
  (["mani", "manichaean"], .ofGaps "1600 1 66687 39 4 12"),
  (["mero", "meroitichieroglyphs"], .ofGaps "8285 1 59682 32"),
  (["modi"], .ofGaps "43056 10 28102 69 11 10"),
  (["mong", "mongolian"], .ofGaps "6144 26 6 89 7 43 1924 1 4049 2 5 4 58964 13"),
  (["mult", "multani"], .ofGaps "2662 10 67600 7 1 1 1 4 1 15 1 11"),
  (["mymr", "myanmar"], .ofGaps "4096 160 39054 1 177 31 97 32 27728 20"),
  (["nand", "nandinagari"], .ofGaps "2385 1 18 2 896 10 4089 1 8 1 7 1 35637 6 29034 8 2 46 2 11"),
  (["newa"], .ofGaps "2385 2 4994 1 1 2 9 1 6 1 1 1 1 1 63250 92 1 5"),
  (["nkoo", "nko"], .ofGaps "1548 1 14 1 3 1 416 59 2 3 62782 2"),
  (["onao", "olonal"], .ofGaps "2404 2 121962 43 4 1"),
  (["perm", "oldpermic"], .ofGaps "183 1 584 1 5 3 10 1 367 1 65228 43"),
  (["orkh", "oldturkic"], .ofGaps "8282 1 3541 1 56783 73"),
  (["ougr", "olduyghur"], .ofGaps "1600 1 66737 1 1149 26"),
  (["orya", "oriya"], .ofGaps "
    2385 2 17 2 411 3 1 8 2 2 2 22 1 7 1 2 1 5 2 9 2 2 2 3 7 3 4 2 1 5 2 18 4450 1 23 1"),
  (["osge", "osage"], .ofGaps "769 1 2 1 6 1 76 1 65879 36 4 36"),
  (["latn", "latin"], .ofGaps "
    65 26 6 26 47 1 12 1 2 1 5 23 1 31 1 449 3 1 10 1 1 3 1 1 9 1 1 1 6 5 27 15 1 2 1 1 15 3 7 2 1 2 38 1 5 1 4
    13 277 2 1226 2 1960 1 3076 38 6 49 5 4 5 13 1 70 57 1 7 256 303 1 65 1 13 1 16 13 83 1 57 2 6 1 27 1 17 41
    2775 32 407 1 30952 8 26 102 3 67 2 2 1 1 1 8 21 14 302 1 513 43 1 9 1 4 20374 7 1050 26 6 26 2085 6 1 42 1
    9 55109 31 6 6"),
  (["linb", "linearb"], .ofGaps "65536 12 1 26 1 19 1 2 1 15 2 14 34 123 5 3 4 45 3 9"),
  (["mahj", "mahajani"], .ofGaps "183 1 2220 12 40640 10 26902 39"),
  (["gonm", "masaramgondi"], .ofGaps "2404 2 70554 7 1 2 1 44 3 1 1 2 1 9 8 10"),
  (["hung", "oldhungarian"], .ofGaps "8282 1 2 1 3539 1 15 1 56894 51 13 51 7 6"),
  (["phag", "phagspa"], .ofGaps "6146 2 1 1 2089 1 4050 1 30781 56"),
  (["phlp", "psalterpahlavi"], .ofGaps "1600 1 66879 18 7 4 12 7"),
  (["runr", "runic"], .ofGaps "5792 89"),
  (["samr", "samaritan"], .ofGaps "2048 46 2 15 9714 1"),
  (["shrd", "sharada"], .ofGaps "2385 1 4997 1 1 1 2 2 2 1 9 1 2 1 35650 6 2 1 26951 96"),
  (["shaw", "shavian"], .ofGaps "183 1 66456 48"),
  (["sinh", "sinhala"], .ofGaps "2404 2 1051 3 1 18 3 24 1 9 1 1 2 7 3 1 4 6 1 1 1 8 6 10 2 3 3837 1 62702 20"),
  (["sogd", "sogdian"], .ofGaps "1600 1 67823 42"),
  (["sunu", "sunuwar"], .ofGaps "768 2 1 1 9 1 2 1 28 1 3 1 71822 34 14 10"),
  (["sylo", "sylotinagri"], .ofGaps "2404 2 128 10 40464 45"),
  (["syrc", "syriac"], .ofGaps "
    771 2 2 2 1 1 24 3 7 2 1 2 730 1 14 2 2 1 32 1 10 11 26 1 143 14 1 60 2 3 272 11 5517 1 1 1"),
  (["tglg", "tagalog"], .ofGaps "5888 22 9 1 21 2"),
  (["tagb", "tagbanwa"], .ofGaps "5941 2 41 13 1 3 1 2"),
  (["tale", "taile"], .ofGaps "768 2 5 2 3 1 3379 10 2310 30 2 5"),
  (["takr", "takri"], .ofGaps "2404 2 40650 10 28230 58 6 10"),
  (["taml", "tamil"], .ofGaps "
    2385 2 17 2 540 2 1 6 3 3 1 4 3 2 1 1 1 2 3 2 3 3 3 12 4 5 3 3 1 4 2 1 6 1 14 21 4319 1 35864 1 27149 1 1 1
    55 2 3203 50 13 1"),
  (["tang", "tangut"], .ofGaps "12272 16 495 1 81392 1 31 6136 8 768 512 9"),
  (["telu", "telugu"], .ofGaps "
    2385 2 17 2 666 13 1 3 1 23 1 16 2 9 1 3 1 4 7 2 1 3 2 1 2 4 2 10 7 9 4181 2 1 1 1 1 23 1"),
  (["thaa", "thaana"], .ofGaps "1548 1 14 2 2 1 64 10 278 50 63040 1 10 1"),
  (["thai"], .ofGaps "700 1 26 1 43 1 45 1 2767 58 5 28"),
  (["tibt", "tibetan"], .ofGaps "3840 72 1 36 4 39 1 36 1 15 1 7 4 2 8237 4"),
  (["tfng", "tifinagh"], .ofGaps "770 1 1 1 1 4 25 1 10764 56 7 2 14 1"),
  (["tirh", "tirhuta"], .ofGaps "2385 2 17 2 4975 1 12 1 15 1 35645 10 27718 72 8 10"),
  (["todr", "todhri"], .ofGaps "769 1 2 1 2 1 9 1 1 1 74 1 66145 52"),
  (["toto"], .ofGaps "700 1 122835 31"),
  (["tutg", "tulutigalari"], .ofGaps "
    3302 10 4098 1 1 1 35643 6 187 1 27278 10 1 1 2 1 1 38 1 10 1 1 2 1 1 4 1 10 1 2 8 2"),
  (["yezi", "yezidi"], .ofGaps "1548 1 14 1 3 1 64 10 67606 42 1 3 2 2"),
  (["yiii", "yi"], .ofGaps "12289 2 5 10 2 8 223 1 28420 1165 3 55 23194 5")]

end TypedWiki.Text
