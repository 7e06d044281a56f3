import LexicalGrammar.Unicode.CharSet

/-
Scripts of Unicode: the characters whose script is the one named, and the characters that are used
with it (its extensions).
-/
namespace LexicalGrammar.Unicode
namespace Script

def table : List (List String × String) := [
  (["adlm", "adlam"],
    "1e900+4b 5+9 5+1"),
  (["aghb", "caucasianalbanian"],
    "10530+33 c"),
  (["ahom"],
    "11700+1a 3+e 5+16"),
  (["arab", "arabic"],
    "600+4 2+5 2+d 2+2 2+1f 2+9 c+19 2+6b 2+21 51+2f f1+1e 2+1 6+4a 2+1c f251+72 11+16a 3+4f
    3+35 8 21+f 71+4 2+86 f64+1e 44+2 38+3 df01+3 2+1a 2+1 2 3 2+9 2+3 2 2 7 5 2 2 2+2 2+1 2 3
    2 2 2 2 2+1 2 3+3 2+6 2+3 2+3 2 2+9 2+10 6+2 2+4 2+10 35+1"),
  (["armi", "imperialaramaic"],
    "10840+15 2+8"),
  (["armn", "armenian"],
    "531+25 3+31 3+2 f584+4"),
  (["avst", "avestan"],
    "10b00+35 4+6"),
  (["bali", "balinese"],
    "1b00+4c 2+31"),
  (["bamu", "bamum"],
    "a6a0+57 c109+238"),
  (["bass", "bassavah"],
    "16ad0+1d 3+5"),
  (["batk", "batak"],
    "1bc0+33 9+3"),
  (["beng", "bengali"],
    "980+3 2+7 3+1 3+15 2+6 2 4+3 3+8 3+1 3+3 9 5+1 2+4 3+18"),
  (["bhks", "bhaiksuki"],
    "11c00+8 2+2c 2+d b+1c"),
  (["bopo", "bopomofo"],
    "2ea+1 2e1a+2a 71+1f"),
  (["brah", "brahmi"],
    "11000+4d 5+23 a"),
  (["brai", "braille"],
    "2800+ff"),
  (["bugi", "buginese"],
    "1a00+1b 3+1"),
  (["buhd", "buhid"],
    "1740+13"),
  (["cakm", "chakma"],
    "11100+34 2+11"),
  (["cans", "canadianaboriginal"],
    "1400+27f 231+45 101bb+f"),
  (["cari", "carian"],
    "102a0+30"),
  (["cham"],
    "aa00+36 a+d 3+9 3+3"),
  (["cher", "cherokee"],
    "13a0+55 3+5 9773+4f"),
  (["chrs", "chorasmian"],
    "10fb0+1b"),
  (["copt", "coptic", "qaac"],
    "3e2+d 2891+73 6+6"),
  (["cpmn", "cyprominoan"],
    "12f90+62"),
  (["cprt", "cypriot"],
    "10800+5 3 2+2b 2+1 4 3"),
  (["cyrl", "cyrillic"],
    "400+84 3+a8 1751+a a1 4d 1068+1f 7841+5f 578f+1 e201+3d 22"),
  (["deva", "devanagari"],
    "900+50 5+e 3+19 9f61+1f 7201+9"),
  (["diak", "divesakuru"],
    "11900+6 3 3+7 2+1 2+1d 2+1 3+b a+9"),
  (["dogr", "dogra"],
    "11800+3b"),
  (["dsrt", "deseret"],
    "10400+4f"),
  (["dupl", "duployan"],
    "1bc00+6a 6+c 4+8 8+9 3+3"),
  (["egyp", "egyptianhieroglyphs"],
    "13000+455 b+f9a"),
  (["elba", "elbasan"],
    "10500+27"),
  (["elym", "elymaic"],
    "10fe0+16"),
  (["ethi", "ethiopic"],
    "1200+48 2+3 3+6 2 2+3 3+28 2+3 3+20 2+3 3+6 2 2+3 3+e 2+38 2+3 3+42 3+1f 4+19 19e7+16 a+6
    2+6 2+6 2+6 2+6 2+6 2+6 2+6 7d23+5 3+5 3+5 a+6 2+6 13cb2+6 2+3 2+1 2+e"),
  (["geor", "georgian"],
    "10a0+25 2 6 3+2a 2+3 b91+2a 3+2 1041+25 2 6"),
  (["glag", "glagolitic"],
    "2c00+5f 1b3a1+6 2+10 3+6 2+1 2+4"),
  (["gong", "gunjalagondi"],
    "11d60+5 2+1 2+24 2+1 2+5 8+9"),
  (["gonm", "masaramgondi"],
    "11d00+6 2+1 2+2b 4 2+1 2+8 9+9"),
  (["goth", "gothic"],
    "10330+1a"),
  (["gran", "grantha"],
    "11300+3 2+7 3+1 3+15 2+6 2+1 2+4 3+8 3+1 3+2 3 7 6+6 3+6 4+4"),
  (["grek", "greek"],
    "370+3 2+2 3+3 2 5 2 2+2 2 2+13 2+3e f+f 1927+4 33+4 5+4 55 141+15 3+5 3+25 3+5 3+7 2 2 2
    2+1e 3+34 2+e 2+d 3+5 2+12 3+2 2+8 128 8a3f 55db+4e 12 d060+45"),
  (["gujr", "gujarati"],
    "a81+2 2+8 2+2 2+15 2+6 2+1 2+4 3+9 2+2 2+2 3 10+3 3+b 8+6"),
  (["guru", "gurmukhi"],
    "a01+2 2+5 5+1 3+15 2+6 2+1 2+1 2+1 3 2+4 5+1 3+2 4 8+3 2 8+10"),
  (["hang", "hangul"],
    "1100+ff 1e2f+1 102+5d 72+1e 42+1e 76e2+1c 284+2ba3 d+16 5+30 27a5+1e 4+5 3+5 3+5 3+2"),
  (["hani", "han"],
    "2e80+19 2+58 d+d5 30 2 1a+8 f+3 3c5+19bf 41+51ff 5901+16d 3+69 7509+1 d+1 900f+a6df
    21+1039 7+dd 3+1681 f+1d30 10+26d 9a3+21d 5e3+134a 6+105f"),
  (["hano", "hanunoo"],
    "1720+14"),
  (["hatr", "hatran"],
    "108e0+12 2+1 6+4"),
  (["hebr", "hebrew"],
    "591+36 9+1a 5+5 f529+19 2+4 2 2+1 2+1 2+9"),
  (["hira", "hiragana"],
    "3041+55 7+2 17f62+11e 13 1e+2 40ae"),
  (["hluw", "anatolianhieroglyphs"],
    "14400+246"),
  (["hmng", "pahawhhmong"],
    "16b00+45 b+9 2+6 2+14 6+12"),
  (["hmnp", "nyiakengpuachuehmong"],
    "1e100+2c 4+d 3+9 5+1"),
  (["hung", "oldhungarian"],
    "10c80+32 e+32 8+5"),
  (["ital", "olditalic"],
    "10300+23 a+2"),
  (["java", "javanese"],
    "a980+4d 3+9 5+1"),
  (["kali", "kayahli"],
    "a900+2d 2"),
  (["kana", "katakana"],
    "30a1+59 3+2 f1+f d1+2e 2+57 cc0f+9 2+2c b053+3 2+6 2+1 2 120+2 33 f+3"),
  (["kawi"],
    "11f00+10 2+28 4+1c"),
  (["khar", "kharoshthi"],
    "10a00+3 2+1 6+7 2+2 2+1c 3+2 5+9 8+8"),
  (["khmr", "khmer"],
    "1780+5d 3+9 7+9 1e7+1f"),
  (["khoj", "khojki"],
    "11200+11 2+2e"),
  (["kits", "khitansmallscript"],
    "16fe4 1b1c+1d5 2a"),
  (["knda", "kannada"],
    "c80+c 2+2 2+16 2+9 2+4 3+8 2+2 2+3 8+1 7+1 2+3 3+9 2+2"),
  (["kthi", "kaithi"],
    "11080+42 b"),
  (["lana", "taitham"],
    "1a20+3e 2+1c 3+a 7+9 7+d"),
  (["laoo", "lao"],
    "e81+1 2 2+4 2+17 2 2+16 3+4 2 2+6 2+9 3+3"),
  (["latn", "latin"],
    "41+19 7+19 30 10 6+16 2+1e 2+1c0 28+4 1a1c+25 7+30 6+3 6+c 2+45 42+ff 172 e 11+c 8e+1 7 1c
    12+28 ad8+1f 7aa3+65 4+42 3+1 2 2+7 16+d 331+2a 2+8 2+3 4f97+6 41b+19 7+19 826+5 2+29 2+8
    d746+1e 7+5"),
  (["lepc", "lepcha"],
    "1c00+37 4+e 4+2"),
  (["limb", "limbu"],
    "1900+1e 2+b 5+b 5 4+b"),
  (["lina", "lineara"],
    "10600+136 a+15 b+7"),
  (["linb", "linearb"],
    "10000+b 2+19 2+12 2+1 2+e 3+d 23+7a"),
  (["lisu"],
    "a4d0+2f 7ab1"),
  (["lyci", "lycian"],
    "10280+1c"),
  (["lydi", "lydian"],
    "10920+19 6"),
  (["mahj", "mahajani"],
    "11150+26"),
  (["maka", "makasar"],
    "11ee0+18"),
  (["mand", "mandaic"],
    "840+1b 3"),
  (["mani", "manichaean"],
    "10ac0+26 5+b"),
  (["marc", "marchen"],
    "11c70+1f 3+15 2+d"),
  (["medf", "medefaidrin"],
    "16e40+5a"),
  (["mend", "mendekikakui"],
    "1e800+c4 3+f"),
  (["merc", "meroiticcursive"],
    "109a0+17 5+13 3+2d"),
  (["mero", "meroitichieroglyphs"],
    "10980+1f"),
  (["mlym", "malayalam"],
    "d00+c 2+2 2+32 2+2 2+5 5+f 3+19"),
  (["modi"],
    "11600+44 c+9"),
  (["mong", "mongolian"],
    "1800+1 3 2+13 7+58 8+2a fdb6+c"),
  (["mroo", "mro"],
    "16a40+1e 2+9 5+1"),
  (["mtei", "meeteimayek"],
    "aae0+16 ca+2d 3+9"),
  (["mult", "multani"],
    "11280+6 2 2+3 2+e 2+a"),
  (["mymr", "myanmar"],
    "1000+9f 9941+1e 62+1f 6c51+13"),
  (["nagm", "nagmundari"],
    "1e4d0+29"),
  (["nand", "nandinagari"],
    "119a0+7 3+2d 3+a"),
  (["narb", "oldnortharabian"],
    "10a80+1f"),
  (["nbat", "nabataean"],
    "10880+1e 9+8"),
  (["newa"],
    "11400+5b 2+4"),
  (["nkoo", "nko"],
    "7c0+3a 3+2"),
  (["nshu", "nushu"],
    "16fe1 418f+18b"),
  (["ogam", "ogham"],
    "1680+1c"),
  (["olck", "olchiki"],
    "1c50+2f"),
  (["orkh", "oldturkic"],
    "10c00+48"),
  (["orya", "oriya"],
    "b01+2 2+7 3+1 3+15 2+6 2+1 2+4 3+8 3+1 3+2 8+2 5+1 2+4 3+11"),
  (["osge", "osage"],
    "104b0+23 5+23"),
  (["osma", "osmanya"],
    "10480+1d 3+9"),
  (["ougr", "olduyghur"],
    "10f70+19"),
  (["palm", "palmyrene"],
    "10860+1f"),
  (["pauc", "paucinhau"],
    "11ac0+38"),
  (["perm", "oldpermic"],
    "10350+2a"),
  (["phag", "phagspa"],
    "a840+37"),
  (["phli", "inscriptionalpahlavi"],
    "10b60+12 6+7"),
  (["phlp", "psalterpahlavi"],
    "10b80+11 8+3 d+6"),
  (["phnx", "phoenician"],
    "10900+1b 4"),
  (["plrd", "miao"],
    "16f00+4a 5+38 8+10"),
  (["prti", "inscriptionalparthian"],
    "10b40+15 3+7"),
  (["rjng", "rejang"],
    "a930+23 c"),
  (["rohg", "hanifirohingya"],
    "10d00+27 9+9"),
  (["runr", "runic"],
    "16a0+4a 4+a"),
  (["samr", "samaritan"],
    "800+2d 3+e"),
  (["sarb", "oldsoutharabian"],
    "10a60+1f"),
  (["saur", "saurashtra"],
    "a880+45 9+b"),
  (["sgnw", "signwriting"],
    "1d800+28b 10+4 2+e"),
  (["shaw", "shavian"],
    "10450+2f"),
  (["shrd", "sharada"],
    "11180+5f"),
  (["sidd", "siddham"],
    "11580+35 3+25"),
  (["sind", "khudawadi"],
    "112b0+3a 6+9"),
  (["sinh", "sinhala"],
    "d81+2 2+11 4+17 2+8 2 3+6 4 5+5 2 2+7 7+9 3+2 103ed+13"),
  (["sogd", "sogdian"],
    "10f30+29"),
  (["sogo", "oldsogdian"],
    "10f00+27"),
  (["sora", "sorasompeng"],
    "110d0+18 8+9"),
  (["soyo", "soyombo"],
    "11a50+52"),
  (["sund", "sundanese"],
    "1b80+3f 101+7"),
  (["sylo", "sylotinagri"],
    "a800+2c"),
  (["syrc", "syriac"],
    "700+d 2+3b 3+2 111+a"),
  (["tagb", "tagbanwa"],
    "1760+c 2+2 2+1"),
  (["takr", "takri"],
    "11680+39 7+9"),
  (["tale", "taile"],
    "1950+1d 3+4"),
  (["talu", "newtailue"],
    "1980+2b 5+19 7+a 4+1"),
  (["taml", "tamil"],
    "b82+1 2+5 4+2 2+3 4+1 2 2+1 4+1 4+2 4+b 5+4 4+2 2+3 3 7 f+14 113c6+31 e"),
  (["tang", "tangut"],
    "16fe0 20+17f7 9+2ff 201+8"),
  (["tavt", "taiviet"],
    "aa80+42 19+4"),
  (["telu", "telugu"],
    "c00+c 2+2 2+16 2+f 3+8 2+2 2+3 8+1 2+2 3 3+3 3+9 8+8"),
  (["tfng", "tifinagh"],
    "2d30+37 8+1 f"),
  (["tglg", "tagalog"],
    "1700+15 a"),
  (["thaa", "thaana"],
    "780+31"),
  (["thai"],
    "e01+39 6+1b"),
  (["tibt", "tibetan"],
    "f00+47 2+23 5+26 2+23 2+e 2+6 5+1"),
  (["tirh", "tirhuta"],
    "11480+47 9+9"),
  (["tnsa", "tangsa"],
    "16a70+4e 2+9"),
  (["toto"],
    "1e290+1e"),
  (["ugar", "ugaritic"],
    "10380+1d 2"),
  (["vaii", "vai"],
    "a500+12b"),
  (["vith", "vithkuqi"],
    "10570+a 2+e 2+6 2+1 2+a 2+e 2+6 2+1"),
  (["wara", "warangciti"],
    "118a0+52 d"),
  (["wcho", "wancho"],
    "1e2c0+39 6"),
  (["xpeo", "oldpersian"],
    "103a0+23 5+d"),
  (["xsux", "cuneiform"],
    "12000+399 67+6e 2+4 c+c3"),
  (["yezi", "yezidi"],
    "10e80+29 2+2 3+1"),
  (["yiii", "yi"],
    "a000+48c 4+36"),
  (["zanb", "zanabazarsquare"],
    "11a00+47"),
  (["zinh", "inherited", "qaai"],
    "300+6f 116+1 1c5+a 1b 2e1+3 115c+1e 202+2 2+c 2+6 5 7 4+1 c7+3f 20d+1 c3+20 f3a+3 6c+1
    cd66+f 11+d 3d0 e3 105b bbc5+2d 3+16 221+2 12+7 3+6 1f+3 c2f53+ef"),
  (["zyyy", "common"],
    "0+40 1b+5 1b+2e 2+e 2+4 18 20 1c2+26 6+4 3+13 75 a 7 2 27e 7 f 4 21 9d 205 82+1 4da 196+3
    123 5f0+2 48+1 cc+1 2 4ce e 8+3 2+5 2+2 3 306+b 3+56 2+a 4+a 2+e 12+20 40+25 2+2 3+5 2+1a
    2+10 2a+2 5+299 17+a 16+39f 101+273 3+1f 2+68 201+5d 193+14 2 2+18 10+7 5+3 5c+1 4 5b+1
    94+f 21+25 a 31+3f 20+50 30 59+a7 19c1+3f 5901+21 67+2 a6+9 f5 a1 18c f+1 51d3+1 d1+9
    17+22 2+12 2+3 94 2+1f 1b+5 1b+a b 2e+1 41+6 2+6 b+4 103+2 5+2c 4+8 51+c 34+2c e5+1a
    b9a5+3 f5d+f9 7+1b3 9d+73 3d+f5 b+26 3+3d 4+10 9+1 8+1d 5+3c d6+13 d+13 d+56 a+18 88+54
    2+46 2+1 3 3+1 3+3 2+b 2 2+6 2+40 2+3 3+7 2+6 2+1b 2+3 2+4 2 4+6 2+153 3+123 3+31 1472+43
    4d+3c 2c3+2b 5+63 d+e 3+e 2+e 2+24 b+ad 39+19 2+1 e+2b 5+8 8+1 f+5 9b+3d7 5+10 4+c 4+76
    5+5e 7+b 5 10+b 5+37 9+9 7+27 9+1d 3+b 5+1 3f+153 d+d 3+c 4+9 6+37 8+e 3+a 7+8 8+92 2+65
    c0408 1f+5f"),
  (["gara", "garay"],
    "10d40+25 4+1c 9+1"),
  (["gukh", "gurungkhema"],
    "16100+39"),
  (["krai", "kiratrai"],
    "16d40+39"),
  (["onao", "olonal"],
    "1e5d0+2a 5"),
  (["sunu", "sunuwar"],
    "11bc0+21 f+9"),
  (["todr", "todhri"],
    "105c0+33"),
  (["tutg", "tulutigalari"],
    "11380+9 2 3 2+25 2+9 2 3 2+3 2+9 2+1 9+1")]

def extensionTable : List (List String × String) := [
  (["adlm", "adlam"],
    "61f 21 1a0f df2 1babf+4b 5+9 5+1"),
  (["aghb", "caucasianalbanian"],
    "304 2d 2d 101d2+33 c"),
  (["ahom"],
    "11700+1a 3+e 5+16"),
  (["arab", "arabic"],
    "600+4 2+d6 2+21 51+2f f1+1e 2+1 6+4a 2+1c 1750 df2 cd0f+72 11+1bc 3+35 8 21+f 71+4 2+86
    3e4+1b b65+1e 44+2 38+3 df01+3 2+1a 2+1 2 3 2+9 2+3 2 2 7 5 2 2 2+2 2+1 2 3 2 2 2 2 2+1 2
    3+3 2+6 2+3 2+3 2 2+9 2+10 6+2 2+4 2+10 35+1"),
  (["armi", "imperialaramaic"],
    "10840+15 2+8"),
  (["armn", "armenian"],
    "308 229+25 3+31 3+2 f584+4"),
  (["avst", "avestan"],
    "b7 2d79+1 dccf+35 4+6"),
  (["bali", "balinese"],
    "1b00+4c 2+31"),
  (["bamu", "bamum"],
    "a6a0+57 c109+238"),
  (["bass", "bassavah"],
    "16ad0+1d 3+5"),
  (["batk", "batak"],
    "1bc0+33 9+3"),
  (["beng", "bengali"],
    "2bc 695+1 12+1 1b+3 2+7 3+1 3+15 2+6 2 4+3 3+8 3+1 3+3 9 5+1 2+4 3+18 12d2 2 3+1 2 9 9 3 5
    3+2 8bfa"),
  (["bhks", "bhaiksuki"],
    "11c00+8 2+2c 2+d b+1c"),
  (["bopo", "bopomofo"],
    "2c7 2+2 e 11+1 2d16+2 5+9 2+c b+3 3 7 c4 a+2a 71+1f cc86+1 11b+4"),
  (["brah", "brahmi"],
    "11000+4d 5+23 a"),
  (["brai", "braille"],
    "2800+ff"),
  (["bugi", "buginese"],
    "1a00+1b 3+1 8fb0"),
  (["buhd", "buhid"],
    "1735+1 a+13"),
  (["cakm", "chakma"],
    "9e6+9 651+9 100b7+34 2+11"),
  (["cans", "canadianaboriginal"],
    "1400+27f 231+45 101bb+f"),
  (["cari", "carian"],
    "b7 1fa3 3 dd4 d46f+30"),
  (["cham"],
    "aa00+36 a+d 3+9 3+3"),
  (["cher", "cherokee"],
    "300+2 2 7+1 17+1 c+1 106f+55 3+5 9773+4f"),
  (["chrs", "chorasmian"],
    "10fb0+1b"),
  (["copt", "coptic", "qaac"],
    "b7 249 4+1 2 6d+1 6d+d 2891+73 6+6 118 d4c9+1b"),
  (["cpmn", "cyprominoan"],
    "10100+1 2e8f+62"),
  (["cprt", "cypriot"],
    "10100+2 5+2c 4+8 6c1+5 3 2+2b 2+1 4 3"),
  (["cyrl", "cyrillic"],
    "2bc 44+2 2 2 2 3 6 ef+12f 1751+a a1 4d 80 fe8+1f 44 77fd+5f 578f+1 e201+3d 22"),
  (["deva", "devanagari"],
    "2bc 644+52 3+2a 1351+26 2+1 3f7 8740+9 a7+1f 7201+9"),
  (["diak", "divesakuru"],
    "11900+6 3 3+7 2+1 2+1d 2+1 3+b a+9"),
  (["dogr", "dogra"],
    "964+b 9ec1+9 6fc7+3b"),
  (["dsrt", "deseret"],
    "10400+4f"),
  (["dupl", "duployan"],
    "b7 250+1 2 19+1 2b18 18dc4+6a 6+c 4+8 8+9 3+7"),
  (["egyp", "egyptianhieroglyphs"],
    "13000+455 b+f9a"),
  (["elba", "elbasan"],
    "b7 24e 101fb+27"),
  (["elym", "elymaic"],
    "10fe0+16"),
  (["ethi", "ethiopic"],
    "30e ef2+48 2+3 3+6 2 2+3 3+28 2+3 3+20 2+3 3+6 2 2+3 3+e 2+38 2+3 3+42 3+1f 4+19 19e7+16
    a+6 2+6 2+6 2+6 2+6 2+6 2+6 2+6 7d23+5 3+5 3+5 a+6 2+6 13cb2+6 2+3 2+1 2+e"),
  (["geor", "georgian"],
    "b7 4d2 b17+25 2 6 3+2f b91+2a 3+2 39b ca6+25 2 6 104"),
  (["glag", "glagolitic"],
    "b7 24c 2 17f 3 102 b72 f5f ba6+5f 1e4 782c 13991+6 2+10 3+6 2+1 2+4"),
  (["gong", "gunjalagondi"],
    "b7 8ad+1 113fb+5 2+1 2+24 2+1 2+5 8+9"),
  (["gonm", "masaramgondi"],
    "964+1 1139b+6 2+1 2+2b 4 2+1 2+8 9+9"),
  (["goth", "gothic"],
    "b7 24d+1 3 29 ffff+1a"),
  (["gran", "grantha"],
    "951+1 12+1 281+d 10dd 2+1 1f+2 4+1 3f7 f210+3 2+7 3+1 3+15 2+6 2+1 2+4 2+9 3+1 3+2 3 7 6+6
    3+6 4+4 c5c+1 2"),
  (["grek", "greek"],
    "b7 249+1 3 2 2 b 2f 3 2b+7 3+3 2 5 2 2+2 2 2+13 2+3e f+f 1927+4 33+4 5+4 55+2 13f+15 3+5
    3+25 3+5 3+7 2 2 2 2+1e 3+34 2+e 2+d 3+5 2+12 3+2 2+8 5f c9 8a3f 55db+4e 12 d060+45"),
  (["gujr", "gujarati"],
    "951+1 12+1 11c+2 2+8 2+2 2+15 2+6 2+1 2+4 3+9 2+2 2+2 3 10+3 3+b 8+6 9d31+9"),
  (["guru", "gurmukhi"],
    "951+1 12+1 9c+2 2+5 5+1 3+15 2+6 2+1 2+1 2+1 3 2+4 5+1 3+2 4 8+3 2 8+10 9dba+9"),
  (["hang", "hangul"],
    "1100+ff 1e02+2 5+9 2+c f+2 7 c4 36+5d 72+1e 42+1e 76e2+1c 284+2ba3 d+16 5+30 264a+1 11b+4
    3b+1e 4+5 3+5 3+5 3+2"),
  (["hani", "han"],
    "b7 2dc9+19 2+58 d+d5 1b+f 2+2 2+c 2+c 2+c 3 7+8 bc 95+f 21+25 a 31+27 39+30 10+b 34 59+18
    b+4 61+1e 2+19bf 41+51ff 701+7 51f9+16d 3+69 36c+1 11b+4 707d+1 d+1 636f+11 1edf+1
    daf+a6df 21+1039 7+dd 3+1681 f+1d30 10+26d 9a3+21d 5e3+134a 6+105f"),
  (["hano", "hanunoo"],
    "1720+16"),
  (["hatr", "hatran"],
    "108e0+12 2+1 6+4"),
  (["hebr", "hebrew"],
    "307+1 289+36 9+1a 5+5 f529+19 2+4 2 2+1 2+1 2+9"),
  (["hira", "hiragana"],
    "3001+2 5+9 2+c 11+5 2 5+1 4+55 3+7 5b+1 cd49+1 11b+4 b 2e+1 b062+11e 13 1e+2 40ae"),
  (["hluw", "anatolianhieroglyphs"],
    "14400+246"),
  (["hmng", "pahawhhmong"],
    "16b00+45 b+9 2+6 2+14 6+12"),
  (["hmnp", "nyiakengpuachuehmong"],
    "1e100+2c 4+d 3+9 5+1"),
  (["hung", "oldhungarian"],
    "205a 3 dd4 10 de3f+32 e+32 8+5"),
  (["ital", "olditalic"],
    "10300+23 a+2"),
  (["java", "javanese"],
    "a980+4d 2+a 5+1"),
  (["kali", "kayahli"],
    "a900+2f"),
  (["kana", "katakana"],
    "305 1e 2cde+2 5+9 2+c 11+5 2 5+1 5c+3 4+5f f1+f d1+2e 2+57 caee+1 11b+3e b051+3 2+6 2+1 2
    120+2 33 f+3"),
  (["kawi"],
    "11f00+10 2+28 4+1c"),
  (["khar", "kharoshthi"],
    "10a00+3 2+1 6+7 2+2 2+1c 3+2 5+9 8+8"),
  (["khmr", "khmer"],
    "1780+5d 3+9 7+9 1e7+1f"),
  (["khoj", "khojki"],
    "ae6+9 9d41+9 69c7+11 2+2e"),
  (["kits", "khitansmallscript"],
    "16fe4 1b1c+1d5 2a"),
  (["knda", "kannada"],
    "951+1 12+1 31b+c 2+2 2+16 2+9 2+4 3+8 2+2 2+3 8+1 7+1 2+3 3+9 2+2 fdd 2+1 7 18 2 8b3c+5"),
  (["kthi", "kaithi"],
    "966+9 24c2 79ff+9 6847+42 b"),
  (["lana", "taitham"],
    "1a20+3e 2+1c 3+a 7+9 7+d"),
  (["laoo", "lao"],
    "e81+1 2 2+4 2+17 2 2+16 3+4 2 2+6 2+9 3+3"),
  (["latn", "latin"],
    "41+19 7+19 30 d 3 6+16 2+1e 2+1c0 4 b 2+2 2 a 2 7+4 1c+e 2+1 2 10+2 8+1 2+1 27 6 5+c 116+1
    4cb+1 7a9 c05+25 7+30 6+3 6+c 2+45 3a 8+ff 130 42 e 11+c 54 3a+1 7 1c 12+28 ad8+1f 198
    78e9+7 1b+65 4+42 3+1 2 2+7 16+d 12f 202+2a 2+8 2+3 4f97+6 41b+19 7+19 826+5 2+29 2+8
    d746+1e 7+5"),
  (["lepc", "lepcha"],
    "1c00+37 4+e 4+2"),
  (["limb", "limbu"],
    "965 f9b+1e 2+b 5+b 5 4+b"),
  (["lina", "lineara"],
    "10107+2c 4cd+136 a+15 b+7"),
  (["linb", "linearb"],
    "10000+b 2+19 2+12 2+1 2+e 3+d 23+7a 6+2 5+2c 4+8"),
  (["lisu"],
    "2bc 11 2d3d+1 74c5+2f 7ab1"),
  (["lyci", "lycian"],
    "205a e226+1c"),
  (["lydi", "lydian"],
    "b7 2d7a daef+19 6"),
  (["mahj", "mahajani"],
    "b7 8ad+b 9ec1+9 6917+26"),
  (["maka", "makasar"],
    "11ee0+18"),
  (["mand", "mandaic"],
    "640 200+1b 3"),
  (["mani", "manichaean"],
    "640 10480+26 5+b"),
  (["marc", "marchen"],
    "11c70+1f 3+15 2+d"),
  (["medf", "medefaidrin"],
    "16e40+5a"),
  (["mend", "mendekikakui"],
    "1e800+c4 3+f"),
  (["merc", "meroiticcursive"],
    "109a0+17 5+13 3+2d"),
  (["mero", "meroitichieroglyphs"],
    "205d e923+1f"),
  (["mlym", "malayalam"],
    "951+1 12+1 39b+c 2+2 2+32 2+2 2+5 5+f 3+19 f5b 18 8b3e+2"),
  (["modi"],
    "a830+9 6dc7+44 c+9"),
  (["mong", "mongolian"],
    "1800+19 7+58 8+2a 785 fd2+1 6+3 e655+c"),
  (["mroo", "mro"],
    "16a40+1e 2+9 5+1"),
  (["mtei", "meeteimayek"],
    "aae0+16 ca+2d 3+9"),
  (["mult", "multani"],
    "a66+9 10811+6 2 2+3 2+e 2+a"),
  (["mymr", "myanmar"],
    "1000+9f 988f b2+1e 62+1f 6c51+13"),
  (["nagm", "nagmundari"],
    "1e4d0+29"),
  (["nand", "nandinagari"],
    "951 13+1 381+9 ffa 9 8 8b36+5 716b+7 3+2d 3+a"),
  (["narb", "oldnortharabian"],
    "10a80+1f"),
  (["nbat", "nabataean"],
    "10880+1e 9+8"),
  (["newa"],
    "951+1 1383 2+1 a 7 2 2 f713+5b 2+4"),
  (["nkoo", "nko"],
    "60c f 4 1a1+3a 3+2 f53f+1"),
  (["nshu", "nushu"],
    "16fe1 418f+18b"),
  (["ogam", "ogham"],
    "1680+1c"),
  (["olck", "olchiki"],
    "1c50+2f"),
  (["orkh", "oldturkic"],
    "205a dd6 ddd0+48"),
  (["orya", "oriya"],
    "951+1 12+1 19c+2 2+7 3+1 3+15 2+6 2+1 2+4 3+8 3+1 3+2 8+2 5+1 2+4 3+11 1163 18"),
  (["osge", "osage"],
    "301 3 7 4d 10158+23 5+23"),
  (["osma", "osmanya"],
    "10480+1d 3+9"),
  (["ougr", "olduyghur"],
    "640 104b2 47e+19"),
  (["palm", "palmyrene"],
    "10860+1f"),
  (["pauc", "paucinhau"],
    "11ac0+38"),
  (["perm", "oldpermic"],
    "b7 249 6+2 b 170 fecd+2a"),
  (["phag", "phagspa"],
    "1802+1 2 82a fd3 783e+37"),
  (["phli", "inscriptionalpahlavi"],
    "10b60+12 6+7"),
  (["phlp", "psalterpahlavi"],
    "640 10540+11 8+3 d+6"),
  (["phnx", "phoenician"],
    "10900+1b 4"),
  (["plrd", "miao"],
    "16f00+4a 5+38 8+10"),
  (["prti", "inscriptionalparthian"],
    "10b40+15 3+7"),
  (["rjng", "rejang"],
    "a930+23 c"),
  (["rohg", "hanifirohingya"],
    "60c f 4 21 94 1062c+27 9+9"),
  (["runr", "runic"],
    "16a0+58"),
  (["samr", "samaritan"],
    "800+2d 3+e 25f3"),
  (["sarb", "oldsoutharabian"],
    "10a60+1f"),
  (["saur", "saurashtra"],
    "a880+45 9+b"),
  (["sgnw", "signwriting"],
    "1d800+28b 10+4 2+e"),
  (["shaw", "shavian"],
    "b7 10399+2f"),
  (["shrd", "sharada"],
    "951 1386 2 3+1 3 a 3 8b43+5 3 6948+5f"),
  (["sidd", "siddham"],
    "11580+35 3+25"),
  (["sind", "khudawadi"],
    "964+1 9ecb+9 6a77+3a 6+9"),
  (["sinh", "sinhala"],
    "964+1 41c+2 2+11 4+17 2+8 2 3+6 4 5+5 2 2+7 7+9 3+2 efe f4ef+13"),
  (["sogd", "sogdian"],
    "640 108f0+29"),
  (["sogo", "oldsogdian"],
    "10f00+27"),
  (["sora", "sorasompeng"],
    "110d0+18 8+9"),
  (["soyo", "soyombo"],
    "11a50+52"),
  (["sund", "sundanese"],
    "1b80+3f 101+7"),
  (["sylo", "sylotinagri"],
    "964+1 81+9 9e11+2c"),
  (["syrc", "syriac"],
    "303+1 3+1 2 19+2 8+1 2+1 2db f+1 3 21 b+a 1b 90+d 2+3b 3+2 111+a 158e 2"),
  (["tagb", "tagbanwa"],
    "1735+1 2a+c 2+2 2+1"),
  (["takr", "takri"],
    "964+1 9ecb+9 6e47+39 7+9"),
  (["tale", "taile"],
    "300+1 6+1 4 d34+9 907+1d 3+4"),
  (["talu", "newtailue"],
    "1980+2b 5+19 7+a 4+1"),
  (["taml", "tamil"],
    "951+1 12+1 21d+1 2+5 4+2 2+3 4+1 2 2+1 4+1 4+2 4+b 5+4 4+2 2+3 3 7 f+14 10e0 8c19 6a0e 2
    38+1 c84+31 e"),
  (["tang", "tangut"],
    "2ff0+f 1f0 13df1 20+17f7 9+2ff 201+8"),
  (["tavt", "taiviet"],
    "aa80+42 19+4"),
  (["telu", "telugu"],
    "951+1 12+1 29b+c 2+2 2+16 2+f 3+8 2+2 2+3 8+1 2+2 3 3+3 3+9 8+8 1056+1 2 2 18"),
  (["tfng", "tifinagh"],
    "302 2 2+3 1a 2a0d+37 8+1 f"),
  (["tglg", "tagalog"],
    "1700+15 a 16+1"),
  (["thaa", "thaana"],
    "60c f+1 3 41+9 117+31 f641 b"),
  (["thai"],
    "2bc 1b 2c 2e ad0+39 6+1b"),
  (["tibt", "tibetan"],
    "f00+47 2+23 5+26 2+23 2+e 2+6 5+1 202e+3"),
  (["tirh", "tirhuta"],
    "951+1 12+1 1370 d 10 8b3e+9 6c47+47 9+9"),
  (["tnsa", "tangsa"],
    "16a70+4e 2+9"),
  (["toto"],
    "2bc 1dfd4+1e"),
  (["ugar", "ugaritic"],
    "10380+1d 2"),
  (["vaii", "vai"],
    "a500+12b"),
  (["vith", "vithkuqi"],
    "10570+a 2+e 2+6 2+1 2+a 2+e 2+6 2+1"),
  (["wara", "warangciti"],
    "118a0+52 d"),
  (["wcho", "wancho"],
    "1e2c0+39 6"),
  (["xpeo", "oldpersian"],
    "103a0+23 5+d"),
  (["xsux", "cuneiform"],
    "12000+399 67+6e 2+4 c+c3"),
  (["yezi", "yezidi"],
    "60c f 4 41+9 10817+29 2+2 3+1"),
  (["yiii", "yi"],
    "3001+1 6+9 3+7 e0 6f05+48c 4+36 5a9b+4"),
  (["zanb", "zanabazarsquare"],
    "11a00+47"),
  (["zinh", "inherited", "qaai"],
    "30f 3 2+e 4+6 3 3+f 2+1 2+11 2+4 2+3 5f1+1 115c+1e 2f4+35 2 2+4 20d+1 c3+1f dd11+f 11+d
    3d0 cd03+2d 3+16 221+2 12+7 3+6 1f+3 c2f53+ef"),
  (["zyyy", "common"],
    "0+40 1b+5 1b+2e 2+b 2+1 2+4 18 20 1c2+2 2+9 2 4 2+8 2 2+5 6+4 3+13 7f 7 2 27e d8 205 55d
    196+3 1028+b 3+20 2+1e 2+9 2+1 2+6 2+a 4+a 2+e 12+20 40+25 2+2 3+5 2+1a 2+10 2a+2 5+299
    17+a 16+39f 101+273 3+1f 2+68 201+16 2+17 3+9 2+3 2 2+19 1a3 4 e e 16 212+17 20 32+e d+3
    a2+9 6+5f 20 19c1+3f 5909+19 67+2 3d1 f+1 52a5+9 17+14 3+b 2+12 2+3 94 2+1f 1b+5 1b+5 80+6
    2+6 b+4 193+c 34+2c ca04+f9 7+1b3 9d+73 3d+f5 b+26 3+3d 4+10 9+1 8+1d 5+3c d6+13 d+13 d+56
    1c+6 88+54 2+46 2+1 3 3+1 3+3 2+b 2 2+6 2+40 2+3 3+7 2+6 2+1b 2+3 2+4 2 4+6 2+153 3+123
    3+31 1472+43 4d+3c 2c3+2b 5+63 d+e 3+e 2+e 2+24 b+ad 39+19 2+1 e+2b 5+8 18+5 9b+3d7 5+10
    4+c 4+76 5+5e 7+b 5 10+b 5+37 9+9 7+27 9+1d 3+b 5+1 3f+153 d+d 3+c 4+9 6+37 8+e 3+a 7+8
    8+92 2+65 c0408 1f+5f"),
  (["gara", "garay"],
    "60c f 4 10721+25 4+1c 9+1"),
  (["gukh", "gurungkhema"],
    "965 1579b+39"),
  (["krai", "kiratrai"],
    "16d40+39"),
  (["onao", "olonal"],
    "964+1 1dc6b+2a 5"),
  (["sunu", "sunuwar"],
    "300+1 2 a 3 1d 4 1188f+21 f+9"),
  (["todr", "todhri"],
    "301 3 3 a 2 4b 10262+33"),
  (["tutg", "tulutigalari"],
    "ce6+9 1003 2 8b3c+5 bc 6a8f+9 2 3 2+25 2+9 2 3 2+3 2+9 2+1 9+1")]

def find? (name : String) : Option CharSet :=
  (table.find? (·.1.contains name)).map (CharSet.ofDeltas ·.2)

def findExtension? (name : String) : Option CharSet :=
  (extensionTable.find? (·.1.contains name)).map (CharSet.ofDeltas ·.2)

end Script
end LexicalGrammar.Unicode
