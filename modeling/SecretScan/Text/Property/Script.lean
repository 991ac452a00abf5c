/-!
# Scripts

The scripts of Unicode 16.0, each with the loose spellings of its names and its code points in
packed form.
-/

namespace SecretScan.Property

/-- Names of each script and its code points, packed. -/
def scripts : List (List String × List String) :=
  [(["adlam", "adlm"],
    ["2olc 23 4 9 4 1"]),
   (["ahom"],
    ["1j40 q 2 e 4 m"]),
   (["anatolianhieroglyphs", "hluw"],
    ["1s00 g6"]),
   (["arabic", "arab"],
    ["16o 4 1 5 1 d 1 2 1 v 1 9 b p 1 2z 1 x 28 1b 6o u 1 1 5 22 1 s 1bv4 36 g a2 2 27 2 1h 7 0 w",
     "f 34 4 1 3q 31f u 1v 2 1j 3 181s 3 1 q 1 1 1 0 2 0 1 9 1 3 1 0 1 0 6 0 4 0 1 0 1 0 1 2 1 1 1",
     "0 2 0 1 0 1 0 1 0 1 0 1 1 1 0 2 3 1 6 1 3 1 3 1 0 1 9 1 g 5 2 1 4 1 g 1g 1"]),
   (["armenian", "armn"],
    ["10x 11 2 1d 2 2 1chv 4"]),
   (["avestan", "avst"],
    ["1gqo 1h 3 6"]),
   (["balinese", "bali"],
    ["5c0 24 1 1d"]),
   (["bamum", "bamu"],
    ["www 2f 124o fs"]),
   (["bassavah", "bass"],
    ["1zo0 t 2 5"]),
   (["batak", "batk"],
    ["5hc 1f 8 3"]),
   (["bengali", "beng"],
    ["1vk 3 1 7 2 1 2 l 1 6 1 0 3 3 2 8 2 1 2 3 8 0 4 1 1 4 2 o"]),
   (["bhaiksuki", "bhks"],
    ["1k3k 8 1 18 1 d a s"]),
   (["bopomofo", "bopo"],
    ["kq 1 93t 16 34 v"]),
   (["brahmi", "brah"],
    ["1hq8 25 4 z 9 0"]),
   (["braille", "brai"],
    ["7wg 73"]),
   (["buginese", "bugi"],
    ["54w r 2 1"]),
   (["buhid", "buhd"],
    ["4lc j"]),
   (["canadianaboriginal", "cans"],
    ["3y8 hr fk 1x 1ewq f"]),
   (["carian", "cari"],
    ["1f34 1c"]),
   (["caucasianalbanian", "aghb"],
    ["1flc 1f b 0"]),
   (["chakma", "cakm"],
    ["1hxc 1g 1 h"]),
   (["cham"],
    ["xkw 1i 9 d 2 9 2 3"]),
   (["cherokee", "cher"],
    ["3vk 2d 2 5 twy 27"]),
   (["chorasmian", "chrs"],
    ["1ho0 r"]),
   (["common", "zyyy"],
    ["0 1s q 5 q 1a 1 e 1 4 n 0 v 0 ch 12 5 4 2 j 38 0 9 0 6 0 1 0 hp 0 6 0 e 0 3 0 w 0 4c 0 ec 0",
     "3l 1 yh 0 b9 3 82 0 167 2 1z 1 5n 1 1 0 y5 0 d 0 7 3 1 5 1 2 2 0 lh b 2 2e 1 a 3 a 1 e h w",
     "1r 11 1 2 2 5 1 q 1 g 15 2 4 ih m a l pr 74 hf 2 v 1 2w e8 2l b6 k 1 0 1 o f 7 4 3 2j 1 3 0",
     "2i 1 43 f w 11 9 0 1c 1r v 28 1b 0 2g 4n 534 1r hkw x 2u 2 4l 9 6s 0 4g 0 az 0 e 1 g5u 1 5s",
     "9 m y 1 i 1 3 43 0 1 v q 5 q a a 0 19 1 1s 6 1 6 a 4 76 2 4 18 3 8 28 c 1f 18 6c q 10o4 3",
     "318 6x 6 c3 4c 37 1o 6t a 12 2 1p 3 g 8 1 7 t 4 1o 5x j c j c 2e 9 o 3r 2c 1 1y 1 1 2 0 2 1",
     "2 3 1 b 1 0 1 6 1 1s 1 3 2 7 1 6 1 r 1 3 1 4 1 0 3 6 1 9f 2 83 2 1d 41d 1v 24 1o jm 17 4 2r",
     "c e 2 e 1 e 1 10 a 4t 1k p 1 1 d 17 4 8 7 1 e 5 4a rb 4 g 3 c 3 3a 4 2m 6 b 4 0 f b 4 1j 8 9",
     "6 13 8 t 2 b 4 1 1q 9f c d 2 c 3 9 5 1j 7 e 2 a 6 8 7 42 1 2t gvlz 0 u 2n"]),
   (["coptic", "copt", "qaac"],
    ["rm d 80g 37 5 6"]),
   (["cuneiform", "xsux"],
    ["1kw0 pl 2u 32 1 4 b 5f"]),
   (["cypriot", "cprt"],
    ["1g5c 5 2 0 1 17 1 1 3 0 2 0"]),
   (["cyprominoan", "cpmn"],
    ["1nyo 2q"]),
   (["cyrillic", "cyrl"],
    ["sg 3o 2 4o 4ls a 4g 0 24 0 38n v nr4 2n ham 1 18n4 1p x 0"]),
   (["deseret", "dsrt"],
    ["1fcw 27"]),
   (["devanagari", "deva"],
    ["1s0 28 4 e 2 p vhc v mio 9"]),
   (["divesakuru", "diak"],
    ["1ji8 6 2 0 2 7 1 1 1 t 1 1 2 b 9 9"]),
   (["dogra", "dogr"],
    ["1jb4 1n"]),
   (["duployan", "dupl"],
    ["2fpc 2y 5 c 3 8 7 9 2 3"]),
   (["egyptianhieroglyphs", "egyp"],
    ["1o1s ut a 32y"]),
   (["elbasan", "elba"],
    ["1fk0 13"]),
   (["elymaic", "elym"],
    ["1hpc m"]),
   (["ethiopic", "ethi"],
    ["3k0 20 1 3 2 6 1 0 1 3 2 14 1 3 2 w 1 3 2 6 1 0 1 3 2 e 1 1k 1 3 2 1u 2 v 3 p 546 m 9 6 1 6",
     "1 6 1 6 1 6 1 6 1 6 1 6 opu 5 2 5 2 5 9 6 1 6 1qk1 6 1 3 1 1 1 e"]),
   (["garay", "gara"],
    ["1h6o 11 3 s 8 1"]),
   (["georgian", "geor"],
    ["3a8 11 1 0 5 0 2 16 1 3 2a8 16 2 2 37k 11 1 0 5 0"]),
   (["glagolitic", "glag"],
    ["8ow 2n 2e1s 6 1 g 2 6 1 1 1 4"]),
   (["gothic", "goth"],
    ["1f74 q"]),
   (["grantha", "gran"],
    ["1ibk 3 1 7 2 1 2 l 1 6 1 1 1 4 2 8 2 1 2 2 2 0 6 0 5 6 2 6 3 4"]),
   (["greek", "grek"],
    ["og 3 1 2 2 3 1 0 4 0 1 0 1 2 1 0 1 j 1 1q e f 4yu 4 1e 4 4 4 2c 0 8w l 2 5 2 11 2 5 2 7 1 0",
     "1 0 1 0 1 u 2 1g 1 e 1 d 2 5 1 i 2 2 1 8 87 0 rb2 0 gyi 26 h 0 155r 1x"]),
   (["gujarati", "gujr"],
    ["22p 2 1 8 1 2 1 l 1 6 1 1 1 4 2 9 1 2 1 2 2 0 f 3 2 b 7 6"]),
   (["gunjalagondi", "gong"],
    ["1kdc 5 1 1 1 10 1 1 1 5 7 9"]),
   (["gurmukhi", "guru"],
    ["1z5 2 1 5 4 1 2 l 1 6 1 1 1 1 1 1 2 0 1 4 4 1 2 2 3 0 7 3 1 0 7 g"]),
   (["gurungkhema", "gukh"],
    ["1xq8 1l"]),
   (["han", "hani"],
    ["96o p 1 2g c 5x 1b 0 1 0 p 8 e 3 qs 533 1s g73 hkw a5 2 2x n48 1 c 1 sge wyn w 37d 6 65 2",
     "4g1 e 5rk f h9 1wi f1 15u 3t6 5 38f"]),
   (["hangul", "hang"],
    ["3cw 73 5ym 1 75 2l 35 u 1t u nhd s hv 8mb c m 4 1c 7tw u 3 5 2 5 2 5 2 2"]),
   (["hanifirohingya", "rohg"],
    ["1h4w 13 8 9"]),
   (["hanunoo", "hano"],
    ["4kg k"]),
   (["hatran", "hatr"],
    ["1gbk i 1 1 5 4"]),
   (["hebrew", "hebr"],
    ["13l 1i 8 q 4 5 1cfc p 1 4 1 0 1 1 1 1 1 9"]),
   (["hiragana", "hira"],
    ["9j5 2d 6 2 23q9 7y i 0 t 2 crx 0"]),
   (["imperialaramaic", "armi"],
    ["1g74 l 1 8"]),
   (["inherited", "qaai", "zinh"],
    ["lc 33 7p 1 ck a q 0 kg 3 3ff u e9 2 1 c 1 6 4 0 6 0 3 1 5i 1r ek 1 5e w 309 3 2z 1 14kl f g",
     "d r3 0 6a 0 38a 0 1138 19 2 m f4 2 h 7 2 6 u 3 h45u 6n"]),
   (["inscriptionalpahlavi", "phli"],
    ["1gtc i 5 7"]),
   (["inscriptionalparthian", "prti"],
    ["1gsg l 2 7"]),
   (["javanese", "java"],
    ["xhc 25 2 9 4 1"]),
   (["kaithi", "kthi"],
    ["1hts 1u a 0"]),
   (["kannada", "knda"],
    ["2gw c 1 2 1 m 1 9 1 4 2 8 1 2 1 3 7 1 6 1 1 3 2 9 1 2"]),
   (["katakana", "kana"],
    ["9lt 2h 2 2 6o f 5s 1a 1 2f 14b2 9 1 18 ytu 3 1 6 1 1 1 0 7z 2 1e 0 e 3"]),
   (["kawi"],
    ["1kow g 1 14 3 s"]),
   (["kayahli", "kali"],
    ["xds 19 1 0"]),
   (["kharoshthi", "khar"],
    ["1gjk 3 1 1 5 7 1 2 1 s 2 2 4 9 7 8"]),
   (["khitansmallscript", "kits"],
    ["20o4 0 5cr d1 15 0"]),
   (["khmer", "khmr"],
    ["4n4 2l 2 9 6 9 di v"]),
   (["khojki", "khoj"],
    ["1i4g h 1 1a"]),
   (["khudawadi", "sind"],
    ["1i9c 1m 5 9"]),
   (["kiratrai", "krai"],
    ["205c 1l"]),
   (["lao", "laoo"],
    ["2v5 1 1 0 1 4 1 n 1 0 1 m 2 4 1 0 1 6 1 9 2 3"]),
   (["latin", "latn"],
    ["1t p 6 p 1b 0 f 0 5 m 1 u 1 cg 13 4 55n 11 6 1c 5 3 5 c 1 1x 1t 73 a9 0 d 0 g c 3x 1 6 0 r",
     "0 h 14 253 v o82 2t 3 1u 2 1 1 0 1 7 l d mo 16 1 8 1 3 fpy 6 t6 p 6 p 1lx 5 1 15 1 8 16it u",
     "6 5"]),
   (["lepcha", "lepc"],
    ["5j4 1j 3 e 3 2"]),
   (["limbu", "limb"],
    ["4xs u 1 b 4 b 4 0 3 b"]),
   (["lineara", "lina"],
    ["1fr4 8m 9 l a 7"]),
   (["linearb", "linb"],
    ["1ekg b 1 p 1 i 1 1 1 e 2 d y 3e"]),
   (["lisu"],
    ["wk0 1b o8g 0"]),
   (["lycian", "lyci"],
    ["1f28 s"]),
   (["lydian", "lydi"],
    ["1gdc p 5 0"]),
   (["mahajani", "mahj"],
    ["1hzk 12"]),
   (["makasar", "maka"],
    ["1ko0 o"]),
   (["malayalam", "mlym"],
    ["2kg c 1 2 1 1e 1 2 1 5 4 f 2 p"]),
   (["mandaic", "mand"],
    ["1mo r 2 0"]),
   (["manichaean", "mani"],
    ["1gow 12 4 b"]),
   (["marchen", "marc"],
    ["1k6o v 2 l 1 d"]),
   (["masaramgondi", "gonm"],
    ["1kao 6 1 1 1 17 3 0 1 1 1 8 8 9"]),
   (["medefaidrin", "medf"],
    ["20cg 2i"]),
   (["meeteimayek", "mtei"],
    ["xr4 m 5l 19 2 9"]),
   (["mendekikakui", "mend"],
    ["2oe8 5g 2 f"]),
   (["meroiticcursive", "merc"],
    ["1ggw n 4 j 2 19"]),
   (["meroitichieroglyphs", "mero"],
    ["1gg0 v"]),
   (["miao", "plrd"],
    ["20hs 22 4 1k 7 g"]),
   (["modi"],
    ["1iww 1w b 9"]),
   (["mongolian", "mong"],
    ["4qo 1 2 0 1 j 6 2g 7 16 1e45 c"]),
   (["mro", "mroo"],
    ["1zk0 u 1 9 4 1"]),
   (["multani", "mult"],
    ["1i80 6 1 0 1 3 1 e 1 a"]),
   (["myanmar", "mymr"],
    ["35s 4f u9s u 2p v le8 j"]),
   (["nabataean", "nbat"],
    ["1g8w u 8 8"]),
   (["nagmundari", "nagm"],
    ["2nrk 15"]),
   (["nandinagari", "nand"],
    ["1jmo 7 2 19 2 a"]),
   (["newtailue", "talu"],
    ["51c 17 4 p 6 a 3 1"]),
   (["newa"],
    ["1iio 2j 1 4"]),
   (["nko", "nkoo"],
    ["1j4 1m 2 2"]),
   (["nushu", "nshu"],
    ["20o1 0 cy6 az"]),
   (["nyiakengpuachuehmong", "hmnp"],
    ["2n0g 18 3 d 2 9 4 1"]),
   (["ogham", "ogam"],
    ["4g0 s"]),
   (["olchiki", "olck"],
    ["5lc 1b"]),
   (["olonal", "onao"],
    ["2nyo 16 4 0"]),
   (["oldhungarian", "hung"],
    ["1h1c 1e d 1e 7 5"]),
   (["olditalic", "ital"],
    ["1f5s z 9 2"]),
   (["oldnortharabian", "narb"],
    ["1gn4 v"]),
   (["oldpermic", "perm"],
    ["1f80 16"]),
   (["oldpersian", "xpeo"],
    ["1fa8 z 4 d"]),
   (["oldsogdian", "sogo"],
    ["1hj4 13"]),
   (["oldsoutharabian", "sarb"],
    ["1gm8 v"]),
   (["oldturkic", "orkh"],
    ["1gxs 20"]),
   (["olduyghur", "ougr"],
    ["1hm8 p"]),
   (["oriya", "orya"],
    ["269 2 1 7 2 1 2 l 1 6 1 1 1 4 2 8 2 1 2 2 7 2 4 1 1 4 2 h"]),
   (["osage", "osge"],
    ["1fhs z 4 z"]),
   (["osmanya", "osma"],
    ["1fgg t 2 9"]),
   (["pahawhhmong", "hmng"],
    ["1zpc 1x a 9 1 6 1 k 5 i"]),
   (["palmyrene", "palm"],
    ["1g80 v"]),
   (["paucinhau", "pauc"],
    ["1juo 1k"]),
   (["phagspa", "phag"],
    ["x8g 1j"]),
   (["phoenician", "phnx"],
    ["1gcg r 3 0"]),
   (["psalterpahlavi", "phlp"],
    ["1gu8 h 7 3 c 6"]),
   (["rejang", "rjng"],
    ["xf4 z b 0"]),
   (["runic", "runr"],
    ["4gw 22 3 a"]),
   (["samaritan", "samr"],
    ["1kw 19 2 e"]),
   (["saurashtra", "saur"],
    ["xa8 1x 8 b"]),
   (["sharada", "shrd"],
    ["1i0w 2n"]),
   (["shavian", "shaw"],
    ["1ff4 1b"]),
   (["siddham", "sidd"],
    ["1itc 1h 2 11"]),
   (["signwriting", "sgnw"],
    ["2l8g i3 f 4 1 e"]),
   (["sinhala", "sinh"],
    ["2o1 2 1 h 3 n 1 8 1 0 2 6 3 0 4 5 1 0 1 7 6 9 2 2 1fcc j"]),
   (["sogdian", "sogd"],
    ["1hkg 15"]),
   (["sorasompeng", "sora"],
    ["1hw0 o 7 9"]),
   (["soyombo", "soyo"],
    ["1jrk 2a"]),
   (["sundanese", "sund"],
    ["5fk 1r 74 7"]),
   (["sunuwar", "sunu"],
    ["1k1s x e 9"]),
   (["sylotinagri", "sylo"],
    ["x6o 18"]),
   (["syriac", "syrc"],
    ["1ds d 1 1n 2 2 7k a"]),
   (["tagalog", "tglg"],
    ["4jk l 9 0"]),
   (["tagbanwa", "tagb"],
    ["4m8 c 1 2 1 1"]),
   (["taile", "tale"],
    ["500 t 2 4"]),
   (["taitham", "lana"],
    ["55s 1q 1 s 2 a 6 9 6 d"]),
   (["taiviet", "tavt"],
    ["xog 1u o 4"]),
   (["takri", "takr"],
    ["1j0g 1l 6 9"]),
   (["tamil", "taml"],
    ["29u 1 1 5 3 2 1 3 3 1 1 0 1 1 3 1 3 2 3 b 4 4 3 2 1 3 2 0 6 0 e k 1ih1 1d d 0"]),
   (["tangsa", "tnsa"],
    ["1zlc 26 1 9"]),
   (["tangut", "tang"],
    ["20o0 0 v 4qf 8 lb e8 8"]),
   (["telugu", "telu"],
    ["2dc c 1 2 1 m 1 f 2 8 1 2 1 3 7 1 1 2 2 0 2 3 2 9 7 8"]),
   (["thaana", "thaa"],
    ["1hc 1d"]),
   (["thai"],
    ["2rl 1l 5 r"]),
   (["tibetan", "tibt"],
    ["2yo 1z 1 z 4 12 1 z 1 e 1 6 4 1"]),
   (["tifinagh", "tfng"],
    ["8xc 1j 7 1 e 0"]),
   (["tirhuta", "tirh"],
    ["1im8 1z 8 9"]),
   (["todhri", "todr"],
    ["1fpc 1f"]),
   (["toto"],
    ["2nbk u"]),
   (["tulutigalari", "tutg"],
    ["1if4 9 1 0 2 0 1 11 1 9 1 0 2 0 1 3 1 9 1 1 8 1"]),
   (["ugaritic", "ugar"],
    ["1f9c t 1 0"]),
   (["vai", "vaii"],
    ["wlc 8b"]),
   (["vithkuqi", "vith"],
    ["1fn4 a 1 e 1 6 1 1 1 a 1 e 1 6 1 1"]),
   (["wancho", "wcho"],
    ["2ncw 1l 5 0"]),
   (["warangciti", "wara"],
    ["1jfk 2a c 0"]),
   (["yezidi", "yezi"],
    ["1hfk 15 1 2 2 1"]),
   (["yi", "yiii"],
    ["vls wc 3 1i"]),
   (["zanabazarsquare", "zanb"],
    ["1jpc 1z"])]

end SecretScan.Property
