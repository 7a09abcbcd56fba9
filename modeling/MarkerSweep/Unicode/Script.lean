import MarkerSweep.Unicode.RunLength
/-!
# The script property

Each scalar value belongs to at most one script; a script extension adds the shared marks and
signs that several scripts use, so its runs are stored apart.
-/

set_option autoImplicit false

namespace MarkerSweep.Unicode

/-- The runs of each script. -/
def scriptRuns : List (String × List String) :=
  [("Adlam",
    ["2olc 24 4 a 4 2"]),
   ("Caucasian_Albanian",
    ["1flc 1g b 1"]),
   ("Ahom",
    ["1j40 r 2 f 4 n"]),
   ("Arabic",
    ["16o 5 1 6 1 e 1 3 1 w 1 a b q 1 30 1 y 28 1c 6o y 5 23 1 t 1bv4 dq 2 40 w g 34 5 1 3r 31f",
     "v 1v 6 8 9 x 6 181s 4 1 r 1 2 1 1 2 1 1 a 1 4 1 1 1 1 6 1 4 1 1 1 1 1 1 3 1 2 1 1 2 1 1 1",
     "1 1 1 1 1 1 1 2 1 1 2 4 1 7 1 4 1 4 1 1 1 a 1 h 5 3 1 5 1 h 1g 2"]),
   ("Imperial_Aramaic",
    ["1g74 m 1 9"]),
   ("Armenian",
    ["10x 12 2 1e 2 3 1chv 5"]),
   ("Avestan",
    ["1gqo 1i 3 7"]),
   ("Balinese",
    ["5c0 25 1 1e"]),
   ("Bamum",
    ["www 2g 124o ft"]),
   ("Bassa_Vah",
    ["1zo0 u 2 6"]),
   ("Batak",
    ["5hc 1g 8 4"]),
   ("Bengali",
    ["1vk 4 1 8 2 2 2 m 1 7 1 1 3 4 2 9 2 2 2 4 8 1 4 2 1 5 2 p"]),
   ("Bhaiksuki",
    ["1k3k 9 1 19 1 e a t"]),
   ("Bopomofo",
    ["kq 2 93t 17 34 w"]),
   ("Brahmi",
    ["1hq8 26 4 10 9 1"]),
   ("Braille",
    ["7wg 74"]),
   ("Buginese",
    ["54w s 2 2"]),
   ("Buhid",
    ["4lc k"]),
   ("Chakma",
    ["1hxc 1h 1 i"]),
   ("Canadian_Aboriginal",
    ["3y8 hs fk 1y 1ewq g"]),
   ("Carian",
    ["1f34 1d"]),
   ("Cham",
    ["xkw 1j 9 e 2 a 2 4"]),
   ("Cherokee",
    ["3vk 2e 2 6 twy 28"]),
   ("Chorasmian",
    ["1ho0 s"]),
   ("Coptic",
    ["rm e 80g 38 5 7"]),
   ("Cypro_Minoan",
    ["1nyo 2r"]),
   ("Cypriot",
    ["1g5c 6 2 1 1 18 1 2 3 1 2 1"]),
   ("Cyrillic",
    ["sg 3p 2 4p 4ls b 4g 1 24 1 38n w nr4 2o ham 2 18n4 1q x 1"]),
   ("Devanagari",
    ["1s0 29 4 f 2 q vhc w mio a"]),
   ("Dives_Akuru",
    ["1ji8 7 2 1 2 8 1 2 1 u 1 2 2 c 9 a"]),
   ("Dogra",
    ["1jb4 1o"]),
   ("Deseret",
    ["1fcw 28"]),
   ("Duployan",
    ["2fpc 2z 5 d 3 9 7 a 2 4"]),
   ("Egyptian_Hieroglyphs",
    ["1o1s uu a 32z"]),
   ("Elbasan",
    ["1fk0 14"]),
   ("Elymaic",
    ["1hpc n"]),
   ("Ethiopic",
    ["3k0 21 1 4 2 7 1 1 1 4 2 15 1 4 2 x 1 4 2 7 1 1 1 4 2 f 1 1l 1 4 2 1v 2 w 3 q 546 n 9 7 1",
     "7 1 7 1 7 1 7 1 7 1 7 1 7 opu 6 2 6 2 6 9 7 1 7 1qk1 7 1 4 1 2 1 f"]),
   ("Georgian",
    ["3a8 12 1 1 5 1 2 17 1 4 2a8 17 2 3 37k 12 1 1 5 1"]),
   ("Glagolitic",
    ["8ow 2o 2e1s 7 1 h 2 7 1 2 1 5"]),
   ("Gunjala_Gondi",
    ["1kdc 6 1 2 1 11 1 2 1 6 7 a"]),
   ("Masaram_Gondi",
    ["1kao 7 1 2 1 18 3 1 1 2 1 9 8 a"]),
   ("Gothic",
    ["1f74 r"]),
   ("Grantha",
    ["1ibk 4 1 8 2 2 2 m 1 7 1 2 1 5 2 9 2 2 2 3 2 1 6 1 5 7 2 7 3 5"]),
   ("Greek",
    ["og 4 1 3 2 4 1 1 4 1 1 1 1 3 1 1 1 k 1 1r e g 4yu 5 1e 5 4 5 2c 1 8w m 2 6 2 12 2 6 2 8 1",
     "1 1 1 1 1 1 v 2 1h 1 f 1 e 2 6 1 j 2 3 1 9 87 1 rb2 1 gyi 27 h 1 155r 1y"]),
   ("Gujarati",
    ["22p 3 1 9 1 3 1 m 1 7 1 2 1 5 2 a 1 3 1 3 2 1 f 4 2 c 7 7"]),
   ("Gurmukhi",
    ["1z5 3 1 6 4 2 2 m 1 7 1 2 1 2 1 2 2 1 1 5 4 2 2 3 3 1 7 4 1 1 7 h"]),
   ("Hangul",
    ["3cw 74 5ym 2 75 2m 35 v 1t v nhd t hv 8mc c n 4 1d 7tw v 3 6 2 6 2 6 2 3"]),
   ("Han",
    ["96o q 1 2h c 5y 1b 1 1 1 p 9 e 4 qs 534 1s g74 hkw a6 2 2y n48 2 c 7 sg9 wyo w 3dq 2 4ge 2",
     "5rl f ha 1wi f2 15u 3t7 5 6ju"]),
   ("Hanunoo",
    ["4kg l"]),
   ("Hatran",
    ["1gbk j 1 2 5 5"]),
   ("Hebrew",
    ["13l 1j 8 r 4 6 1cfc q 1 5 1 1 1 2 1 2 1 a"]),
   ("Hiragana",
    ["9j5 2e 6 3 23q9 7z i 1 t 3 crx 1"]),
   ("Anatolian_Hieroglyphs",
    ["1s00 g7"]),
   ("Pahawh_Hmong",
    ["1zpc 1y a a 1 7 1 l 5 j"]),
   ("Nyiakeng_Puachue_Hmong",
    ["2n0g 19 3 e 2 a 4 2"]),
   ("Old_Hungarian",
    ["1h1c 1f d 1f 7 6"]),
   ("Old_Italic",
    ["1f5s 10 9 3"]),
   ("Javanese",
    ["xhc 26 2 a 4 2"]),
   ("Kayah_Li",
    ["xds 1a 1 1"]),
   ("Katakana",
    ["9lt 2i 2 3 6o g 5s 1b 1 2g 14b2 a 1 19 ytu 4 1 7 1 2 1 1 7z 3 1e 1 e 4"]),
   ("Kawi",
    ["1kow h 1 15 3 t"]),
   ("Kharoshthi",
    ["1gjk 4 1 2 5 8 1 3 1 t 2 3 4 a 7 9"]),
   ("Khmer",
    ["4n4 2m 2 a 6 a di w"]),
   ("Khojki",
    ["1i4g i 1 1b"]),
   ("Khitan_Small_Script",
    ["20o4 1 5cr d2 15 1"]),
   ("Kannada",
    ["2gw d 1 3 1 n 1 a 1 5 2 9 1 3 1 4 7 2 5 3 1 4 2 a 1 3"]),
   ("Kaithi",
    ["1hts 1v a 1"]),
   ("Tai_Tham",
    ["55s 1r 1 t 2 b 6 a 6 e"]),
   ("Lao",
    ["2v5 2 1 1 1 5 1 o 1 1 1 n 2 5 1 1 1 7 1 a 2 4"]),
   ("Latin",
    ["1t q 6 q 1b 1 f 1 5 n 1 v 1 ch 13 5 55n 12 6 1d 5 4 5 d 1 1y 1t 74 a9 1 d 1 g d 3x 2 6 1 r",
     "1 h 15 253 w o82 2u 3 2a k f mo 17 1 9 1 4 fpy 7 t6 q 6 q 1lx 6 1 16 1 9 16it v 6 6"]),
   ("Lepcha",
    ["5j4 1k 3 f 3 3"]),
   ("Limbu",
    ["4xs v 1 c 4 c 4 1 3 c"]),
   ("Linear_A",
    ["1fr4 8n 9 m a 8"]),
   ("Linear_B",
    ["1ekg c 1 q 1 j 1 2 1 f 2 e y 3f"]),
   ("Lisu",
    ["wk0 1c o8g 1"]),
   ("Lycian",
    ["1f28 t"]),
   ("Lydian",
    ["1gdc q 5 1"]),
   ("Mahajani",
    ["1hzk 13"]),
   ("Makasar",
    ["1ko0 p"]),
   ("Mandaic",
    ["1mo s 2 1"]),
   ("Manichaean",
    ["1gow 13 4 c"]),
   ("Marchen",
    ["1k6o w 2 m 1 e"]),
   ("Medefaidrin",
    ["20cg 2j"]),
   ("Mende_Kikakui",
    ["2oe8 5h 2 g"]),
   ("Meroitic_Cursive",
    ["1ggw o 4 k 2 1a"]),
   ("Meroitic_Hieroglyphs",
    ["1gg0 w"]),
   ("Malayalam",
    ["2kg d 1 3 1 1f 1 3 1 6 4 g 2 q"]),
   ("Modi",
    ["1iww 1x b a"]),
   ("Mongolian",
    ["4qo 2 2 1 1 k 6 2h 7 17 1e45 d"]),
   ("Mro",
    ["1zk0 v 1 a 4 2"]),
   ("Meetei_Mayek",
    ["xr4 n 5l 1a 2 a"]),
   ("Multani",
    ["1i80 7 1 1 1 4 1 f 1 b"]),
   ("Myanmar",
    ["35s 4g u9s v 2p w le8 k"]),
   ("Nag_Mundari",
    ["2nrk 16"]),
   ("Nandinagari",
    ["1jmo 8 2 1a 2 b"]),
   ("Old_North_Arabian",
    ["1gn4 w"]),
   ("Nabataean",
    ["1g8w v 8 9"]),
   ("Newa",
    ["1iio 2k 1 5"]),
   ("Nko",
    ["1j4 1n 2 3"]),
   ("Nushu",
    ["20o1 1 cy6 b0"]),
   ("Ogham",
    ["4g0 t"]),
   ("Ol_Chiki",
    ["5lc 1c"]),
   ("Old_Turkic",
    ["1gxs 21"]),
   ("Oriya",
    ["269 3 1 8 2 2 2 m 1 7 1 2 1 5 2 9 2 2 2 3 7 3 4 2 1 5 2 i"]),
   ("Osage",
    ["1fhs 10 4 10"]),
   ("Osmanya",
    ["1fgg u 2 a"]),
   ("Old_Uyghur",
    ["1hm8 q"]),
   ("Palmyrene",
    ["1g80 w"]),
   ("Pau_Cin_Hau",
    ["1juo 1l"]),
   ("Old_Permic",
    ["1f80 17"]),
   ("Phags_Pa",
    ["x8g 1k"]),
   ("Inscriptional_Pahlavi",
    ["1gtc j 5 8"]),
   ("Psalter_Pahlavi",
    ["1gu8 i 7 4 c 7"]),
   ("Phoenician",
    ["1gcg s 3 1"]),
   ("Miao",
    ["20hs 23 4 1l 7 h"]),
   ("Inscriptional_Parthian",
    ["1gsg m 2 8"]),
   ("Rejang",
    ["xf4 10 b 1"]),
   ("Hanifi_Rohingya",
    ["1h4w 14 8 a"]),
   ("Runic",
    ["4gw 23 3 b"]),
   ("Samaritan",
    ["1kw 1a 2 f"]),
   ("Old_South_Arabian",
    ["1gm8 w"]),
   ("Saurashtra",
    ["xa8 1y 8 c"]),
   ("SignWriting",
    ["2l8g i4 f 5 1 f"]),
   ("Shavian",
    ["1ff4 1c"]),
   ("Sharada",
    ["1i0w 2o 1vk 8"]),
   ("Siddham",
    ["1itc 1i 2 12"]),
   ("Khudawadi",
    ["1i9c 1n 5 a"]),
   ("Sinhala",
    ["2o1 3 1 i 3 o 1 9 1 1 2 7 3 1 4 6 1 1 1 8 6 a 2 3 1fcc k"]),
   ("Sogdian",
    ["1hkg 16"]),
   ("Old_Sogdian",
    ["1hj4 14"]),
   ("Sora_Sompeng",
    ["1hw0 p 7 a"]),
   ("Soyombo",
    ["1jrk 2b"]),
   ("Sundanese",
    ["5fk 1s 74 8"]),
   ("Syloti_Nagri",
    ["x6o 19"]),
   ("Syriac",
    ["1ds e 1 1o 2 3 7k b"]),
   ("Tagbanwa",
    ["4m8 d 1 3 1 2"]),
   ("Takri",
    ["1j0g 1m 6 a"]),
   ("Tai_Le",
    ["500 u 2 5"]),
   ("New_Tai_Lue",
    ["51c 18 4 q 6 b 3 2"]),
   ("Tamil",
    ["29u 2 1 6 3 3 1 4 3 2 1 1 1 2 3 2 3 3 3 c 4 5 3 3 1 4 2 1 6 1 e l 1ih1 1e d 1"]),
   ("Tangut",
    ["20o0 1 v 5c0 e8 v 2p 37"]),
   ("Tai_Viet",
    ["xog 1v o 5"]),
   ("Telugu",
    ["2dc d 1 3 1 n 1 g 2 9 1 3 1 4 7 2 1 3 1 2 2 4 2 a 7 9"]),
   ("Tifinagh",
    ["8xc 1k 7 2 e 1"]),
   ("Tagalog",
    ["4jk m 9 1"]),
   ("Thaana",
    ["1hc 1e"]),
   ("Thai",
    ["2rl 1m 5 s"]),
   ("Tibetan",
    ["2yo 20 1 10 4 13 1 10 1 f 1 7 4 2"]),
   ("Tirhuta",
    ["1im8 20 8 a"]),
   ("Tangsa",
    ["1zlc 27 1 a"]),
   ("Toto",
    ["2nbk v"]),
   ("Ugaritic",
    ["1f9c u 1 1"]),
   ("Vai",
    ["wlc 8c"]),
   ("Vithkuqi",
    ["1fn4 b 1 f 1 7 1 2 1 b 1 f 1 7 1 2"]),
   ("Warang_Citi",
    ["1jfk 2b c 1"]),
   ("Wancho",
    ["2ncw 1m 5 1"]),
   ("Old_Persian",
    ["1fa8 10 4 e"]),
   ("Cuneiform",
    ["1kw0 pm 2u 33 1 5 b 5g"]),
   ("Yezidi",
    ["1hfk 16 1 3 2 2"]),
   ("Yi",
    ["vls wd 3 1j"]),
   ("Zanabazar_Square",
    ["1jpc 20"]),
   ("Inherited",
    ["lc 34 7p 2 ck b q 1 kg 4 3ff 1a 2 c dg 3 1 d 1 7 4 1 6 1 3 2 5i 1s ek 2 5e x 309 4 2z 2",
     "14kl g g e r3 1 6a 1 38a 1 1138 1a 2 n f4 3 h 8 2 7 u 4 h45u 6o"]),
   ("Common",
    ["0 1t q 6 q 1b 1 f 1 5 n 1 v 1 ch 13 5 5 2 k 38 1 9 1 6 1 1 1 hp 1 6 1 e 1 3 1 w 1 4c 1 ec",
     "1 3l 2 yh 1 b9 4 82 1 167 3 1z 2 5n 2 1 1 y5 1 d 1 7 4 1 6 1 3 2 1 lh c 2 2f 1 b 3 b 1 f h",
     "y 1q 12 1 3 2 6 1 r 1 h 15 3 4 ii m b l ps 74 hg 2 3u e8 2m b6 l 1 1 1 p f 8 4 4 2j 2 3 1",
     "2i 2 43 g w 12 9 1 1c 1s v 29 1b 1 2g 4o 534 1s hkw y 2u 3 4l a 6s 1 4g 1 az 1 e 2 g5u 2",
     "5s a m z 1 j 1 4 43 1 1 w q 6 q b a 1 19 2 1s 7 1 7 a 5 76 3 4 19 3 9 28 d 1f 19 6c r 10o4",
     "4 318 71 3 c4 6 n f h 2n 38 1o 6u a 13 2 1q 3 h 8 2 7 u 4 1p 5x k c k c 2f 9 p 3r 2d 1 1z",
     "1 2 2 1 2 2 2 4 1 c 1 1 1 7 1 1t 1 4 2 8 1 7 1 s 1 4 1 5 1 1 3 7 1 9g 2 84 2 1e 41d 1w 24",
     "1p jm 18 4 2s c f 2 f 1 f 1 11 a 4u 1k q 1 2 d 18 4 9 7 2 e 6 4a rd 3 h 3 d 3 62 6 c 4 1 f",
     "c 4 1k 8 a 6 14 8 u 2 c 4 2 e 9 13 9k 8 e 2 d 3 b 3 1l 1 1 4 g 2 c 4 a 7 43 1 2v gvly 1 u",
     "2o"]),
   ("Garay",
    ["1h6o 12 3 t 8 2"]),
   ("Gurung_Khema",
    ["1xq8 1m"]),
   ("Kirat_Rai",
    ["205c 1m"]),
   ("Ol_Onal",
    ["2nyo 17 4 1"]),
   ("Sunuwar",
    ["1k1s y e a"]),
   ("Todhri",
    ["1fpc 1g"]),
   ("Tulu_Tigalari",
    ["1if4 a 1 1 2 1 1 12 1 a 1 1 2 1 1 4 1 a 1 2 8 2"]),
   ("Beria_Erfe",
    ["20f4 p 2 p"]),
   ("Sidetic",
    ["1ge8 q"]),
   ("Tai_Yo",
    ["2o5c v 1 m 8 2"]),
   ("Tolong_Siki",
    ["1kfk 18 4 a"])]

end MarkerSweep.Unicode
