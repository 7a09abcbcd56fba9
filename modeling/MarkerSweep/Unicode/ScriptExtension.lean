import MarkerSweep.Unicode.RunLength
/-!
# The script extensions property

A scalar value may be listed under several scripts here.
-/

set_option autoImplicit false

namespace MarkerSweep.Unicode

/-- The runs of each script, shared characters included. -/
def scriptExtensionRuns : List (String × List String) :=
  [("Adlam",
    ["17j 1 w 1 55a 1 2r5 1 2fge 24 4 a 4 2"]),
   ("Caucasian_Albanian",
    ["lg 1 18 1 18 1 1exd 1g b 1"]),
   ("Ahom",
    ["1j40 r 2 f 4 n"]),
   ("Arabic",
    ["16o 5 1 5z 1 y 28 1c 6o y 5 23 1 t 4lr 1 2r5 1 14i6 hs w g 34 5 1 3r rn s 290 v 1v 6 8 9 x",
     "6 181s 4 1 r 1 2 1 1 2 1 1 a 1 4 1 1 1 1 6 1 4 1 1 1 1 1 1 3 1 2 1 1 2 1 1 1 1 1 1 1 1 1 1",
     "2 1 1 2 4 1 7 1 4 1 4 1 1 1 a 1 h 5 3 1 5 1 h 1g 2"]),
   ("Imperial_Aramaic",
    ["1g74 m 1 9"]),
   ("Armenian",
    ["lk 1 fc 12 2 1e 2 3 1chv 5"]),
   ("Avestan",
    ["53 1 8zc 2 17m6 1i 3 7"]),
   ("Balinese",
    ["5c0 25 1 1e"]),
   ("Bamum",
    ["www 2g 124o ft"]),
   ("Bassa_Vah",
    ["1zo0 u 2 6"]),
   ("Batak",
    ["5hc 1g 8 4"]),
   ("Bengali",
    ["jg 1 1as 2 h 2 q 4 1 8 2 2 2 m 1 7 1 1 3 4 2 9 2 2 2 4 8 1 4 2 1 5 2 p 3pt 1 1 1 2 2 1 1 8",
     "1 8 1 2 1 4 1 2 3 rnd 1"]),
   ("Bhaiksuki",
    ["1k3k 9 1 19 1 e a t"]),
   ("Bopomofo",
    ["jr 1 1 3 d 1 g 2 8wl 3 4 a 1 d a 4 2 1 6 1 5f 1 9 17 34 w 14ed 2 7u 5"]),
   ("Brahmi",
    ["1hq8 26 4 10 9 1"]),
   ("Braille",
    ["7wg 74"]),
   ("Buginese",
    ["54w s 2 2 sdr 1"]),
   ("Buhid",
    ["4l1 2 9 k"]),
   ("Chakma",
    ["1ye a 18w a 1epi 1h 1 i"]),
   ("Canadian_Aboriginal",
    ["3y8 hs fk 1y 1ewq g"]),
   ("Carian",
    ["53 1 68y 1 2 1 2qb 1 15ym 1d"]),
   ("Cham",
    ["xkw 1j 9 e 2 a 2 4"]),
   ("Cherokee",
    ["lc 3 1 1 6 2 m 2 b 2 38u 2e 2 6 twy 28"]),
   ("Chorasmian",
    ["1ho0 s"]),
   ("Coptic",
    ["53 1 g8 1 3 2 1 1 30 2 30 e 80g 38 5 7 7r 1 1614 s"]),
   ("Cypro_Minoan",
    ["1erk 2 972 2r"]),
   ("Cypriot",
    ["1erk 3 4 19 3 9 1c0 6 2 1 1 18 1 2 3 1 2 1"]),
   ("Cyrillic",
    ["jg 1 1v 3 1 1 1 1 1 1 2 1 5 1 6m 8g 4ls b 4g 1 24 1 3j 1 353 w 1v 1 np8 2o ham 2 18n4 1q x",
     "1"]),
   ("Devanagari",
    ["jg 1 18j 2b 2 17 3tc 13 1 2 s6 1 qpr a 4m w mio a"]),
   ("Dives_Akuru",
    ["1ji8 7 2 1 2 8 1 2 1 u 1 2 2 c 9 a"]),
   ("Dogra",
    ["1us c vcw a m2u 1o"]),
   ("Deseret",
    ["1fcw 28"]),
   ("Duployan",
    ["53 1 gf 2 1 1 o 2 8if 1 26kj 2z 5 d 3 9 7 a 2 8"]),
   ("Egyptian_Hieroglyphs",
    ["1o1s uu a 32z"]),
   ("Elbasan",
    ["53 1 gd 1 1eyi 14"]),
   ("Elymaic",
    ["1hpc n"]),
   ("Ethiopic",
    ["lq 1 2y9 21 1 4 2 7 1 1 1 4 2 15 1 4 2 x 1 4 2 7 1 1 1 4 2 f 1 1l 1 4 2 1v 2 w 3 q 546 n 9",
     "7 1 7 1 7 1 7 1 7 1 7 1 7 1 7 opu 6 2 6 2 6 9 7 1 7 1qk1 7 1 4 1 2 1 f"]),
   ("Georgian",
    ["53 1 y9 1 26u 12 1 1 5 1 2 1c 2a8 17 2 3 pm 1 2hx 12 1 1 5 1 77 1"]),
   ("Glagolitic",
    ["53 1 gb 1 1 1 am 1 2 1 75 1 29d 1 31a 1 2at 2o df 1 nqj 1 1pxs 7 1 h 2 7 1 2 1 5"]),
   ("Gunjala_Gondi",
    ["53 1 1po 2 1iii 6 1 2 1 11 1 2 1 6 7 a"]),
   ("Masaram_Gondi",
    ["1us 2 1ifu 7 1 2 1 18 3 1 1 2 1 9 8 a"]),
   ("Gothic",
    ["53 1 gc 2 2 1 14 1 1eke r"]),
   ("Grantha",
    ["1u9 2 h 2 hs e 3bw 1 1 2 u 3 3 2 s6 1 1btb 4 1 8 2 2 2 m 1 7 1 2 1 5 1 a 2 2 2 3 2 1 6 1 5",
     "7 2 7 3 5 2fv 2 1 1"]),
   ("Greek",
    ["53 1 g8 2 2 1 1 1 1 1 a 1 1a 1 2 1 16 8 2 4 1 1 4 1 1 1 1 3 1 1 1 k 1 1r e g 4yu 5 1e 5 4",
     "5 2c 3 8u m 2 6 2 12 2 6 2 8 1 1 1 1 1 1 1 v 2 1h 1 f 1 e 2 6 1 j 2 3 1 9 2m 1 5k 1 rb2 1",
     "gyi 27 h 1 155r 1y"]),
   ("Gujarati",
    ["1u9 2 h 2 7v 3 1 9 1 3 1 m 1 7 1 2 1 5 2 a 1 3 1 3 2 1 f 4 2 c 7 7 v1s a"]),
   ("Gurmukhi",
    ["1u9 2 h 2 4b 3 1 6 4 2 2 m 1 7 1 2 1 2 1 2 2 1 1 5 4 2 2 3 3 1 7 4 1 1 7 h v5l a"]),
   ("Hangul",
    ["3cw 74 5xd 3 4 a 1 d e 3 6 1 5f 1 1h 2m 35 v 1t v nhd t hv 8mc c n 4 1d 7k9 2 7u 5 1m v 3",
     "6 2 6 2 6 2 3"]),
   ("Han",
    ["53 1 91k q 1 2h c 5y q g 1 3 1 d 1 d 1 d 2 1 6 9 57 1 44 g w 12 9 1 1c 14 1k 1d f c 1f 1",
     "2g p a 5 2o v 1 534 1s g74 1ds 8 g6w a6 2 2y ob 2 7u 5 m7w 2 c 7 jmx i 63i 2 2pa wyo w 3dq",
     "2 4ge 2 5rl f ha 1wi f2 15u 3t7 5 6ju"]),
   ("Hanunoo",
    ["4kg n"]),
   ("Hatran",
    ["1gbk j 1 2 5 5"]),
   ("Hebrew",
    ["lj 2 i0 1j 8 r 4 6 1cfc q 1 5 1 1 1 2 1 2 1 a"]),
   ("Hiragana",
    ["9hd 3 4 a 1 d g 6 1 1 4 2 3 2e 2 8 2i 2 14js 2 7u 5 a 1 19 2 yu9 7z i 1 t 3 crx 1"]),
   ("Anatolian_Hieroglyphs",
    ["1s00 g7"]),
   ("Pahawh_Hmong",
    ["1zpc 1y a a 1 7 1 l 5 j"]),
   ("Nyiakeng_Puachue_Hmong",
    ["2n0g 19 3 e 2 a 4 2"]),
   ("Old_Hungarian",
    ["6e2 1 2 1 2qb 1 f 1 17we 1f d 1f 7 6"]),
   ("Old_Italic",
    ["1f5s 10 9 3"]),
   ("Javanese",
    ["xhc 26 1 b 4 2"]),
   ("Kayah_Li",
    ["xds 1c"]),
   ("Katakana",
    ["lh 1 t 1 8v1 3 4 a 1 d g 6 1 1 4 2 2j 4 3 2o 6o g 5s 1b 1 2g 1431 2 7u 1r yts 4 1 7 1 2 1",
     "1 7z 3 1e 1 e 4"]),
   ("Kawi",
    ["1kow h 1 15 3 t"]),
   ("Kharoshthi",
    ["1gjk 4 1 2 5 8 1 3 1 t 2 3 4 a 7 9"]),
   ("Khmer",
    ["4n4 2m 2 a 6 a di w"]),
   ("Khojki",
    ["25i a v28 a kw6 i 1 1b"]),
   ("Khitan_Small_Script",
    ["20o4 1 5cr d2 15 1"]),
   ("Kannada",
    ["1u9 2 h 2 m2 d 1 3 1 n 1 a 1 5 2 9 1 3 1 4 7 2 5 3 1 4 2 a 1 3 34s 1 1 2 6 1 n 1 1 1 ri3 6"]),
   ("Kaithi",
    ["1uu a 79d 1 o3i a kli 1v a 1"]),
   ("Tai_Tham",
    ["55s 1r 1 t 2 b 6 a 6 e"]),
   ("Lao",
    ["2v5 2 1 1 1 5 1 o 1 1 1 n 2 5 1 1 1 7 1 a 2 4"]),
   ("Latin",
    ["1t q 6 q 1b 1 c 1 2 1 5 n 1 v 1 ch 3 1 a 1 1 3 1 1 9 1 1 1 6 5 r f 1 2 1 1 f 3 7 2 1 2 12",
     "1 5 1 4 d 7p 2 y2 2 1ig 1 2dg 12 6 1d 5 4 5 d 1 1y 1l 1 7 74 8f 1 1t 1 d 1 g d 2b 1 1l 2 6",
     "1 r 1 h 15 253 w bb 1 nvs 8 q 2u 3 2a k f 8e 1 e9 17 1 9 1 4 fpy 7 t6 q 6 q 1lx 6 1 16 1 9",
     "16it v 6 6"]),
   ("Lepcha",
    ["5j4 1k 3 f 3 3"]),
   ("Limbu",
    ["1ut 1 32y v 1 c 4 c 4 1 3 c"]),
   ("Linear_A",
    ["1err 19 y4 8n 9 m a 8"]),
   ("Linear_B",
    ["1ekg c 1 q 1 j 1 2 1 f 2 e y 3f 5 3 4 19 3 9"]),
   ("Lisu",
    ["jg 1 g 1 8xo 2 n2c 1c o8g 1"]),
   ("Lycian",
    ["6e2 1 18o5 t"]),
   ("Lydian",
    ["53 1 8zd 1 178u q 5 1"]),
   ("Mahajani",
    ["53 1 1po c vcw a kra 13"]),
   ("Makasar",
    ["1ko0 p"]),
   ("Mandaic",
    ["18g 1 e7 s 2 1"]),
   ("Manichaean",
    ["18g 1 1fgf 13 4 c"]),
   ("Marchen",
    ["1k6o w 2 m 1 e"]),
   ("Medefaidrin",
    ["20cg 2j"]),
   ("Mende_Kikakui",
    ["2oe8 5h 2 g"]),
   ("Meroitic_Cursive",
    ["1ggw o 4 k 2 1a"]),
   ("Meroitic_Hieroglyphs",
    ["6e5 1 1a1u w"]),
   ("Malayalam",
    ["1u9 2 h 2 pm d 1 3 1 1f 1 3 1 6 4 g 2 q 316 1 n 1 ri5 3"]),
   ("Modi",
    ["x80 a lom 1x b a"]),
   ("Mongolian",
    ["4qo q 6 2h 7 17 1hg 1 34h 2 5 4 19hw d"]),
   ("Mro",
    ["1zk0 v 1 a 4 2"]),
   ("Meetei_Mayek",
    ["xr4 n 5l 1a 2 a"]),
   ("Multani",
    ["21y a 1g5s 7 1 1 1 4 1 f 1 b"]),
   ("Myanmar",
    ["35s 4g u4u 1 4x v 2p w le8 k"]),
   ("Nag_Mundari",
    ["2nrk 16"]),
   ("Nandinagari",
    ["1u9 1 i 2 ow a 35l 1 8 1 7 1 rhx 6 mei 8 2 1a 2 b"]),
   ("Old_North_Arabian",
    ["1gn4 w"]),
   ("Nabataean",
    ["1g8w v 8 9"]),
   ("Newa",
    ["1u9 2 3uq 1 1 2 9 1 6 1 1 1 1 1 1csy 2k 1 5"]),
   ("Nko",
    ["170 1 e 1 3 1 bk 1n 2 3 1cfy 2"]),
   ("Nushu",
    ["20o1 1 cy6 b0"]),
   ("Ogham",
    ["4g0 t"]),
   ("Ol_Chiki",
    ["5lc 1c"]),
   ("Old_Turkic",
    ["6e2 1 2qd 1 17tb 21"]),
   ("Oriya",
    ["1u9 2 h 2 bf 3 1 8 2 2 2 m 1 7 1 2 1 5 2 9 2 2 2 3 7 3 4 2 1 5 2 i 3fm 1 n 1"]),
   ("Osage",
    ["ld 1 2 1 6 1 24 1 1etz 10 4 10"]),
   ("Osmanya",
    ["1fgg u 2 a"]),
   ("Old_Uyghur",
    ["18g 1 1fht 1 vx q"]),
   ("Palmyrene",
    ["1g80 w"]),
   ("Pau_Cin_Hau",
    ["1juo 1l"]),
   ("Old_Permic",
    ["53 1 g8 1 5 3 a 1 a7 1 1ebw 17"]),
   ("Phags_Pa",
    ["4qq 2 1 1 1m1 1 34i 1 nr1 1k"]),
   ("Inscriptional_Pahlavi",
    ["1gtc j 5 8"]),
   ("Psalter_Pahlavi",
    ["18g 1 1flr i 7 4 c 7"]),
   ("Phoenician",
    ["1gcg s 3 1"]),
   ("Miao",
    ["20hs 23 4 1l 7 h"]),
   ("Inscriptional_Parthian",
    ["1gsg m 2 8"]),
   ("Rejang",
    ["xf4 10 b 1"]),
   ("Hanifi_Rohingya",
    ["170 1 e 1 3 1 w 1 43 1 1fsb 14 8 a"]),
   ("Runic",
    ["4gw 2h"]),
   ("Samaritan",
    ["1kw 1a 2 f 7hu 1"]),
   ("Old_South_Arabian",
    ["1gm8 w"]),
   ("Saurashtra",
    ["xa8 1y 8 c"]),
   ("SignWriting",
    ["2l8g i4 f 5 1 f"]),
   ("Shavian",
    ["53 1 1fa0 1c"]),
   ("Sharada",
    ["1u9 1 3ut 1 1 1 2 2 2 1 9 1 2 1 ria 6 2 1 ksn 2o 1vk 8"]),
   ("Siddham",
    ["1itc 1i 2 12"]),
   ("Khudawadi",
    ["1us 2 vd6 a l12 1n 5 a"]),
   ("Sinhala",
    ["1us 2 t7 3 1 i 3 o 1 9 1 1 2 7 3 1 4 6 1 1 1 8 6 a 2 3 2yl 1 1cdq k"]),
   ("Sogdian",
    ["18g 1 1gbz 16"]),
   ("Old_Sogdian",
    ["1hj4 14"]),
   ("Sora_Sompeng",
    ["1hw0 p 7 a"]),
   ("Soyombo",
    ["1jrk 2b"]),
   ("Sundanese",
    ["5fk 1s 74 8"]),
   ("Syloti_Nagri",
    ["1us 2 3k a v80 19"]),
   ("Syriac",
    ["lf 2 2 2 1 1 o 3 7 2 1 2 ka 1 e 2 2 1 w 1 a b q 1 3z e 1 1o 2 3 7k b 499 1 1 1"]),
   ("Tagbanwa",
    ["4l1 2 15 d 1 3 1 2"]),
   ("Takri",
    ["1us 2 vd6 a ls6 1m 6 a"]),
   ("Tai_Le",
    ["lc 2 5 2 3 1 2lv a 1s6 u 2 5"]),
   ("New_Tai_Lue",
    ["51c 18 4 q 6 b 3 2"]),
   ("Tamil",
    ["1u9 2 h 2 f0 2 1 6 3 3 1 4 3 2 1 1 1 2 3 2 3 3 3 c 4 5 3 3 1 4 2 1 6 1 e l 3bz 1 ro8 1 ky5",
     "1 1 1 1j 2 2gz 1e d 1"]),
   ("Tangut",
    ["9gw g dr 1 1qsw 1 v 5c0 e8 v 2p 37"]),
   ("Tai_Viet",
    ["xog 1v o 5"]),
   ("Telugu",
    ["1u9 2 h 2 ii d 1 3 1 n 1 g 2 9 1 3 1 4 7 2 1 3 1 2 2 4 2 a 7 9 385 2 1 1 1 1 n 1"]),
   ("Tifinagh",
    ["le 1 1 1 1 4 p 1 8b0 1k 7 2 e 1"]),
   ("Tagalog",
    ["4jk m 9 1 l 2"]),
   ("Thaana",
    ["170 1 e 2 2 1 1s a 7q 1e 1cn4 1 a 1"]),
   ("Thai",
    ["jg 1 q 1 17 1 19 1 24v 1m 5 s"]),
   ("Tibetan",
    ["2yo 20 1 10 4 13 1 10 1 f 1 7 4 2 6ct 4"]),
   ("Tirhuta",
    ["1u9 2 h 2 3u7 1 c 1 f 1 ri5 a ldy 20 8 a"]),
   ("Tangsa",
    ["1zlc 27 1 a"]),
   ("Toto",
    ["jg 1 2ms3 v"]),
   ("Ugaritic",
    ["1f9c u 1 1"]),
   ("Vai",
    ["wlc 8c"]),
   ("Vithkuqi",
    ["1fn4 b 1 f 1 7 1 2 1 b 1 f 1 7 1 2"]),
   ("Warang_Citi",
    ["1jfk 2b c 1"]),
   ("Wancho",
    ["2ncw 1m 5 1"]),
   ("Old_Persian",
    ["1fa8 10 4 e"]),
   ("Cuneiform",
    ["1kw0 pm 2u 33 1 5 b 5g"]),
   ("Yezidi",
    ["170 1 e 1 3 1 1s a 1g5y 16 1 3 2 2"]),
   ("Yi",
    ["9hd 2 5 a 2 8 67 1 lxg wd 3 1j hwa 5"]),
   ("Zanabazar_Square",
    ["1jpc 20"]),
   ("Inherited",
    ["lr 1 2 1 1 f 3 7 2 1 2 g 1 2 1 i 1 5 1 4 168 2 3ff 1a 2 c k6 1i 1 1 1 5 ek 2 5e w 17o0 g g",
     "e r3 1 14hu 1a 2 n f4 3 h 8 2 7 u 4 h45u 6o"]),
   ("Common",
    ["0 1t q 6 q 1b 1 c 1 2 1 5 n 1 v 1 ch 3 1 a 1 1 3 1 1 9 1 1 1 6 5 5 2 k 3i 1 6 1 1 1 hp 1",
     "5z 1 ec 1 124 1 b9 4 36v c 2 x 1 v 1 a 1 2 1 7 1 b 3 b 1 f h y 1q 12 1 3 2 6 1 r 1 h 15 3",
     "4 ii m b l ps 74 hg 2 3u e8 n 1 o 2 a 1 4 1 1 1 q bm 1 3 1 d 1 d 1 l 1 ep o v 1 1d f c 4",
     "4h a 5 2o v 1 534 1s hl4 q 2u 3 r4 1 e 2 gbo a m l 2 c 1 j 1 4 43 1 1 w q 6 q 6 3j 7 1 7 a",
     "5 b6 d 1f 19 13wj 71 3 c4 6 n f h 2n 38 1o 6u a 13 2 1q 3 h 8 2 7 u 4 1p 5x k c k c 2f r 7",
     "3r 2d 1 1z 1 2 2 1 2 2 2 4 1 c 1 1 1 7 1 1t 1 4 2 8 1 7 1 s 1 4 1 5 1 1 3 7 1 9g 2 84 2 1e",
     "41d 1w 24 1p jm 18 4 2s c f 2 f 1 f 1 11 a 4u 1k q 1 2 d 18 4 9 n 6 4a rd 3 h 3 d 3 62 6 c",
     "4 1 f c 4 1k 8 a 6 14 8 u 2 c 4 2 e 9 13 9k 8 e 2 d 3 b 3 1l 1 1 4 g 2 c 4 a 7 43 1 2v",
     "gvly 1 u 2o"]),
   ("Garay",
    ["170 1 e 1 3 1 1fz4 12 3 t 8 2"]),
   ("Gurung_Khema",
    ["1ut 1 1vve 1m"]),
   ("Kirat_Rai",
    ["205c 1m"]),
   ("Ol_Onal",
    ["1us 2 2m3u 17 4 1"]),
   ("Sunuwar",
    ["lc 2 1 1 9 1 2 1 s 1 3 1 1jf2 y e a"]),
   ("Todhri",
    ["ld 1 2 1 2 1 9 1 1 1 22 1 1f1d 1g"]),
   ("Tulu_Tigalari",
    ["2jq a 35u 1 1 1 ri3 6 57 1 l1q a 1 1 2 1 1 12 1 a 1 1 2 1 1 4 1 a 1 2 8 2"]),
   ("Beria_Erfe",
    ["20f4 p 2 p"]),
   ("Sidetic",
    ["1ge8 q"]),
   ("Tai_Yo",
    ["2o5c v 1 m 8 2"]),
   ("Tolong_Siki",
    ["1kfk 18 4 a"])]

end MarkerSweep.Unicode
