/-!
# Scripts

The code points of each script, under its short name.  Each text lists
pairs of hexadecimal numbers: how many code points to pass over, and how many
of the following to take.
-/

namespace WorkloadPolicy
namespace Unicode
namespace Script

/-- The code points of each script. -/
def ranges : List (String × String) :=
  [("adlm",
      "1E900 4C 4 A 4 2"),
    ("aghb",
      "10530 34 B 1"),
    ("ahom",
      "11700 1B 2 F 4 17"),
    ("arab",
      "600 5 1 6 1 E 1 3 1 20 1 A B 1A 1 6C 1 22 50 30 F0 1F 1 2 6 4A 1 1D F250 73 10
       16B 2 50 2 36 7 1 20 10 70 5 1 87 F63 1F 7E 3 DF00 4 1 1B 1 2 1 1 2 1 1 A 1 4 1
       1 1 1 6 1 4 1 1 1 1 1 1 3 1 2 1 1 2 1 1 1 1 1 1 1 1 1 1 2 1 1 2 4 1 7 1 4 1 4 1
       1 1 A 1 11 5 3 1 5 1 11 34 2"),
    ("armi",
      "10840 16 1 9"),
    ("armn",
      "531 26 2 32 2 3 F583 5"),
    ("avst",
      "10B00 36 3 7"),
    ("bali",
      "1B00 4D 3 2F"),
    ("bamu",
      "A6A0 58 C108 239"),
    ("bass",
      "16AD0 1E 2 6"),
    ("batk",
      "1BC0 34 8 4"),
    ("beng",
      "980 4 1 8 2 2 2 16 1 7 1 1 3 4 2 9 2 2 2 4 8 1 4 2 1 5 2 19"),
    ("bhks",
      "11C00 9 1 2D 1 E A 1D"),
    ("bopo",
      "2EA 2 2E19 2B 70 20"),
    ("brah",
      "11000 4E 4 24 9 1"),
    ("brai",
      "2800 100"),
    ("bugi",
      "1A00 1C 2 2"),
    ("buhd",
      "1740 14"),
    ("cakm",
      "11100 35 1 12"),
    ("cans",
      "1400 280 230 46 101BA 10"),
    ("cari",
      "102A0 31"),
    ("cham",
      "AA00 37 9 E 2 A 2 4"),
    ("cher",
      "13A0 56 2 6 9772 50"),
    ("chrs",
      "10FB0 1C"),
    ("copt",
      "3E2 E 2890 74 5 7"),
    ("cpmn",
      "12F90 63"),
    ("cprt",
      "10800 6 2 1 1 2C 1 2 3 1 2 1"),
    ("cyrl",
      "400 85 2 A9 1750 9 A2 1 4C 1 1067 20 7840 60 578E 2 E200 3E 21 1"),
    ("deva",
      "900 51 4 F 2 1A 9F60 20 7200 A"),
    ("diak",
      "11900 7 2 1 2 8 1 2 1 1E 1 2 2 C 9 A"),
    ("dogr",
      "11800 3C"),
    ("dsrt",
      "10400 50"),
    ("dupl",
      "1BC00 6B 5 D 3 9 7 A 2 4"),
    ("egyp",
      "13000 456"),
    ("elba",
      "10500 28"),
    ("elym",
      "10FE0 17"),
    ("ethi",
      "1200 49 1 4 2 7 1 1 1 4 2 29 1 4 2 21 1 4 2 7 1 1 1 4 2 F 1 39 1 4 2 43 2 20 3
       1A 19E6 17 9 7 1 7 1 7 1 7 1 7 1 7 1 7 1 7 7D22 6 2 6 2 6 9 7 1 7 13CB1 7 1 4 1
       2 1 F"),
    ("geor",
      "10A0 26 1 1 5 1 2 2B 1 4 B90 2B 2 3 1040 26 1 1 5 1"),
    ("glag",
      "2C00 60 1B3A0 7 1 11 2 7 1 2 1 5"),
    ("gong",
      "11D60 6 1 2 1 25 1 2 1 6 7 A"),
    ("gonm",
      "11D00 7 1 2 1 2C 3 1 1 2 1 9 8 A"),
    ("goth",
      "10330 1B"),
    ("gran",
      "11300 4 1 8 2 2 2 16 1 7 1 2 1 5 2 9 2 2 2 3 2 1 6 1 5 7 2 7 3 5"),
    ("grek",
      "370 4 1 3 2 4 1 1 4 1 1 1 1 3 1 1 1 14 1 3F E 10 1926 5 32 5 4 5 54 1 140 16 2 6
       2 26 2 6 2 8 1 1 1 1 1 1 1 1F 2 35 1 F 1 E 2 6 1 13 2 3 1 9 127 1 8A3E 1 55DA 4F
       11 1 D05F 46"),
    ("gujr",
      "A81 3 1 9 1 3 1 16 1 7 1 2 1 5 2 A 1 3 1 3 2 1 F 4 2 C 7 7"),
    ("guru",
      "A01 3 1 6 4 2 2 16 1 7 1 2 1 2 1 2 2 1 1 5 4 2 2 3 3 1 7 4 1 1 7 11"),
    ("hang",
      "1100 100 1E2E 2 101 5E 71 1F 41 1F 76E1 1D 283 2BA4 C 17 4 31 27A4 1F 3 6 2 6 2
       6 2 3"),
    ("hani",
      "2E80 1A 1 59 C D6 2F 1 1 1 19 9 E 4 3C4 19C0 40 5200 5900 16E 2 6A 7508 2 C 2
       900E A6E0 20 103A 6 DE 2 1682 E 1D31 C1F 21E 5E2 134B 5 1060"),
    ("hano",
      "1720 15"),
    ("hatr",
      "108E0 13 1 2 5 5"),
    ("hebr",
      "591 37 8 1B 4 6 F528 1A 1 5 1 1 1 2 1 2 1 A"),
    ("hira",
      "3041 56 6 3 17F61 11F 12 1 1D 3 40AD 1"),
    ("hluw",
      "14400 247"),
    ("hmng",
      "16B00 46 A A 1 7 1 15 5 13"),
    ("hmnp",
      "1E100 2D 3 E 2 A 4 2"),
    ("",
      ""),
    ("hung",
      "10C80 33 D 33 7 6"),
    ("ital",
      "10300 24 9 3"),
    ("java",
      "A980 4E 2 A 4 2"),
    ("kali",
      "A900 2E 1 1"),
    ("kana",
      "30A1 5A 2 3 F0 10 D0 2F 1 58 CC0E A 1 2D B052 4 1 7 1 2 1 1 11F 3 32 1 E 4"),
    ("kawi",
      "11F00 11 1 29 3 1C"),
    ("khar",
      "10A00 4 1 2 5 8 1 3 1 1D 2 3 4 A 7 9"),
    ("khmr",
      "1780 5E 2 A 6 A 1E6 20"),
    ("khoj",
      "11200 12 1 2F"),
    ("kits",
      "16FE4 1 1B1B 1D6"),
    ("knda",
      "C80 D 1 3 1 17 1 A 1 5 2 9 1 3 1 4 7 2 6 2 1 4 2 A 1 3"),
    ("kthi",
      "11080 43 A 1"),
    ("lana",
      "1A20 3F 1 1D 2 B 6 A 6 E"),
    ("laoo",
      "E81 2 1 1 1 5 1 18 1 1 1 17 2 5 1 1 1 7 1 A 2 4"),
    ("latn",
      "41 1A 6 1A 2F 1 F 1 5 17 1 1F 1 1C1 27 5 1A1B 26 6 31 5 4 5 D 1 46 41 100 171 1
       D 1 10 D 8D 2 6 1 1B 1 11 29 AD7 20 7AA2 66 3 40 5 2 1 1 1 5 18 E 330 2B 1 9 1 4
       4F96 7 41A 1A 6 1A 825 6 1 2A 1 9 D745 1F 6 6"),
    ("lepc",
      "1C00 38 3 F 3 3"),
    ("limb",
      "1900 1F 1 C 4 C 4 1 3 C"),
    ("lina",
      "10600 137 9 16 A 8"),
    ("linb",
      "10000 C 1 1A 1 13 1 2 1 F 2 E 22 7B"),
    ("lisu",
      "A4D0 30 7AB0 1"),
    ("lyci",
      "10280 1D"),
    ("lydi",
      "10920 1A 5 1"),
    ("mahj",
      "11150 27"),
    ("maka",
      "11EE0 19"),
    ("mand",
      "840 1C 2 1"),
    ("mani",
      "10AC0 27 4 C"),
    ("marc",
      "11C70 20 2 16 1 E"),
    ("medf",
      "16E40 5B"),
    ("mend",
      "1E800 C5 2 10"),
    ("merc",
      "109A0 18 4 14 2 2E"),
    ("mero",
      "10980 20"),
    ("mlym",
      "D00 D 1 3 1 33 1 3 1 6 4 10 2 1A"),
    ("modi",
      "11600 45 B A"),
    ("mong",
      "1800 2 2 1 1 14 6 59 7 2B FDB5 D"),
    ("mroo",
      "16A40 1F 1 A 4 2"),
    ("mtei",
      "AAE0 17 C9 2E 2 A"),
    ("mult",
      "11280 7 1 1 1 4 1 F 1 B"),
    ("mymr",
      "1000 A0 9940 1F 61 20"),
    ("nagm",
      "1E4D0 2A"),
    ("nand",
      "119A0 8 2 2E 2 B"),
    ("narb",
      "10A80 20"),
    ("nbat",
      "10880 1F 8 9"),
    ("newa",
      "11400 5C 1 5"),
    ("nkoo",
      "7C0 3B 2 3"),
    ("nshu",
      "16FE1 1 418E 18C"),
    ("ogam",
      "1680 1D"),
    ("olck",
      "1C50 30"),
    ("orkh",
      "10C00 49"),
    ("orya",
      "B01 3 1 8 2 2 2 16 1 7 1 2 1 5 2 9 2 2 2 3 7 3 4 2 1 5 2 12"),
    ("osge",
      "104B0 24 4 24"),
    ("osma",
      "10480 1E 2 A"),
    ("ougr",
      "10F70 1A"),
    ("palm",
      "10860 20"),
    ("pauc",
      "11AC0 39"),
    ("perm",
      "10350 2B"),
    ("phag",
      "A840 38"),
    ("phli",
      "10B60 13 5 8"),
    ("phlp",
      "10B80 12 7 4 C 7"),
    ("phnx",
      "10900 1C 3 1"),
    ("plrd",
      "16F00 4B 4 39 7 11"),
    ("prti",
      "10B40 16 2 8"),
    ("rjng",
      "A930 24 B 1"),
    ("rohg",
      "10D00 28 8 A"),
    ("runr",
      "16A0 4B 3 B"),
    ("samr",
      "800 2E 2 F"),
    ("sarb",
      "10A60 20"),
    ("saur",
      "A880 46 8 C"),
    ("sgnw",
      "1D800 28C F 5 1 F"),
    ("shaw",
      "10450 30"),
    ("shrd",
      "11180 60"),
    ("sidd",
      "11580 36 2 26"),
    ("sind",
      "112B0 3B 5 A"),
    ("sinh",
      "D81 3 1 12 3 18 1 9 1 1 2 7 3 1 4 6 1 1 1 8 6 A 2 3 103EC 14"),
    ("sogd",
      "10F30 2A"),
    ("sogo",
      "10F00 28"),
    ("sora",
      "110D0 19 7 A"),
    ("soyo",
      "11A50 53"),
    ("sund",
      "1B80 40 100 8"),
    ("sylo",
      "A800 2D"),
    ("syrc",
      "700 E 1 3C 2 3 110 B"),
    ("tagb",
      "1760 D 1 3 1 2"),
    ("takr",
      "11680 3A 6 A"),
    ("tale",
      "1950 1E 2 5"),
    ("talu",
      "1980 2C 4 1A 6 B 3 2"),
    ("taml",
      "B82 2 1 6 3 3 1 4 3 2 1 1 1 2 3 2 3 3 3 C 4 5 3 3 1 4 2 1 6 1 E 15 113C5 32 D 1"),
    ("tang",
      "16FE0 1 1F 17F8 8 300 200 9"),
    ("tavt",
      "AA80 43 18 5"),
    ("telu",
      "C00 D 1 3 1 17 1 10 2 9 1 3 1 4 7 2 1 3 2 1 2 4 2 A 7 9"),
    ("tfng",
      "2D30 38 7 2 E 1"),
    ("tglg",
      "1700 16 9 1"),
    ("thaa",
      "780 32"),
    ("thai",
      "E01 3A 5 1C"),
    ("tibt",
      "F00 48 1 24 4 27 1 24 1 F 1 7 4 2"),
    ("tirh",
      "11480 48 8 A"),
    ("tnsa",
      "16A70 4F 1 A"),
    ("toto",
      "1E290 1F"),
    ("ugar",
      "10380 1E 1 1"),
    ("vaii",
      "A500 12C"),
    ("vith",
      "10570 B 1 F 1 7 1 2 1 B 1 F 1 7 1 2"),
    ("wara",
      "118A0 53 C 1"),
    ("wcho",
      "1E2C0 3A 5 1"),
    ("xpeo",
      "103A0 24 4 E"),
    ("xsux",
      "12000 39A 66 6F 1 5 B C4"),
    ("yezi",
      "10E80 2A 1 3 2 2"),
    ("yiii",
      "A000 48D 3 37"),
    ("zanb",
      "11A00 48"),
    ("zinh",
      "300 70 115 2 1C4 B 1A 1 2E0 4 115B 1F 201 3 1 D 1 7 4 1 6 1 3 2 C6 40 20C 2 C2
       21 F39 4 6B 2 CD65 10 10 E 3CF 1 E2 1 105A 1 BBC4 2E 2 17 220 3 11 8 2 7 1E 4
       C2F52 F0"),
    ("zyyy",
      "0 41 1A 6 1A 2F 1 F 1 5 17 1 1F 1 1C1 27 5 5 2 14 74 1 9 1 6 1 1 1 27D 1 6 1 E 1
       3 1 20 1 9C 1 204 1 81 2 4D9 1 195 4 122 1 5EF 3 47 2 CB 2 1 1 4CD 1 D 1 7 4 1 6
       1 3 2 1 305 C 2 57 1 B 3 B 1 F 11 21 3F 26 1 3 2 6 1 1B 1 11 29 3 4 297 19 B 15
       3A0 100 274 2 20 1 69 200 5E 192 C 4 5 1 1 1 19 F 8 4 4 5B 2 3 1 5A 2 93 10 20
       24 3C 40 1F 51 2F 1 58 A8 19C0 40 5900 22 66 3 A5 A F4 1 A0 1 18B 1 E 2 51D2 2
       D0 A 16 23 1 13 1 4 93 1 1 20 1A 6 1A B A 1 2D 2 40 7 1 7 A 5 102 3 4 2D 3 9 50
       D 33 2D E4 1B B9A4 4 12AC 74 3C F6 A 27 2 3E 3 11 8 2 7 1E 4 3D D5 14 C 14 C 57
       9 19 87 55 1 47 1 2 2 1 2 2 2 4 1 C 1 1 1 7 1 41 1 4 2 8 1 7 1 1C 1 4 1 5 1 1 3
       7 1 154 2 124 2 32 1471 44 4C 3D 2C2 2C 4 64 C F 2 F 1 F 1 25 A AE 38 1A 1 2 D
       2C 4 9 7 2 E 6 9A 3D8 4 11 3 D 3 77 4 5F 6 C 4 1 F C 4 38 8 A 6 28 8 1E 2 2 4E
       154 C E 2 D 3 9 7 2E 1 7 8 E 4 9 7 9 7 93 1 37 25 A C0407 1 1E 60"),
    ("zzzz",
      "378 2 6 4 7 1 1 1 14 1 18D 1 26 2 32 2 3 1 37 8 1B 4 6 B 10E 1 3C 2 65 E 3B 2 31
       2 F 1 1C 2 1 1 B 5 1F 1 2 6 EC 1 8 2 2 2 16 1 7 1 1 3 4 2 9 2 2 2 4 8 1 4 2 1 5
       2 19 2 3 1 6 4 2 2 16 1 7 1 2 1 2 1 2 2 1 1 5 4 2 2 3 3 1 7 4 1 1 7 11 A 3 1 9 1
       3 1 16 1 7 1 2 1 5 2 A 1 3 1 3 2 1 F 4 2 C 7 7 1 3 1 8 2 2 2 16 1 7 1 2 1 5 2 9
       2 2 2 3 7 3 4 2 1 5 2 12 A 2 1 6 3 3 1 4 3 2 1 1 1 2 3 2 3 3 3 C 4 5 3 3 1 4 2 1
       6 1 E 15 5 D 1 3 1 17 1 10 2 9 1 3 1 4 7 2 1 3 2 1 2 4 2 A 7 16 1 3 1 17 1 A 1 5
       2 9 1 3 1 4 7 2 6 2 1 4 2 A 1 3 C D 1 3 1 33 1 3 1 6 4 10 2 1A 1 3 1 12 3 18 1 9
       1 1 2 7 3 1 4 6 1 1 1 8 6 A 2 3 C 3A 4 1D 25 2 1 1 1 5 1 18 1 1 1 17 2 5 1 1 1 7
       1 A 2 4 20 48 1 24 4 27 1 24 1 F 1 D 25 C6 1 1 5 1 2 179 1 4 2 7 1 1 1 4 2 29 1
       4 2 21 1 4 2 7 1 1 1 4 2 F 1 39 1 4 2 43 2 20 3 1A 6 56 2 6 2 29D 3 59 7 16 9 18
       9 14 C D 1 3 1 2 C 5E 2 A 6 A 6 1A 6 59 7 2B 5 46 A 1F 1 C 4 C 4 1 3 2A 2 5 B 2C
       4 1A 6 B 3 3E 2 41 1 1D 2 B 6 A 6 E 2 1F 31 4D 3 2F 1 74 8 3C 3 F 3 3C 7 2B 2 B
       8 2B 5 216 2 6 2 26 2 6 2 8 1 1 1 1 1 1 1 1F 2 35 1 F 1 E 2 6 1 13 2 3 1 9 1 65
       1 C 2 1B 1 D 3 21 F 21 F 8C 4 297 19 B 15 714 2 20 1 15D 5 2D 1 1 5 1 2 38 7 2 E
       18 9 7 1 7 1 7 1 7 1 7 1 7 1 7 1 7 1 7E 22 1A 1 59 C D6 1A C 4 40 1 56 2 67 5 2B
       1 5E 1 54 C 2F 1 726D 3 37 9 15C 14 B8 8 CB 5 2 1 1 1 5 18 3B 3 A 6 38 8 46 8 C
       6 74 B 1E 3 4E 1 B 4 21 1 37 9 E 2 A 2 67 18 1C A 6 2 6 2 6 9 7 1 7 1 3C 4 7E 2
       A 6 2BA4 C 17 4 31 2104 16E 2 6A 26 7 C 5 5 1A 1 5 1 1 1 2 1 2 1 7D 10 1BD 2 36
       7 1 20 2A 6 33 1 13 1 4 4 5 1 87 2 1 1 BE 3 6 2 6 2 6 2 3 3 7 1 7 A 5 2 C 1 1A 1
       13 1 2 1 F 2 E 22 7B 5 3 4 2D 3 58 1 D 3 1 2F 2E 82 1D 3 31 F 1C 4 24 9 1E 5 2B
       5 1E 1 25 4 E 2A 9E 2 A 6 24 4 24 4 28 8 34 B C 1 F 1 7 1 2 1 B 1 F 1 7 1 2 43
       137 9 16 A 8 18 6 1 2A 1 9 45 6 2 1 1 2C 1 2 3 1 2 17 1 48 8 9 30 13 1 2 5 21 3
       1B 5 1 40 38 4 14 2 32 1 2 5 8 1 3 1 1D 2 3 4 A 7 9 7 40 20 27 4 C 9 36 3 1D 2
       1B 5 1A 7 4 C 7 50 49 37 33 D 33 7 2E 8 A 126 1F 1 2A 1 3 2 2 4B 2B 8 2A 16 1A
       26 1C 14 17 9 4E 4 24 9 44 A 1 2 19 7 A 6 35 1 12 8 27 9 60 1 14 B 12 1 2F 3E 7
       1 1 1 4 1 F 1 B 6 3B 5 A 6 4 1 8 2 2 2 16 1 7 1 2 1 5 1 A 2 2 2 3 2 1 6 1 5 7 2
       7 3 5 8B 5C 1 5 1E 48 8 A A6 36 2 26 22 45 B A 6 D 13 3A 6 A 36 1B 2 F 4 17 B9
       3C 64 53 C 8 2 1 2 8 1 2 1 1E 1 2 2 C 9 A 46 8 2 2E 2 B 1B 48 8 53 D 49 7 A F6 9
       1 2D 1 E A 1D 3 20 2 16 1 E 49 7 1 2 1 2C 3 1 1 2 1 9 8 A 6 6 1 2 1 25 1 2 1 6 7
       A 136 19 7 11 1 29 3 1C 56 1 F 32 D 39B 66 6F 1 5 B C4 A4C 63 D 456 FAA 247 21B9
       239 7 1F 1 A 4 51 1 A 6 1E 2 6 A 46 A A 1 7 1 15 5 13 2B0 5B 65 4B 4 39 7 11 40
       5 B 2 E 17F8 8 4D6 2A 9 22E7 4 1 7 1 2 1 123 F 1 1D 3 2 1 E 4 8 18C 904 6B 5 D 3
       9 7 A 2 8 125C 2E 2 17 9 74 3C F6 A 27 2 C2 15 46 7A 14 C 14 C 57 9 19 87 55 1
       47 1 2 2 1 2 2 2 4 1 C 1 1 1 7 1 41 1 4 2 8 1 7 1 1C 1 4 1 5 1 1 3 7 1 154 2 124
       2 2BE F 5 1 F 450 1F 6 6 D5 7 1 11 2 7 1 2 1 5 5 3E 21 1 70 2D 3 E 2 A 4 2 140
       1F 11 3A 5 1 1D0 2A 2E6 7 1 4 1 2 1 F 1 C5 2 10 29 4C 4 A 4 2 311 44 4C 3D C2 4
       1 1B 1 2 1 1 2 1 1 A 1 4 1 1 1 1 6 1 4 1 1 1 1 1 1 3 1 2 1 1 2 1 1 1 1 1 1 1 1 1
       1 2 1 1 2 4 1 7 1 4 1 4 1 1 1 A 1 11 5 3 1 5 1 11 34 2 10E 2C 4 64 C F 2 F 1 F 1
       25 A AE 38 1D D 2C 4 9 7 2 E 6 9A 3D8 4 11 3 D 3 77 4 5F 6 C 4 1 F C 4 38 8 A 6
       28 8 1E 2 2 4E 154 C E 2 D 3 9 7 2E 1 7 8 E 4 9 7 9 7 93 1 37 25 A 406 A6E0 20
       103A 6 DE 2 1682 E 1D31 C1F 21E 5E2 134B 5 1060 ADC51 1 1E 60 80 F0 2FE10")]

/-- Longer names of scripts, with the short names. -/
def aliases : List (String × String) :=
  [("adlam", "adlm"), ("caucasianalbanian", "aghb"), ("arabic", "arab"), ("imperialaramaic",
    "armi"), ("armenian", "armn"), ("avestan", "avst"), ("balinese", "bali"), ("bamum",
    "bamu"), ("bassavah", "bass"), ("batak", "batk"), ("bengali", "beng"), ("bhaiksuki",
    "bhks"), ("bopomofo", "bopo"), ("brahmi", "brah"), ("braille", "brai"), ("buginese",
    "bugi"), ("buhid", "buhd"), ("chakma", "cakm"), ("canadianaboriginal", "cans"), ("carian",
    "cari"), ("cherokee", "cher"), ("chorasmian", "chrs"), ("coptic", "copt"), ("qaac",
    "copt"), ("cyprominoan", "cpmn"), ("cypriot", "cprt"), ("cyrillic", "cyrl"),
    ("devanagari", "deva"), ("divesakuru", "diak"), ("dogra", "dogr"), ("deseret", "dsrt"),
    ("duployan", "dupl"), ("egyptianhieroglyphs", "egyp"), ("elbasan", "elba"), ("elymaic",
    "elym"), ("ethiopic", "ethi"), ("georgian", "geor"), ("glagolitic", "glag"),
    ("gunjalagondi", "gong"), ("masaramgondi", "gonm"), ("gothic", "goth"), ("grantha",
    "gran"), ("greek", "grek"), ("gujarati", "gujr"), ("gurmukhi", "guru"), ("hangul",
    "hang"), ("han", "hani"), ("hanunoo", "hano"), ("hatran", "hatr"), ("hebrew", "hebr"),
    ("hiragana", "hira"), ("anatolianhieroglyphs", "hluw"), ("pahawhhmong", "hmng"),
    ("nyiakengpuachuehmong", "hmnp"), ("oldhungarian", "hung"), ("olditalic", "ital"),
    ("javanese", "java"), ("kayahli", "kali"), ("katakana", "kana"), ("kharoshthi", "khar"),
    ("khmer", "khmr"), ("khojki", "khoj"), ("khitansmallscript", "kits"), ("kannada", "knda"),
    ("kaithi", "kthi"), ("taitham", "lana"), ("lao", "laoo"), ("latin", "latn"), ("lepcha",
    "lepc"), ("limbu", "limb"), ("lineara", "lina"), ("linearb", "linb"), ("lycian", "lyci"),
    ("lydian", "lydi"), ("mahajani", "mahj"), ("makasar", "maka"), ("mandaic", "mand"),
    ("manichaean", "mani"), ("marchen", "marc"), ("medefaidrin", "medf"), ("mendekikakui",
    "mend"), ("meroiticcursive", "merc"), ("meroitichieroglyphs", "mero"), ("malayalam",
    "mlym"), ("mongolian", "mong"), ("mro", "mroo"), ("meeteimayek", "mtei"), ("multani",
    "mult"), ("myanmar", "mymr"), ("nagmundari", "nagm"), ("nandinagari", "nand"),
    ("oldnortharabian", "narb"), ("nabataean", "nbat"), ("nko", "nkoo"), ("nushu", "nshu"),
    ("ogham", "ogam"), ("olchiki", "olck"), ("oldturkic", "orkh"), ("oriya", "orya"),
    ("osage", "osge"), ("osmanya", "osma"), ("olduyghur", "ougr"), ("palmyrene", "palm"),
    ("paucinhau", "pauc"), ("oldpermic", "perm"), ("phagspa", "phag"),
    ("inscriptionalpahlavi", "phli"), ("psalterpahlavi", "phlp"), ("phoenician", "phnx"),
    ("miao", "plrd"), ("inscriptionalparthian", "prti"), ("rejang", "rjng"),
    ("hanifirohingya", "rohg"), ("runic", "runr"), ("samaritan", "samr"), ("oldsoutharabian",
    "sarb"), ("saurashtra", "saur"), ("signwriting", "sgnw"), ("shavian", "shaw"), ("sharada",
    "shrd"), ("siddham", "sidd"), ("khudawadi", "sind"), ("sinhala", "sinh"), ("sogdian",
    "sogd"), ("oldsogdian", "sogo"), ("sorasompeng", "sora"), ("soyombo", "soyo"),
    ("sundanese", "sund"), ("sylotinagri", "sylo"), ("syriac", "syrc"), ("tagbanwa", "tagb"),
    ("takri", "takr"), ("taile", "tale"), ("newtailue", "talu"), ("tamil", "taml"), ("tangut",
    "tang"), ("taiviet", "tavt"), ("telugu", "telu"), ("tifinagh", "tfng"), ("tagalog",
    "tglg"), ("thaana", "thaa"), ("tibetan", "tibt"), ("tirhuta", "tirh"), ("tangsa", "tnsa"),
    ("ugaritic", "ugar"), ("vai", "vaii"), ("vithkuqi", "vith"), ("warangciti", "wara"),
    ("wancho", "wcho"), ("oldpersian", "xpeo"), ("cuneiform", "xsux"), ("yezidi", "yezi"),
    ("yi", "yiii"), ("zanabazarsquare", "zanb"), ("inherited", "zinh"), ("qaai", "zinh"),
    ("common", "zyyy"), ("unknown", "zzzz")]

end Script
end Unicode
end WorkloadPolicy
