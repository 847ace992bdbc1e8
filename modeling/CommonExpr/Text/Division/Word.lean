/-!
How each code point stands to those beside it in a word.
-/

namespace CommonExpr.Text

/-- Where each kind starts anew; `XX` is none. -/
def wordTable : List String :=
  ["0XX aLF bNL dCR eXX 20WSegSpace 21XX 22DQ 23XX 27SQ 28XX 2cMN 2dXX 2eMB 2fXX 30NU 3aML 3bMN",
  "3cXX 41LE 5bXX 5fEX 60XX 61LE 7bXX 85NL 86XX aaLE abXX adFO aeXX b5LE b6XX b7ML b8LE b9XX baLE",
  "bbXX c0LE d7XX d8LE f7XX f8LE 2d8XX 2deLE 300Extend 370LE 375XX 376LE 378XX 37aLE 37eMN 37fLE",
  "380XX 386LE 387ML 388LE 38bXX 38cLE 38dXX 38eLE 3a2XX 3a3LE 3f6XX 3f7LE 482XX 483Extend 48aLE",
  "530XX 531LE 557XX 559LE 55dXX 55eLE 55fML 560LE 589MN 58aLE 58bXX 591Extend 5beXX 5bfExtend",
  "5c0XX 5c1Extend 5c3XX 5c4Extend 5c6XX 5c7Extend 5c8XX 5d0HL 5ebXX 5efHL 5f3LE 5f4ML 5f5XX",
  "600NU 606XX 60cMN 60eXX 610Extend 61bXX 61cFO 61dXX 620LE 64bExtend 660NU 66aXX 66bNU 66cMN",
  "66dXX 66eLE 670Extend 671LE 6d4XX 6d5LE 6d6Extend 6ddNU 6deXX 6dfExtend 6e5LE 6e7Extend 6e9XX",
  "6eaExtend 6eeLE 6f0NU 6faLE 6fdXX 6ffLE 700XX 70fLE 711Extend 712LE 730Extend 74bXX 74dLE",
  "7a6Extend 7b1LE 7b2XX 7c0NU 7caLE 7ebExtend 7f4LE 7f6XX 7f8MN 7f9XX 7faLE 7fbXX 7fdExtend",
  "7feXX 800LE 816Extend 81aLE 81bExtend 824LE 825Extend 828LE 829Extend 82eXX 840LE 859Extend",
  "85cXX 860LE 86bXX 870LE 888XX 889LE 88fXX 890NU 892XX 897Extend 8a0LE 8caExtend 8e2NU",
  "8e3Extend 904LE 93aExtend 93dLE 93eExtend 950LE 951Extend 958LE 962Extend 964XX 966NU 970XX",
  "971LE 981Extend 984XX 985LE 98dXX 98fLE 991XX 993LE 9a9XX 9aaLE 9b1XX 9b2LE 9b3XX 9b6LE 9baXX",
  "9bcExtend 9bdLE 9beExtend 9c5XX 9c7Extend 9c9XX 9cbExtend 9ceLE 9cfXX 9d7Extend 9d8XX 9dcLE",
  "9deXX 9dfLE 9e2Extend 9e4XX 9e6NU 9f0LE 9f2XX 9fcLE 9fdXX 9feExtend 9ffXX a01Extend a04XX",
  "a05LE a0bXX a0fLE a11XX a13LE a29XX a2aLE a31XX a32LE a34XX a35LE a37XX a38LE a3aXX a3cExtend",
  "a3dXX a3eExtend a43XX a47Extend a49XX a4bExtend a4eXX a51Extend a52XX a59LE a5dXX a5eLE a5fXX",
  "a66NU a70Extend a72LE a75Extend a76XX a81Extend a84XX a85LE a8eXX a8fLE a92XX a93LE aa9XX",
  "aaaLE ab1XX ab2LE ab4XX ab5LE abaXX abcExtend abdLE abeExtend ac6XX ac7Extend acaXX acbExtend",
  "aceXX ad0LE ad1XX ae0LE ae2Extend ae4XX ae6NU af0XX af9LE afaExtend b00XX b01Extend b04XX",
  "b05LE b0dXX b0fLE b11XX b13LE b29XX b2aLE b31XX b32LE b34XX b35LE b3aXX b3cExtend b3dLE",
  "b3eExtend b45XX b47Extend b49XX b4bExtend b4eXX b55Extend b58XX b5cLE b5eXX b5fLE b62Extend",
  "b64XX b66NU b70XX b71LE b72XX b82Extend b83LE b84XX b85LE b8bXX b8eLE b91XX b92LE b96XX b99LE",
  "b9bXX b9cLE b9dXX b9eLE ba0XX ba3LE ba5XX ba8LE babXX baeLE bbaXX bbeExtend bc3XX bc6Extend",
  "bc9XX bcaExtend bceXX bd0LE bd1XX bd7Extend bd8XX be6NU bf0XX c00Extend c05LE c0dXX c0eLE",
  "c11XX c12LE c29XX c2aLE c3aXX c3cExtend c3dLE c3eExtend c45XX c46Extend c49XX c4aExtend c4eXX",
  "c55Extend c57XX c58LE c5bXX c5dLE c5eXX c60LE c62Extend c64XX c66NU c70XX c80LE c81Extend",
  "c84XX c85LE c8dXX c8eLE c91XX c92LE ca9XX caaLE cb4XX cb5LE cbaXX cbcExtend cbdLE cbeExtend",
  "cc5XX cc6Extend cc9XX ccaExtend cceXX cd5Extend cd7XX cddLE cdfXX ce0LE ce2Extend ce4XX ce6NU",
  "cf0XX cf1LE cf3Extend cf4XX d00Extend d04LE d0dXX d0eLE d11XX d12LE d3bExtend d3dLE d3eExtend",
  "d45XX d46Extend d49XX d4aExtend d4eLE d4fXX d54LE d57Extend d58XX d5fLE d62Extend d64XX d66NU",
  "d70XX d7aLE d80XX d81Extend d84XX d85LE d97XX d9aLE db2XX db3LE dbcXX dbdLE dbeXX dc0LE dc7XX",
  "dcaExtend dcbXX dcfExtend dd5XX dd6Extend dd7XX dd8Extend de0XX de6NU df0XX df2Extend df4XX",
  "e31Extend e32XX e34Extend e3bXX e47Extend e4fXX e50NU e5aXX eb1Extend eb2XX eb4Extend ebdXX",
  "ec8Extend ecfXX ed0NU edaXX f00LE f01XX f18Extend f1aXX f20NU f2aXX f35Extend f36XX f37Extend",
  "f38XX f39Extend f3aXX f3eExtend f40LE f48XX f49LE f6dXX f71Extend f85XX f86Extend f88LE",
  "f8dExtend f98XX f99Extend fbdXX fc6Extend fc7XX 102bExtend 103fXX 1040NU 104aXX 1056Extend",
  "105aXX 105eExtend 1061XX 1062Extend 1065XX 1067Extend 106eXX 1071Extend 1075XX 1082Extend",
  "108eXX 108fExtend 1090NU 109aExtend 109eXX 10a0LE 10c6XX 10c7LE 10c8XX 10cdLE 10ceXX 10d0LE",
  "10fbXX 10fcLE 1249XX 124aLE 124eXX 1250LE 1257XX 1258LE 1259XX 125aLE 125eXX 1260LE 1289XX",
  "128aLE 128eXX 1290LE 12b1XX 12b2LE 12b6XX 12b8LE 12bfXX 12c0LE 12c1XX 12c2LE 12c6XX 12c8LE",
  "12d7XX 12d8LE 1311XX 1312LE 1316XX 1318LE 135bXX 135dExtend 1360XX 1380LE 1390XX 13a0LE 13f6XX",
  "13f8LE 13feXX 1401LE 166dXX 166fLE 1680WSegSpace 1681LE 169bXX 16a0LE 16ebXX 16eeLE 16f9XX",
  "1700LE 1712Extend 1716XX 171fLE 1732Extend 1735XX 1740LE 1752Extend 1754XX 1760LE 176dXX",
  "176eLE 1771XX 1772Extend 1774XX 17b4Extend 17d4XX 17ddExtend 17deXX 17e0NU 17eaXX 180bExtend",
  "180eFO 180fExtend 1810NU 181aXX 1820LE 1879XX 1880LE 1885Extend 1887LE 18a9Extend 18aaLE",
  "18abXX 18b0LE 18f6XX 1900LE 191fXX 1920Extend 192cXX 1930Extend 193cXX 1946NU 1950XX 19d0NU",
  "19dbXX 1a00LE 1a17Extend 1a1cXX 1a55Extend 1a5fXX 1a60Extend 1a7dXX 1a7fExtend 1a80NU 1a8aXX",
  "1a90NU 1a9aXX 1ab0Extend 1acfXX 1b00Extend 1b05LE 1b34Extend 1b45LE 1b4dXX 1b50NU 1b5aXX",
  "1b6bExtend 1b74XX 1b80Extend 1b83LE 1ba1Extend 1baeLE 1bb0NU 1bbaLE 1be6Extend 1bf4XX 1c00LE",
  "1c24Extend 1c38XX 1c40NU 1c4aXX 1c4dLE 1c50NU 1c5aLE 1c7eXX 1c80LE 1c8bXX 1c90LE 1cbbXX 1cbdLE",
  "1cc0XX 1cd0Extend 1cd3XX 1cd4Extend 1ce9LE 1cedExtend 1ceeLE 1cf4Extend 1cf5LE 1cf7Extend",
  "1cfaLE 1cfbXX 1d00LE 1dc0Extend 1e00LE 1f16XX 1f18LE 1f1eXX 1f20LE 1f46XX 1f48LE 1f4eXX 1f50LE",
  "1f58XX 1f59LE 1f5aXX 1f5bLE 1f5cXX 1f5dLE 1f5eXX 1f5fLE 1f7eXX 1f80LE 1fb5XX 1fb6LE 1fbdXX",
  "1fbeLE 1fbfXX 1fc2LE 1fc5XX 1fc6LE 1fcdXX 1fd0LE 1fd4XX 1fd6LE 1fdcXX 1fe0LE 1fedXX 1ff2LE",
  "1ff5XX 1ff6LE 1ffdXX 2000WSegSpace 2007XX 2008WSegSpace 200bXX 200cExtend 200dZWJ 200eFO",
  "2010XX 2018MB 201aXX 2024MB 2025XX 2027ML 2028NL 202aFO 202fEX 2030XX 203fEX 2041XX 2044MN",
  "2045XX 2054EX 2055XX 205fWSegSpace 2060FO 2065XX 2066FO 2070XX 2071LE 2072XX 207fLE 2080XX",
  "2090LE 209dXX 20d0Extend 20f1XX 2102LE 2103XX 2107LE 2108XX 210aLE 2114XX 2115LE 2116XX 2119LE",
  "211eXX 2124LE 2125XX 2126LE 2127XX 2128LE 2129XX 212aLE 212eXX 212fLE 213aXX 213cLE 2140XX",
  "2145LE 214aXX 214eLE 214fXX 2160LE 2189XX 24b6LE 24eaXX 2c00LE 2ce5XX 2cebLE 2cefExtend 2cf2LE",
  "2cf4XX 2d00LE 2d26XX 2d27LE 2d28XX 2d2dLE 2d2eXX 2d30LE 2d68XX 2d6fLE 2d70XX 2d7fExtend 2d80LE",
  "2d97XX 2da0LE 2da7XX 2da8LE 2dafXX 2db0LE 2db7XX 2db8LE 2dbfXX 2dc0LE 2dc7XX 2dc8LE 2dcfXX",
  "2dd0LE 2dd7XX 2dd8LE 2ddfXX 2de0Extend 2e00XX 2e2fLE 2e30XX 3000WSegSpace 3001XX 3005LE 3006XX",
  "302aExtend 3030XX 3031KA 3036XX 303bLE 303dXX 3099Extend 309bKA 309dXX 30a0KA 30fbXX 30fcKA",
  "3100XX 3105LE 3130XX 3131LE 318fXX 31a0LE 31c0XX 31f0KA 3200XX 32d0KA 32ffXX 3300KA 3358XX",
  "a000LE a48dXX a4d0LE a4feXX a500LE a60dXX a610LE a620NU a62aLE a62cXX a640LE a66fExtend a673XX",
  "a674Extend a67eXX a67fLE a69eExtend a6a0LE a6f0Extend a6f2XX a708LE a7ceXX a7d0LE a7d2XX",
  "a7d3LE a7d4XX a7d5LE a7ddXX a7f2LE a802Extend a803LE a806Extend a807LE a80bExtend a80cLE",
  "a823Extend a828XX a82cExtend a82dXX a840LE a874XX a880Extend a882LE a8b4Extend a8c6XX a8d0NU",
  "a8daXX a8e0Extend a8f2LE a8f8XX a8fbLE a8fcXX a8fdLE a8ffExtend a900NU a90aLE a926Extend",
  "a92eXX a930LE a947Extend a954XX a960LE a97dXX a980Extend a984LE a9b3Extend a9c1XX a9cfLE",
  "a9d0NU a9daXX a9e5Extend a9e6XX a9f0NU a9faXX aa00LE aa29Extend aa37XX aa40LE aa43Extend",
  "aa44LE aa4cExtend aa4eXX aa50NU aa5aXX aa7bExtend aa7eXX aab0Extend aab1XX aab2Extend aab5XX",
  "aab7Extend aab9XX aabeExtend aac0XX aac1Extend aac2XX aae0LE aaebExtend aaf0XX aaf2LE",
  "aaf5Extend aaf7XX ab01LE ab07XX ab09LE ab0fXX ab11LE ab17XX ab20LE ab27XX ab28LE ab2fXX ab30LE",
  "ab6aXX ab70LE abe3Extend abebXX abecExtend abeeXX abf0NU abfaXX ac00LE d7a4XX d7b0LE d7c7XX",
  "d7cbLE d7fcXX fb00LE fb07XX fb13LE fb18XX fb1dHL fb1eExtend fb1fHL fb29XX fb2aHL fb37XX fb38HL",
  "fb3dXX fb3eHL fb3fXX fb40HL fb42XX fb43HL fb45XX fb46HL fb50LE fbb2XX fbd3LE fd3eXX fd50LE",
  "fd90XX fd92LE fdc8XX fdf0LE fdfcXX fe00Extend fe10XX fe13ML fe14XX fe20Extend fe30XX fe33EX",
  "fe35XX fe4dEX fe50MN fe51XX fe52MB fe53XX fe54MN fe55ML fe56XX fe70LE fe75XX fe76LE fefdXX",
  "feffFO ff00XX ff07MB ff08XX ff0cMN ff0dXX ff0eMB ff0fXX ff10NU ff1aML ff1bMN ff1cXX ff21LE",
  "ff3bXX ff3fEX ff40XX ff41LE ff5bXX ff66KA ff9eExtend ffa0LE ffbfXX ffc2LE ffc8XX ffcaLE ffd0XX",
  "ffd2LE ffd8XX ffdaLE ffddXX fff9FO fffcXX 10000LE 1000cXX 1000dLE 10027XX 10028LE 1003bXX",
  "1003cLE 1003eXX 1003fLE 1004eXX 10050LE 1005eXX 10080LE 100fbXX 10140LE 10175XX 101fdExtend",
  "101feXX 10280LE 1029dXX 102a0LE 102d1XX 102e0Extend 102e1XX 10300LE 10320XX 1032dLE 1034bXX",
  "10350LE 10376Extend 1037bXX 10380LE 1039eXX 103a0LE 103c4XX 103c8LE 103d0XX 103d1LE 103d6XX",
  "10400LE 1049eXX 104a0NU 104aaXX 104b0LE 104d4XX 104d8LE 104fcXX 10500LE 10528XX 10530LE",
  "10564XX 10570LE 1057bXX 1057cLE 1058bXX 1058cLE 10593XX 10594LE 10596XX 10597LE 105a2XX",
  "105a3LE 105b2XX 105b3LE 105baXX 105bbLE 105bdXX 105c0LE 105f4XX 10600LE 10737XX 10740LE",
  "10756XX 10760LE 10768XX 10780LE 10786XX 10787LE 107b1XX 107b2LE 107bbXX 10800LE 10806XX",
  "10808LE 10809XX 1080aLE 10836XX 10837LE 10839XX 1083cLE 1083dXX 1083fLE 10856XX 10860LE",
  "10877XX 10880LE 1089fXX 108e0LE 108f3XX 108f4LE 108f6XX 10900LE 10916XX 10920LE 1093aXX",
  "10980LE 109b8XX 109beLE 109c0XX 10a00LE 10a01Extend 10a04XX 10a05Extend 10a07XX 10a0cExtend",
  "10a10LE 10a14XX 10a15LE 10a18XX 10a19LE 10a36XX 10a38Extend 10a3bXX 10a3fExtend 10a40XX",
  "10a60LE 10a7dXX 10a80LE 10a9dXX 10ac0LE 10ac8XX 10ac9LE 10ae5Extend 10ae7XX 10b00LE 10b36XX",
  "10b40LE 10b56XX 10b60LE 10b73XX 10b80LE 10b92XX 10c00LE 10c49XX 10c80LE 10cb3XX 10cc0LE",
  "10cf3XX 10d00LE 10d24Extend 10d28XX 10d30NU 10d3aXX 10d40NU 10d4aLE 10d66XX 10d69Extend",
  "10d6eXX 10d6fLE 10d86XX 10e80LE 10eaaXX 10eabExtend 10eadXX 10eb0LE 10eb2XX 10ec2LE 10ec5XX",
  "10efcExtend 10f00LE 10f1dXX 10f27LE 10f28XX 10f30LE 10f46Extend 10f51XX 10f70LE 10f82Extend",
  "10f86XX 10fb0LE 10fc5XX 10fe0LE 10ff7XX 11000Extend 11003LE 11038Extend 11047XX 11066NU",
  "11070Extend 11071LE 11073Extend 11075LE 11076XX 1107fExtend 11083LE 110b0Extend 110bbXX",
  "110bdNU 110beXX 110c2Extend 110c3XX 110cdNU 110ceXX 110d0LE 110e9XX 110f0NU 110faXX",
  "11100Extend 11103LE 11127Extend 11135XX 11136NU 11140XX 11144LE 11145Extend 11147LE 11148XX",
  "11150LE 11173Extend 11174XX 11176LE 11177XX 11180Extend 11183LE 111b3Extend 111c1LE 111c5XX",
  "111c9Extend 111cdXX 111ceExtend 111d0NU 111daLE 111dbXX 111dcLE 111ddXX 11200LE 11212XX",
  "11213LE 1122cExtend 11238XX 1123eExtend 1123fLE 11241Extend 11242XX 11280LE 11287XX 11288LE",
  "11289XX 1128aLE 1128eXX 1128fLE 1129eXX 1129fLE 112a9XX 112b0LE 112dfExtend 112ebXX 112f0NU",
  "112faXX 11300Extend 11304XX 11305LE 1130dXX 1130fLE 11311XX 11313LE 11329XX 1132aLE 11331XX",
  "11332LE 11334XX 11335LE 1133aXX 1133bExtend 1133dLE 1133eExtend 11345XX 11347Extend 11349XX",
  "1134bExtend 1134eXX 11350LE 11351XX 11357Extend 11358XX 1135dLE 11362Extend 11364XX",
  "11366Extend 1136dXX 11370Extend 11375XX 11380LE 1138aXX 1138bLE 1138cXX 1138eLE 1138fXX",
  "11390LE 113b6XX 113b7LE 113b8Extend 113c1XX 113c2Extend 113c3XX 113c5Extend 113c6XX",
  "113c7Extend 113cbXX 113ccExtend 113d1LE 113d2Extend 113d3LE 113d4XX 113e1Extend 113e3XX",
  "11400LE 11435Extend 11447LE 1144bXX 11450NU 1145aXX 1145eExtend 1145fLE 11462XX 11480LE",
  "114b0Extend 114c4LE 114c6XX 114c7LE 114c8XX 114d0NU 114daXX 11580LE 115afExtend 115b6XX",
  "115b8Extend 115c1XX 115d8LE 115dcExtend 115deXX 11600LE 11630Extend 11641XX 11644LE 11645XX",
  "11650NU 1165aXX 11680LE 116abExtend 116b8LE 116b9XX 116c0NU 116caXX 116d0NU 116e4XX",
  "1171dExtend 1172cXX 11730NU 1173aXX 11800LE 1182cExtend 1183bXX 118a0LE 118e0NU 118eaXX",
  "118ffLE 11907XX 11909LE 1190aXX 1190cLE 11914XX 11915LE 11917XX 11918LE 11930Extend 11936XX",
  "11937Extend 11939XX 1193bExtend 1193fLE 11940Extend 11941LE 11942Extend 11944XX 11950NU",
  "1195aXX 119a0LE 119a8XX 119aaLE 119d1Extend 119d8XX 119daExtend 119e1LE 119e2XX 119e3LE",
  "119e4Extend 119e5XX 11a00LE 11a01Extend 11a0bLE 11a33Extend 11a3aLE 11a3bExtend 11a3fXX",
  "11a47Extend 11a48XX 11a50LE 11a51Extend 11a5cLE 11a8aExtend 11a9aXX 11a9dLE 11a9eXX 11ab0LE",
  "11af9XX 11bc0LE 11be1XX 11bf0NU 11bfaXX 11c00LE 11c09XX 11c0aLE 11c2fExtend 11c37XX",
  "11c38Extend 11c40LE 11c41XX 11c50NU 11c5aXX 11c72LE 11c90XX 11c92Extend 11ca8XX 11ca9Extend",
  "11cb7XX 11d00LE 11d07XX 11d08LE 11d0aXX 11d0bLE 11d31Extend 11d37XX 11d3aExtend 11d3bXX",
  "11d3cExtend 11d3eXX 11d3fExtend 11d46LE 11d47Extend 11d48XX 11d50NU 11d5aXX 11d60LE 11d66XX",
  "11d67LE 11d69XX 11d6aLE 11d8aExtend 11d8fXX 11d90Extend 11d92XX 11d93Extend 11d98LE 11d99XX",
  "11da0NU 11daaXX 11ee0LE 11ef3Extend 11ef7XX 11f00Extend 11f02LE 11f03Extend 11f04LE 11f11XX",
  "11f12LE 11f34Extend 11f3bXX 11f3eExtend 11f43XX 11f50NU 11f5aExtend 11f5bXX 11fb0LE 11fb1XX",
  "12000LE 1239aXX 12400LE 1246fXX 12480LE 12544XX 12f90LE 12ff1XX 13000LE 13430FO 13440Extend",
  "13441LE 13447Extend 13456XX 13460LE 143fbXX 14400LE 14647XX 16100LE 1611eExtend 16130NU",
  "1613aXX 16800LE 16a39XX 16a40LE 16a5fXX 16a60NU 16a6aXX 16a70LE 16abfXX 16ac0NU 16acaXX",
  "16ad0LE 16aeeXX 16af0Extend 16af5XX 16b00LE 16b30Extend 16b37XX 16b40LE 16b44XX 16b50NU",
  "16b5aXX 16b63LE 16b78XX 16b7dLE 16b90XX 16d40LE 16d6dXX 16d70NU 16d7aXX 16e40LE 16e80XX",
  "16f00LE 16f4bXX 16f4fExtend 16f50LE 16f51Extend 16f88XX 16f8fExtend 16f93LE 16fa0XX 16fe0LE",
  "16fe2XX 16fe3LE 16fe4Extend 16fe5XX 16ff0Extend 16ff2XX 1aff0KA 1aff4XX 1aff5KA 1affcXX",
  "1affdKA 1afffXX 1b000KA 1b001XX 1b120KA 1b123XX 1b155KA 1b156XX 1b164KA 1b168XX 1bc00LE",
  "1bc6bXX 1bc70LE 1bc7dXX 1bc80LE 1bc89XX 1bc90LE 1bc9aXX 1bc9dExtend 1bc9fXX 1bca0FO 1bca4XX",
  "1ccf0NU 1ccfaXX 1cf00Extend 1cf2eXX 1cf30Extend 1cf47XX 1d165Extend 1d16aXX 1d16dExtend",
  "1d173FO 1d17bExtend 1d183XX 1d185Extend 1d18cXX 1d1aaExtend 1d1aeXX 1d242Extend 1d245XX",
  "1d400LE 1d455XX 1d456LE 1d49dXX 1d49eLE 1d4a0XX 1d4a2LE 1d4a3XX 1d4a5LE 1d4a7XX 1d4a9LE",
  "1d4adXX 1d4aeLE 1d4baXX 1d4bbLE 1d4bcXX 1d4bdLE 1d4c4XX 1d4c5LE 1d506XX 1d507LE 1d50bXX",
  "1d50dLE 1d515XX 1d516LE 1d51dXX 1d51eLE 1d53aXX 1d53bLE 1d53fXX 1d540LE 1d545XX 1d546LE",
  "1d547XX 1d54aLE 1d551XX 1d552LE 1d6a6XX 1d6a8LE 1d6c1XX 1d6c2LE 1d6dbXX 1d6dcLE 1d6fbXX",
  "1d6fcLE 1d715XX 1d716LE 1d735XX 1d736LE 1d74fXX 1d750LE 1d76fXX 1d770LE 1d789XX 1d78aLE",
  "1d7a9XX 1d7aaLE 1d7c3XX 1d7c4LE 1d7ccXX 1d7ceNU 1d800XX 1da00Extend 1da37XX 1da3bExtend",
  "1da6dXX 1da75Extend 1da76XX 1da84Extend 1da85XX 1da9bExtend 1daa0XX 1daa1Extend 1dab0XX",
  "1df00LE 1df1fXX 1df25LE 1df2bXX 1e000Extend 1e007XX 1e008Extend 1e019XX 1e01bExtend 1e022XX",
  "1e023Extend 1e025XX 1e026Extend 1e02bXX 1e030LE 1e06eXX 1e08fExtend 1e090XX 1e100LE 1e12dXX",
  "1e130Extend 1e137LE 1e13eXX 1e140NU 1e14aXX 1e14eLE 1e14fXX 1e290LE 1e2aeExtend 1e2afXX",
  "1e2c0LE 1e2ecExtend 1e2f0NU 1e2faXX 1e4d0LE 1e4ecExtend 1e4f0NU 1e4faXX 1e5d0LE 1e5eeExtend",
  "1e5f0LE 1e5f1NU 1e5fbXX 1e7e0LE 1e7e7XX 1e7e8LE 1e7ecXX 1e7edLE 1e7efXX 1e7f0LE 1e7ffXX",
  "1e800LE 1e8c5XX 1e8d0Extend 1e8d7XX 1e900LE 1e944Extend 1e94bLE 1e94cXX 1e950NU 1e95aXX",
  "1ee00LE 1ee04XX 1ee05LE 1ee20XX 1ee21LE 1ee23XX 1ee24LE 1ee25XX 1ee27LE 1ee28XX 1ee29LE",
  "1ee33XX 1ee34LE 1ee38XX 1ee39LE 1ee3aXX 1ee3bLE 1ee3cXX 1ee42LE 1ee43XX 1ee47LE 1ee48XX",
  "1ee49LE 1ee4aXX 1ee4bLE 1ee4cXX 1ee4dLE 1ee50XX 1ee51LE 1ee53XX 1ee54LE 1ee55XX 1ee57LE",
  "1ee58XX 1ee59LE 1ee5aXX 1ee5bLE 1ee5cXX 1ee5dLE 1ee5eXX 1ee5fLE 1ee60XX 1ee61LE 1ee63XX",
  "1ee64LE 1ee65XX 1ee67LE 1ee6bXX 1ee6cLE 1ee73XX 1ee74LE 1ee78XX 1ee79LE 1ee7dXX 1ee7eLE",
  "1ee7fXX 1ee80LE 1ee8aXX 1ee8bLE 1ee9cXX 1eea1LE 1eea4XX 1eea5LE 1eeaaXX 1eeabLE 1eebcXX",
  "1f130LE 1f14aXX 1f150LE 1f16aXX 1f170LE 1f18aXX 1f1e6RI 1f200XX 1f3fbExtend 1f400XX 1fbf0NU",
  "1fbfaXX e0001FO e0002XX e0020Extend e0080XX e0100Extend e01f0XX"]

end CommonExpr.Text
