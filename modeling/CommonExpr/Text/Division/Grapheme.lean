/-!
How each code point stands to those beside it in a character as a reader sees it.
-/

namespace CommonExpr.Text

/-- Where each kind starts anew; `XX` is none, and `H` are the Hangul syllables. -/
def graphemeTable : List String :=
  ["0CN aLF bCN dCR eCN 20XX 7fCN a0XX adCN aeXX 300EX 370XX 483EX 48aXX 591EX 5beXX 5bfEX 5c0XX",
  "5c1EX 5c3XX 5c4EX 5c6XX 5c7EX 5c8XX 600PP 606XX 610EX 61bXX 61cCN 61dXX 64bEX 660XX 670EX",
  "671XX 6d6EX 6ddPP 6deXX 6dfEX 6e5XX 6e7EX 6e9XX 6eaEX 6eeXX 70fPP 710XX 711EX 712XX 730EX",
  "74bXX 7a6EX 7b1XX 7ebEX 7f4XX 7fdEX 7feXX 816EX 81aXX 81bEX 824XX 825EX 828XX 829EX 82eXX",
  "859EX 85cXX 890PP 892XX 897EX 8a0XX 8caEX 8e2PP 8e3EX 903SM 904XX 93aEX 93bSM 93cEX 93dXX",
  "93eSM 941EX 949SM 94dEX 94eSM 950XX 951EX 958XX 962EX 964XX 981EX 982SM 984XX 9bcEX 9bdXX",
  "9beEX 9bfSM 9c1EX 9c5XX 9c7SM 9c9XX 9cbSM 9cdEX 9ceXX 9d7EX 9d8XX 9e2EX 9e4XX 9feEX 9ffXX",
  "a01EX a03SM a04XX a3cEX a3dXX a3eSM a41EX a43XX a47EX a49XX a4bEX a4eXX a51EX a52XX a70EX",
  "a72XX a75EX a76XX a81EX a83SM a84XX abcEX abdXX abeSM ac1EX ac6XX ac7EX ac9SM acaXX acbSM",
  "acdEX aceXX ae2EX ae4XX afaEX b00XX b01EX b02SM b04XX b3cEX b3dXX b3eEX b40SM b41EX b45XX",
  "b47SM b49XX b4bSM b4dEX b4eXX b55EX b58XX b62EX b64XX b82EX b83XX bbeEX bbfSM bc0EX bc1SM",
  "bc3XX bc6SM bc9XX bcaSM bcdEX bceXX bd7EX bd8XX c00EX c01SM c04EX c05XX c3cEX c3dXX c3eEX",
  "c41SM c45XX c46EX c49XX c4aEX c4eXX c55EX c57XX c62EX c64XX c81EX c82SM c84XX cbcEX cbdXX",
  "cbeSM cbfEX cc1SM cc2EX cc3SM cc5XX cc6EX cc9XX ccaEX cceXX cd5EX cd7XX ce2EX ce4XX cf3SM",
  "cf4XX d00EX d02SM d04XX d3bEX d3dXX d3eEX d3fSM d41EX d45XX d46SM d49XX d4aSM d4dEX d4ePP",
  "d4fXX d57EX d58XX d62EX d64XX d81EX d82SM d84XX dcaEX dcbXX dcfEX dd0SM dd2EX dd5XX dd6EX",
  "dd7XX dd8SM ddfEX de0XX df2SM df4XX e31EX e32XX e33SM e34EX e3bXX e47EX e4fXX eb1EX eb2XX",
  "eb3SM eb4EX ebdXX ec8EX ecfXX f18EX f1aXX f35EX f36XX f37EX f38XX f39EX f3aXX f3eSM f40XX",
  "f71EX f7fSM f80EX f85XX f86EX f88XX f8dEX f98XX f99EX fbdXX fc6EX fc7XX 102dEX 1031SM 1032EX",
  "1038XX 1039EX 103bSM 103dEX 103fXX 1056SM 1058EX 105aXX 105eEX 1061XX 1071EX 1075XX 1082EX",
  "1083XX 1084SM 1085EX 1087XX 108dEX 108eXX 109dEX 109eXX 1100L 1160V 11a8T 1200XX 135dEX 1360XX",
  "1712EX 1716XX 1732EX 1735XX 1752EX 1754XX 1772EX 1774XX 17b4EX 17b6SM 17b7EX 17beSM 17c6EX",
  "17c7SM 17c9EX 17d4XX 17ddEX 17deXX 180bEX 180eCN 180fEX 1810XX 1885EX 1887XX 18a9EX 18aaXX",
  "1920EX 1923SM 1927EX 1929SM 192cXX 1930SM 1932EX 1933SM 1939EX 193cXX 1a17EX 1a19SM 1a1bEX",
  "1a1cXX 1a55SM 1a56EX 1a57SM 1a58EX 1a5fXX 1a60EX 1a61XX 1a62EX 1a63XX 1a65EX 1a6dSM 1a73EX",
  "1a7dXX 1a7fEX 1a80XX 1ab0EX 1acfXX 1b00EX 1b04SM 1b05XX 1b34EX 1b3eSM 1b42EX 1b45XX 1b6bEX",
  "1b74XX 1b80EX 1b82SM 1b83XX 1ba1SM 1ba2EX 1ba6SM 1ba8EX 1baeXX 1be6EX 1be7SM 1be8EX 1beaSM",
  "1bedEX 1beeSM 1befEX 1bf4XX 1c24SM 1c2cEX 1c34SM 1c36EX 1c38XX 1cd0EX 1cd3XX 1cd4EX 1ce1SM",
  "1ce2EX 1ce9XX 1cedEX 1ceeXX 1cf4EX 1cf5XX 1cf7SM 1cf8EX 1cfaXX 1dc0EX 1e00XX 200bCN 200cEX",
  "200dZWJ 200eCN 2010XX 2028CN 202fXX 2060CN 2070XX 20d0EX 20f1XX 2cefEX 2cf2XX 2d7fEX 2d80XX",
  "2de0EX 2e00XX 302aEX 3030XX 3099EX 309bXX a66fEX a673XX a674EX a67eXX a69eEX a6a0XX a6f0EX",
  "a6f2XX a802EX a803XX a806EX a807XX a80bEX a80cXX a823SM a825EX a827SM a828XX a82cEX a82dXX",
  "a880SM a882XX a8b4SM a8c4EX a8c6XX a8e0EX a8f2XX a8ffEX a900XX a926EX a92eXX a947EX a952SM",
  "a953EX a954XX a960L a97dXX a980EX a983SM a984XX a9b3EX a9b4SM a9b6EX a9baSM a9bcEX a9beSM",
  "a9c0EX a9c1XX a9e5EX a9e6XX aa29EX aa2fSM aa31EX aa33SM aa35EX aa37XX aa43EX aa44XX aa4cEX",
  "aa4dSM aa4eXX aa7cEX aa7dXX aab0EX aab1XX aab2EX aab5XX aab7EX aab9XX aabeEX aac0XX aac1EX",
  "aac2XX aaebSM aaecEX aaeeSM aaf0XX aaf5SM aaf6EX aaf7XX abe3SM abe5EX abe6SM abe8EX abe9SM",
  "abebXX abecSM abedEX abeeXX ac00H d7a4XX d7b0V d7c7XX d7cbT d7fcXX fb1eEX fb1fXX fe00EX fe10XX",
  "fe20EX fe30XX feffCN ff00XX ff9eEX ffa0XX fff0CN fffcXX 101fdEX 101feXX 102e0EX 102e1XX",
  "10376EX 1037bXX 10a01EX 10a04XX 10a05EX 10a07XX 10a0cEX 10a10XX 10a38EX 10a3bXX 10a3fEX",
  "10a40XX 10ae5EX 10ae7XX 10d24EX 10d28XX 10d69EX 10d6eXX 10eabEX 10eadXX 10efcEX 10f00XX",
  "10f46EX 10f51XX 10f82EX 10f86XX 11000SM 11001EX 11002SM 11003XX 11038EX 11047XX 11070EX",
  "11071XX 11073EX 11075XX 1107fEX 11082SM 11083XX 110b0SM 110b3EX 110b7SM 110b9EX 110bbXX",
  "110bdPP 110beXX 110c2EX 110c3XX 110cdPP 110ceXX 11100EX 11103XX 11127EX 1112cSM 1112dEX",
  "11135XX 11145SM 11147XX 11173EX 11174XX 11180EX 11182SM 11183XX 111b3SM 111b6EX 111bfSM",
  "111c0EX 111c1XX 111c2PP 111c4XX 111c9EX 111cdXX 111ceSM 111cfEX 111d0XX 1122cSM 1122fEX",
  "11232SM 11234EX 11238XX 1123eEX 1123fXX 11241EX 11242XX 112dfEX 112e0SM 112e3EX 112ebXX",
  "11300EX 11302SM 11304XX 1133bEX 1133dXX 1133eEX 1133fSM 11340EX 11341SM 11345XX 11347SM",
  "11349XX 1134bSM 1134dEX 1134eXX 11357EX 11358XX 11362SM 11364XX 11366EX 1136dXX 11370EX",
  "11375XX 113b8EX 113b9SM 113bbEX 113c1XX 113c2EX 113c3XX 113c5EX 113c6XX 113c7EX 113caSM",
  "113cbXX 113ccSM 113ceEX 113d1PP 113d2EX 113d3XX 113e1EX 113e3XX 11435SM 11438EX 11440SM",
  "11442EX 11445SM 11446EX 11447XX 1145eEX 1145fXX 114b0EX 114b1SM 114b3EX 114b9SM 114baEX",
  "114bbSM 114bdEX 114beSM 114bfEX 114c1SM 114c2EX 114c4XX 115afEX 115b0SM 115b2EX 115b6XX",
  "115b8SM 115bcEX 115beSM 115bfEX 115c1XX 115dcEX 115deXX 11630SM 11633EX 1163bSM 1163dEX",
  "1163eSM 1163fEX 11641XX 116abEX 116acSM 116adEX 116aeSM 116b0EX 116b8XX 1171dEX 1171eSM",
  "1171fEX 11720XX 11722EX 11726SM 11727EX 1172cXX 1182cSM 1182fEX 11838SM 11839EX 1183bXX",
  "11930EX 11931SM 11936XX 11937SM 11939XX 1193bEX 1193fPP 11940SM 11941PP 11942SM 11943EX",
  "11944XX 119d1SM 119d4EX 119d8XX 119daEX 119dcSM 119e0EX 119e1XX 119e4SM 119e5XX 11a01EX",
  "11a0bXX 11a33EX 11a39SM 11a3aPP 11a3bEX 11a3fXX 11a47EX 11a48XX 11a51EX 11a57SM 11a59EX",
  "11a5cXX 11a84PP 11a8aEX 11a97SM 11a98EX 11a9aXX 11c2fSM 11c30EX 11c37XX 11c38EX 11c3eSM",
  "11c3fEX 11c40XX 11c92EX 11ca8XX 11ca9SM 11caaEX 11cb1SM 11cb2EX 11cb4SM 11cb5EX 11cb7XX",
  "11d31EX 11d37XX 11d3aEX 11d3bXX 11d3cEX 11d3eXX 11d3fEX 11d46PP 11d47EX 11d48XX 11d8aSM",
  "11d8fXX 11d90EX 11d92XX 11d93SM 11d95EX 11d96SM 11d97EX 11d98XX 11ef3EX 11ef5SM 11ef7XX",
  "11f00EX 11f02PP 11f03SM 11f04XX 11f34SM 11f36EX 11f3bXX 11f3eSM 11f40EX 11f43XX 11f5aEX",
  "11f5bXX 13430CN 13440EX 13441XX 13447EX 13456XX 1611eEX 1612aSM 1612dEX 16130XX 16af0EX",
  "16af5XX 16b30EX 16b37XX 16d63V 16d64XX 16d67V 16d6bXX 16f4fEX 16f50XX 16f51SM 16f88XX 16f8fEX",
  "16f93XX 16fe4EX 16fe5XX 16ff0EX 16ff2XX 1bc9dEX 1bc9fXX 1bca0CN 1bca4XX 1cf00EX 1cf2eXX",
  "1cf30EX 1cf47XX 1d165EX 1d16aXX 1d16dEX 1d173CN 1d17bEX 1d183XX 1d185EX 1d18cXX 1d1aaEX",
  "1d1aeXX 1d242EX 1d245XX 1da00EX 1da37XX 1da3bEX 1da6dXX 1da75EX 1da76XX 1da84EX 1da85XX",
  "1da9bEX 1daa0XX 1daa1EX 1dab0XX 1e000EX 1e007XX 1e008EX 1e019XX 1e01bEX 1e022XX 1e023EX",
  "1e025XX 1e026EX 1e02bXX 1e08fEX 1e090XX 1e130EX 1e137XX 1e2aeEX 1e2afXX 1e2ecEX 1e2f0XX",
  "1e4ecEX 1e4f0XX 1e5eeEX 1e5f0XX 1e8d0EX 1e8d7XX 1e944EX 1e94bXX 1f1e6RI 1f200XX 1f3fbEX",
  "1f400XX e0000CN e0020EX e0080CN e0100EX e01f0CN e1000XX"]

end CommonExpr.Text
