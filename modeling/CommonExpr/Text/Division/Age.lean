/-!
The version of the Unicode standard in which each code point was assigned.
-/

namespace CommonExpr.Text

/-- Where each version starts anew; `NA` is none. -/
def ageTable : List String :=
  ["0V1.1 1f6V3.0 1faV1.1 218V3.0 220V3.2 221V4.0 222V3.0 234V4.0 237V4.1 242V5.0 250V1.1 2a9V3.0",
  "2aeV4.0 2b0V1.1 2dfV3.0 2e0V1.1 2eaV3.0 2efV4.0 300V1.1 346V3.0 34fV3.2 350V4.0 358V4.1",
  "35dV4.0 360V1.1 362V3.0 363V3.2 370V5.1 374V1.1 376V5.1 378NA 37aV1.1 37bV5.0 37eV1.1 37fV7.0",
  "380NA 384V1.1 38bNA 38cV1.1 38dNA 38eV1.1 3a2NA 3a3V1.1 3cfV5.1 3d0V1.1 3d7V3.0 3d8V3.2",
  "3daV1.1 3dbV3.0 3dcV1.1 3ddV3.0 3deV1.1 3dfV3.0 3e0V1.1 3e1V3.0 3e2V1.1 3f4V3.1 3f6V3.2",
  "3f7V4.0 3fcV4.1 400V3.0 401V1.1 40dV3.0 40eV1.1 450V3.0 451V1.1 45dV3.0 45eV1.1 487V5.1",
  "488V3.0 48aV3.2 48cV3.0 490V1.1 4c5V3.2 4c7V1.1 4c9V3.2 4cbV1.1 4cdV3.2 4cfV5.0 4d0V1.1",
  "4ecV3.0 4eeV1.1 4f6V4.1 4f8V1.1 4faV5.0 500V3.2 510V5.0 514V5.1 524V5.2 526V6.0 528V7.0 530NA",
  "531V1.1 557NA 559V1.1 560V11.0 561V1.1 588V11.0 589V1.1 58aV3.0 58bNA 58dV7.0 58fV6.1 590NA",
  "591V2.0 5a2V4.1 5a3V2.0 5b0V1.1 5baV5.0 5bbV1.1 5c4V2.0 5c5V4.1 5c8NA 5d0V1.1 5ebNA 5efV11.0",
  "5f0V1.1 5f5NA 600V4.0 604V6.1 605V7.0 606V5.1 60bV4.1 60cV1.1 60dV4.0 616V5.1 61bV1.1 61cV6.3",
  "61dV14.0 61eV4.1 61fV1.1 620V6.0 621V1.1 63bV5.1 640V1.1 653V3.0 656V4.0 659V4.1 65fV6.0",
  "660V1.1 66eV3.2 670V1.1 6b8V3.0 6baV1.1 6bfV3.0 6c0V1.1 6cfV3.0 6d0V1.1 6eeV4.0 6f0V1.1",
  "6faV3.0 6ffV4.0 700V3.0 70eNA 70fV3.0 72dV4.0 730V3.0 74bNA 74dV4.0 750V4.1 76eV5.1 780V3.0",
  "7b1V3.2 7b2NA 7c0V5.0 7fbNA 7fdV11.0 800V5.2 82eNA 830V5.2 83fNA 840V6.0 85cNA 85eV6.0 85fNA",
  "860V10.0 86bNA 870V14.0 88fNA 890V14.0 892NA 897V16.0 898V14.0 8a0V6.1 8a1V7.0 8a2V6.1 8adV7.0",
  "8b3V8.0 8b5V14.0 8b6V9.0 8beV13.0 8c8V14.0 8d3V11.0 8d4V9.0 8e3V8.0 8e4V6.1 8ffV7.0 900V5.2",
  "901V1.1 904V4.0 905V1.1 93aV6.0 93cV1.1 94eV5.2 94fV6.0 950V1.1 955V5.2 956V6.0 958V1.1",
  "971V5.1 973V6.0 978V7.0 979V5.2 97bV5.0 97dV4.1 97eV5.0 980V7.0 981V1.1 984NA 985V1.1 98dNA",
  "98fV1.1 991NA 993V1.1 9a9NA 9aaV1.1 9b1NA 9b2V1.1 9b3NA 9b6V1.1 9baNA 9bcV1.1 9bdV4.0 9beV1.1",
  "9c5NA 9c7V1.1 9c9NA 9cbV1.1 9ceV4.1 9cfNA 9d7V1.1 9d8NA 9dcV1.1 9deNA 9dfV1.1 9e4NA 9e6V1.1",
  "9fbV5.2 9fcV10.0 9feV11.0 9ffNA a01V4.0 a02V1.1 a03V4.0 a04NA a05V1.1 a0bNA a0fV1.1 a11NA",
  "a13V1.1 a29NA a2aV1.1 a31NA a32V1.1 a34NA a35V1.1 a37NA a38V1.1 a3aNA a3cV1.1 a3dNA a3eV1.1",
  "a43NA a47V1.1 a49NA a4bV1.1 a4eNA a51V5.1 a52NA a59V1.1 a5dNA a5eV1.1 a5fNA a66V1.1 a75V5.1",
  "a76V11.0 a77NA a81V1.1 a84NA a85V1.1 a8cV4.0 a8dV1.1 a8eNA a8fV1.1 a92NA a93V1.1 aa9NA aaaV1.1",
  "ab1NA ab2V1.1 ab4NA ab5V1.1 abaNA abcV1.1 ac6NA ac7V1.1 acaNA acbV1.1 aceNA ad0V1.1 ad1NA",
  "ae0V1.1 ae1V4.0 ae4NA ae6V1.1 af0V6.1 af1V4.0 af2NA af9V8.0 afaV10.0 b00NA b01V1.1 b04NA",
  "b05V1.1 b0dNA b0fV1.1 b11NA b13V1.1 b29NA b2aV1.1 b31NA b32V1.1 b34NA b35V4.0 b36V1.1 b3aNA",
  "b3cV1.1 b44V5.1 b45NA b47V1.1 b49NA b4bV1.1 b4eNA b55V13.0 b56V1.1 b58NA b5cV1.1 b5eNA b5fV1.1",
  "b62V5.1 b64NA b66V1.1 b71V4.0 b72V6.0 b78NA b82V1.1 b84NA b85V1.1 b8bNA b8eV1.1 b91NA b92V1.1",
  "b96NA b99V1.1 b9bNA b9cV1.1 b9dNA b9eV1.1 ba0NA ba3V1.1 ba5NA ba8V1.1 babNA baeV1.1 bb6V4.1",
  "bb7V1.1 bbaNA bbeV1.1 bc3NA bc6V1.1 bc9NA bcaV1.1 bceNA bd0V5.1 bd1NA bd7V1.1 bd8NA be6V4.1",
  "be7V1.1 bf3V4.0 bfbNA c00V7.0 c01V1.1 c04V11.0 c05V1.1 c0dNA c0eV1.1 c11NA c12V1.1 c29NA",
  "c2aV1.1 c34V7.0 c35V1.1 c3aNA c3cV14.0 c3dV5.1 c3eV1.1 c45NA c46V1.1 c49NA c4aV1.1 c4eNA",
  "c55V1.1 c57NA c58V5.1 c5aV8.0 c5bNA c5dV14.0 c5eNA c60V1.1 c62V5.1 c64NA c66V1.1 c70NA",
  "c77V12.0 c78V5.1 c80V9.0 c81V7.0 c82V1.1 c84V11.0 c85V1.1 c8dNA c8eV1.1 c91NA c92V1.1 ca9NA",
  "caaV1.1 cb4NA cb5V1.1 cbaNA cbcV4.0 cbeV1.1 cc5NA cc6V1.1 cc9NA ccaV1.1 cceNA cd5V1.1 cd7NA",
  "cddV14.0 cdeV1.1 cdfNA ce0V1.1 ce2V5.0 ce4NA ce6V1.1 cf0NA cf1V5.0 cf3V15.0 cf4NA d00V10.0",
  "d01V7.0 d02V1.1 d04V13.0 d05V1.1 d0dNA d0eV1.1 d11NA d12V1.1 d29V6.0 d2aV1.1 d3aV6.0 d3bV10.0",
  "d3dV5.1 d3eV1.1 d44V5.1 d45NA d46V1.1 d49NA d4aV1.1 d4eV6.0 d4fV9.0 d50NA d54V9.0 d57V1.1",
  "d58V9.0 d5fV8.0 d60V1.1 d62V5.1 d64NA d66V1.1 d70V5.1 d76V9.0 d79V5.1 d80NA d81V13.0 d82V3.0",
  "d84NA d85V3.0 d97NA d9aV3.0 db2NA db3V3.0 dbcNA dbdV3.0 dbeNA dc0V3.0 dc7NA dcaV3.0 dcbNA",
  "dcfV3.0 dd5NA dd6V3.0 dd7NA dd8V3.0 de0NA de6V7.0 df0NA df2V3.0 df5NA e01V1.1 e3bNA e3fV1.1",
  "e5cNA e81V1.1 e83NA e84V1.1 e85NA e86V12.0 e87V1.1 e89V12.0 e8aV1.1 e8bNA e8cV12.0 e8dV1.1",
  "e8eV12.0 e94V1.1 e98V12.0 e99V1.1 ea0V12.0 ea1V1.1 ea4NA ea5V1.1 ea6NA ea7V1.1 ea8V12.0",
  "eaaV1.1 eacV12.0 eadV1.1 ebaV12.0 ebbV1.1 ebeNA ec0V1.1 ec5NA ec6V1.1 ec7NA ec8V1.1 eceV15.0",
  "ecfNA ed0V1.1 edaNA edcV1.1 edeV6.1 ee0NA f00V2.0 f48NA f49V2.0 f6aV3.0 f6bV5.1 f6dNA f71V2.0",
  "f8cV6.0 f90V2.0 f96V3.0 f97V2.0 f98NA f99V2.0 faeV3.0 fb1V2.0 fb8V3.0 fb9V2.0 fbaV3.0 fbdNA",
  "fbeV3.0 fcdNA fceV5.1 fcfV3.0 fd0V4.1 fd2V5.1 fd5V5.2 fd9V6.0 fdbNA 1000V3.0 1022V5.1 1023V3.0",
  "1028V5.1 1029V3.0 102bV5.1 102cV3.0 1033V5.1 1036V3.0 103aV5.1 1040V3.0 105aV5.1 109aV5.2",
  "109eV5.1 10a0V1.1 10c6NA 10c7V6.1 10c8NA 10cdV6.1 10ceNA 10d0V1.1 10f7V3.2 10f9V4.1 10fbV1.1",
  "10fcV4.1 10fdV6.1 1100V1.1 115aV5.2 115fV1.1 11a3V5.2 11a8V1.1 11faV5.2 1200V3.0 1207V4.1",
  "1208V3.0 1247V4.1 1248V3.0 1249NA 124aV3.0 124eNA 1250V3.0 1257NA 1258V3.0 1259NA 125aV3.0",
  "125eNA 1260V3.0 1287V4.1 1288V3.0 1289NA 128aV3.0 128eNA 1290V3.0 12afV4.1 12b0V3.0 12b1NA",
  "12b2V3.0 12b6NA 12b8V3.0 12bfNA 12c0V3.0 12c1NA 12c2V3.0 12c6NA 12c8V3.0 12cfV4.1 12d0V3.0",
  "12d7NA 12d8V3.0 12efV4.1 12f0V3.0 130fV4.1 1310V3.0 1311NA 1312V3.0 1316NA 1318V3.0 131fV4.1",
  "1320V3.0 1347V4.1 1348V3.0 135bNA 135dV6.0 135fV4.1 1361V3.0 137dNA 1380V4.1 139aNA 13a0V3.0",
  "13f5V8.0 13f6NA 13f8V8.0 13feNA 1400V5.2 1401V3.0 1677V5.2 1680V3.0 169dNA 16a0V3.0 16f1V7.0",
  "16f9NA 1700V3.2 170dV14.0 170eV3.2 1715V14.0 1716NA 171fV14.0 1720V3.2 1737NA 1740V3.2 1754NA",
  "1760V3.2 176dNA 176eV3.2 1771NA 1772V3.2 1774NA 1780V3.0 17ddV4.0 17deNA 17e0V3.0 17eaNA",
  "17f0V4.0 17faNA 1800V3.0 180fV14.0 1810V3.0 181aNA 1820V3.0 1878V11.0 1879NA 1880V3.0 18aaV5.1",
  "18abNA 18b0V5.2 18f6NA 1900V4.0 191dV7.0 191fNA 1920V4.0 192cNA 1930V4.0 193cNA 1940V4.0",
  "1941NA 1944V4.0 196eNA 1970V4.0 1975NA 1980V4.1 19aaV5.2 19acNA 19b0V4.1 19caNA 19d0V4.1",
  "19daV5.2 19dbNA 19deV4.1 19e0V4.0 1a00V4.1 1a1cNA 1a1eV4.1 1a20V5.2 1a5fNA 1a60V5.2 1a7dNA",
  "1a7fV5.2 1a8aNA 1a90V5.2 1a9aNA 1aa0V5.2 1aaeNA 1ab0V7.0 1abfV13.0 1ac1V14.0 1acfNA 1b00V5.0",
  "1b4cV14.0 1b4dNA 1b4eV16.0 1b50V5.0 1b7dV14.0 1b7fV16.0 1b80V5.1 1babV6.1 1baeV5.1 1bbaV6.1",
  "1bc0V6.0 1bf4NA 1bfcV6.0 1c00V5.1 1c38NA 1c3bV5.1 1c4aNA 1c4dV5.1 1c80V9.0 1c89V16.0 1c8bNA",
  "1c90V11.0 1cbbNA 1cbdV11.0 1cc0V6.1 1cc8NA 1cd0V5.2 1cf3V6.1 1cf7V10.0 1cf8V7.0 1cfaV12.0",
  "1cfbNA 1d00V4.0 1d6cV4.1 1dc4V5.0 1dcbV5.1 1de7V7.0 1df6V10.0 1dfaV14.0 1dfbV9.0 1dfcV6.0",
  "1dfdV5.2 1dfeV5.0 1e00V1.1 1e9bV2.0 1e9cV5.1 1ea0V1.1 1efaV5.1 1f00V1.1 1f16NA 1f18V1.1 1f1eNA",
  "1f20V1.1 1f46NA 1f48V1.1 1f4eNA 1f50V1.1 1f58NA 1f59V1.1 1f5aNA 1f5bV1.1 1f5cNA 1f5dV1.1",
  "1f5eNA 1f5fV1.1 1f7eNA 1f80V1.1 1fb5NA 1fb6V1.1 1fc5NA 1fc6V1.1 1fd4NA 1fd6V1.1 1fdcNA",
  "1fddV1.1 1ff0NA 1ff2V1.1 1ff5NA 1ff6V1.1 1fffNA 2000V1.1 202fV3.0 2030V1.1 2047V3.2 2048V3.0",
  "204eV3.2 2053V4.0 2055V4.1 2057V3.2 2058V4.1 205fV3.2 2064V5.1 2065NA 2066V6.3 206aV1.1",
  "2071V3.2 2072NA 2074V1.1 208fNA 2090V4.1 2095V6.0 209dNA 20a0V1.1 20abV2.0 20acV2.1 20adV3.0",
  "20b0V3.2 20b2V4.1 20b6V5.2 20b9V6.0 20baV6.2 20bbV7.0 20beV8.0 20bfV10.0 20c0V14.0 20c1NA",
  "20d0V1.1 20e2V3.0 20e4V3.2 20ebV4.1 20ecV5.0 20f0V5.1 20f1NA 2100V1.1 2139V3.0 213bV4.0",
  "213cV4.1 213dV3.2 214cV4.1 214dV5.0 214fV5.1 2150V5.2 2153V1.1 2183V3.0 2184V5.0 2185V5.1",
  "2189V5.2 218aV8.0 218cNA 2190V1.1 21ebV3.0 21f4V3.2 2200V1.1 22f2V3.2 2300V1.1 2301V3.0",
  "2302V1.1 237bV3.0 237cV3.2 237dV3.0 239bV3.2 23cfV4.0 23d1V4.1 23dcV5.0 23e8V5.2 23e9V6.0",
  "23f4V7.0 23fbV9.0 23ffV10.0 2400V1.1 2425V3.0 2427V16.0 242aNA 2440V1.1 244bNA 2460V1.1",
  "24ebV3.2 24ffV4.0 2500V1.1 2596V3.2 25a0V1.1 25f0V3.0 25f8V3.2 2600V1.1 2614V4.0 2616V3.2",
  "2618V4.1 2619V3.0 261aV1.1 2670V3.0 2672V3.2 267eV4.1 2680V3.2 268aV4.0 2692V4.1 269dV5.1",
  "269eV5.2 26a0V4.0 26a2V4.1 26b2V5.0 26b3V5.1 26bdV5.2 26c0V5.1 26c4V5.2 26ceV6.0 26cfV5.2",
  "26e2V6.0 26e3V5.2 26e4V6.0 26e8V5.2 2700V7.0 2701V1.1 2705V6.0 2706V1.1 270aV6.0 270cV1.1",
  "2728V6.0 2729V1.1 274cV6.0 274dV1.1 274eV6.0 274fV1.1 2753V6.0 2756V1.1 2757V5.2 2758V1.1",
  "275fV6.0 2761V1.1 2768V3.2 2776V1.1 2795V6.0 2798V1.1 27b0V6.0 27b1V1.1 27bfV6.0 27c0V4.1",
  "27c7V5.0 27cbV6.1 27ccV5.1 27cdV6.1 27ceV6.0 27d0V3.2 27ecV5.1 27f0V3.2 2800V3.0 2900V3.2",
  "2b00V4.0 2b0eV4.1 2b14V5.0 2b1bV5.1 2b20V5.0 2b24V5.1 2b4dV7.0 2b50V5.1 2b55V5.2 2b5aV7.0",
  "2b74NA 2b76V7.0 2b96NA 2b97V13.0 2b98V7.0 2bbaV11.0 2bbdV7.0 2bc9V12.0 2bcaV7.0 2bd2V10.0",
  "2bd3V11.0 2becV8.0 2bf0V11.0 2bffV12.0 2c00V4.1 2c2fV14.0 2c30V4.1 2c5fV14.0 2c60V5.0 2c6dV5.1",
  "2c70V5.2 2c71V5.1 2c74V5.0 2c78V5.1 2c7eV5.2 2c80V4.1 2cebV5.2 2cf2V6.1 2cf4NA 2cf9V4.1 2d26NA",
  "2d27V6.1 2d28NA 2d2dV6.1 2d2eNA 2d30V4.1 2d66V6.1 2d68NA 2d6fV4.1 2d70V6.0 2d71NA 2d7fV6.0",
  "2d80V4.1 2d97NA 2da0V4.1 2da7NA 2da8V4.1 2dafNA 2db0V4.1 2db7NA 2db8V4.1 2dbfNA 2dc0V4.1",
  "2dc7NA 2dc8V4.1 2dcfNA 2dd0V4.1 2dd7NA 2dd8V4.1 2ddfNA 2de0V5.1 2e00V4.1 2e18V5.1 2e1cV4.1",
  "2e1eV5.1 2e31V5.2 2e32V6.1 2e3cV7.0 2e43V9.0 2e45V10.0 2e4aV11.0 2e4fV12.0 2e50V13.0 2e53V14.0",
  "2e5eNA 2e80V3.0 2e9aNA 2e9bV3.0 2ef4NA 2f00V3.0 2fd6NA 2ff0V3.0 2ffcV15.1 3000V1.1 3038V3.0",
  "303bV3.2 303eV3.0 303fV1.1 3040NA 3041V1.1 3095V3.2 3097NA 3099V1.1 309fV3.2 30a1V1.1 30ffV3.2",
  "3100NA 3105V1.1 312dV5.1 312eV10.0 312fV11.0 3130NA 3131V1.1 318fNA 3190V1.1 31a0V3.0 31b8V6.0",
  "31bbV13.0 31c0V4.1 31d0V5.1 31e4V16.0 31e6NA 31efV15.1 31f0V3.2 3200V1.1 321dV4.0 321fNA",
  "3220V1.1 3244V5.2 3250V4.0 3251V3.2 3260V1.1 327cV4.0 327eV4.1 327fV1.1 32b1V3.2 32c0V1.1",
  "32ccV4.0 32d0V1.1 32ffV12.1 3300V1.1 3377V4.0 337bV1.1 33deV4.0 33e0V1.1 33ffV4.0 3400V3.0",
  "4db6V13.0 4dc0V4.0 4e00V1.1 9fa6V4.1 9fbcV5.1 9fc4V5.2 9fccV6.1 9fcdV8.0 9fd6V10.0 9febV11.0",
  "9ff0V13.0 9ffdV14.0 a000V3.0 a48dNA a490V3.0 a4a2V3.2 a4a4V3.0 a4b4V3.2 a4b5V3.0 a4c1V3.2",
  "a4c2V3.0 a4c5V3.2 a4c6V3.0 a4c7NA a4d0V5.2 a500V5.1 a62cNA a640V5.1 a660V6.0 a662V5.1 a674V6.1",
  "a67cV5.1 a698V7.0 a69eV8.0 a69fV6.1 a6a0V5.2 a6f8NA a700V4.1 a717V5.0 a71bV5.1 a720V5.0",
  "a722V5.1 a78dV6.0 a78fV8.0 a790V6.0 a792V6.1 a794V7.0 a7a0V6.0 a7aaV6.1 a7abV7.0 a7aeV9.0",
  "a7afV11.0 a7b0V7.0 a7b2V8.0 a7b8V11.0 a7baV12.0 a7c0V14.0 a7c2V12.0 a7c7V13.0 a7cbV16.0 a7ceNA",
  "a7d0V14.0 a7d2NA a7d3V14.0 a7d4NA a7d5V14.0 a7daV16.0 a7ddNA a7f2V14.0 a7f5V13.0 a7f7V7.0",
  "a7f8V6.1 a7faV6.0 a7fbV5.1 a800V4.1 a82cV13.0 a82dNA a830V5.2 a83aNA a840V5.0 a878NA a880V5.1",
  "a8c5V9.0 a8c6NA a8ceV5.1 a8daNA a8e0V5.2 a8fcV8.0 a8feV11.0 a900V5.1 a954NA a95fV5.1 a960V5.2",
  "a97dNA a980V5.2 a9ceNA a9cfV5.2 a9daNA a9deV5.2 a9e0V7.0 a9ffNA aa00V5.1 aa37NA aa40V5.1",
  "aa4eNA aa50V5.1 aa5aNA aa5cV5.1 aa60V5.2 aa7cV7.0 aa80V5.2 aac3NA aadbV5.2 aae0V6.1 aaf7NA",
  "ab01V6.0 ab07NA ab09V6.0 ab0fNA ab11V6.0 ab17NA ab20V6.0 ab27NA ab28V6.0 ab2fNA ab30V7.0",
  "ab60V8.0 ab64V7.0 ab66V12.0 ab68V13.0 ab6cNA ab70V8.0 abc0V5.2 abeeNA abf0V5.2 abfaNA ac00V2.0",
  "d7a4NA d7b0V5.2 d7c7NA d7cbV5.2 d7fcNA d800V2.0 e000V1.1 fa2eV6.1 fa30V3.2 fa6bV5.2 fa6eNA",
  "fa70V4.1 fadaNA fb00V1.1 fb07NA fb13V1.1 fb18NA fb1dV3.0 fb1eV1.1 fb37NA fb38V1.1 fb3dNA",
  "fb3eV1.1 fb3fNA fb40V1.1 fb42NA fb43V1.1 fb45NA fb46V1.1 fbb2V6.0 fbc2V14.0 fbc3NA fbd3V1.1",
  "fd40V14.0 fd50V1.1 fd90NA fd92V1.1 fdc8NA fdcfV14.0 fdd0V3.1 fdf0V1.1 fdfcV3.2 fdfdV4.0",
  "fdfeV14.0 fe00V3.2 fe10V4.1 fe1aNA fe20V1.1 fe24V5.1 fe27V7.0 fe2eV8.0 fe30V1.1 fe45V3.2",
  "fe47V4.0 fe49V1.1 fe53NA fe54V1.1 fe67NA fe68V1.1 fe6cNA fe70V1.1 fe73V3.2 fe74V1.1 fe75NA",
  "fe76V1.1 fefdNA feffV1.1 ff00NA ff01V1.1 ff5fV3.2 ff61V1.1 ffbfNA ffc2V1.1 ffc8NA ffcaV1.1",
  "ffd0NA ffd2V1.1 ffd8NA ffdaV1.1 ffddNA ffe0V1.1 ffe7NA ffe8V1.1 ffefNA fff9V3.0 fffcV2.1",
  "fffdV1.1 10000V4.0 1000cNA 1000dV4.0 10027NA 10028V4.0 1003bNA 1003cV4.0 1003eNA 1003fV4.0",
  "1004eNA 10050V4.0 1005eNA 10080V4.0 100fbNA 10100V4.0 10103NA 10107V4.0 10134NA 10137V4.0",
  "10140V4.1 1018bV7.0 1018dV9.0 1018fNA 10190V5.1 1019cV13.0 1019dNA 101a0V7.0 101a1NA 101d0V5.1",
  "101feNA 10280V5.1 1029dNA 102a0V5.1 102d1NA 102e0V7.0 102fcNA 10300V3.1 1031fV7.0 10320V3.1",
  "10324NA 1032dV10.0 10330V3.1 1034bNA 10350V7.0 1037bNA 10380V4.0 1039eNA 1039fV4.0 103a0V4.1",
  "103c4NA 103c8V4.1 103d6NA 10400V3.1 10426V4.0 10428V3.1 1044eV4.0 1049eNA 104a0V4.0 104aaNA",
  "104b0V9.0 104d4NA 104d8V9.0 104fcNA 10500V7.0 10528NA 10530V7.0 10564NA 1056fV7.0 10570V14.0",
  "1057bNA 1057cV14.0 1058bNA 1058cV14.0 10593NA 10594V14.0 10596NA 10597V14.0 105a2NA 105a3V14.0",
  "105b2NA 105b3V14.0 105baNA 105bbV14.0 105bdNA 105c0V16.0 105f4NA 10600V7.0 10737NA 10740V7.0",
  "10756NA 10760V7.0 10768NA 10780V14.0 10786NA 10787V14.0 107b1NA 107b2V14.0 107bbNA 10800V4.0",
  "10806NA 10808V4.0 10809NA 1080aV4.0 10836NA 10837V4.0 10839NA 1083cV4.0 1083dNA 1083fV4.0",
  "10840V5.2 10856NA 10857V5.2 10860V7.0 1089fNA 108a7V7.0 108b0NA 108e0V8.0 108f3NA 108f4V8.0",
  "108f6NA 108fbV8.0 10900V5.0 1091aV5.2 1091cNA 1091fV5.0 10920V5.1 1093aNA 1093fV5.1 10940NA",
  "10980V6.1 109b8NA 109bcV8.0 109beV6.1 109c0V8.0 109d0NA 109d2V8.0 10a00V4.1 10a04NA 10a05V4.1",
  "10a07NA 10a0cV4.1 10a14NA 10a15V4.1 10a18NA 10a19V4.1 10a34V11.0 10a36NA 10a38V4.1 10a3bNA",
  "10a3fV4.1 10a48V11.0 10a49NA 10a50V4.1 10a59NA 10a60V5.2 10a80V7.0 10aa0NA 10ac0V7.0 10ae7NA",
  "10aebV7.0 10af7NA 10b00V5.2 10b36NA 10b39V5.2 10b56NA 10b58V5.2 10b73NA 10b78V5.2 10b80V7.0",
  "10b92NA 10b99V7.0 10b9dNA 10ba9V7.0 10bb0NA 10c00V5.2 10c49NA 10c80V8.0 10cb3NA 10cc0V8.0",
  "10cf3NA 10cfaV8.0 10d00V11.0 10d28NA 10d30V11.0 10d3aNA 10d40V16.0 10d66NA 10d69V16.0 10d86NA",
  "10d8eV16.0 10d90NA 10e60V5.2 10e7fNA 10e80V13.0 10eaaNA 10eabV13.0 10eaeNA 10eb0V13.0 10eb2NA",
  "10ec2V16.0 10ec5NA 10efcV16.0 10efdV15.0 10f00V11.0 10f28NA 10f30V11.0 10f5aNA 10f70V14.0",
  "10f8aNA 10fb0V13.0 10fccNA 10fe0V12.0 10ff7NA 11000V6.0 1104eNA 11052V6.0 11070V14.0 11076NA",
  "1107fV7.0 11080V5.2 110c2V14.0 110c3NA 110cdV11.0 110ceNA 110d0V6.1 110e9NA 110f0V6.1 110faNA",
  "11100V6.1 11135NA 11136V6.1 11144V11.0 11147V13.0 11148NA 11150V7.0 11177NA 11180V6.1",
  "111c9V8.0 111cdV7.0 111ceV13.0 111d0V6.1 111daV7.0 111dbV8.0 111e0NA 111e1V7.0 111f5NA",
  "11200V7.0 11212NA 11213V7.0 1123eV9.0 1123fV15.0 11242NA 11280V8.0 11287NA 11288V8.0 11289NA",
  "1128aV8.0 1128eNA 1128fV8.0 1129eNA 1129fV8.0 112aaNA 112b0V7.0 112ebNA 112f0V7.0 112faNA",
  "11300V8.0 11301V7.0 11304NA 11305V7.0 1130dNA 1130fV7.0 11311NA 11313V7.0 11329NA 1132aV7.0",
  "11331NA 11332V7.0 11334NA 11335V7.0 1133aNA 1133bV11.0 1133cV7.0 11345NA 11347V7.0 11349NA",
  "1134bV7.0 1134eNA 11350V8.0 11351NA 11357V7.0 11358NA 1135dV7.0 11364NA 11366V7.0 1136dNA",
  "11370V7.0 11375NA 11380V16.0 1138aNA 1138bV16.0 1138cNA 1138eV16.0 1138fNA 11390V16.0 113b6NA",
  "113b7V16.0 113c1NA 113c2V16.0 113c3NA 113c5V16.0 113c6NA 113c7V16.0 113cbNA 113ccV16.0 113d6NA",
  "113d7V16.0 113d9NA 113e1V16.0 113e3NA 11400V9.0 1145aV13.0 1145bV9.0 1145cNA 1145dV9.0",
  "1145eV11.0 1145fV12.0 11460V13.0 11462NA 11480V7.0 114c8NA 114d0V7.0 114daNA 11580V7.0 115b6NA",
  "115b8V7.0 115caV8.0 115deNA 11600V7.0 11645NA 11650V7.0 1165aNA 11660V9.0 1166dNA 11680V6.1",
  "116b8V12.0 116b9V14.0 116baNA 116c0V6.1 116caNA 116d0V16.0 116e4NA 11700V8.0 1171aV11.0",
  "1171bNA 1171dV8.0 1172cNA 11730V8.0 11740V14.0 11747NA 11800V11.0 1183cNA 118a0V7.0 118f3NA",
  "118ffV7.0 11900V13.0 11907NA 11909V13.0 1190aNA 1190cV13.0 11914NA 11915V13.0 11917NA",
  "11918V13.0 11936NA 11937V13.0 11939NA 1193bV13.0 11947NA 11950V13.0 1195aNA 119a0V12.0 119a8NA",
  "119aaV12.0 119d8NA 119daV12.0 119e5NA 11a00V10.0 11a48NA 11a50V10.0 11a84V12.0 11a86V10.0",
  "11a9dV11.0 11a9eV10.0 11aa3NA 11ab0V14.0 11ac0V7.0 11af9NA 11b00V15.0 11b0aNA 11bc0V16.0",
  "11be2NA 11bf0V16.0 11bfaNA 11c00V9.0 11c09NA 11c0aV9.0 11c37NA 11c38V9.0 11c46NA 11c50V9.0",
  "11c6dNA 11c70V9.0 11c90NA 11c92V9.0 11ca8NA 11ca9V9.0 11cb7NA 11d00V10.0 11d07NA 11d08V10.0",
  "11d0aNA 11d0bV10.0 11d37NA 11d3aV10.0 11d3bNA 11d3cV10.0 11d3eNA 11d3fV10.0 11d48NA 11d50V10.0",
  "11d5aNA 11d60V11.0 11d66NA 11d67V11.0 11d69NA 11d6aV11.0 11d8fNA 11d90V11.0 11d92NA 11d93V11.0",
  "11d99NA 11da0V11.0 11daaNA 11ee0V11.0 11ef9NA 11f00V15.0 11f11NA 11f12V15.0 11f3bNA 11f3eV15.0",
  "11f5aV16.0 11f5bNA 11fb0V13.0 11fb1NA 11fc0V12.0 11ff2NA 11fffV12.0 12000V5.0 1236fV7.0",
  "12399V8.0 1239aNA 12400V5.0 12463V7.0 1246fNA 12470V5.0 12474V7.0 12475NA 12480V8.0 12544NA",
  "12f90V14.0 12ff3NA 13000V5.2 1342fV15.0 13430V12.0 13439V15.0 13456NA 13460V16.0 143fbNA",
  "14400V8.0 14647NA 16100V16.0 1613aNA 16800V6.0 16a39NA 16a40V7.0 16a5fNA 16a60V7.0 16a6aNA",
  "16a6eV7.0 16a70V14.0 16abfNA 16ac0V14.0 16acaNA 16ad0V7.0 16aeeNA 16af0V7.0 16af6NA 16b00V7.0",
  "16b46NA 16b50V7.0 16b5aNA 16b5bV7.0 16b62NA 16b63V7.0 16b78NA 16b7dV7.0 16b90NA 16d40V16.0",
  "16d7aNA 16e40V11.0 16e9bNA 16f00V6.1 16f45V12.0 16f4bNA 16f4fV12.0 16f50V6.1 16f7fV12.0",
  "16f88NA 16f8fV6.1 16fa0NA 16fe0V9.0 16fe1V10.0 16fe2V12.0 16fe4V13.0 16fe5NA 16ff0V13.0",
  "16ff2NA 17000V9.0 187edV11.0 187f2V12.0 187f8NA 18800V9.0 18af3V13.0 18cd6NA 18cffV16.0",
  "18d00V13.0 18d09NA 1aff0V14.0 1aff4NA 1aff5V14.0 1affcNA 1affdV14.0 1afffNA 1b000V6.0",
  "1b002V10.0 1b11fV14.0 1b123NA 1b132V15.0 1b133NA 1b150V12.0 1b153NA 1b155V15.0 1b156NA",
  "1b164V12.0 1b168NA 1b170V10.0 1b2fcNA 1bc00V7.0 1bc6bNA 1bc70V7.0 1bc7dNA 1bc80V7.0 1bc89NA",
  "1bc90V7.0 1bc9aNA 1bc9cV7.0 1bca4NA 1cc00V16.0 1ccfaNA 1cd00V16.0 1ceb4NA 1cf00V14.0 1cf2eNA",
  "1cf30V14.0 1cf47NA 1cf50V14.0 1cfc4NA 1d000V3.1 1d0f6NA 1d100V3.1 1d127NA 1d129V5.1 1d12aV3.1",
  "1d1deV8.0 1d1e9V14.0 1d1ebNA 1d200V4.1 1d246NA 1d2c0V15.0 1d2d4NA 1d2e0V11.0 1d2f4NA 1d300V4.0",
  "1d357NA 1d360V5.0 1d372V11.0 1d379NA 1d400V3.1 1d455NA 1d456V3.1 1d49dNA 1d49eV3.1 1d4a0NA",
  "1d4a2V3.1 1d4a3NA 1d4a5V3.1 1d4a7NA 1d4a9V3.1 1d4adNA 1d4aeV3.1 1d4baNA 1d4bbV3.1 1d4bcNA",
  "1d4bdV3.1 1d4c1V4.0 1d4c2V3.1 1d4c4NA 1d4c5V3.1 1d506NA 1d507V3.1 1d50bNA 1d50dV3.1 1d515NA",
  "1d516V3.1 1d51dNA 1d51eV3.1 1d53aNA 1d53bV3.1 1d53fNA 1d540V3.1 1d545NA 1d546V3.1 1d547NA",
  "1d54aV3.1 1d551NA 1d552V3.1 1d6a4V4.1 1d6a6NA 1d6a8V3.1 1d7caV5.0 1d7ccNA 1d7ceV3.1 1d800V8.0",
  "1da8cNA 1da9bV8.0 1daa0NA 1daa1V8.0 1dab0NA 1df00V14.0 1df1fNA 1df25V15.0 1df2bNA 1e000V9.0",
  "1e007NA 1e008V9.0 1e019NA 1e01bV9.0 1e022NA 1e023V9.0 1e025NA 1e026V9.0 1e02bNA 1e030V15.0",
  "1e06eNA 1e08fV15.0 1e090NA 1e100V12.0 1e12dNA 1e130V12.0 1e13eNA 1e140V12.0 1e14aNA 1e14eV12.0",
  "1e150NA 1e290V14.0 1e2afNA 1e2c0V12.0 1e2faNA 1e2ffV12.0 1e300NA 1e4d0V15.0 1e4faNA 1e5d0V16.0",
  "1e5fbNA 1e5ffV16.0 1e600NA 1e7e0V14.0 1e7e7NA 1e7e8V14.0 1e7ecNA 1e7edV14.0 1e7efNA 1e7f0V14.0",
  "1e7ffNA 1e800V7.0 1e8c5NA 1e8c7V7.0 1e8d7NA 1e900V9.0 1e94bV12.0 1e94cNA 1e950V9.0 1e95aNA",
  "1e95eV9.0 1e960NA 1ec71V11.0 1ecb5NA 1ed01V12.0 1ed3eNA 1ee00V6.1 1ee04NA 1ee05V6.1 1ee20NA",
  "1ee21V6.1 1ee23NA 1ee24V6.1 1ee25NA 1ee27V6.1 1ee28NA 1ee29V6.1 1ee33NA 1ee34V6.1 1ee38NA",
  "1ee39V6.1 1ee3aNA 1ee3bV6.1 1ee3cNA 1ee42V6.1 1ee43NA 1ee47V6.1 1ee48NA 1ee49V6.1 1ee4aNA",
  "1ee4bV6.1 1ee4cNA 1ee4dV6.1 1ee50NA 1ee51V6.1 1ee53NA 1ee54V6.1 1ee55NA 1ee57V6.1 1ee58NA",
  "1ee59V6.1 1ee5aNA 1ee5bV6.1 1ee5cNA 1ee5dV6.1 1ee5eNA 1ee5fV6.1 1ee60NA 1ee61V6.1 1ee63NA",
  "1ee64V6.1 1ee65NA 1ee67V6.1 1ee6bNA 1ee6cV6.1 1ee73NA 1ee74V6.1 1ee78NA 1ee79V6.1 1ee7dNA",
  "1ee7eV6.1 1ee7fNA 1ee80V6.1 1ee8aNA 1ee8bV6.1 1ee9cNA 1eea1V6.1 1eea4NA 1eea5V6.1 1eeaaNA",
  "1eeabV6.1 1eebcNA 1eef0V6.1 1eef2NA 1f000V5.1 1f02cNA 1f030V5.1 1f094NA 1f0a0V6.0 1f0afNA",
  "1f0b1V6.0 1f0bfV7.0 1f0c0NA 1f0c1V6.0 1f0d0NA 1f0d1V6.0 1f0e0V7.0 1f0f6NA 1f100V5.2 1f10bV7.0",
  "1f10dV13.0 1f110V5.2 1f12fV11.0 1f130V6.0 1f131V5.2 1f132V6.0 1f13dV5.2 1f13eV6.0 1f13fV5.2",
  "1f140V6.0 1f142V5.2 1f143V6.0 1f146V5.2 1f147V6.0 1f14aV5.2 1f14fV6.0 1f157V5.2 1f158V6.0",
  "1f15fV5.2 1f160V6.0 1f16aV6.1 1f16cV12.0 1f16dV13.0 1f170V6.0 1f179V5.2 1f17aV6.0 1f17bV5.2",
  "1f17dV6.0 1f17fV5.2 1f180V6.0 1f18aV5.2 1f18eV6.0 1f190V5.2 1f191V6.0 1f19bV9.0 1f1adV13.0",
  "1f1aeNA 1f1e6V6.0 1f200V5.2 1f201V6.0 1f203NA 1f210V5.2 1f232V6.0 1f23bV9.0 1f23cNA 1f240V5.2",
  "1f249NA 1f250V6.0 1f252NA 1f260V10.0 1f266NA 1f300V6.0 1f321V7.0 1f32dV8.0 1f330V6.0 1f336V7.0",
  "1f337V6.0 1f37dV7.0 1f37eV8.0 1f380V6.0 1f394V7.0 1f3a0V6.0 1f3c5V7.0 1f3c6V6.0 1f3cbV7.0",
  "1f3cfV8.0 1f3d4V7.0 1f3e0V6.0 1f3f1V7.0 1f3f8V8.0 1f400V6.0 1f43fV7.0 1f440V6.0 1f441V7.0",
  "1f442V6.0 1f4f8V7.0 1f4f9V6.0 1f4fdV7.0 1f4ffV8.0 1f500V6.0 1f53eV7.0 1f540V6.1 1f544V7.0",
  "1f54bV8.0 1f550V6.0 1f568V7.0 1f57aV9.0 1f57bV7.0 1f5a4V9.0 1f5a5V7.0 1f5fbV6.0 1f600V6.1",
  "1f601V6.0 1f611V6.1 1f612V6.0 1f615V6.1 1f616V6.0 1f617V6.1 1f618V6.0 1f619V6.1 1f61aV6.0",
  "1f61bV6.1 1f61cV6.0 1f61fV6.1 1f620V6.0 1f626V6.1 1f628V6.0 1f62cV6.1 1f62dV6.0 1f62eV6.1",
  "1f630V6.0 1f634V6.1 1f635V6.0 1f641V7.0 1f643V8.0 1f645V6.0 1f650V7.0 1f680V6.0 1f6c6V7.0",
  "1f6d0V8.0 1f6d1V9.0 1f6d3V10.0 1f6d5V12.0 1f6d6V13.0 1f6d8NA 1f6dcV15.0 1f6ddV14.0 1f6e0V7.0",
  "1f6edNA 1f6f0V7.0 1f6f4V9.0 1f6f7V10.0 1f6f9V11.0 1f6faV12.0 1f6fbV13.0 1f6fdNA 1f700V6.0",
  "1f774V15.0 1f777NA 1f77bV15.0 1f780V7.0 1f7d5V11.0 1f7d9V15.0 1f7daNA 1f7e0V12.0 1f7ecNA",
  "1f7f0V14.0 1f7f1NA 1f800V7.0 1f80cNA 1f810V7.0 1f848NA 1f850V7.0 1f85aNA 1f860V7.0 1f888NA",
  "1f890V7.0 1f8aeNA 1f8b0V13.0 1f8b2V16.0 1f8bcNA 1f8c0V16.0 1f8c2NA 1f900V10.0 1f90cV13.0",
  "1f90dV12.0 1f910V8.0 1f919V9.0 1f91fV10.0 1f920V9.0 1f928V10.0 1f930V9.0 1f931V10.0 1f933V9.0",
  "1f93fV12.0 1f940V9.0 1f94cV10.0 1f94dV11.0 1f950V9.0 1f95fV10.0 1f96cV11.0 1f971V12.0",
  "1f972V13.0 1f973V11.0 1f977V13.0 1f979V14.0 1f97aV11.0 1f97bV12.0 1f97cV11.0 1f980V8.0",
  "1f985V9.0 1f992V10.0 1f998V11.0 1f9a3V13.0 1f9a5V12.0 1f9abV13.0 1f9aeV12.0 1f9b0V11.0",
  "1f9baV12.0 1f9c0V8.0 1f9c1V11.0 1f9c3V12.0 1f9cbV13.0 1f9ccV14.0 1f9cdV12.0 1f9d0V10.0",
  "1f9e7V11.0 1fa00V12.0 1fa54NA 1fa60V11.0 1fa6eNA 1fa70V12.0 1fa74V13.0 1fa75V15.0 1fa78V12.0",
  "1fa7bV14.0 1fa7dNA 1fa80V12.0 1fa83V13.0 1fa87V15.0 1fa89V16.0 1fa8aNA 1fa8fV16.0 1fa90V12.0",
  "1fa96V13.0 1faa9V14.0 1faadV15.0 1fab0V13.0 1fab7V14.0 1fabbV15.0 1fabeV16.0 1fabfV15.0",
  "1fac0V13.0 1fac3V14.0 1fac6V16.0 1fac7NA 1faceV15.0 1fad0V13.0 1fad7V14.0 1fadaV15.0",
  "1fadcV16.0 1faddNA 1fadfV16.0 1fae0V14.0 1fae8V15.0 1fae9V16.0 1faeaNA 1faf0V14.0 1faf7V15.0",
  "1faf9NA 1fb00V13.0 1fb93NA 1fb94V13.0 1fbcbV16.0 1fbf0V13.0 1fbfaNA 1fffeV2.0 20000V3.1",
  "2a6d7V13.0 2a6deV14.0 2a6e0NA 2a700V5.2 2b735V14.0 2b739V15.0 2b73aNA 2b740V6.0 2b81eNA",
  "2b820V8.0 2cea2NA 2ceb0V10.0 2ebe1NA 2ebf0V15.1 2ee5eNA 2f800V3.1 2fa1eNA 2fffeV2.0 30000V13.0",
  "3134bNA 31350V15.0 323b0NA 3fffeV2.0 40000NA 4fffeV2.0 50000NA 5fffeV2.0 60000NA 6fffeV2.0",
  "70000NA 7fffeV2.0 80000NA 8fffeV2.0 90000NA 9fffeV2.0 a0000NA afffeV2.0 b0000NA bfffeV2.0",
  "c0000NA cfffeV2.0 d0000NA dfffeV2.0 e0000NA e0001V3.1 e0002NA e0020V3.1 e0080NA e0100V4.0",
  "e01f0NA efffeV2.0"]

end CommonExpr.Text
