/-!
Characters of a domain name that stand for others, one by one: letters and digits in another form,
ligatures, and characters that are the same as a sequence of others.
-/

set_option autoImplicit false
set_option relaxedAutoImplicit false

namespace RollupLedger.Url.Domain

/-- First and last code point of each group, in ascending order, and a word for each code point from
the first to the last. A word has the code points that are stood for, joined by a plus sign; a
hyphen is the word of a code point that has none in this table. -/
def spellings : List (Nat × Nat × String) :=
  [(0xa0, 0xa0, "20"),
   (0xa8, 0xaa, "20+308 - 61"),
   (0xaf, 0xbe, "20+304 - - 32 33 20+301 3bc - - 20+327 31 6f - 31+2044+34 31+2044+32 33+2044+34"),
   (0x130, 0x140, "69+307 - 69+6a 69+6a 135 - 137 - - 13a - 13c - 13e - 6c+b7 6c+b7"),
   (0x149, 0x149, "2bc+6e"),
   (0x178, 0x18f, "ff 17a - 17c - 17e - 73 - 253 183 - 185 - 254 188 - 256 257 18c - - 1dd 259"),
   (0x190, 0x198, "25b 192 - 260 263 - 269 268 199"),
   (0x19c, 0x1b3, "26f 272 - 275 1a1 - 1a3 - 1a5 - 280 1a8 - 283 - - 1ad - 288 1b0 - 28a 28b 1b4"),
   (0x1b5, 0x1b8, "1b6 - 292 1b9"),
   (0x1bc, 0x1bc, "1bd"),
   (0x1c4, 0x1cc, "64+17e 64+17e 64+17e 6c+6a 6c+6a 6c+6a 6e+6a 6e+6a 6e+6a"),
   (0x1f1, 0x1f7, "64+7a 64+7a 64+7a 1f5 - 195 1bf"),
   (0x220, 0x220, "19e"),
   (0x23a, 0x245, "2c65 23c - 19a 2c66 - - 242 - 180 289 28c"),
   (0x2b0, 0x2b8, "68 266 6a 72 279 27b 281 77 79"),
   (0x2d8, 0x2e4, "20+306 20+307 20+30a 20+328 20+303 20+30b - - 263 6c 73 78 295"),
   (0x340, 0x345, "300 301 - 313 308+301 3b9"),
   (0x370, 0x376, "371 - 373 - 2b9 - 377"),
   (0x37a, 0x37a, "20+3b9"),
   (0x37e, 0x37f, "3b 3f3"),
   (0x384, 0x38f, "20+301 20+308+301 3ac b7 3ad 3ae 3af - 3cc - 3cd 3ce"),
   (0x3cf, 0x3d6, "3d7 3b2 3b8 3c5 3cd 3cb 3c6 3c0"),
   (0x3f0, 0x3ff, "3ba 3c1 3c3 - 3b8 3b5 - 3f8 - 3c3 3fb - - 37b 37c 37d"),
   (0x4c0, 0x4c0, "4cf"),
   (0x587, 0x587, "565+582"),
   (0x675, 0x678, "627+674 648+674 6c7+674 64a+674"),
   (0x958, 0x95f, "915+93c 916+93c 917+93c 91c+93c 921+93c 922+93c 92b+93c 92f+93c"),
   (0x9dc, 0x9df, "9a1+9bc 9a2+9bc - 9af+9bc"),
   (0xa33, 0xa36, "a32+a3c - - a38+a3c"),
   (0xa59, 0xa5e, "a16+a3c a17+a3c a1c+a3c - - a2b+a3c"),
   (0xb5c, 0xb5d, "b21+b3c b22+b3c"),
   (0xe33, 0xe33, "e4d+e32"),
   (0xeb3, 0xeb3, "ecd+eb2"),
   (0xedc, 0xedd, "eab+e99 eab+ea1"),
   (0xf0c, 0xf0c, "f0b"),
   (0xf43, 0xf43, "f42+fb7"),
   (0xf4d, 0xf4d, "f4c+fb7"),
   (0xf52, 0xf52, "f51+fb7"),
   (0xf57, 0xf57, "f56+fb7"),
   (0xf5c, 0xf5c, "f5b+fb7"),
   (0xf69, 0xf69, "f40+fb5"),
   (0xf73, 0xf79, "f71+f72 - f71+f74 fb2+f80 fb2+f71+f80 fb3+f80 fb3+f71+f80"),
   (0xf81, 0xf81, "f71+f80"),
   (0xf93, 0xf93, "f92+fb7"),
   (0xf9d, 0xf9d, "f9c+fb7"),
   (0xfa2, 0xfa2, "fa1+fb7"),
   (0xfa7, 0xfa7, "fa6+fb7"),
   (0xfac, 0xfac, "fab+fb7"),
   (0xfb9, 0xfb9, "f90+fb5"),
   (0x10c7, 0x10c7, "2d27"),
   (0x10cd, 0x10cd, "2d2d"),
   (0x10fc, 0x10fc, "10dc"),
   (0x1c80, 0x1c89, "432 434 43e 441 442 442 44a 463 a64b 1c8a"),
   (0x1cbd, 0x1cbf, "10fd 10fe 10ff"),
   (0x1d2c, 0x1d32, "61 e6 62 - 64 65 1dd"),
   (0x1d3c, 0x1d52, "6f 223 70 72 74 75 77 61 250 251 1d02 62 64 65 259 25b 25c 67 - 6b 6d 14b 6f"),
   (0x1d53, 0x1d66, "254 1d16 1d17 70 74 75 1d1d 26f 76 1d25 3b2 3b3 3b4 3c6 3c7 69 72 75 76 3b2"),
   (0x1d67, 0x1d6a, "3b3 3c1 3c6 3c7"),
   (0x1d78, 0x1d78, "43d"),
   (0x1d9b, 0x1dad, "252 63 255 f0 25c 66 25f 261 265 268 269 26a 1d7b 29d 26d 1d85 29f 271 270"),
   (0x1dae, 0x1dbf, "272 273 274 275 278 282 283 1ab 289 28a 1d1c 28b 28c 7a 290 291 292 3b8"),
   (0x1e9a, 0x1e9e, "61+2be 1e61 - - df"),
   (0x1f59, 0x1f5f, "1f51 - 1f53 - 1f55 - 1f57"),
   (0x1f71, 0x1f82, "3ac - 3ad - 3ae - 3af - 3cc - 3cd - 3ce - - 1f00+3b9 1f01+3b9 1f02+3b9"),
   (0x1f83, 0x1f8a, "1f03+3b9 1f04+3b9 1f05+3b9 1f06+3b9 1f07+3b9 1f00+3b9 1f01+3b9 1f02+3b9"),
   (0x1f8b, 0x1f92, "1f03+3b9 1f04+3b9 1f05+3b9 1f06+3b9 1f07+3b9 1f20+3b9 1f21+3b9 1f22+3b9"),
   (0x1f93, 0x1f9a, "1f23+3b9 1f24+3b9 1f25+3b9 1f26+3b9 1f27+3b9 1f20+3b9 1f21+3b9 1f22+3b9"),
   (0x1f9b, 0x1fa2, "1f23+3b9 1f24+3b9 1f25+3b9 1f26+3b9 1f27+3b9 1f60+3b9 1f61+3b9 1f62+3b9"),
   (0x1fa3, 0x1faa, "1f63+3b9 1f64+3b9 1f65+3b9 1f66+3b9 1f67+3b9 1f60+3b9 1f61+3b9 1f62+3b9"),
   (0x1fab, 0x1fb4, "1f63+3b9 1f64+3b9 1f65+3b9 1f66+3b9 1f67+3b9 - - 1f70+3b9 3b1+3b9 3ac+3b9"),
   (0x1fb7, 0x1fc1, "1fb6+3b9 1fb0 1fb1 1f70 3ac 3b1+3b9 20+313 3b9 20+313 20+342 20+308+342"),
   (0x1fc2, 0x1fcd, "1f74+3b9 3b7+3b9 3ae+3b9 - - 1fc6+3b9 1f72 3ad 1f74 3ae 3b7+3b9 20+313+300"),
   (0x1fce, 0x1fcf, "20+313+301 20+313+342"),
   (0x1fd3, 0x1fd3, "390"),
   (0x1fd8, 0x1fdf, "1fd0 1fd1 1f76 3af - 20+314+300 20+314+301 20+314+342"),
   (0x1fe3, 0x1fe3, "3b0"),
   (0x1fe8, 0x1ff3, "1fe0 1fe1 1f7a 3cd 1fe5 20+308+300 20+308+301 60 - - 1f7c+3b9 3c9+3b9"),
   (0x1ff4, 0x2003, "3ce+3b9 - - 1ff6+3b9 1f78 3cc 1f7c 3ce 3c9+3b9 20+301 20+314 - 20 20 20 20"),
   (0x2004, 0x200a, "20 20 20 20 20 20 20"),
   (0x2011, 0x2011, "2010"),
   (0x2017, 0x2017, "20+333"),
   (0x202f, 0x202f, "20"),
   (0x2033, 0x2037, "2032+2032 2032+2032+2032 - 2035+2035 2035+2035+2035"),
   (0x203c, 0x203e, "21+21 - 20+305"),
   (0x2047, 0x2049, "3f+3f 3f+21 21+3f"),
   (0x2057, 0x2057, "2032+2032+2032+2032"),
   (0x205f, 0x205f, "20"),
   (0x2070, 0x2071, "30 69"),
   (0x207a, 0x207f, "2b 2212 3d 28 29 6e"),
   (0x208a, 0x209c, "2b 2212 3d 28 29 - 61 65 6f 78 259 68 6b 6c 6d 6e 70 73 74"),
   (0x20a8, 0x20a8, "72+73"),
   (0x2100, 0x210e, "61+2f+63 61+2f+73 63 b0+63 - 63+2f+6f 63+2f+75 25b - b0+66 67 68 68 68 68"),
   (0x210f, 0x2124, "127 69 69 6c 6c - 6e 6e+6f - - 70 71 72 72 72 - - 73+6d 74+65+6c 74+6d - 7a"),
   (0x2126, 0x213b, "3c9 - 7a - 6b e5 62 63 - 65 65 66 214e 6d 6f 5d0 5d1 5d2 5d3 69 - 66+61+78"),
   (0x213c, 0x2140, "3c0 3b3 3b3 3c0 2211"),
   (0x2145, 0x2149, "64 64 65 69 6a"),
   (0x2150, 0x2155, "31+2044+37 31+2044+39 31+2044+31+30 31+2044+33 32+2044+33 31+2044+35"),
   (0x2156, 0x215c, "32+2044+35 33+2044+35 34+2044+35 31+2044+36 35+2044+36 31+2044+38 33+2044+38"),
   (0x215d, 0x2166, "35+2044+38 37+2044+38 31+2044 69 69+69 69+69+69 69+76 76 76+69 76+69+69"),
   (0x2167, 0x2174, "76+69+69+69 69+78 78 78+69 78+69+69 6c 63 64 6d 69 69+69 69+69+69 69+76 76"),
   (0x2175, 0x217f, "76+69 76+69+69 76+69+69+69 69+78 78 78+69 78+69+69 6c 63 64 6d"),
   (0x2183, 0x2183, "2184"),
   (0x2189, 0x2189, "30+2044+33"),
   (0x222c, 0x2230, "222b+222b 222b+222b+222b - 222e+222e 222e+222e+222e"),
   (0x2329, 0x232a, "3008 3009"),
   (0x2469, 0x2474, "31+30 31+31 31+32 31+33 31+34 31+35 31+36 31+37 31+38 31+39 32+30 28+31+29"),
   (0x2475, 0x247c, "28+32+29 28+33+29 28+34+29 28+35+29 28+36+29 28+37+29 28+38+29 28+39+29"),
   (0x247d, 0x2482, "28+31+30+29 28+31+31+29 28+31+32+29 28+31+33+29 28+31+34+29 28+31+35+29"),
   (0x2483, 0x2487, "28+31+36+29 28+31+37+29 28+31+38+29 28+31+39+29 28+32+30+29"),
   (0x249c, 0x24a3, "28+61+29 28+62+29 28+63+29 28+64+29 28+65+29 28+66+29 28+67+29 28+68+29"),
   (0x24a4, 0x24ab, "28+69+29 28+6a+29 28+6b+29 28+6c+29 28+6d+29 28+6e+29 28+6f+29 28+70+29"),
   (0x24ac, 0x24b3, "28+71+29 28+72+29 28+73+29 28+74+29 28+75+29 28+76+29 28+77+29 28+78+29"),
   (0x24b4, 0x24b5, "28+79+29 28+7a+29"),
   (0x24ea, 0x24ea, "30"),
   (0x2a0c, 0x2a0c, "222b+222b+222b+222b"),
   (0x2a74, 0x2a76, "3a+3a+3d 3d+3d 3d+3d+3d"),
   (0x2adc, 0x2adc, "2add+338"),
   (0x2c60, 0x2c75, "2c61 - 26b 1d7d 27d - - 2c68 - 2c6a - 2c6c - 251 271 250 252 - 2c73 - - 2c76"),
   (0x2c7c, 0x2c7f, "6a 76 23f 240"),
   (0x2ceb, 0x2ced, "2cec - 2cee"),
   (0x2cf2, 0x2cf2, "2cf3"),
   (0x2d6f, 0x2d6f, "2d61"),
   (0x2e9f, 0x2e9f, "6bcd"),
   (0x2ef3, 0x2ef3, "9f9f"),
   (0x2f00, 0x2f0e, "4e00 4e28 4e36 4e3f 4e59 4e85 4e8c 4ea0 4eba 513f 5165 516b 5182 5196 51ab"),
   (0x2f0f, 0x2f1d, "51e0 51f5 5200 529b 52f9 5315 531a 5338 5341 535c 5369 5382 53b6 53c8 53e3"),
   (0x2f1e, 0x2f2c, "56d7 571f 58eb 5902 590a 5915 5927 5973 5b50 5b80 5bf8 5c0f 5c22 5c38 5c6e"),
   (0x2f2d, 0x2f3b, "5c71 5ddb 5de5 5df1 5dfe 5e72 5e7a 5e7f 5ef4 5efe 5f0b 5f13 5f50 5f61 5f73"),
   (0x2f3c, 0x2f4a, "5fc3 6208 6236 624b 652f 6534 6587 6597 65a4 65b9 65e0 65e5 66f0 6708 6728"),
   (0x2f4b, 0x2f59, "6b20 6b62 6b79 6bb3 6bcb 6bd4 6bdb 6c0f 6c14 6c34 706b 722a 7236 723b 723f"),
   (0x2f5a, 0x2f68, "7247 7259 725b 72ac 7384 7389 74dc 74e6 7518 751f 7528 7530 758b 7592 7676"),
   (0x2f69, 0x2f77, "767d 76ae 76bf 76ee 77db 77e2 77f3 793a 79b8 79be 7a74 7acb 7af9 7c73 7cf8"),
   (0x2f78, 0x2f86, "7f36 7f51 7f8a 7fbd 8001 800c 8012 8033 807f 8089 81e3 81ea 81f3 81fc 820c"),
   (0x2f87, 0x2f95, "821b 821f 826e 8272 8278 864d 866b 8840 884c 8863 897e 898b 89d2 8a00 8c37"),
   (0x2f96, 0x2fa4, "8c46 8c55 8c78 8c9d 8d64 8d70 8db3 8eab 8eca 8f9b 8fb0 8fb5 9091 9149 91c6"),
   (0x2fa5, 0x2fb3, "91cc 91d1 9577 9580 961c 96b6 96b9 96e8 9751 975e 9762 9769 97cb 97ed 97f3"),
   (0x2fb4, 0x2fc2, "9801 98a8 98db 98df 9996 9999 99ac 9aa8 9ad8 9adf 9b25 9b2f 9b32 9b3c 9b5a"),
   (0x2fc3, 0x2fd1, "9ce5 9e75 9e7f 9ea5 9ebb 9ec3 9ecd 9ed1 9ef9 9efd 9f0e 9f13 9f20 9f3b 9f4a"),
   (0x2fd2, 0x2fd5, "9f52 9f8d 9f9c 9fa0"),
   (0x3000, 0x3002, "20 - 2e"),
   (0x3036, 0x303a, "3012 - 5341 5344 5345"),
   (0x309b, 0x309f, "20+3099 20+309a - - 3088+308a"),
   (0x30ff, 0x30ff, "30b3+30c8"),
   (0x3131, 0x3139, "1100 1101 11aa 1102 11ac 11ad 1103 1104 1105"),
   (0x3140, 0x3144, "111a 1106 1107 1108 1121"),
   (0x3165, 0x3173, "1114 1115 11c7 11c8 11cc 11ce 11d3 11d7 11d9 111c 11dd 11df 111d 111e 1120"),
   (0x3174, 0x3177, "1122 1123 1127 1129"),
   (0x317d, 0x318b, "1132 1136 1140 1147 114c 11f1 11f2 1157 1158 1159 1184 1185 1188 1191 1192"),
   (0x318c, 0x318e, "1194 119e 11a1"),
   (0x3192, 0x319f, "4e00 4e8c 4e09 56db 4e0a 4e2d 4e0b 7532 4e59 4e19 4e01 5929 5730 4eba"),
   (0x3200, 0x3206, "28+1100+29 28+1102+29 28+1103+29 28+1105+29 28+1106+29 28+1107+29 28+1109+29"),
   (0x3207, 0x320d, "28+110b+29 28+110c+29 28+110e+29 28+110f+29 28+1110+29 28+1111+29 28+1112+29"),
   (0x320e, 0x3214, "28+ac00+29 28+b098+29 28+b2e4+29 28+b77c+29 28+b9c8+29 28+bc14+29 28+c0ac+29"),
   (0x3215, 0x321b, "28+c544+29 28+c790+29 28+cc28+29 28+ce74+29 28+d0c0+29 28+d30c+29 28+d558+29"),
   (0x321c, 0x3221, "28+c8fc+29 28+c624+c804+29 28+c624+d6c4+29 - 28+4e00+29 28+4e8c+29"),
   (0x3222, 0x3228, "28+4e09+29 28+56db+29 28+4e94+29 28+516d+29 28+4e03+29 28+516b+29 28+4e5d+29"),
   (0x3229, 0x322f, "28+5341+29 28+6708+29 28+706b+29 28+6c34+29 28+6728+29 28+91d1+29 28+571f+29"),
   (0x3230, 0x3236, "28+65e5+29 28+682a+29 28+6709+29 28+793e+29 28+540d+29 28+7279+29 28+8ca1+29"),
   (0x3237, 0x323d, "28+795d+29 28+52b4+29 28+4ee3+29 28+547c+29 28+5b66+29 28+76e3+29 28+4f01+29"),
   (0x323e, 0x3245, "28+8cc7+29 28+5354+29 28+796d+29 28+4f11+29 28+81ea+29 28+81f3+29 554f 5e7c"),
   (0x3246, 0x3247, "6587 7b8f"),
   (0x3250, 0x325b, "70+74+65 32+31 32+32 32+33 32+34 32+35 32+36 32+37 32+38 32+39 33+30 33+31"),
   (0x325c, 0x3268, "33+32 33+33 33+34 33+35 1100 1102 1103 1105 1106 1107 1109 110b 110c"),
   (0x326e, 0x327b, "ac00 b098 b2e4 b77c b9c8 bc14 c0ac c544 c790 cc28 ce74 d0c0 d30c d558"),
   (0x327c, 0x3289, "cc38+ace0 c8fc+c758 c6b0 - 4e00 4e8c 4e09 56db 4e94 516d 4e03 516b 4e5d 5341"),
   (0x328a, 0x3298, "6708 706b 6c34 6728 91d1 571f 65e5 682a 6709 793e 540d 7279 8ca1 795d 52b4"),
   (0x3299, 0x32a7, "79d8 7537 5973 9069 512a 5370 6ce8 9805 4f11 5199 6b63 4e0a 4e2d 4e0b 5de6"),
   (0x32a8, 0x32b5, "53f3 533b 5b97 5b66 76e3 4f01 8cc7 5354 591c 33+36 33+37 33+38 33+39 34+30"),
   (0x32b6, 0x32c1, "34+31 34+32 34+33 34+34 34+35 34+36 34+37 34+38 34+39 35+30 31+6708 32+6708"),
   (0x32c2, 0x32c9, "33+6708 34+6708 35+6708 36+6708 37+6708 38+6708 39+6708 31+30+6708"),
   (0x32ca, 0x32d4, "31+31+6708 31+32+6708 68+67 65+72+67 65+76 6c+74+64 30a2 30a4 30a6 30a8 30aa"),
   (0x32d5, 0x32e3, "30ab 30ad 30af 30b1 30b3 30b5 30b7 30b9 30bb 30bd 30bf 30c1 30c4 30c6 30c8"),
   (0x32ea, 0x32ed, "30d2 30d5 30d8 30db"),
   (0x32f3, 0x32f4, "30e4 30e6"),
   (0x32fb, 0x3301, "30ef 30f0 30f1 30f2 4ee4+548c 30a2+30d1+30fc+30c8 30a2+30eb+30d5+30a1"),
   (0x3302, 0x3305, "30a2+30f3+30da+30a2 30a2+30fc+30eb 30a4+30cb+30f3+30b0 30a4+30f3+30c1"),
   (0x3306, 0x3309, "30a6+30a9+30f3 30a8+30b9+30af+30fc+30c9 30a8+30fc+30ab+30fc 30aa+30f3+30b9"),
   (0x330a, 0x330d, "30aa+30fc+30e0 30ab+30a4+30ea 30ab+30e9+30c3+30c8 30ab+30ed+30ea+30fc"),
   (0x330e, 0x3312, "30ac+30ed+30f3 30ac+30f3+30de 30ae+30ac 30ae+30cb+30fc 30ad+30e5+30ea+30fc"),
   (0x3313, 0x3315, "30ae+30eb+30c0+30fc 30ad+30ed 30ad+30ed+30b0+30e9+30e0"),
   (0x3316, 0x3318, "30ad+30ed+30e1+30fc+30c8+30eb 30ad+30ed+30ef+30c3+30c8 30b0+30e9+30e0"),
   (0x3319, 0x331b, "30b0+30e9+30e0+30c8+30f3 30af+30eb+30bc+30a4+30ed 30af+30ed+30fc+30cd"),
   (0x331c, 0x331f, "30b1+30fc+30b9 30b3+30eb+30ca 30b3+30fc+30dd 30b5+30a4+30af+30eb"),
   (0x3320, 0x3323, "30b5+30f3+30c1+30fc+30e0 30b7+30ea+30f3+30b0 30bb+30f3+30c1 30bb+30f3+30c8"),
   (0x3324, 0x3329, "30c0+30fc+30b9 30c7+30b7 30c9+30eb 30c8+30f3 30ca+30ce 30ce+30c3+30c8"),
   (0x332a, 0x332d, "30cf+30a4+30c4 30d1+30fc+30bb+30f3+30c8 30d1+30fc+30c4 30d0+30fc+30ec+30eb"),
   (0x332e, 0x3331, "30d4+30a2+30b9+30c8+30eb 30d4+30af+30eb 30d4+30b3 30d3+30eb"),
   (0x3332, 0x3334, "30d5+30a1+30e9+30c3+30c9 30d5+30a3+30fc+30c8 30d6+30c3+30b7+30a7+30eb"),
   (0x3335, 0x3338, "30d5+30e9+30f3 30d8+30af+30bf+30fc+30eb 30da+30bd 30da+30cb+30d2"),
   (0x3339, 0x333c, "30d8+30eb+30c4 30da+30f3+30b9 30da+30fc+30b8 30d9+30fc+30bf"),
   (0x333d, 0x3341, "30dd+30a4+30f3+30c8 30dc+30eb+30c8 30db+30f3 30dd+30f3+30c9 30db+30fc+30eb"),
   (0x3342, 0x3345, "30db+30fc+30f3 30de+30a4+30af+30ed 30de+30a4+30eb 30de+30c3+30cf"),
   (0x3346, 0x3349, "30de+30eb+30af 30de+30f3+30b7+30e7+30f3 30df+30af+30ed+30f3 30df+30ea"),
   (0x334a, 0x334d, "30df+30ea+30d0+30fc+30eb 30e1+30ac 30e1+30ac+30c8+30f3 30e1+30fc+30c8+30eb"),
   (0x334e, 0x3352, "30e4+30fc+30c9 30e4+30fc+30eb 30e6+30a2+30f3 30ea+30c3+30c8+30eb 30ea+30e9"),
   (0x3353, 0x3356, "30eb+30d4+30fc 30eb+30fc+30d6+30eb 30ec+30e0 30ec+30f3+30c8+30b2+30f3"),
   (0x3357, 0x335e, "30ef+30c3+30c8 30+70b9 31+70b9 32+70b9 33+70b9 34+70b9 35+70b9 36+70b9"),
   (0x335f, 0x3365, "37+70b9 38+70b9 39+70b9 31+30+70b9 31+31+70b9 31+32+70b9 31+33+70b9"),
   (0x3366, 0x336c, "31+34+70b9 31+35+70b9 31+36+70b9 31+37+70b9 31+38+70b9 31+39+70b9 32+30+70b9"),
   (0x336d, 0x3374, "32+31+70b9 32+32+70b9 32+33+70b9 32+34+70b9 68+70+61 64+61 61+75 62+61+72"),
   (0x3375, 0x337d, "6f+76 70+63 64+6d 64+6d+32 64+6d+33 69+75 5e73+6210 662d+548c 5927+6b63"),
   (0x337e, 0x3386, "660e+6cbb 682a+5f0f+4f1a+793e 70+61 6e+61 3bc+61 6d+61 6b+61 6b+62 6d+62"),
   (0x3387, 0x3390, "67+62 63+61+6c 6b+63+61+6c 70+66 6e+66 3bc+66 3bc+67 6d+67 6b+67 68+7a"),
   (0x3391, 0x339a, "6b+68+7a 6d+68+7a 67+68+7a 74+68+7a 3bc+6c 6d+6c 64+6c 6b+6c 66+6d 6e+6d"),
   (0x339b, 0x33a4, "3bc+6d 6d+6d 63+6d 6b+6d 6d+6d+32 63+6d+32 6d+32 6b+6d+32 6d+6d+33 63+6d+33"),
   (0x33a5, 0x33ac, "6d+33 6b+6d+33 6d+2215+73 6d+2215+73+32 70+61 6b+70+61 6d+70+61 67+70+61"),
   (0x33ad, 0x33b4, "72+61+64 72+61+64+2215+73 72+61+64+2215+73+32 70+73 6e+73 3bc+73 6d+73 70+76"),
   (0x33b5, 0x33c0, "6e+76 3bc+76 6d+76 6b+76 6d+76 70+77 6e+77 3bc+77 6d+77 6b+77 6d+77 6b+3c9"),
   (0x33c1, 0x33cc, "6d+3c9 - 62+71 63+63 63+64 63+2215+6b+67 - 64+62 67+79 68+61 68+70 69+6e"),
   (0x33cd, 0x33d7, "6b+6b 6b+6d 6b+74 6c+6d 6c+6e 6c+6f+67 6c+78 6d+62 6d+69+6c 6d+6f+6c 70+68"),
   (0x33d9, 0x33e1, "70+70+6d 70+72 73+72 73+76 77+62 76+2215+6d 61+2215+6d 31+65e5 32+65e5"),
   (0x33e2, 0x33e9, "33+65e5 34+65e5 35+65e5 36+65e5 37+65e5 38+65e5 39+65e5 31+30+65e5"),
   (0x33ea, 0x33f0, "31+31+65e5 31+32+65e5 31+33+65e5 31+34+65e5 31+35+65e5 31+36+65e5 31+37+65e5"),
   (0x33f1, 0x33f7, "31+38+65e5 31+39+65e5 32+30+65e5 32+31+65e5 32+32+65e5 32+33+65e5 32+34+65e5"),
   (0x33f8, 0x33fe, "32+35+65e5 32+36+65e5 32+37+65e5 32+38+65e5 32+39+65e5 33+30+65e5 33+31+65e5"),
   (0x33ff, 0x33ff, "67+61+6c"),
   (0xa69c, 0xa69d, "44a 44c"),
   (0xa770, 0xa770, "a76f"),
   (0xa779, 0xa77d, "a77a - a77c - 1d79"),
   (0xa78b, 0xa792, "a78c - 265 - - a791 - a793"),
   (0xa7aa, 0xa7b3, "266 25c 261 26c 26a - 29e 287 29d ab53"),
   (0xa7c4, 0xa7cb, "a794 282 1d8e a7c8 - a7ca - 264"),
   (0xa7dc, 0xa7dc, "19b"),
   (0xa7f1, 0xa7f9, "73 63 66 71 a7f6 - - 127 153"),
   (0xab5c, 0xab5f, "a727 ab37 26b ab52"),
   (0xab69, 0xab69, "28d"),
   (0xf900, 0xf90e, "8c48 66f4 8eca 8cc8 6ed1 4e32 53e5 9f9c 9f9c 5951 91d1 5587 5948 61f6 7669"),
   (0xf90f, 0xf91d, "7f85 863f 87ba 88f8 908f 6a02 6d1b 70d9 73de 843d 916a 99f1 4e82 5375 6b04"),
   (0xf91e, 0xf92c, "721b 862d 9e1e 5d50 6feb 85cd 8964 62c9 81d8 881f 5eca 6717 6d6a 72fc 90ce"),
   (0xf92d, 0xf93b, "4f86 51b7 52de 64c4 6ad3 7210 76e7 8001 8606 865c 8def 9732 9b6f 9dfa 788c"),
   (0xf93c, 0xf94a, "797f 7da0 83c9 9304 9e7f 8ad6 58df 5f04 7c60 807e 7262 78ca 8cc2 96f7 58d8"),
   (0xf94b, 0xf959, "5c62 6a13 6dda 6f0f 7d2f 7e37 964b 52d2 808b 51dc 51cc 7a1c 7dbe 83f1 9675"),
   (0xf95a, 0xf968, "8b80 62cf 6a02 8afe 4e39 5be7 6012 7387 7570 5317 78fb 4fbf 5fa9 4e0d 6ccc"),
   (0xf969, 0xf977, "6578 7d22 53c3 585e 7701 8449 8aaa 6bba 8fb0 6c88 62fe 82e5 63a0 7565 4eae"),
   (0xf978, 0xf986, "5169 51c9 6881 7ce7 826f 8ad2 91cf 52f5 5442 5973 5eec 65c5 6ffe 792a 95ad"),
   (0xf987, 0xf995, "9a6a 9e97 9ece 529b 66c6 6b77 8f62 5e74 6190 6200 649a 6f23 7149 7489 79ca"),
   (0xf996, 0xf9a4, "7df4 806f 8f26 84ee 9023 934a 5217 52a3 54bd 70c8 88c2 8aaa 5ec9 5ff5 637b"),
   (0xf9a5, 0xf9b3, "6bae 7c3e 7375 4ee4 56f9 5be7 5dba 601c 73b2 7469 7f9a 8046 9234 96f6 9748"),
   (0xf9b4, 0xf9c2, "9818 4f8b 79ae 91b4 96b8 60e1 4e86 50da 5bee 5c3f 6599 6a02 71ce 7642 84fc"),
   (0xf9c3, 0xf9d1, "907c 9f8d 6688 962e 5289 677b 67f3 6d41 6e9c 7409 7559 786b 7d10 985e 516d"),
   (0xf9d2, 0xf9e0, "622e 9678 502b 5d19 6dea 8f2a 5f8b 6144 6817 7387 9686 5229 540f 5c65 6613"),
   (0xf9e1, 0xf9ef, "674e 68a8 6ce5 7406 75e2 7f79 88cf 88e1 91cc 96e2 533f 6eba 541d 71d0 7498"),
   (0xf9f0, 0xf9fe, "85fa 96a3 9c57 9e9f 6797 6dcb 81e8 7acb 7b20 7c92 72c0 7099 8b58 4ec0 8336"),
   (0xf9ff, 0xfa0d, "523a 5207 5ea6 62d3 7cd6 5b85 6d1e 66b4 8f3b 884c 964d 898b 5ed3 5140 55c0"),
   (0xfa10, 0xfa20, "585a - 6674 - - 51de 732a 76ca 793c 795e 7965 798f 9756 7cbe 7fbd - 8612"),
   (0xfa22, 0xfa26, "8af8 - - 9038 90fd"),
   (0xfa2a, 0xfa38, "98ef 98fc 9928 9db4 90de 96b7 4fae 50e7 514d 52c9 52e4 5351 559d 5606 5668"),
   (0xfa39, 0xfa47, "5840 58a8 5c64 5c6e 6094 6168 618e 61f2 654f 65e2 6691 6885 6d77 6e1a 6f22"),
   (0xfa48, 0xfa56, "716e 722b 7422 7891 793e 7949 7948 7950 7956 795d 798d 798e 7a40 7a81 7bc0"),
   (0xfa57, 0xfa65, "7df4 7e09 7e41 7f72 8005 81ed 8279 8279 8457 8910 8996 8b01 8b39 8cd3 8d08"),
   (0xfa66, 0xfa75, "8fb6 9038 96e3 97ff 983b 6075 242ee 8218 - - 4e26 51b5 5168 4f80 5145 5180"),
   (0xfa76, 0xfa84, "52c7 52fa 559d 5555 5599 55e2 585a 58b3 5944 5954 5a62 5b28 5ed2 5ed9 5f69"),
   (0xfa85, 0xfa93, "5fad 60d8 614e 6108 618e 6160 61f2 6234 63c4 641c 6452 6556 6674 6717 671b"),
   (0xfa94, 0xfaa2, "6756 6b79 6bba 6d41 6edb 6ecb 6f22 701e 716e 77a7 7235 72af 732a 7471 7506"),
   (0xfaa3, 0xfab1, "753b 761d 761f 76ca 76db 76f4 774a 7740 78cc 7ab1 7bc0 7c7b 7d5b 7df4 7f3e"),
   (0xfab2, 0xfac0, "8005 8352 83ef 8779 8941 8986 8996 8abf 8af8 8acb 8b01 8afe 8aed 8b39 8b8a"),
   (0xfac1, 0xfacf, "8d08 8f38 9072 9199 9276 967c 96e3 9756 97db 97ff 980b 983b 9b12 9f9c 2284a"),
   (0xfad0, 0xfad9, "22844 233d5 3b9d 4018 4039 25249 25cd0 27ed3 9f43 9f8e"),
   (0xfb00, 0xfb06, "66+66 66+69 66+6c 66+66+69 66+66+6c 73+74 73+74"),
   (0xfb13, 0xfb17, "574+576 574+565 574+56b 57e+576 574+56d"),
   (0xfb1d, 0xfb2b, "5d9+5b4 - 5f2+5b7 5e2 5d0 5d3 5d4 5db 5dc 5dd 5e8 5ea 2b 5e9+5c1 5e9+5c2"),
   (0xfb2c, 0xfb33, "5e9+5bc+5c1 5e9+5bc+5c2 5d0+5b7 5d0+5b8 5d0+5bc 5d1+5bc 5d2+5bc 5d3+5bc"),
   (0xfb34, 0xfb3e, "5d4+5bc 5d5+5bc 5d6+5bc - 5d8+5bc 5d9+5bc 5da+5bc 5db+5bc 5dc+5bc - 5de+5bc"),
   (0xfb40, 0xfb4a, "5e0+5bc 5e1+5bc - 5e3+5bc 5e4+5bc - 5e6+5bc 5e7+5bc 5e8+5bc 5e9+5bc 5ea+5bc"),
   (0xfb4b, 0xfb58, "5d5+5b9 5d1+5bf 5db+5bf 5e4+5bf 5d0+5dc 671 671 67b 67b 67b 67b 67e 67e 67e"),
   (0xfb59, 0xfb6b, "67e 680 680 680 680 67a 67a 67a 67a 67f 67f 67f 67f 679 679 679 679 6a4 6a4"),
   (0xfb6c, 0xfb7e, "6a4 6a4 6a6 6a6 6a6 6a6 684 684 684 684 683 683 683 683 686 686 686 686 687"),
   (0xfb7f, 0xfb91, "687 687 687 68d 68d 68c 68c 68e 68e 688 688 698 698 691 691 6a9 6a9 6a9 6a9"),
   (0xfb92, 0xfba4, "6af 6af 6af 6af 6b3 6b3 6b3 6b3 6b1 6b1 6b1 6b1 6ba 6ba 6bb 6bb 6bb 6bb 6c0"),
   (0xfba5, 0xfbb1, "6c0 6c1 6c1 6c1 6c1 6be 6be 6be 6be 6d2 6d2 6d3 6d3"),
   (0xfbd3, 0xfbe4, "6ad 6ad 6ad 6ad 6c7 6c7 6c6 6c6 6c8 6c8 6c7+674 6cb 6cb 6c5 6c5 6c9 6c9 6d0"),
   (0xfbe5, 0xfbf0, "6d0 6d0 6d0 649 649 626+627 626+627 626+6d5 626+6d5 626+648 626+648 626+6c7"),
   (0xfbf1, 0xfbf9, "626+6c7 626+6c6 626+6c6 626+6c8 626+6c8 626+6d0 626+6d0 626+6d0 626+649"),
   (0xfbfa, 0xfc04, "626+649 626+649 6cc 6cc 6cc 6cc 626+62c 626+62d 626+645 626+649 626+64a"),
   (0xfc05, 0xfc0d, "628+62c 628+62d 628+62e 628+645 628+649 628+64a 62a+62c 62a+62d 62a+62e"),
   (0xfc0e, 0xfc16, "62a+645 62a+649 62a+64a 62b+62c 62b+645 62b+649 62b+64a 62c+62d 62c+645"),
   (0xfc17, 0xfc1f, "62d+62c 62d+645 62e+62c 62e+62d 62e+645 633+62c 633+62d 633+62e 633+645"),
   (0xfc20, 0xfc28, "635+62d 635+645 636+62c 636+62d 636+62e 636+645 637+62d 637+645 638+645"),
   (0xfc29, 0xfc31, "639+62c 639+645 63a+62c 63a+645 641+62c 641+62d 641+62e 641+645 641+649"),
   (0xfc32, 0xfc3a, "641+64a 642+62d 642+645 642+649 642+64a 643+627 643+62c 643+62d 643+62e"),
   (0xfc3b, 0xfc43, "643+644 643+645 643+649 643+64a 644+62c 644+62d 644+62e 644+645 644+649"),
   (0xfc44, 0xfc4c, "644+64a 645+62c 645+62d 645+62e 645+645 645+649 645+64a 646+62c 646+62d"),
   (0xfc4d, 0xfc55, "646+62e 646+645 646+649 646+64a 647+62c 647+645 647+649 647+64a 64a+62c"),
   (0xfc56, 0xfc5e, "64a+62d 64a+62e 64a+645 64a+649 64a+64a 630+670 631+670 649+670 20+64c+651"),
   (0xfc5f, 0xfc65, "20+64d+651 20+64e+651 20+64f+651 20+650+651 20+651+670 626+631 626+632"),
   (0xfc66, 0xfc6e, "626+645 626+646 626+649 626+64a 628+631 628+632 628+645 628+646 628+649"),
   (0xfc6f, 0xfc77, "628+64a 62a+631 62a+632 62a+645 62a+646 62a+649 62a+64a 62b+631 62b+632"),
   (0xfc78, 0xfc80, "62b+645 62b+646 62b+649 62b+64a 641+649 641+64a 642+649 642+64a 643+627"),
   (0xfc81, 0xfc89, "643+644 643+645 643+649 643+64a 644+645 644+649 644+64a 645+627 645+645"),
   (0xfc8a, 0xfc92, "646+631 646+632 646+645 646+646 646+649 646+64a 649+670 64a+631 64a+632"),
   (0xfc93, 0xfc9b, "64a+645 64a+646 64a+649 64a+64a 626+62c 626+62d 626+62e 626+645 626+647"),
   (0xfc9c, 0xfca4, "628+62c 628+62d 628+62e 628+645 628+647 62a+62c 62a+62d 62a+62e 62a+645"),
   (0xfca5, 0xfcad, "62a+647 62b+645 62c+62d 62c+645 62d+62c 62d+645 62e+62c 62e+645 633+62c"),
   (0xfcae, 0xfcb6, "633+62d 633+62e 633+645 635+62d 635+62e 635+645 636+62c 636+62d 636+62e"),
   (0xfcb7, 0xfcbf, "636+645 637+62d 638+645 639+62c 639+645 63a+62c 63a+645 641+62c 641+62d"),
   (0xfcc0, 0xfcc8, "641+62e 641+645 642+62d 642+645 643+62c 643+62d 643+62e 643+644 643+645"),
   (0xfcc9, 0xfcd1, "644+62c 644+62d 644+62e 644+645 644+647 645+62c 645+62d 645+62e 645+645"),
   (0xfcd2, 0xfcda, "646+62c 646+62d 646+62e 646+645 646+647 647+62c 647+645 647+670 64a+62c"),
   (0xfcdb, 0xfce3, "64a+62d 64a+62e 64a+645 64a+647 626+645 626+647 628+645 628+647 62a+645"),
   (0xfce4, 0xfcec, "62a+647 62b+645 62b+647 633+645 633+647 634+645 634+647 643+644 643+645"),
   (0xfced, 0xfcf4, "644+645 646+645 646+647 64a+645 64a+647 640+64e+651 640+64f+651 640+650+651"),
   (0xfcf5, 0xfcfd, "637+649 637+64a 639+649 639+64a 63a+649 63a+64a 633+649 633+64a 634+649"),
   (0xfcfe, 0xfd06, "634+64a 62d+649 62d+64a 62c+649 62c+64a 62e+649 62e+64a 635+649 635+64a"),
   (0xfd07, 0xfd0f, "636+649 636+64a 634+62c 634+62d 634+62e 634+645 634+631 633+631 635+631"),
   (0xfd10, 0xfd18, "636+631 637+649 637+64a 639+649 639+64a 63a+649 63a+64a 633+649 633+64a"),
   (0xfd19, 0xfd21, "634+649 634+64a 62d+649 62d+64a 62c+649 62c+64a 62e+649 62e+64a 635+649"),
   (0xfd22, 0xfd2a, "635+64a 636+649 636+64a 634+62c 634+62d 634+62e 634+645 634+631 633+631"),
   (0xfd2b, 0xfd33, "635+631 636+631 634+62c 634+62d 634+62e 634+645 633+647 634+647 637+645"),
   (0xfd34, 0xfd3c, "633+62c 633+62d 633+62e 634+62c 634+62d 634+62e 637+645 638+645 627+64b"),
   (0xfd3d, 0xfd3d, "627+64b"),
   (0xfd50, 0xfd55, "62a+62c+645 62a+62d+62c 62a+62d+62c 62a+62d+645 62a+62e+645 62a+645+62c"),
   (0xfd56, 0xfd5b, "62a+645+62d 62a+645+62e 62c+645+62d 62c+645+62d 62d+645+64a 62d+645+649"),
   (0xfd5c, 0xfd61, "633+62d+62c 633+62c+62d 633+62c+649 633+645+62d 633+645+62d 633+645+62c"),
   (0xfd62, 0xfd67, "633+645+645 633+645+645 635+62d+62d 635+62d+62d 635+645+645 634+62d+645"),
   (0xfd68, 0xfd6d, "634+62d+645 634+62c+64a 634+645+62e 634+645+62e 634+645+645 634+645+645"),
   (0xfd6e, 0xfd73, "636+62d+649 636+62e+645 636+62e+645 637+645+62d 637+645+62d 637+645+645"),
   (0xfd74, 0xfd79, "637+645+64a 639+62c+645 639+645+645 639+645+645 639+645+649 63a+645+645"),
   (0xfd7a, 0xfd7f, "63a+645+64a 63a+645+649 641+62e+645 641+62e+645 642+645+62d 642+645+645"),
   (0xfd80, 0xfd85, "644+62d+645 644+62d+64a 644+62d+649 644+62c+62c 644+62c+62c 644+62e+645"),
   (0xfd86, 0xfd8b, "644+62e+645 644+645+62d 644+645+62d 645+62d+62c 645+62d+645 645+62d+64a"),
   (0xfd8c, 0xfd93, "645+62c+62d 645+62c+645 645+62e+62c 645+62e+645 - - 645+62c+62e 647+645+62c"),
   (0xfd94, 0xfd99, "647+645+645 646+62d+645 646+62d+649 646+62c+645 646+62c+645 646+62c+649"),
   (0xfd9a, 0xfd9f, "646+645+64a 646+645+649 64a+645+645 64a+645+645 628+62e+64a 62a+62c+64a"),
   (0xfda0, 0xfda5, "62a+62c+649 62a+62e+64a 62a+62e+649 62a+645+64a 62a+645+649 62c+645+64a"),
   (0xfda6, 0xfdab, "62c+62d+649 62c+645+649 633+62e+649 635+62d+64a 634+62d+64a 636+62d+64a"),
   (0xfdac, 0xfdb1, "644+62c+64a 644+645+64a 64a+62d+64a 64a+62c+64a 64a+645+64a 645+645+64a"),
   (0xfdb2, 0xfdb7, "642+645+64a 646+62d+64a 642+645+62d 644+62d+645 639+645+64a 643+645+64a"),
   (0xfdb8, 0xfdbd, "646+62c+62d 645+62e+64a 644+62c+645 643+645+645 644+62c+645 646+62c+62d"),
   (0xfdbe, 0xfdc3, "62c+62d+64a 62d+62c+64a 645+62c+64a 641+645+64a 628+62d+64a 643+645+645"),
   (0xfdc4, 0xfdc7, "639+62c+645 635+645+645 633+62e+64a 646+62c+64a"),
   (0xfdf0, 0xfdf4, "635+644+6d2 642+644+6d2 627+644+644+647 627+643+628+631 645+62d+645+62f"),
   (0xfdf5, 0xfdf9, "635+644+639+645 631+633+648+644 639+644+64a+647 648+633+644+645 635+644+649"),
   (0xfdfa, 0xfdfa, "635+644+649+20+627+644+644+647+20+639+644+64a+647+20+648+633+644+645"),
   (0xfdfb, 0xfdfc, "62c+644+20+62c+644+627+644+647 631+6cc+627+644"),
   (0xfe10, 0xfe18, "2c 3001 - 3a 3b 21 3f 3016 3017"),
   (0xfe31, 0xfe41, "2014 2013 5f 5f 28 29 7b 7d 3014 3015 3010 3011 300a 300b 3008 3009 300c"),
   (0xfe42, 0xfe54, "300d 300e 300f - - 5b 5d 20+305 20+305 20+305 20+305 5f 5f 5f 2c 3001 - - 3b"),
   (0xfe55, 0xfe6b, "3a 3f 21 2014 28 29 7b 7d 3014 3015 23 26 2a 2b 2d 3c 3e 3d - 5c 24 25 40"),
   (0xfe70, 0xfe7a, "20+64b 640+64b 20+64c - 20+64d - 20+64e 640+64e 20+64f 640+64f 20+650"),
   (0xfe7b, 0xfe88, "640+650 20+651 640+651 20+652 640+652 621 622 622 623 623 624 624 625 625"),
   (0xfe89, 0xfe9b, "626 626 626 626 627 627 628 628 628 628 629 629 62a 62a 62a 62a 62b 62b 62b"),
   (0xfe9c, 0xfeae, "62b 62c 62c 62c 62c 62d 62d 62d 62d 62e 62e 62e 62e 62f 62f 630 630 631 631"),
   (0xfeaf, 0xfec1, "632 632 633 633 633 633 634 634 634 634 635 635 635 635 636 636 636 636 637"),
   (0xfec2, 0xfed4, "637 637 637 638 638 638 638 639 639 639 639 63a 63a 63a 63a 641 641 641 641"),
   (0xfed5, 0xfee7, "642 642 642 642 643 643 643 643 644 644 644 644 645 645 645 645 646 646 646"),
   (0xfee8, 0xfef7, "646 647 647 647 647 648 648 649 649 64a 64a 64a 64a 644+622 644+622 644+623"),
   (0xfef8, 0xfefc, "644+623 644+625 644+625 644+627 644+627"),
   (0xff5f, 0xff6d, "2985 2986 2e 300c 300d 3001 30fb 30f2 30a1 30a3 30a5 30a7 30a9 30e3 30e5"),
   (0xff6e, 0xff7c, "30e7 30c3 30fc 30a2 30a4 30a6 30a8 30aa 30ab 30ad 30af 30b1 30b3 30b5 30b7"),
   (0xff7d, 0xff84, "30b9 30bb 30bd 30bf 30c1 30c4 30c6 30c8"),
   (0xff8b, 0xff8e, "30d2 30d5 30d8 30db"),
   (0xff94, 0xff95, "30e4 30e6"),
   (0xff9c, 0xffa9, "30ef 30f3 3099 309a - 1100 1101 11aa 1102 11ac 11ad 1103 1104 1105"),
   (0xffb0, 0xffb4, "111a 1106 1107 1108 1121"),
   (0xffda, 0xffdc, "1173 1174 1175"),
   (0xffe0, 0xffee, "a2 a3 ac 20+304 a6 a5 20a9 - 2502 2190 2191 2192 2193 25a0 25cb"),
   (0x10594, 0x10595, "105bb 105bc"),
   (0x10781, 0x10793, "2d0 2d1 e6 299 253 - 2a3 ab66 2a5 2a4 256 257 1d91 258 25e 2a9 264 262 260"),
   (0x10794, 0x107a4, "29b 127 29c 267 284 2aa 2ab 26c 1df04 a78e 26e 1df05 28e 1df06 f8 276 277"),
   (0x107a5, 0x107b6, "71 27a 1df08 27d 27e 280 2a8 2a6 ab67 2a7 288 2c71 - 28f 2a1 2a2 298 1c0"),
   (0x107b7, 0x107ba, "1c1 1c2 1df0a 1df1e"),
   (0x1d15e, 0x1d161, "1d157+1d165 1d158+1d165 1d158+1d165+1d16e 1d158+1d165+1d16f"),
   (0x1d162, 0x1d164, "1d158+1d165+1d170 1d158+1d165+1d171 1d158+1d165+1d172"),
   (0x1d1bb, 0x1d1be, "1d1b9+1d165 1d1ba+1d165 1d1b9+1d165+1d16e 1d1ba+1d165+1d16e"),
   (0x1d1bf, 0x1d1c0, "1d1b9+1d165+1d16f 1d1ba+1d165+1d16f"),
   (0x1d49c, 0x1d4ac, "61 - 63 64 - - 67 - - 6a 6b - - 6e 6f 70 71"),
   (0x1d4b6, 0x1d4bb, "61 62 63 64 - 66"),
   (0x1d504, 0x1d50a, "61 62 - 64 65 66 67"),
   (0x1d538, 0x1d53e, "61 62 - 64 65 66 67"),
   (0x1d546, 0x1d546, "6f"),
   (0x1d6a4, 0x1d6a5, "131 237"),
   (0x1d6b9, 0x1d6b9, "3b8"),
   (0x1d6c1, 0x1d6c1, "2207"),
   (0x1d6d3, 0x1d6d3, "3c3"),
   (0x1d6db, 0x1d6e1, "2202 3b5 3b8 3ba 3c6 3c1 3c0"),
   (0x1d6f3, 0x1d6f3, "3b8"),
   (0x1d6fb, 0x1d6fb, "2207"),
   (0x1d70d, 0x1d70d, "3c3"),
   (0x1d715, 0x1d71b, "2202 3b5 3b8 3ba 3c6 3c1 3c0"),
   (0x1d72d, 0x1d72d, "3b8"),
   (0x1d735, 0x1d735, "2207"),
   (0x1d747, 0x1d747, "3c3"),
   (0x1d74f, 0x1d755, "2202 3b5 3b8 3ba 3c6 3c1 3c0"),
   (0x1d767, 0x1d767, "3b8"),
   (0x1d76f, 0x1d76f, "2207"),
   (0x1d781, 0x1d781, "3c3"),
   (0x1d789, 0x1d78f, "2202 3b5 3b8 3ba 3c6 3c1 3c0"),
   (0x1d7a1, 0x1d7a1, "3b8"),
   (0x1d7a9, 0x1d7a9, "2207"),
   (0x1d7bb, 0x1d7bb, "3c3"),
   (0x1d7c3, 0x1d7cb, "2202 3b5 3b8 3ba 3c6 3c1 3c0 3dd 3dd"),
   (0x1e039, 0x1e03b, "43a 43b 43c"),
   (0x1e047, 0x1e050, "44b 44d 44e a689 4d9 456 458 4e9 4af 4cf"),
   (0x1e05a, 0x1e05e, "43a 43b 43e 43f 441"),
   (0x1e065, 0x1e06d, "44a 44b 491 456 455 45f 4ab a651 4b1"),
   (0x1ee00, 0x1ee12, "627 628 62c 62f - 648 632 62d 637 64a 643 644 645 646 633 639 641 635 642"),
   (0x1ee13, 0x1ee24, "631 634 62a 62b 62e 630 636 638 63a 66e 6ba 6a1 66f - 628 62c - 647"),
   (0x1ee27, 0x1ee39, "62d - 64a 643 644 645 646 633 639 641 635 642 - 634 62a 62b 62e - 636"),
   (0x1ee3b, 0x1ee3b, "63a"),
   (0x1ee42, 0x1ee42, "62c"),
   (0x1ee47, 0x1ee5d, "62d - 64a - 644 - 646 633 639 - 635 642 - 634 - - 62e - 636 - 63a - 6ba"),
   (0x1ee5f, 0x1ee72, "66f - 628 62c - 647 - - 62d 637 64a 643 - 645 646 633 639 641 635 642"),
   (0x1ee74, 0x1ee87, "634 62a 62b 62e - 636 638 63a 66e - 6a1 - 627 628 62c 62f 647 648 632 62d"),
   (0x1ee88, 0x1ee9a, "637 64a - 644 645 646 633 639 641 635 642 631 634 62a 62b 62e 630 636 638"),
   (0x1ee9b, 0x1ee9b, "63a"),
   (0x1eea1, 0x1eeb3, "628 62c 62f - 648 632 62d 637 64a - 644 645 646 633 639 641 635 642 631"),
   (0x1eeb4, 0x1eebb, "634 62a 62b 62e 630 636 638 63a"),
   (0x1f101, 0x1f10a, "30+2c 31+2c 32+2c 33+2c 34+2c 35+2c 36+2c 37+2c 38+2c 39+2c"),
   (0x1f110, 0x1f117, "28+61+29 28+62+29 28+63+29 28+64+29 28+65+29 28+66+29 28+67+29 28+68+29"),
   (0x1f118, 0x1f11f, "28+69+29 28+6a+29 28+6b+29 28+6c+29 28+6d+29 28+6e+29 28+6f+29 28+70+29"),
   (0x1f120, 0x1f127, "28+71+29 28+72+29 28+73+29 28+74+29 28+75+29 28+76+29 28+77+29 28+78+29"),
   (0x1f128, 0x1f12e, "28+79+29 28+7a+29 3014+73+3015 63 72 63+64 77+7a"),
   (0x1f14a, 0x1f14f, "68+76 6d+76 73+64 73+73 70+70+76 77+63"),
   (0x1f16a, 0x1f16c, "6d+63 6d+64 6d+72"),
   (0x1f190, 0x1f190, "64+6a"),
   (0x1f200, 0x1f202, "307b+304b 30b3+30b3 30b5"),
   (0x1f210, 0x1f21e, "624b 5b57 53cc 30c7 4e8c 591a 89e3 5929 4ea4 6620 7121 6599 524d 5f8c 518d"),
   (0x1f21f, 0x1f22d, "65b0 521d 7d42 751f 8ca9 58f0 5439 6f14 6295 6355 4e00 4e09 904a 5de6 4e2d"),
   (0x1f22e, 0x1f23b, "53f3 6307 8d70 6253 7981 7a7a 5408 6e80 6709 6708 7533 5272 55b6 914d"),
   (0x1f240, 0x1f244, "3014+672c+3015 3014+4e09+3015 3014+4e8c+3015 3014+5b89+3015 3014+70b9+3015"),
   (0x1f245, 0x1f248, "3014+6253+3015 3014+76d7+3015 3014+52dd+3015 3014+6557+3015"),
   (0x1f250, 0x1f251, "5f97 53ef"),
   (0x2f800, 0x2f80d, "4e3d 4e38 4e41 20122 4f60 4fae 4fbb 5002 507a 5099 50e7 50cf 349e 2063a"),
   (0x2f80e, 0x2f81b, "514d 5154 5164 5177 2051c 34b9 5167 518d 2054b 5197 51a4 4ecc 51ac 51b5"),
   (0x2f81c, 0x2f829, "291df 51f5 5203 34df 523b 5246 5272 5277 3515 52c7 52c9 52e4 52fa 5305"),
   (0x2f82a, 0x2f837, "5306 5317 5349 5351 535a 5373 537d 537f 537f 537f 20a2c 7070 53ca 53df"),
   (0x2f838, 0x2f845, "20b63 53eb 53f1 5406 549e 5438 5448 5468 54a2 54f6 5510 5553 5563 5584"),
   (0x2f846, 0x2f854, "5584 5599 55ab 55b3 55c2 5716 5606 5717 5651 5674 5207 58ee 57ce 57f4 580d"),
   (0x2f855, 0x2f862, "578b 5832 5831 58ac 214e4 58f2 58f7 5906 591a 5922 5962 216a8 216ea 59ec"),
   (0x2f863, 0x2f870, "5a1b 5a27 59d8 5a66 36ee 36fc 5b08 5b3e 5b3e 219c8 5bc3 5bd8 5be7 5bf3"),
   (0x2f871, 0x2f87e, "21b18 5bff 5c06 5f53 5c22 3781 5c60 5c6e 5cc0 5c8d 21de4 5d43 21de6 5d6e"),
   (0x2f87f, 0x2f88c, "5d6b 5d7c 5de1 5de2 382f 5dfd 5e28 5e3d 5e69 3862 22183 387c 5eb0 5eb3"),
   (0x2f88d, 0x2f89a, "5eb6 5eca 2a392 5efe 22331 22331 8201 5f22 5f22 38c7 232b8 261da 5f62 5f6b"),
   (0x2f89b, 0x2f8a8, "38e3 5f9a 5fcd 5fd7 5ff9 6081 393a 391c 6094 226d4 60c7 6148 614c 614e"),
   (0x2f8a9, 0x2f8b7, "614c 617a 618e 61b2 61a4 61af 61de 61f2 61f6 6210 621b 625d 62b1 62d4 6350"),
   (0x2f8b8, 0x2f8c5, "22b0c 633d 62fc 6368 6383 63e4 22bf1 6422 63c5 63a9 3a2e 6469 647e 649d"),
   (0x2f8c6, 0x2f8d3, "6477 3a6c 654f 656c 2300a 65e3 66f8 6649 3b19 6691 3b08 3ae4 5192 5195"),
   (0x2f8d4, 0x2f8e1, "6700 669c 80ad 43d9 6717 671b 6721 675e 6753 233c3 3b49 67fa 6785 6852"),
   (0x2f8e2, 0x2f8ef, "6885 2346d 688e 681f 6914 3b9d 6942 69a3 69ea 6aa8 236a3 6adb 3c18 6b21"),
   (0x2f8f0, 0x2f8fd, "238a7 6b54 3c4e 6b72 6b9f 6bba 6bbb 23a8d 21d0b 23afa 6c4e 23cbc 6cbf 6ccd"),
   (0x2f8fe, 0x2f90b, "6c67 6d16 6d3e 6d77 6d41 6d69 6d78 6d85 23d1e 6d34 6e2f 6e6e 3d33 6ecb"),
   (0x2f90c, 0x2f919, "6ec7 23ed1 6df9 6f6e 23f5e 23f8e 6fc6 7039 701e 701b 3d96 704a 707d 7077"),
   (0x2f91a, 0x2f926, "70ad 20525 7145 24263 719c 243ab 7228 7235 7250 24608 7280 7295 24735"),
   (0x2f927, 0x2f934, "24814 737a 738b 3eac 73a5 3eb8 3eb8 7447 745c 7471 7485 74ca 3f1b 7524"),
   (0x2f935, 0x2f941, "24c36 753e 24c92 7570 2219f 7610 24fa1 24fb8 25044 3ffc 4008 76f4 250f3"),
   (0x2f942, 0x2f94f, "250f2 25119 25133 771e 771f 771f 774a 4039 778b 4046 4096 2541d 784e 788c"),
   (0x2f950, 0x2f95d, "78cc 40e3 25626 7956 2569a 256c5 798f 79eb 412f 7a40 7a4a 7a4f 2597c 25aa7"),
   (0x2f95e, 0x2f96b, "25aa7 7aee 4202 25bab 7bc6 7bc9 4227 25c80 7cd2 42a0 7ce8 7ce3 7d00 25f86"),
   (0x2f96c, 0x2f979, "7d63 4301 7dc7 7e02 7e45 4334 26228 26247 4359 262d9 7f7a 2633e 7f95 7ffa"),
   (0x2f97a, 0x2f987, "8005 264da 26523 8060 265a8 8070 2335f 43d5 80b2 8103 440b 813e 5ab5 267a7"),
   (0x2f988, 0x2f995, "267b5 23393 2339c 8201 8204 8f9e 446b 8291 828b 829d 52b3 82b1 82b3 82bd"),
   (0x2f996, 0x2f9a3, "82e6 26b3c 82e5 831d 8363 83ad 8323 83bd 83e7 8457 8353 83ca 83cc 83dc"),
   (0x2f9a4, 0x2f9b0, "26c36 26d6b 26cd5 452b 84f1 84f3 8516 273ca 8564 26f2c 455d 4561 26fb1"),
   (0x2f9b1, 0x2f9be, "270d2 456b 8650 865c 8667 8669 86a9 8688 870e 86e2 8779 8728 876b 8786"),
   (0x2f9bf, 0x2f9cc, "45d7 87e1 8801 45f9 8860 8863 27667 88d7 88de 4635 88fa 34bb 278ae 27966"),
   (0x2f9cd, 0x2f9da, "46be 46c7 8aa0 8aed 8b8a 8c55 27ca8 8cab 8cc1 8d1b 8d77 27f2f 20804 8dcb"),
   (0x2f9db, 0x2f9e8, "8dbc 8df0 208de 8ed4 8f38 285d2 285ed 9094 90f1 9111 2872e 911b 9238 92d7"),
   (0x2f9e9, 0x2f9f6, "92d8 927c 93f9 9415 28bfa 958b 4995 95b7 28d77 49e6 96c3 5db2 9723 29145"),
   (0x2f9f7, 0x2fa04, "2921a 4a6e 4a76 97e0 2940a 4ab2 29496 980b 980b 9829 295b6 98e2 4b33 9929"),
   (0x2fa05, 0x2fa12, "99a7 99c2 99fe 4bce 29b30 9b12 9c40 9cfd 4cce 4ced 9d67 2a0ce 4cf8 2a105"),
   (0x2fa13, 0x2fa1d, "2a20e 2a291 9ebb 4d56 9ef9 9efe 9f05 9f0f 9f16 9f3b 2a600")]

end RollupLedger.Url.Domain
