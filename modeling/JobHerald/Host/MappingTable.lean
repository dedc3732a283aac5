import JobHerald.Unicode.Table

/-!
# Tables of the mapping of host names

Before a host name is looked at, its characters are mapped: capitals to small letters,
and letters of other forms to the usual ones.  Some characters are left out, and some
are not allowed.  Characters whose image is only their composed form are not listed,
because a mapped name is composed in the end.

## Main definitions

* `Host.MappingRun`, `Host.mappingRuns` — ranges that are mapped character by character.
* `Host.mappingEntries` — characters that are mapped to several others.
* `Host.ignoredRanges`, `Host.refusedRanges` — characters left out, and not allowed.
-/

namespace JobHerald.Host

/-! ### Tables -/

/-- Ranges that are mapped to ranges. -/
def consecutiveTable : List String :=
  ["aa 1 61 8 2 32 3 1 3bc 4 1 31 1 1 6f 6 17 e0 18 7 f8 a0 1 ff 7 1 73 2 1 253 5 1 254 1 1",
   "188 2 2 256 2 1 18c 3 1 1dd 3 1 192 2 1 260 1 1 263 2 1 269 1 1 268 1 1 199 4 1 26f 1 1",
   "272 2 1 275 7 1 280 1 1 1a8 2 1 283 3 1 1ad 2 1 288 1 1 1b0 2 2 28a 6 1 292 1 1 1b9 4 1",
   "1bd 38 1 1f5 2 1 195 1 1 1bf 29 1 19e 1a 1 2c65 1 1 23c 2 1 19a 1 1 2c66 3 1 242 2 1 180",
   "1 1 289 1 1 28c 6b 1 68 1 1 266 1 1 6a 1 1 72 3 1 281 2a 1 263 1 1 6c 1 1 73 1 1 78 1 1",
   "295 61 1 3b9 31 1 377 9 1 3f3 a 2 3ae 6 1 3ce 2 11 3b1 12 9 3c3 2c 1 3d7 1 1 3b2 1 1 3b8",
   "1 1 3c5 1 1 3cd 1 1 3cb 1 1 3c6 1 1 3c0 1a 1 3ba 4 1 3b8 1 1 3b5 2 1 3f8 2 1 3c3 1 1 3fb",
   "3 3 37b 3 10 450 10 20 430 b0 1 4cf 71 26 561 9db 1 f0b 194 26 2d00 27 1 2d27 6 1 2d2d 2f",
   "1 10dc 2fc 6 13f0 88a 1 43e 1 2 441 2 1 442 1 1 44a 1 1 463 1 1 a64b 8 2b 10d0 2d 3 10fd",
   "6f 1 61 1 1 e6 4 1 65 1 1 1dd 1 8 67 9 1 6f 1 1 223 6 1 61 1 2 250 2 1 1d02 3 1 65 3 1",
   "25c 1 1 67 4 1 14b 1 1 6f 1 1 254 1 2 1d16 2 1 70 1 2 74 2 1 1d1d 1 1 26f 1 1 76 1 1 1d25",
   "1 3 3b2 3 2 3c6 2 1 69 1 1 72 1 2 75 2 2 3b2 2 1 3c1 1 2 3c6 f 1 43d 23 1 252 1 1 63 1 1",
   "255 1 1 f0 1 1 25c 1 1 66 3 1 265 1 3 268 3 1 1d7b 1 1 29d 1 1 26d 1 1 1d85 1 1 29f 1 1",
   "271 3 3 273 3 1 278 1 2 282 2 1 1ab 1 2 289 2 1 1d1c 1 2 28b 2 1 7a 1 3 290 3 1 3b8 dc 1",
   "1e61 3 1 df 6a 8 1f00 10 6 1f10 10 8 1f20 10 8 1f30 10 6 1f40 20 8 1f60 50 2 1fb0 2 1",
   "1f70 1 1 3ac d 1 1f72 1 1 3ad 1 1 1f74 1 1 3ae d 2 1fd0 2 1 1f76 1 1 3af d 2 1fe0 2 1",
   "1f7a 1 1 3cd 1 1 1fe5 c 1 1f78 1 1 3cc 1 1 1f7c 1 1 3ce 16 1 2010 5f 1 30 1 1 69 3 6 34 6",
   "1 2b 1 1 2212 1 1 3d 1 2 28 2 1 6e 1 a 30 a 1 2b 1 1 2212 1 1 3d 1 2 28 3 1 61 1 1 65 1 1",
   "6f 1 1 78 1 1 259 1 1 68 1 4 6b 4 1 70 1 2 73 67 1 63 5 1 25b 3 2 67 5 1 127 6 1 6e 4 3",
   "70 b 1 7a 2 1 3c9 2 1 7a 2 1 6b 1 1 e5 1 2 62 5 1 66 1 1 214e 3 4 5d0 4 1 69 3 1 3c0 3 1",
   "3c0 1 1 2211 7 1 65 1 2 69 18 1 69 4 1 76 5 1 78 3 1 6c 1 2 63 2 1 6d 1 1 69 4 1 76 5 1",
   "78 3 1 6c 1 2 63 2 1 6d 4 1 2184 2dd 9 31 56 1a 61 1a 1a 61 1a 1 30 716 30 2c30 60 1 2c61",
   "2 1 26b 1 1 1d7d 1 1 27d 9 1 251 1 1 271 4 1 2c73 3 1 2c76 7 1 6a 1 1 76 1 2 23f 74 1",
   "2cf3 7d 1 2d61 130 1 6bcd 54 1 9f9f d 1 4e00 1 1 4e28 1 1 4e36 1 1 4e3f 1 1 4e59 1 1 4e85",
   "1 1 4e8c 1 1 4ea0 1 1 4eba 1 1 513f 1 1 5165 1 1 516b 1 1 5182 1 1 5196 1 1 51ab 1 1 51e0",
   "1 1 51f5 1 1 5200 1 1 529b 1 1 52f9 1 1 5315 1 1 531a 1 1 5338 1 1 5341 1 1 535c 1 1 5369",
   "1 1 5382 1 1 53b6 1 1 53c8 1 1 53e3 1 1 56d7 1 1 571f 1 1 58eb 1 1 5902 1 1 590a 1 1 5915",
   "1 1 5927 1 1 5973 1 1 5b50 1 1 5b80 1 1 5bf8 1 1 5c0f 1 1 5c22 1 1 5c38 1 1 5c6e 1 1 5c71",
   "1 1 5ddb 1 1 5de5 1 1 5df1 1 1 5dfe 1 1 5e72 1 1 5e7a 1 1 5e7f 1 1 5ef4 1 1 5efe 1 1 5f0b",
   "1 1 5f13 1 1 5f50 1 1 5f61 1 1 5f73 1 1 5fc3 1 1 6208 1 1 6236 1 1 624b 1 1 652f 1 1 6534",
   "1 1 6587 1 1 6597 1 1 65a4 1 1 65b9 1 1 65e0 1 1 65e5 1 1 66f0 1 1 6708 1 1 6728 1 1 6b20",
   "1 1 6b62 1 1 6b79 1 1 6bb3 1 1 6bcb 1 1 6bd4 1 1 6bdb 1 1 6c0f 1 1 6c14 1 1 6c34 1 1 706b",
   "1 1 722a 1 1 7236 1 1 723b 1 1 723f 1 1 7247 3 1 72ac 1 1 7384 1 1 7389 1 1 74dc 1 1 74e6",
   "1 1 7518 1 1 751f 1 1 7528 1 1 7530 1 1 758b 1 1 7592 1 1 7676 1 1 767d 1 1 76ae 1 1 76bf",
   "1 1 76ee 1 1 77db 1 1 77e2 1 1 77f3 1 1 793a 1 1 79b8 1 1 79be 1 1 7a74 1 1 7acb 1 1 7af9",
   "1 1 7c73 1 1 7cf8 1 1 7f36 1 1 7f51 1 1 7f8a 1 1 7fbd 1 1 8001 1 1 800c 1 1 8012 1 1 8033",
   "1 1 807f 1 1 8089 1 1 81e3 1 1 81ea 1 1 81f3 1 1 81fc 1 1 820c 1 1 821b 1 1 821f 1 1 826e",
   "1 1 8272 1 1 8278 1 1 864d 1 1 866b 1 1 8840 1 1 884c 1 1 8863 1 1 897e 1 1 898b 1 1 89d2",
   "1 1 8a00 1 1 8c37 1 1 8c46 1 1 8c55 1 1 8c78 1 1 8c9d 1 1 8d64 1 1 8d70 1 1 8db3 1 1 8eab",
   "1 1 8eca 1 1 8f9b 1 1 8fb0 1 1 8fb5 1 1 9091 1 1 9149 1 1 91c6 1 1 91cc 1 1 91d1 1 1 9577",
   "1 1 9580 1 1 961c 1 1 96b6 1 1 96b9 1 1 96e8 1 1 9751 1 1 975e 1 1 9762 1 1 9769 1 1 97cb",
   "1 1 97ed 1 1 97f3 1 1 9801 1 1 98a8 1 1 98db 1 1 98df 1 1 9996 1 1 9999 1 1 99ac 1 1 9aa8",
   "1 1 9ad8 1 1 9adf 1 1 9b25 1 1 9b2f 1 1 9b32 1 1 9b3c 1 1 9b5a 1 1 9ce5 1 1 9e75 1 1 9e7f",
   "1 1 9ea5 1 1 9ebb 1 1 9ec3 1 1 9ecd 1 1 9ed1 1 1 9ef9 1 1 9efd 1 1 9f0e 1 1 9f13 1 1 9f20",
   "1 1 9f3b 1 1 9f4a 1 1 9f52 1 1 9f8d 1 1 9f9c 1 1 9fa0 2d 1 2e 34 1 3012 2 1 5341 1 2 5344",
   "f8 2 1100 2 1 11aa 1 1 1102 1 2 11ac 2 3 1103 3 6 11b0 6 1 111a 1 3 1106 3 1 1121 1 a",
   "1109 a 15 1161 16 2 1114 2 2 11c7 4 1 11d3 3 1 111c 3 2 111d 4 1 1123 4 4 112c 4 1 1132 1",
   "1 1136 1 1 1140 1 1 1147 1 1 114c 1 2 11f1 2 3 1157 3 2 1184 2 1 1188 1 2 1191 2 1 1194 1",
   "1 119e 1 1 11a1 4 1 4e00 1 1 4e8c 1 1 4e09 1 1 56db 1 1 4e0a 1 1 4e2d 1 1 4e0b 1 1 7532 1",
   "1 4e59 1 1 4e19 1 1 4e01 1 1 5929 1 1 5730 1 1 4eba a5 1 554f 1 1 5e7c 1 1 6587 1 1 7b8f",
   "1d 2 1106 6 4 110f 4 1 ac00 1 1 b098 1 1 b2e4 1 1 b77c 1 1 b9c8 1 1 bc14 1 1 c0ac 1 1",
   "c544 1 1 c790 1 1 cc28 1 1 ce74 1 1 d0c0 1 1 d30c 1 1 d558 3 1 c6b0 2 1 4e00 1 1 4e8c 1 1",
   "4e09 1 1 56db 1 1 4e94 1 1 516d 1 1 4e03 1 1 516b 1 1 4e5d 1 1 5341 1 1 6708 1 1 706b 1 1",
   "6c34 1 1 6728 1 1 91d1 1 1 571f 1 1 65e5 1 1 682a 1 1 6709 1 1 793e 1 1 540d 1 1 7279 1 1",
   "8ca1 1 1 795d 1 1 52b4 1 1 79d8 1 1 7537 1 1 5973 1 1 9069 1 1 512a 1 1 5370 1 1 6ce8 1 1",
   "9805 1 1 4f11 1 1 5199 1 1 6b63 1 1 4e0a 1 1 4e2d 1 1 4e0b 1 1 5de6 1 1 53f3 1 1 533b 1 1",
   "5b97 1 1 5b66 1 1 76e3 1 1 4f01 1 1 8cc7 1 1 5354 1 1 591c 35 5 30cb 5 1 30d2 1 1 30d5 1",
   "1 30d8 1 1 30db 1 5 30de 8 5 30e9 5 4 30ef 7475 1 a76f d 1 1d79 e 1 a78c 2 1 265 1d 1 266",
   "1 1 25c 1 1 261 1 1 26c 1 1 26a 2 1 29e 1 1 287 1 1 29d 1 1 ab53 11 1 a794 1 1 282 1 1",
   "1d8e a 1 a7d1 22 1 63 1 1 66 1 1 71 1 1 a7f6 3 1 127 1 1 153 363 1 a727 1 1 ab37 1 1 26b",
   "1 1 ab52 a 1 28d 7 50 13a0 4fb0 1 5e2 1 1 5d0 1 2 5d3 2 3 5db 5 1 2b 2e7 1 2c 1 1 3001 2",
   "2 3a 2 1 21 1 1 3f 1 2 3016 1a 1 2014 1 1 2013 3 2 28 4 2 3014 2 2 3010 2 2 300a 2 2 3008",
   "2 4 300c f 1 2c 1 1 3001 3 1 3b 1 1 3a 1 1 3f 1 1 21 1 1 2014 1 2 28 4 2 3014 2 1 23 1 1",
   "26 1 2 2a 2 1 2d 3 1 3d 2 1 5c 1 2 24 2 1 40 15 2 621 2 2 622 2 2 623 2 2 624 2 2 625 79",
   "20 21 20 1a 61 1a 24 5b 24 2 2985 2 1 2e 1 2 300c 2 1 3001 1 1 30fb 1 1 30f2 9 1 30c3 1 1",
   "30fc 16 5 30cb 5 1 30d2 1 1 30d5 1 1 30d8 1 1 30db 1 5 30de 8 5 30e9 5 1 30ef 1 1 30f3 1",
   "2 3099 3 2 1100 2 1 11aa 1 1 1102 1 2 11ac 2 3 1103 3 6 11b0 6 1 111a 1 3 1106 3 1 1121 1",
   "a 1109 d 6 1161 8 6 1167 8 6 116d 8 3 1173 6 2 a2 2 1 ac 2 1 a6 1 1 a5 1 1 20a9 2 1 2502",
   "1 4 2190 4 1 25a0 1 1 25cb 412 28 10428 b0 24 104d8 c0 b 10597 c f 105a3 10 7 105b3 8 2",
   "105bb 1ed 2 2d0 2 1 e6 1 1 299 1 1 253 2 1 2a3 1 1 ab66 1 1 2a5 1 1 2a4 1 2 256 2 1 1d91",
   "1 1 258 1 1 25e 1 1 2a9 1 1 264 1 1 262 1 1 260 1 1 29b 1 1 127 1 1 29c 1 1 267 1 1 284 1",
   "2 2aa 2 1 26c 1 1 1df04 1 1 a78e 1 1 26e 1 1 1df05 1 1 28e 1 1 1df06 1 1 f8 1 2 276 2 1",
   "71 1 1 27a 1 1 1df08 1 2 27d 2 1 280 1 1 2a8 1 1 2a6 1 1 ab67 1 1 2a7 1 1 288 1 1 2c71 2",
   "1 28f 1 2 2a1 2 1 298 1 3 1c0 3 1 1df0a 1 1 1df1e 4c6 33 10cc0 c20 20 118c0 55a0 20 16e60",
   "65c0 1a 61 1a 1a 61 1a 1a 61 1a 7 61 8 12 69 12 1a 61 1a 1a 61 1d 1 64 3 1 67 3 2 6a 4 4",
   "6e 5 8 73 8 4 61 8 6 69 7 b 70 b 1a 61 1a 1a 61 1a 2 61 3 4 64 6 8 6a 9 7 73 8 1a 61 1a 2",
   "61 3 4 64 5 5 69 6 1 6f 4 7 73 8 1a 61 1a 1a 61 1a 1a 61 1a 1a 61 1a 1a 61 1a 1a 61 1a 1a",
   "61 1a 1a 61 1a 1a 61 1a 1a 61 1a 1a 61 1a 1a 61 1a 1a 61 1a 1 131 1 1 237 3 11 3b1 11 1",
   "3b8 1 7 3c3 7 1 2207 1 11 3b1 13 6 3c4 6 1 2202 1 1 3b5 3 1 3c6 1 1 3c1 1 1 3c0 1 11 3b1",
   "11 1 3b8 1 7 3c3 7 1 2207 1 11 3b1 13 6 3c4 6 1 2202 1 1 3b5 3 1 3c6 1 1 3c1 1 1 3c0 1 11",
   "3b1 11 1 3b8 1 7 3c3 7 1 2207 1 11 3b1 13 6 3c4 6 1 2202 1 1 3b5 3 1 3c6 1 1 3c1 1 1 3c0",
   "1 11 3b1 11 1 3b8 1 7 3c3 7 1 2207 1 11 3b1 13 6 3c4 6 1 2202 1 1 3b5 3 1 3c6 1 1 3c1 1 1",
   "3c0 1 11 3b1 11 1 3b8 1 7 3c3 7 1 2207 1 11 3b1 13 6 3c4 6 1 2202 1 1 3b5 3 1 3c6 1 1 3c1",
   "1 1 3c0 5 a 30 a a 30 a a 30 a a 30 a a 30 110a 22 1e922 500 2 627 2 1 62c 1 1 62f 2 1",
   "648 1 1 632 1 1 62d 1 1 637 1 1 64a 1 4 643 4 1 633 1 1 639 1 1 641 1 1 635 1 1 642 1 1",
   "631 1 1 634 1 2 62a 7 1 66e 1 1 6ba 1 1 6a1 1 1 66f 2 1 628 1 1 62c 2 1 647 3 1 62d 2 1",
   "64a 1 4 643 4 1 633 1 1 639 1 1 641 1 1 635 1 1 642 2 1 634 1 2 62a 2 1 62e 2 1 636 2 1",
   "63a 7 1 62c 5 1 62d 2 1 64a 5 1 633 1 1 639 2 1 635 1 1 642 2 1 634 3 1 62e 2 1 636 2 1",
   "63a 2 1 6ba 2 1 66f 2 1 628 1 1 62c 2 1 647 3 1 62d 1 1 637 1 1 64a 4 1 646 1 1 633 1 1",
   "639 1 1 641 1 1 635 1 1 642 2 1 634 1 2 62a 2 1 62e 5 1 66e 2 1 6a1 2 2 627 2 1 62c 1 1",
   "62f 1 2 647 2 1 632 1 1 62d 1 1 637 1 1 64a 2 3 644 3 1 633 1 1 639 1 1 641 1 1 635 1 1",
   "642 1 1 631 1 1 634 1 2 62a c 1 628 1 1 62c 1 1 62f 2 1 648 1 1 632 1 1 62d 1 1 637 1 1",
   "64a 2 3 644 3 1 633 1 1 639 1 1 641 1 1 635 1 1 642 1 1 631 1 1 634 1 2 62a 276 1 63 1 1",
   "72 4 1a 61 d2 1 30b5 e 1 624b 1 1 5b57 1 1 53cc 1 1 30c7 1 1 4e8c 1 1 591a 1 1 89e3 1 1",
   "5929 1 1 4ea4 1 1 6620 1 1 7121 1 1 6599 1 1 524d 1 1 5f8c 1 1 518d 1 1 65b0 1 1 521d 1 1",
   "7d42 1 1 751f 1 1 8ca9 1 1 58f0 1 1 5439 1 1 6f14 1 1 6295 1 1 6355 1 1 4e00 1 1 4e09 1 1",
   "904a 1 1 5de6 1 1 4e2d 1 1 53f3 1 1 6307 1 1 8d70 1 1 6253 1 1 7981 1 1 7a7a 1 1 5408 1 1",
   "6e80 1 1 6709 1 1 6708 1 1 7533 1 1 5272 1 1 55b6 1 1 914d 15 1 5f97 1 1 53ef 99f a 30"]

/-- Ranges that are mapped to one character. -/
def sharedTable : List String :=
  ["210c 3 68 4 2 69 2 2 6c a 2 72 13 2 65 e 2 3b3 8 2 64 da0b 2 671 2 4 67b 4 4 67e 4 4 680",
   "4 4 67a 4 4 67f 4 4 679 4 4 6a4 4 4 6a6 4 4 684 4 4 683 4 4 686 4 4 687 4 2 68d 2 2 68c 2",
   "2 68e 2 2 688 2 2 698 2 2 691 2 4 6a9 4 4 6af 4 4 6b3 4 4 6b1 4 2 6ba 2 4 6bb 4 2 6c0 2 4",
   "6c1 4 4 6be 4 2 6d2 2 2 6d3 23 4 6ad 4 2 6c7 2 2 6c6 2 2 6c8 3 2 6cb 2 2 6c5 2 2 6c9 2 4",
   "6d0 4 2 649 14 4 6cc 237 2 5f 1a 3 5f 3d 3 626 3 2 627 2 4 628 4 2 629 2 4 62a 4 4 62b 4",
   "4 62c 4 4 62d 4 4 62e 4 2 62f 2 2 630 2 2 631 2 2 632 2 4 633 4 4 634 4 4 635 4 4 636 4 4",
   "637 4 4 638 4 4 639 4 4 63a 4 4 641 4 4 642 4 4 643 4 4 644 4 4 645 4 4 646 4 4 647 4 2",
   "648 2 2 649 2 4 64a d7e2 2 3c3 3a 2 3c3 3a 2 3c3 3a 2 3c3 3a 2 3c3 f 2 3dd"]

/-- Ranges that are mapped to every second character. -/
def spreadTable : List String :=
  ["18f 2 259 125 2 279 3 2 77 13a 2 3c1 188f 2 432 be 3 70 3 2 75 6 2 62 3 2 259 5 2 6b 52 2",
   "25f c 2 270 386 2 6d b3c 2 250 2ec 2 7259 20e 2 11cc 3 2 11d7 3 2 11dd 4 2 1120 3 3 1127",
   "ea 2 1100 2 2 1103 4 2 1109 2 2 110c 68 5 30a2 5 c 30ab c 4 30c4 12 3 30e4 73a9 2 44a",
   "548b 2 5e8 310 2 7b 10 2 5b 14 2 7b 9 2 3c 103 5 30a1 5 3 30e3 5 5 30a2 5 c 30ab c 4 30c4",
   "12 3 30e4 d749 2 3b8 3a 2 3b8 3a 2 3b8 3a 2 3b8 3a 2 3b8 1652 2 62e 2 3 636 60 3 636 1e 2",
   "62e 2 3 636 1e 2 62e 2 3 636"]

/-- Every second character, mapped to every second one. -/
def parallelTable : List String :=
  ["100 18 101 34 2 135 5 3 13a 8 4 142 9 17 14b 2f 3 17a 9 2 183 1e 3 1a1 13 2 1b4 1a 8 1ce",
   "11 9 1df 1a 14 1f9 2a 9 223 24 5 247 12a 2 371 68 c 3d9 88 11 461 2a 1b 48b 37 7 4c2 f 30",
   "4d1 185e 2 62 d2 4b 1e01 a0 30 1ea1 b9 4 1f51 d0e 3 2c68 19 32 2c81 6b 2 2cec 7955 17",
   "a641 40 e a681 a2 7 a723 10 1f a733 47 2 a77a 5 5 a77f 12 2 a791 6 a a797 1e 8 a7b5 13 2",
   "a7c8 f 2 a7d7 12cc6 2 61 1f 2 66 1990 2 644 1f 2 643"]

/-- Every second character, mapped to a range. -/
def closingTable : List String :=
  ["386 2 3ac 6 2 3cc"]

/-- Characters that are mapped to sequences. -/
def sequenceTable : List String :=
  ["a8 2 20 308 7 2 20 304 5 2 20 301 4 2 20 327 4 3 31 2044 34 1 3 31 2044 32 1 3 33 2044 34",
   "72 2 69 307 2 2 69 6a 1 2 69 6a c 2 6c b7 1 2 6c b7 9 2 2bc 6e 7b 2 64 17e 1 2 64 17e 1 2",
   "64 17e 1 2 6c 6a 1 2 6c 6a 1 2 6c 6a 1 2 6e 6a 1 2 6e 6a 1 2 6e 6a 25 2 64 7a 1 2 64 7a 1",
   "2 64 7a e5 2 20 306 1 2 20 307 1 2 20 30a 1 2 20 328 1 2 20 303 1 2 20 30b 9d 2 20 3b9 a",
   "2 20 301 1 3 20 308 301 202 2 565 582 ee 2 627 674 1 2 648 674 1 2 6c7 674 1 2 64a 674",
   "7bb 2 e4d e32 80 2 ecd eb2 29 2 eab e99 1 2 eab ea1 9a 3 fb2 f71 f80 2 3 fb3 f71 f80 f21",
   "2 61 2be e6 2 1f00 3b9 1 2 1f01 3b9 1 2 1f02 3b9 1 2 1f03 3b9 1 2 1f04 3b9 1 2 1f05 3b9 1",
   "2 1f06 3b9 1 2 1f07 3b9 1 2 1f00 3b9 1 2 1f01 3b9 1 2 1f02 3b9 1 2 1f03 3b9 1 2 1f04 3b9",
   "1 2 1f05 3b9 1 2 1f06 3b9 1 2 1f07 3b9 1 2 1f20 3b9 1 2 1f21 3b9 1 2 1f22 3b9 1 2 1f23",
   "3b9 1 2 1f24 3b9 1 2 1f25 3b9 1 2 1f26 3b9 1 2 1f27 3b9 1 2 1f20 3b9 1 2 1f21 3b9 1 2",
   "1f22 3b9 1 2 1f23 3b9 1 2 1f24 3b9 1 2 1f25 3b9 1 2 1f26 3b9 1 2 1f27 3b9 1 2 1f60 3b9 1",
   "2 1f61 3b9 1 2 1f62 3b9 1 2 1f63 3b9 1 2 1f64 3b9 1 2 1f65 3b9 1 2 1f66 3b9 1 2 1f67 3b9",
   "1 2 1f60 3b9 1 2 1f61 3b9 1 2 1f62 3b9 1 2 1f63 3b9 1 2 1f64 3b9 1 2 1f65 3b9 1 2 1f66",
   "3b9 1 2 1f67 3b9 3 2 1f70 3b9 1 2 3b1 3b9 1 2 3ac 3b9 3 2 1fb6 3b9 5 2 3b1 3b9 1 2 20 313",
   "2 2 20 313 1 2 20 342 1 3 20 308 342 1 2 1f74 3b9 1 2 3b7 3b9 1 2 3ae 3b9 3 2 1fc6 3b9 5",
   "2 3b7 3b9 1 3 20 313 300 1 3 20 313 301 1 3 20 313 342 e 3 20 314 300 1 3 20 314 301 1 3",
   "20 314 342 e 3 20 308 300 1 3 20 308 301 4 2 1f7c 3b9 1 2 3c9 3b9 1 2 3ce 3b9 3 2 1ff6",
   "3b9 5 2 3c9 3b9 1 2 20 301 1 2 20 314 19 2 20 333 1c 2 2032 2032 1 3 2032 2032 2032 2 2",
   "2035 2035 1 3 2035 2035 2035 5 2 21 21 2 2 20 305 9 2 3f 3f 1 2 3f 21 1 2 21 3f e 4 2032",
   "2032 2032 2032 51 2 72 73 58 3 61 2f 63 1 3 61 2f 73 2 2 b0 63 2 3 63 2f 6f 1 3 63 2f 75",
   "3 2 b0 66 d 2 6e 6f a 2 73 6d 1 3 74 65 6c 1 2 74 6d 19 3 66 61 78 15 3 31 2044 37 1 3 31",
   "2044 39 1 4 31 2044 31 30 1 3 31 2044 33 1 3 32 2044 33 1 3 31 2044 35 1 3 32 2044 35 1 3",
   "33 2044 35 1 3 34 2044 35 1 3 31 2044 36 1 3 35 2044 36 1 3 31 2044 38 1 3 33 2044 38 1 3",
   "35 2044 38 1 3 37 2044 38 1 2 31 2044 2 2 69 69 1 3 69 69 69 1 2 69 76 2 2 76 69 1 3 76",
   "69 69 1 4 76 69 69 69 1 2 69 78 2 2 78 69 1 3 78 69 69 6 2 69 69 1 3 69 69 69 1 2 69 76 2",
   "2 76 69 1 3 76 69 69 1 4 76 69 69 69 1 2 69 78 2 2 78 69 1 3 78 69 69 e 3 30 2044 33 a3 2",
   "222b 222b 1 3 222b 222b 222b 2 2 222e 222e 1 3 222e 222e 222e 239 2 31 30 1 2 31 31 1 2",
   "31 32 1 2 31 33 1 2 31 34 1 2 31 35 1 2 31 36 1 2 31 37 1 2 31 38 1 2 31 39 1 2 32 30 1 3",
   "28 31 29 1 3 28 32 29 1 3 28 33 29 1 3 28 34 29 1 3 28 35 29 1 3 28 36 29 1 3 28 37 29 1",
   "3 28 38 29 1 3 28 39 29 1 4 28 31 30 29 1 4 28 31 31 29 1 4 28 31 32 29 1 4 28 31 33 29 1",
   "4 28 31 34 29 1 4 28 31 35 29 1 4 28 31 36 29 1 4 28 31 37 29 1 4 28 31 38 29 1 4 28 31",
   "39 29 1 4 28 32 30 29 15 3 28 61 29 1 3 28 62 29 1 3 28 63 29 1 3 28 64 29 1 3 28 65 29 1",
   "3 28 66 29 1 3 28 67 29 1 3 28 68 29 1 3 28 69 29 1 3 28 6a 29 1 3 28 6b 29 1 3 28 6c 29",
   "1 3 28 6d 29 1 3 28 6e 29 1 3 28 6f 29 1 3 28 70 29 1 3 28 71 29 1 3 28 72 29 1 3 28 73",
   "29 1 3 28 74 29 1 3 28 75 29 1 3 28 76 29 1 3 28 77 29 1 3 28 78 29 1 3 28 79 29 1 3 28",
   "7a 29 557 4 222b 222b 222b 222b 68 3 3a 3a 3d 1 2 3d 3d 1 3 3d 3d 3d 625 2 20 3099 1 2 20",
   "309a 3 2 3088 308a 60 2 30b3 30c8 101 3 28 1100 29 1 3 28 1102 29 1 3 28 1103 29 1 3 28",
   "1105 29 1 3 28 1106 29 1 3 28 1107 29 1 3 28 1109 29 1 3 28 110b 29 1 3 28 110c 29 1 3 28",
   "110e 29 1 3 28 110f 29 1 3 28 1110 29 1 3 28 1111 29 1 3 28 1112 29 1 3 28 ac00 29 1 3 28",
   "b098 29 1 3 28 b2e4 29 1 3 28 b77c 29 1 3 28 b9c8 29 1 3 28 bc14 29 1 3 28 c0ac 29 1 3 28",
   "c544 29 1 3 28 c790 29 1 3 28 cc28 29 1 3 28 ce74 29 1 3 28 d0c0 29 1 3 28 d30c 29 1 3 28",
   "d558 29 1 3 28 c8fc 29 1 4 28 c624 c804 29 1 4 28 c624 d6c4 29 2 3 28 4e00 29 1 3 28 4e8c",
   "29 1 3 28 4e09 29 1 3 28 56db 29 1 3 28 4e94 29 1 3 28 516d 29 1 3 28 4e03 29 1 3 28 516b",
   "29 1 3 28 4e5d 29 1 3 28 5341 29 1 3 28 6708 29 1 3 28 706b 29 1 3 28 6c34 29 1 3 28 6728",
   "29 1 3 28 91d1 29 1 3 28 571f 29 1 3 28 65e5 29 1 3 28 682a 29 1 3 28 6709 29 1 3 28 793e",
   "29 1 3 28 540d 29 1 3 28 7279 29 1 3 28 8ca1 29 1 3 28 795d 29 1 3 28 52b4 29 1 3 28 4ee3",
   "29 1 3 28 547c 29 1 3 28 5b66 29 1 3 28 76e3 29 1 3 28 4f01 29 1 3 28 8cc7 29 1 3 28 5354",
   "29 1 3 28 796d 29 1 3 28 4f11 29 1 3 28 81ea 29 1 3 28 81f3 29 d 3 70 74 65 1 2 32 31 1 2",
   "32 32 1 2 32 33 1 2 32 34 1 2 32 35 1 2 32 36 1 2 32 37 1 2 32 38 1 2 32 39 1 2 33 30 1 2",
   "33 31 1 2 33 32 1 2 33 33 1 2 33 34 1 2 33 35 1d 2 cc38 ace0 1 2 c8fc c758 34 2 33 36 1 2",
   "33 37 1 2 33 38 1 2 33 39 1 2 34 30 1 2 34 31 1 2 34 32 1 2 34 33 1 2 34 34 1 2 34 35 1 2",
   "34 36 1 2 34 37 1 2 34 38 1 2 34 39 1 2 35 30 1 2 31 6708 1 2 32 6708 1 2 33 6708 1 2 34",
   "6708 1 2 35 6708 1 2 36 6708 1 2 37 6708 1 2 38 6708 1 2 39 6708 1 3 31 30 6708 1 3 31 31",
   "6708 1 3 31 32 6708 1 2 68 67 1 3 65 72 67 1 2 65 76 1 3 6c 74 64 30 2 4ee4 548c 1 4 30a2",
   "30d1 30fc 30c8 1 4 30a2 30eb 30d5 30a1 1 4 30a2 30f3 30da 30a2 1 3 30a2 30fc 30eb 1 4",
   "30a4 30cb 30f3 30b0 1 3 30a4 30f3 30c1 1 3 30a6 30a9 30f3 1 5 30a8 30b9 30af 30fc 30c9 1",
   "4 30a8 30fc 30ab 30fc 1 3 30aa 30f3 30b9 1 3 30aa 30fc 30e0 1 3 30ab 30a4 30ea 1 4 30ab",
   "30e9 30c3 30c8 1 4 30ab 30ed 30ea 30fc 1 3 30ac 30ed 30f3 1 3 30ac 30f3 30de 1 2 30ae",
   "30ac 1 3 30ae 30cb 30fc 1 4 30ad 30e5 30ea 30fc 1 4 30ae 30eb 30c0 30fc 1 2 30ad 30ed 1 5",
   "30ad 30ed 30b0 30e9 30e0 1 6 30ad 30ed 30e1 30fc 30c8 30eb 1 5 30ad 30ed 30ef 30c3 30c8 1",
   "3 30b0 30e9 30e0 1 5 30b0 30e9 30e0 30c8 30f3 1 5 30af 30eb 30bc 30a4 30ed 1 4 30af 30ed",
   "30fc 30cd 1 3 30b1 30fc 30b9 1 3 30b3 30eb 30ca 1 3 30b3 30fc 30dd 1 4 30b5 30a4 30af",
   "30eb 1 5 30b5 30f3 30c1 30fc 30e0 1 4 30b7 30ea 30f3 30b0 1 3 30bb 30f3 30c1 1 3 30bb",
   "30f3 30c8 1 3 30c0 30fc 30b9 1 2 30c7 30b7 1 2 30c9 30eb 1 2 30c8 30f3 1 2 30ca 30ce 1 3",
   "30ce 30c3 30c8 1 3 30cf 30a4 30c4 1 5 30d1 30fc 30bb 30f3 30c8 1 3 30d1 30fc 30c4 1 4",
   "30d0 30fc 30ec 30eb 1 5 30d4 30a2 30b9 30c8 30eb 1 3 30d4 30af 30eb 1 2 30d4 30b3 1 2",
   "30d3 30eb 1 5 30d5 30a1 30e9 30c3 30c9 1 4 30d5 30a3 30fc 30c8 1 5 30d6 30c3 30b7 30a7",
   "30eb 1 3 30d5 30e9 30f3 1 5 30d8 30af 30bf 30fc 30eb 1 2 30da 30bd 1 3 30da 30cb 30d2 1 3",
   "30d8 30eb 30c4 1 3 30da 30f3 30b9 1 3 30da 30fc 30b8 1 3 30d9 30fc 30bf 1 4 30dd 30a4",
   "30f3 30c8 1 3 30dc 30eb 30c8 1 2 30db 30f3 1 3 30dd 30f3 30c9 1 3 30db 30fc 30eb 1 3 30db",
   "30fc 30f3 1 4 30de 30a4 30af 30ed 1 3 30de 30a4 30eb 1 3 30de 30c3 30cf 1 3 30de 30eb",
   "30af 1 5 30de 30f3 30b7 30e7 30f3 1 4 30df 30af 30ed 30f3 1 2 30df 30ea 1 5 30df 30ea",
   "30d0 30fc 30eb 1 2 30e1 30ac 1 4 30e1 30ac 30c8 30f3 1 4 30e1 30fc 30c8 30eb 1 3 30e4",
   "30fc 30c9 1 3 30e4 30fc 30eb 1 3 30e6 30a2 30f3 1 4 30ea 30c3 30c8 30eb 1 2 30ea 30e9 1 3",
   "30eb 30d4 30fc 1 4 30eb 30fc 30d6 30eb 1 2 30ec 30e0 1 5 30ec 30f3 30c8 30b2 30f3 1 3",
   "30ef 30c3 30c8 1 2 30 70b9 1 2 31 70b9 1 2 32 70b9 1 2 33 70b9 1 2 34 70b9 1 2 35 70b9 1",
   "2 36 70b9 1 2 37 70b9 1 2 38 70b9 1 2 39 70b9 1 3 31 30 70b9 1 3 31 31 70b9 1 3 31 32",
   "70b9 1 3 31 33 70b9 1 3 31 34 70b9 1 3 31 35 70b9 1 3 31 36 70b9 1 3 31 37 70b9 1 3 31 38",
   "70b9 1 3 31 39 70b9 1 3 32 30 70b9 1 3 32 31 70b9 1 3 32 32 70b9 1 3 32 33 70b9 1 3 32 34",
   "70b9 1 3 68 70 61 1 2 64 61 1 2 61 75 1 3 62 61 72 1 2 6f 76 1 2 70 63 1 2 64 6d 1 3 64",
   "6d 32 1 3 64 6d 33 1 2 69 75 1 2 5e73 6210 1 2 662d 548c 1 2 5927 6b63 1 2 660e 6cbb 1 4",
   "682a 5f0f 4f1a 793e 1 2 70 61 1 2 6e 61 1 2 3bc 61 1 2 6d 61 1 2 6b 61 1 2 6b 62 1 2 6d",
   "62 1 2 67 62 1 3 63 61 6c 1 4 6b 63 61 6c 1 2 70 66 1 2 6e 66 1 2 3bc 66 1 2 3bc 67 1 2",
   "6d 67 1 2 6b 67 1 2 68 7a 1 3 6b 68 7a 1 3 6d 68 7a 1 3 67 68 7a 1 3 74 68 7a 1 2 3bc 6c",
   "1 2 6d 6c 1 2 64 6c 1 2 6b 6c 1 2 66 6d 1 2 6e 6d 1 2 3bc 6d 1 2 6d 6d 1 2 63 6d 1 2 6b",
   "6d 1 3 6d 6d 32 1 3 63 6d 32 1 2 6d 32 1 3 6b 6d 32 1 3 6d 6d 33 1 3 63 6d 33 1 2 6d 33 1",
   "3 6b 6d 33 1 3 6d 2215 73 1 4 6d 2215 73 32 1 2 70 61 1 3 6b 70 61 1 3 6d 70 61 1 3 67 70",
   "61 1 3 72 61 64 1 5 72 61 64 2215 73 1 6 72 61 64 2215 73 32 1 2 70 73 1 2 6e 73 1 2 3bc",
   "73 1 2 6d 73 1 2 70 76 1 2 6e 76 1 2 3bc 76 1 2 6d 76 1 2 6b 76 1 2 6d 76 1 2 70 77 1 2",
   "6e 77 1 2 3bc 77 1 2 6d 77 1 2 6b 77 1 2 6d 77 1 2 6b 3c9 1 2 6d 3c9 2 2 62 71 1 2 63 63",
   "1 2 63 64 1 4 63 2215 6b 67 2 2 64 62 1 2 67 79 1 2 68 61 1 2 68 70 1 2 69 6e 1 2 6b 6b 1",
   "2 6b 6d 1 2 6b 74 1 2 6c 6d 1 2 6c 6e 1 3 6c 6f 67 1 2 6c 78 1 2 6d 62 1 3 6d 69 6c 1 3",
   "6d 6f 6c 1 2 70 68 2 3 70 70 6d 1 2 70 72 1 2 73 72 1 2 73 76 1 2 77 62 1 3 76 2215 6d 1",
   "3 61 2215 6d 1 2 31 65e5 1 2 32 65e5 1 2 33 65e5 1 2 34 65e5 1 2 35 65e5 1 2 36 65e5 1 2",
   "37 65e5 1 2 38 65e5 1 2 39 65e5 1 3 31 30 65e5 1 3 31 31 65e5 1 3 31 32 65e5 1 3 31 33",
   "65e5 1 3 31 34 65e5 1 3 31 35 65e5 1 3 31 36 65e5 1 3 31 37 65e5 1 3 31 38 65e5 1 3 31 39",
   "65e5 1 3 32 30 65e5 1 3 32 31 65e5 1 3 32 32 65e5 1 3 32 33 65e5 1 3 32 34 65e5 1 3 32 35",
   "65e5 1 3 32 36 65e5 1 3 32 37 65e5 1 3 32 38 65e5 1 3 32 39 65e5 1 3 33 30 65e5 1 3 33 31",
   "65e5 1 3 67 61 6c c701 2 66 66 1 2 66 69 1 2 66 6c 1 3 66 66 69 1 3 66 66 6c 1 2 73 74 1",
   "2 73 74 d 2 574 576 1 2 574 565 1 2 574 56b 1 2 57e 576 1 2 574 56d 38 2 5d0 5dc 8e 2 6c7",
   "674 d 2 626 627 1 2 626 627 1 2 626 6d5 1 2 626 6d5 1 2 626 648 1 2 626 648 1 2 626 6c7 1",
   "2 626 6c7 1 2 626 6c6 1 2 626 6c6 1 2 626 6c8 1 2 626 6c8 1 2 626 6d0 1 2 626 6d0 1 2 626",
   "6d0 1 2 626 649 1 2 626 649 1 2 626 649 5 2 626 62c 1 2 626 62d 1 2 626 645 1 2 626 649 1",
   "2 626 64a 1 2 628 62c 1 2 628 62d 1 2 628 62e 1 2 628 645 1 2 628 649 1 2 628 64a 1 2 62a",
   "62c 1 2 62a 62d 1 2 62a 62e 1 2 62a 645 1 2 62a 649 1 2 62a 64a 1 2 62b 62c 1 2 62b 645 1",
   "2 62b 649 1 2 62b 64a 1 2 62c 62d 1 2 62c 645 1 2 62d 62c 1 2 62d 645 1 2 62e 62c 1 2 62e",
   "62d 1 2 62e 645 1 2 633 62c 1 2 633 62d 1 2 633 62e 1 2 633 645 1 2 635 62d 1 2 635 645 1",
   "2 636 62c 1 2 636 62d 1 2 636 62e 1 2 636 645 1 2 637 62d 1 2 637 645 1 2 638 645 1 2 639",
   "62c 1 2 639 645 1 2 63a 62c 1 2 63a 645 1 2 641 62c 1 2 641 62d 1 2 641 62e 1 2 641 645 1",
   "2 641 649 1 2 641 64a 1 2 642 62d 1 2 642 645 1 2 642 649 1 2 642 64a 1 2 643 627 1 2 643",
   "62c 1 2 643 62d 1 2 643 62e 1 2 643 644 1 2 643 645 1 2 643 649 1 2 643 64a 1 2 644 62c 1",
   "2 644 62d 1 2 644 62e 1 2 644 645 1 2 644 649 1 2 644 64a 1 2 645 62c 1 2 645 62d 1 2 645",
   "62e 1 2 645 645 1 2 645 649 1 2 645 64a 1 2 646 62c 1 2 646 62d 1 2 646 62e 1 2 646 645 1",
   "2 646 649 1 2 646 64a 1 2 647 62c 1 2 647 645 1 2 647 649 1 2 647 64a 1 2 64a 62c 1 2 64a",
   "62d 1 2 64a 62e 1 2 64a 645 1 2 64a 649 1 2 64a 64a 1 2 630 670 1 2 631 670 1 2 649 670 1",
   "3 20 64c 651 1 3 20 64d 651 1 3 20 64e 651 1 3 20 64f 651 1 3 20 650 651 1 3 20 651 670 1",
   "2 626 631 1 2 626 632 1 2 626 645 1 2 626 646 1 2 626 649 1 2 626 64a 1 2 628 631 1 2 628",
   "632 1 2 628 645 1 2 628 646 1 2 628 649 1 2 628 64a 1 2 62a 631 1 2 62a 632 1 2 62a 645 1",
   "2 62a 646 1 2 62a 649 1 2 62a 64a 1 2 62b 631 1 2 62b 632 1 2 62b 645 1 2 62b 646 1 2 62b",
   "649 1 2 62b 64a 1 2 641 649 1 2 641 64a 1 2 642 649 1 2 642 64a 1 2 643 627 1 2 643 644 1",
   "2 643 645 1 2 643 649 1 2 643 64a 1 2 644 645 1 2 644 649 1 2 644 64a 1 2 645 627 1 2 645",
   "645 1 2 646 631 1 2 646 632 1 2 646 645 1 2 646 646 1 2 646 649 1 2 646 64a 1 2 649 670 1",
   "2 64a 631 1 2 64a 632 1 2 64a 645 1 2 64a 646 1 2 64a 649 1 2 64a 64a 1 2 626 62c 1 2 626",
   "62d 1 2 626 62e 1 2 626 645 1 2 626 647 1 2 628 62c 1 2 628 62d 1 2 628 62e 1 2 628 645 1",
   "2 628 647 1 2 62a 62c 1 2 62a 62d 1 2 62a 62e 1 2 62a 645 1 2 62a 647 1 2 62b 645 1 2 62c",
   "62d 1 2 62c 645 1 2 62d 62c 1 2 62d 645 1 2 62e 62c 1 2 62e 645 1 2 633 62c 1 2 633 62d 1",
   "2 633 62e 1 2 633 645 1 2 635 62d 1 2 635 62e 1 2 635 645 1 2 636 62c 1 2 636 62d 1 2 636",
   "62e 1 2 636 645 1 2 637 62d 1 2 638 645 1 2 639 62c 1 2 639 645 1 2 63a 62c 1 2 63a 645 1",
   "2 641 62c 1 2 641 62d 1 2 641 62e 1 2 641 645 1 2 642 62d 1 2 642 645 1 2 643 62c 1 2 643",
   "62d 1 2 643 62e 1 2 643 644 1 2 643 645 1 2 644 62c 1 2 644 62d 1 2 644 62e 1 2 644 645 1",
   "2 644 647 1 2 645 62c 1 2 645 62d 1 2 645 62e 1 2 645 645 1 2 646 62c 1 2 646 62d 1 2 646",
   "62e 1 2 646 645 1 2 646 647 1 2 647 62c 1 2 647 645 1 2 647 670 1 2 64a 62c 1 2 64a 62d 1",
   "2 64a 62e 1 2 64a 645 1 2 64a 647 1 2 626 645 1 2 626 647 1 2 628 645 1 2 628 647 1 2 62a",
   "645 1 2 62a 647 1 2 62b 645 1 2 62b 647 1 2 633 645 1 2 633 647 1 2 634 645 1 2 634 647 1",
   "2 643 644 1 2 643 645 1 2 644 645 1 2 646 645 1 2 646 647 1 2 64a 645 1 2 64a 647 1 3 640",
   "64e 651 1 3 640 64f 651 1 3 640 650 651 1 2 637 649 1 2 637 64a 1 2 639 649 1 2 639 64a 1",
   "2 63a 649 1 2 63a 64a 1 2 633 649 1 2 633 64a 1 2 634 649 1 2 634 64a 1 2 62d 649 1 2 62d",
   "64a 1 2 62c 649 1 2 62c 64a 1 2 62e 649 1 2 62e 64a 1 2 635 649 1 2 635 64a 1 2 636 649 1",
   "2 636 64a 1 2 634 62c 1 2 634 62d 1 2 634 62e 1 2 634 645 1 2 634 631 1 2 633 631 1 2 635",
   "631 1 2 636 631 1 2 637 649 1 2 637 64a 1 2 639 649 1 2 639 64a 1 2 63a 649 1 2 63a 64a 1",
   "2 633 649 1 2 633 64a 1 2 634 649 1 2 634 64a 1 2 62d 649 1 2 62d 64a 1 2 62c 649 1 2 62c",
   "64a 1 2 62e 649 1 2 62e 64a 1 2 635 649 1 2 635 64a 1 2 636 649 1 2 636 64a 1 2 634 62c 1",
   "2 634 62d 1 2 634 62e 1 2 634 645 1 2 634 631 1 2 633 631 1 2 635 631 1 2 636 631 1 2 634",
   "62c 1 2 634 62d 1 2 634 62e 1 2 634 645 1 2 633 647 1 2 634 647 1 2 637 645 1 2 633 62c 1",
   "2 633 62d 1 2 633 62e 1 2 634 62c 1 2 634 62d 1 2 634 62e 1 2 637 645 1 2 638 645 1 2 627",
   "64b 1 2 627 64b 13 3 62a 62c 645 1 3 62a 62d 62c 1 3 62a 62d 62c 1 3 62a 62d 645 1 3 62a",
   "62e 645 1 3 62a 645 62c 1 3 62a 645 62d 1 3 62a 645 62e 1 3 62c 645 62d 1 3 62c 645 62d 1",
   "3 62d 645 64a 1 3 62d 645 649 1 3 633 62d 62c 1 3 633 62c 62d 1 3 633 62c 649 1 3 633 645",
   "62d 1 3 633 645 62d 1 3 633 645 62c 1 3 633 645 645 1 3 633 645 645 1 3 635 62d 62d 1 3",
   "635 62d 62d 1 3 635 645 645 1 3 634 62d 645 1 3 634 62d 645 1 3 634 62c 64a 1 3 634 645",
   "62e 1 3 634 645 62e 1 3 634 645 645 1 3 634 645 645 1 3 636 62d 649 1 3 636 62e 645 1 3",
   "636 62e 645 1 3 637 645 62d 1 3 637 645 62d 1 3 637 645 645 1 3 637 645 64a 1 3 639 62c",
   "645 1 3 639 645 645 1 3 639 645 645 1 3 639 645 649 1 3 63a 645 645 1 3 63a 645 64a 1 3",
   "63a 645 649 1 3 641 62e 645 1 3 641 62e 645 1 3 642 645 62d 1 3 642 645 645 1 3 644 62d",
   "645 1 3 644 62d 64a 1 3 644 62d 649 1 3 644 62c 62c 1 3 644 62c 62c 1 3 644 62e 645 1 3",
   "644 62e 645 1 3 644 645 62d 1 3 644 645 62d 1 3 645 62d 62c 1 3 645 62d 645 1 3 645 62d",
   "64a 1 3 645 62c 62d 1 3 645 62c 645 1 3 645 62e 62c 1 3 645 62e 645 3 3 645 62c 62e 1 3",
   "647 645 62c 1 3 647 645 645 1 3 646 62d 645 1 3 646 62d 649 1 3 646 62c 645 1 3 646 62c",
   "645 1 3 646 62c 649 1 3 646 645 64a 1 3 646 645 649 1 3 64a 645 645 1 3 64a 645 645 1 3",
   "628 62e 64a 1 3 62a 62c 64a 1 3 62a 62c 649 1 3 62a 62e 64a 1 3 62a 62e 649 1 3 62a 645",
   "64a 1 3 62a 645 649 1 3 62c 645 64a 1 3 62c 62d 649 1 3 62c 645 649 1 3 633 62e 649 1 3",
   "635 62d 64a 1 3 634 62d 64a 1 3 636 62d 64a 1 3 644 62c 64a 1 3 644 645 64a 1 3 64a 62d",
   "64a 1 3 64a 62c 64a 1 3 64a 645 64a 1 3 645 645 64a 1 3 642 645 64a 1 3 646 62d 64a 1 3",
   "642 645 62d 1 3 644 62d 645 1 3 639 645 64a 1 3 643 645 64a 1 3 646 62c 62d 1 3 645 62e",
   "64a 1 3 644 62c 645 1 3 643 645 645 1 3 644 62c 645 1 3 646 62c 62d 1 3 62c 62d 64a 1 3",
   "62d 62c 64a 1 3 645 62c 64a 1 3 641 645 64a 1 3 628 62d 64a 1 3 643 645 645 1 3 639 62c",
   "645 1 3 635 645 645 1 3 633 62e 64a 1 3 646 62c 64a 29 3 635 644 6d2 1 3 642 644 6d2 1 4",
   "627 644 644 647 1 4 627 643 628 631 1 4 645 62d 645 62f 1 4 635 644 639 645 1 4 631 633",
   "648 644 1 4 639 644 64a 647 1 4 648 633 644 645 1 3 635 644 649 1 12 635 644 649 20 627",
   "644 644 647 20 639 644 64a 647 20 648 633 644 645 1 8 62c 644 20 62c 644 627 644 647 1 4",
   "631 6cc 627 644 4d 2 20 305 1 2 20 305 1 2 20 305 1 2 20 305 24 2 20 64b 1 2 640 64b 1 2",
   "20 64c 2 2 20 64d 2 2 20 64e 1 2 640 64e 1 2 20 64f 1 2 640 64f 1 2 20 650 1 2 640 650 1",
   "2 20 651 1 2 640 651 1 2 20 652 1 2 640 652 76 2 644 622 1 2 644 622 1 2 644 623 1 2 644",
   "623 1 2 644 625 1 2 644 625 1 2 644 627 1 2 644 627 e7 2 20 304 f11e 2 30 2c 1 2 31 2c 1",
   "2 32 2c 1 2 33 2c 1 2 34 2c 1 2 35 2c 1 2 36 2c 1 2 37 2c 1 2 38 2c 1 2 39 2c 6 3 28 61",
   "29 1 3 28 62 29 1 3 28 63 29 1 3 28 64 29 1 3 28 65 29 1 3 28 66 29 1 3 28 67 29 1 3 28",
   "68 29 1 3 28 69 29 1 3 28 6a 29 1 3 28 6b 29 1 3 28 6c 29 1 3 28 6d 29 1 3 28 6e 29 1 3",
   "28 6f 29 1 3 28 70 29 1 3 28 71 29 1 3 28 72 29 1 3 28 73 29 1 3 28 74 29 1 3 28 75 29 1",
   "3 28 76 29 1 3 28 77 29 1 3 28 78 29 1 3 28 79 29 1 3 28 7a 29 1 3 3014 73 3015 3 2 63 64",
   "1 2 77 7a 1c 2 68 76 1 2 6d 76 1 2 73 64 1 2 73 73 1 3 70 70 76 1 2 77 63 1b 2 6d 63 1 2",
   "6d 64 1 2 6d 72 24 2 64 6a 70 2 307b 304b 1 2 30b3 30b3 3f 3 3014 672c 3015 1 3 3014 4e09",
   "3015 1 3 3014 4e8c 3015 1 3 3014 5b89 3015 1 3 3014 70b9 3015 1 3 3014 6253 3015 1 3 3014",
   "76d7 3015 1 3 3014 52dd 3015 1 3 3014 6557 3015"]

/-- Characters that are left out. -/
def ignoredTable : List String :=
  ["34f 1 e0f 2 653 2 55 5 1954 1 cc9b 10 190 1 d015f f0"]

/-- Characters that are not allowed. -/
def refusedTable : List String :=
  ["2024 3 461 14 b54 c 3c6 1 4 1 10 1 ca39 1 6 1 16 1 21 1 1a9 2 f102 1"]

/-! ### Decoded tables -/

/-- Characters at equal distances, mapped to characters at equal distances. -/
structure MappingRun where
  /-- The characters: the first one, and how many. -/
  source : Unicode.Run
  /-- The distance between two of them. -/
  step : Nat
  /-- The distance between their images. -/
  stride : Nat

/-- The runs of the mapping. -/
def mappingRuns : List MappingRun :=
  [(consecutiveTable, 1, 1),
    (sharedTable, 1, 0),
    (spreadTable, 1, 2),
    (parallelTable, 2, 2),
    (closingTable, 2, 1)].flatMap fun (table, step, stride) =>
    (Unicode.runs table).map fun r => ⟨r, step, stride⟩

/-- Characters that are mapped to several others. -/
def mappingEntries : List (Nat × List Nat) := Unicode.entries sequenceTable

/-- The characters that are left out. -/
def ignoredRanges : List (Nat × Nat) := Unicode.ranges ignoredTable

/-- The characters that are not allowed. -/
def refusedRanges : List (Nat × Nat) := Unicode.ranges refusedTable

end JobHerald.Host
