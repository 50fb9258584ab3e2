import DocStore.Regex.CharSet
/-!
# General categories

The code points of each Unicode general category, as tables of ranges, with the names of the
category in lower case and without separators. What no category holds is unassigned; surrogates
have no category here, since no text holds them.
-/

namespace DocStore.Regex

/-- A general category: its short name, its other names, and its ranges. -/
structure Category where
  code : String
  aliases : List String
  ranges : List String

namespace Category

def uppercaseLetter : Category :=
  ⟨"lu", ["uppercaseletter"], [
    "41-5a c0-d6 d8-de 100-136/2 139-147/2 14a-176/2 178-179 17b 17d 181-182 184 186-187",
    "189-18b 18e-191 193-194 196-198 19c-19d 19f-1a0 1a2 1a4 1a6-1a7 1a9 1ac 1ae-1af 1b1-1b3",
    "1b5 1b7-1b8 1bc 1c4 1c7 1ca 1cd-1db/2 1de-1ee/2 1f1 1f4 1f6-1f8 1fa-232/2 23a-23b 23d-23e",
    "241 243-246 248-24e/2 370 372 376 37f 386 388-38a 38c 38e-38f 391-3a1 3a3-3ab 3cf 3d2-3d4",
    "3d8-3ee/2 3f4 3f7 3f9-3fa 3fd-42f 460-480/2 48a-4be/2 4c0-4c1 4c3-4cd/2 4d0-52e/2 531-556",
    "10a0-10c5 10c7 10cd 13a0-13f5 1c89 1c90-1cba 1cbd-1cbf 1e00-1e94/2 1e9e-1efe/2 1f08-1f0f",
    "1f18-1f1d 1f28-1f2f 1f38-1f3f 1f48-1f4d 1f59-1f5f/2 1f68-1f6f 1fb8-1fbb 1fc8-1fcb",
    "1fd8-1fdb 1fe8-1fec 1ff8-1ffb 2102 2107 210b-210d 2110-2112 2115 2119-211d 2124-2128/2",
    "212a-212d 2130-2133 213e-213f 2145 2183 2c00-2c2f 2c60 2c62-2c64 2c67-2c6b/2 2c6d-2c70",
    "2c72 2c75 2c7e-2c80 2c82-2ce2/2 2ceb 2ced 2cf2 a640-a66c/2 a680-a69a/2 a722-a72e/2",
    "a732-a76e/2 a779 a77b a77d-a77e a780-a786/2 a78b a78d a790 a792 a796-a7a8/2 a7aa-a7ae",
    "a7b0-a7b4 a7b6-a7c2/2 a7c4-a7c7 a7c9 a7cb-a7cc a7d0 a7d6-a7dc/2 a7f5 ff21-ff3a 10400-10427",
    "104b0-104d3 10570-1057a 1057c-1058a 1058c-10592 10594-10595 10c80-10cb2 10d50-10d65",
    "118a0-118bf 16e40-16e5f 1d400-1d419 1d434-1d44d 1d468-1d481 1d49c 1d49e-1d49f 1d4a2",
    "1d4a5-1d4a6 1d4a9-1d4ac 1d4ae-1d4b5 1d4d0-1d4e9 1d504-1d505 1d507-1d50a 1d50d-1d514",
    "1d516-1d51c 1d538-1d539 1d53b-1d53e 1d540-1d544 1d546 1d54a-1d550 1d56c-1d585 1d5a0-1d5b9",
    "1d5d4-1d5ed 1d608-1d621 1d63c-1d655 1d670-1d689 1d6a8-1d6c0 1d6e2-1d6fa 1d71c-1d734",
    "1d756-1d76e 1d790-1d7a8 1d7ca 1e900-1e921"]⟩

def lowercaseLetter : Category :=
  ⟨"ll", ["lowercaseletter"], [
    "61-7a b5 df-f6 f8-ff 101-135/2 137-138 13a-146/2 148-149 14b-177/2 17a 17c 17e-180 183 185",
    "188 18c-18d 192 195 199-19b 19e 1a1-1a5/2 1a8 1aa-1ab 1ad 1b0 1b4 1b6 1b9-1ba 1bd-1bf 1c6",
    "1c9 1cc-1da/2 1dc-1dd 1df-1ed/2 1ef-1f0 1f3 1f5 1f9-231/2 233-239 23c 23f-240 242",
    "247-24d/2 24f-293 295-2af 371 373 377 37b-37d 390 3ac-3ce 3d0-3d1 3d5-3d7 3d9-3ed/2",
    "3ef-3f3 3f5 3f8 3fb-3fc 430-45f 461-481/2 48b-4bf/2 4c2-4cc/2 4ce-4cf 4d1-52f/2 560-588",
    "10d0-10fa 10fd-10ff 13f8-13fd 1c80-1c88 1c8a 1d00-1d2b 1d6b-1d77 1d79-1d9a 1e01-1e93/2",
    "1e95-1e9d 1e9f-1efd/2 1eff-1f07 1f10-1f15 1f20-1f27 1f30-1f37 1f40-1f45 1f50-1f57",
    "1f60-1f67 1f70-1f7d 1f80-1f87 1f90-1f97 1fa0-1fa7 1fb0-1fb4 1fb6-1fb7 1fbe 1fc2-1fc4",
    "1fc6-1fc7 1fd0-1fd3 1fd6-1fd7 1fe0-1fe7 1ff2-1ff4 1ff6-1ff7 210a 210e-210f 2113 212f 2134",
    "2139 213c-213d 2146-2149 214e 2184 2c30-2c5f 2c61 2c65-2c66 2c68-2c6c/2 2c71 2c73-2c74",
    "2c76-2c7b 2c81-2ce1/2 2ce3-2ce4 2cec 2cee 2cf3 2d00-2d25 2d27 2d2d a641-a66d/2 a681-a69b/2",
    "a723-a72d/2 a72f-a731 a733-a76f/2 a771-a778 a77a a77c a77f-a787/2 a78c a78e a791 a793-a795",
    "a797-a7a9/2 a7af a7b5-a7c3/2 a7c8 a7ca a7cd a7d1-a7db/2 a7f6 a7fa ab30-ab5a ab60-ab68",
    "ab70-abbf fb00-fb06 fb13-fb17 ff41-ff5a 10428-1044f 104d8-104fb 10597-105a1 105a3-105b1",
    "105b3-105b9 105bb-105bc 10cc0-10cf2 10d70-10d85 118c0-118df 16e60-16e7f 1d41a-1d433",
    "1d44e-1d454 1d456-1d467 1d482-1d49b 1d4b6-1d4b9 1d4bb 1d4bd-1d4c3 1d4c5-1d4cf 1d4ea-1d503",
    "1d51e-1d537 1d552-1d56b 1d586-1d59f 1d5ba-1d5d3 1d5ee-1d607 1d622-1d63b 1d656-1d66f",
    "1d68a-1d6a5 1d6c2-1d6da 1d6dc-1d6e1 1d6fc-1d714 1d716-1d71b 1d736-1d74e 1d750-1d755",
    "1d770-1d788 1d78a-1d78f 1d7aa-1d7c2 1d7c4-1d7c9 1d7cb 1df00-1df09 1df0b-1df1e 1df25-1df2a",
    "1e922-1e943"]⟩

def titlecaseLetter : Category :=
  ⟨"lt", ["titlecaseletter"], ["1c5 1c8 1cb 1f2 1f88-1f8f 1f98-1f9f 1fa8-1faf 1fbc 1fcc 1ffc"]⟩

def modifierLetter : Category :=
  ⟨"lm", ["modifierletter"], [
    "2b0-2c1 2c6-2d1 2e0-2e4 2ec 2ee 374 37a 559 640 6e5-6e6 7f4-7f5 7fa 81a 824 828 8c9 971",
    "e46 ec6 10fc 17d7 1843 1aa7 1c78-1c7d 1d2c-1d6a 1d78 1d9b-1dbf 2071 207f 2090-209c",
    "2c7c-2c7d 2d6f 2e2f 3005 3031-3035 303b 309d-309e 30fc-30fe a015 a4f8-a4fd a60c a67f",
    "a69c-a69d a717-a71f a770 a788 a7f2-a7f4 a7f8-a7f9 a9cf a9e6 aa70 aadd aaf3-aaf4 ab5c-ab5f",
    "ab69 ff70 ff9e-ff9f 10780-10785 10787-107b0 107b2-107ba 10d4e 10d6f 16b40-16b43",
    "16d40-16d42 16d6b-16d6c 16f93-16f9f 16fe0-16fe1 16fe3 1aff0-1aff3 1aff5-1affb 1affd-1affe",
    "1e030-1e06d 1e137-1e13d 1e4eb 1e94b"]⟩

def otherLetter : Category :=
  ⟨"lo", ["otherletter"], [
    "aa ba 1bb 1c0-1c3 294 5d0-5ea 5ef-5f2 620-63f 641-64a 66e-66f 671-6d3 6d5 6ee-6ef 6fa-6fc",
    "6ff 710 712-72f 74d-7a5 7b1 7ca-7ea 800-815 840-858 860-86a 870-887 889-88e 8a0-8c8",
    "904-939 93d 950 958-961 972-980 985-98c 98f-990 993-9a8 9aa-9b0 9b2 9b6-9b9 9bd 9ce",
    "9dc-9dd 9df-9e1 9f0-9f1 9fc a05-a0a a0f-a10 a13-a28 a2a-a30 a32-a33 a35-a36 a38-a39",
    "a59-a5c a5e a72-a74 a85-a8d a8f-a91 a93-aa8 aaa-ab0 ab2-ab3 ab5-ab9 abd ad0 ae0-ae1 af9",
    "b05-b0c b0f-b10 b13-b28 b2a-b30 b32-b33 b35-b39 b3d b5c-b5d b5f-b61 b71 b83 b85-b8a",
    "b8e-b90 b92-b95 b99-b9a b9c b9e-b9f ba3-ba4 ba8-baa bae-bb9 bd0 c05-c0c c0e-c10 c12-c28",
    "c2a-c39 c3d c58-c5a c5d c60-c61 c80 c85-c8c c8e-c90 c92-ca8 caa-cb3 cb5-cb9 cbd cdd-cde",
    "ce0-ce1 cf1-cf2 d04-d0c d0e-d10 d12-d3a d3d d4e d54-d56 d5f-d61 d7a-d7f d85-d96 d9a-db1",
    "db3-dbb dbd dc0-dc6 e01-e30 e32-e33 e40-e45 e81-e82 e84 e86-e8a e8c-ea3 ea5 ea7-eb0",
    "eb2-eb3 ebd ec0-ec4 edc-edf f00 f40-f47 f49-f6c f88-f8c 1000-102a 103f 1050-1055 105a-105d",
    "1061 1065-1066 106e-1070 1075-1081 108e 1100-1248 124a-124d 1250-1256 1258 125a-125d",
    "1260-1288 128a-128d 1290-12b0 12b2-12b5 12b8-12be 12c0 12c2-12c5 12c8-12d6 12d8-1310",
    "1312-1315 1318-135a 1380-138f 1401-166c 166f-167f 1681-169a 16a0-16ea 16f1-16f8 1700-1711",
    "171f-1731 1740-1751 1760-176c 176e-1770 1780-17b3 17dc 1820-1842 1844-1878 1880-1884",
    "1887-18a8 18aa 18b0-18f5 1900-191e 1950-196d 1970-1974 1980-19ab 19b0-19c9 1a00-1a16",
    "1a20-1a54 1b05-1b33 1b45-1b4c 1b83-1ba0 1bae-1baf 1bba-1be5 1c00-1c23 1c4d-1c4f 1c5a-1c77",
    "1ce9-1cec 1cee-1cf3 1cf5-1cf6 1cfa 2135-2138 2d30-2d67 2d80-2d96 2da0-2da6 2da8-2dae",
    "2db0-2db6 2db8-2dbe 2dc0-2dc6 2dc8-2dce 2dd0-2dd6 2dd8-2dde 3006 303c 3041-3096 309f",
    "30a1-30fa 30ff 3105-312f 3131-318e 31a0-31bf 31f0-31ff 3400-4dbf 4e00-a014 a016-a48c",
    "a4d0-a4f7 a500-a60b a610-a61f a62a-a62b a66e a6a0-a6e5 a78f a7f7 a7fb-a801 a803-a805",
    "a807-a80a a80c-a822 a840-a873 a882-a8b3 a8f2-a8f7 a8fb a8fd-a8fe a90a-a925 a930-a946",
    "a960-a97c a984-a9b2 a9e0-a9e4 a9e7-a9ef a9fa-a9fe aa00-aa28 aa40-aa42 aa44-aa4b aa60-aa6f",
    "aa71-aa76 aa7a aa7e-aaaf aab1 aab5-aab6 aab9-aabd aac0 aac2 aadb-aadc aae0-aaea aaf2",
    "ab01-ab06 ab09-ab0e ab11-ab16 ab20-ab26 ab28-ab2e abc0-abe2 ac00-d7a3 d7b0-d7c6 d7cb-d7fb",
    "f900-fa6d fa70-fad9 fb1d fb1f-fb28 fb2a-fb36 fb38-fb3c fb3e fb40-fb41 fb43-fb44 fb46-fbb1",
    "fbd3-fd3d fd50-fd8f fd92-fdc7 fdf0-fdfb fe70-fe74 fe76-fefc ff66-ff6f ff71-ff9d ffa0-ffbe",
    "ffc2-ffc7 ffca-ffcf ffd2-ffd7 ffda-ffdc 10000-1000b 1000d-10026 10028-1003a 1003c-1003d",
    "1003f-1004d 10050-1005d 10080-100fa 10280-1029c 102a0-102d0 10300-1031f 1032d-10340",
    "10342-10349 10350-10375 10380-1039d 103a0-103c3 103c8-103cf 10450-1049d 10500-10527",
    "10530-10563 105c0-105f3 10600-10736 10740-10755 10760-10767 10800-10805 10808 1080a-10835",
    "10837-10838 1083c 1083f-10855 10860-10876 10880-1089e 108e0-108f2 108f4-108f5 10900-10915",
    "10920-10939 10980-109b7 109be-109bf 10a00 10a10-10a13 10a15-10a17 10a19-10a35 10a60-10a7c",
    "10a80-10a9c 10ac0-10ac7 10ac9-10ae4 10b00-10b35 10b40-10b55 10b60-10b72 10b80-10b91",
    "10c00-10c48 10d00-10d23 10d4a-10d4d 10d4f 10e80-10ea9 10eb0-10eb1 10ec2-10ec4 10f00-10f1c",
    "10f27 10f30-10f45 10f70-10f81 10fb0-10fc4 10fe0-10ff6 11003-11037 11071-11072 11075",
    "11083-110af 110d0-110e8 11103-11126 11144 11147 11150-11172 11176 11183-111b2 111c1-111c4",
    "111da 111dc 11200-11211 11213-1122b 1123f-11240 11280-11286 11288 1128a-1128d 1128f-1129d",
    "1129f-112a8 112b0-112de 11305-1130c 1130f-11310 11313-11328 1132a-11330 11332-11333",
    "11335-11339 1133d 11350 1135d-11361 11380-11389 1138b 1138e 11390-113b5 113b7 113d1 113d3",
    "11400-11434 11447-1144a 1145f-11461 11480-114af 114c4-114c5 114c7 11580-115ae 115d8-115db",
    "11600-1162f 11644 11680-116aa 116b8 11700-1171a 11740-11746 11800-1182b 118ff-11906 11909",
    "1190c-11913 11915-11916 11918-1192f 1193f 11941 119a0-119a7 119aa-119d0 119e1 119e3 11a00",
    "11a0b-11a32 11a3a 11a50 11a5c-11a89 11a9d 11ab0-11af8 11bc0-11be0 11c00-11c08 11c0a-11c2e",
    "11c40 11c72-11c8f 11d00-11d06 11d08-11d09 11d0b-11d30 11d46 11d60-11d65 11d67-11d68",
    "11d6a-11d89 11d98 11ee0-11ef2 11f02 11f04-11f10 11f12-11f33 11fb0 12000-12399 12480-12543",
    "12f90-12ff0 13000-1342f 13441-13446 13460-143fa 14400-14646 16100-1611d 16800-16a38",
    "16a40-16a5e 16a70-16abe 16ad0-16aed 16b00-16b2f 16b63-16b77 16b7d-16b8f 16d43-16d6a",
    "16f00-16f4a 16f50 17000-187f7 18800-18cd5 18cff-18d08 1b000-1b122 1b132 1b150-1b152 1b155",
    "1b164-1b167 1b170-1b2fb 1bc00-1bc6a 1bc70-1bc7c 1bc80-1bc88 1bc90-1bc99 1df0a 1e100-1e12c",
    "1e14e 1e290-1e2ad 1e2c0-1e2eb 1e4d0-1e4ea 1e5d0-1e5ed 1e5f0 1e7e0-1e7e6 1e7e8-1e7eb",
    "1e7ed-1e7ee 1e7f0-1e7fe 1e800-1e8c4 1ee00-1ee03 1ee05-1ee1f 1ee21-1ee22 1ee24 1ee27",
    "1ee29-1ee32 1ee34-1ee37 1ee39 1ee3b 1ee42 1ee47-1ee4b/2 1ee4d-1ee4f 1ee51-1ee52 1ee54",
    "1ee57-1ee5f/2 1ee61-1ee62 1ee64 1ee67-1ee6a 1ee6c-1ee72 1ee74-1ee77 1ee79-1ee7c 1ee7e",
    "1ee80-1ee89 1ee8b-1ee9b 1eea1-1eea3 1eea5-1eea9 1eeab-1eebb 20000-2a6df 2a700-2b739",
    "2b740-2b81d 2b820-2cea1 2ceb0-2ebe0 2ebf0-2ee5d 2f800-2fa1d 30000-3134a 31350-323af"]⟩

def nonspacingMark : Category :=
  ⟨"mn", ["nonspacingmark"], [
    "300-36f 483-487 591-5bd 5bf 5c1-5c2 5c4-5c5 5c7 610-61a 64b-65f 670 6d6-6dc 6df-6e4",
    "6e7-6e8 6ea-6ed 711 730-74a 7a6-7b0 7eb-7f3 7fd 816-819 81b-823 825-827 829-82d 859-85b",
    "897-89f 8ca-8e1 8e3-902 93a 93c 941-948 94d 951-957 962-963 981 9bc 9c1-9c4 9cd 9e2-9e3",
    "9fe a01-a02 a3c a41-a42 a47-a48 a4b-a4d a51 a70-a71 a75 a81-a82 abc ac1-ac5 ac7-ac8 acd",
    "ae2-ae3 afa-aff b01 b3c b3f b41-b44 b4d b55-b56 b62-b63 b82 bc0 bcd c00 c04 c3c c3e-c40",
    "c46-c48 c4a-c4d c55-c56 c62-c63 c81 cbc cbf cc6 ccc-ccd ce2-ce3 d00-d01 d3b-d3c d41-d44",
    "d4d d62-d63 d81 dca dd2-dd4 dd6 e31 e34-e3a e47-e4e eb1 eb4-ebc ec8-ece f18-f19 f35-f39/2",
    "f71-f7e f80-f84 f86-f87 f8d-f97 f99-fbc fc6 102d-1030 1032-1037 1039-103a 103d-103e",
    "1058-1059 105e-1060 1071-1074 1082 1085-1086 108d 109d 135d-135f 1712-1714 1732-1733",
    "1752-1753 1772-1773 17b4-17b5 17b7-17bd 17c6 17c9-17d3 17dd 180b-180d 180f 1885-1886 18a9",
    "1920-1922 1927-1928 1932 1939-193b 1a17-1a18 1a1b 1a56 1a58-1a5e 1a60 1a62 1a65-1a6c",
    "1a73-1a7c 1a7f 1ab0-1abd 1abf-1ace 1b00-1b03 1b34 1b36-1b3a 1b3c 1b42 1b6b-1b73 1b80-1b81",
    "1ba2-1ba5 1ba8-1ba9 1bab-1bad 1be6 1be8-1be9 1bed 1bef-1bf1 1c2c-1c33 1c36-1c37 1cd0-1cd2",
    "1cd4-1ce0 1ce2-1ce8 1ced 1cf4 1cf8-1cf9 1dc0-1dff 20d0-20dc 20e1 20e5-20f0 2cef-2cf1 2d7f",
    "2de0-2dff 302a-302d 3099-309a a66f a674-a67d a69e-a69f a6f0-a6f1 a802 a806 a80b a825-a826",
    "a82c a8c4-a8c5 a8e0-a8f1 a8ff a926-a92d a947-a951 a980-a982 a9b3 a9b6-a9b9 a9bc-a9bd a9e5",
    "aa29-aa2e aa31-aa32 aa35-aa36 aa43 aa4c aa7c aab0 aab2-aab4 aab7-aab8 aabe-aabf aac1",
    "aaec-aaed aaf6 abe5 abe8 abed fb1e fe00-fe0f fe20-fe2f 101fd 102e0 10376-1037a 10a01-10a03",
    "10a05-10a06 10a0c-10a0f 10a38-10a3a 10a3f 10ae5-10ae6 10d24-10d27 10d69-10d6d 10eab-10eac",
    "10efc-10eff 10f46-10f50 10f82-10f85 11001 11038-11046 11070 11073-11074 1107f-11081",
    "110b3-110b6 110b9-110ba 110c2 11100-11102 11127-1112b 1112d-11134 11173 11180-11181",
    "111b6-111be 111c9-111cc 111cf 1122f-11231 11234 11236-11237 1123e 11241 112df 112e3-112ea",
    "11300-11301 1133b-1133c 11340 11366-1136c 11370-11374 113bb-113c0 113ce-113d2/2",
    "113e1-113e2 11438-1143f 11442-11444 11446 1145e 114b3-114b8 114ba 114bf-114c0 114c2-114c3",
    "115b2-115b5 115bc-115bd 115bf-115c0 115dc-115dd 11633-1163a 1163d 1163f-11640 116ab 116ad",
    "116b0-116b5 116b7 1171d 1171f 11722-11725 11727-1172b 1182f-11837 11839-1183a 1193b-1193c",
    "1193e 11943 119d4-119d7 119da-119db 119e0 11a01-11a0a 11a33-11a38 11a3b-11a3e 11a47",
    "11a51-11a56 11a59-11a5b 11a8a-11a96 11a98-11a99 11c30-11c36 11c38-11c3d 11c3f 11c92-11ca7",
    "11caa-11cb0 11cb2-11cb3 11cb5-11cb6 11d31-11d36 11d3a 11d3c-11d3d 11d3f-11d45 11d47",
    "11d90-11d91 11d95 11d97 11ef3-11ef4 11f00-11f01 11f36-11f3a 11f40 11f42 11f5a 13440",
    "13447-13455 1611e-16129 1612d-1612f 16af0-16af4 16b30-16b36 16f4f 16f8f-16f92 16fe4",
    "1bc9d-1bc9e 1cf00-1cf2d 1cf30-1cf46 1d167-1d169 1d17b-1d182 1d185-1d18b 1d1aa-1d1ad",
    "1d242-1d244 1da00-1da36 1da3b-1da6c 1da75 1da84 1da9b-1da9f 1daa1-1daaf 1e000-1e006",
    "1e008-1e018 1e01b-1e021 1e023-1e024 1e026-1e02a 1e08f 1e130-1e136 1e2ae 1e2ec-1e2ef",
    "1e4ec-1e4ef 1e5ee-1e5ef 1e8d0-1e8d6 1e944-1e94a e0100-e01ef"]⟩

def spacingMark : Category :=
  ⟨"mc", ["spacingmark"], [
    "903 93b 93e-940 949-94c 94e-94f 982-983 9be-9c0 9c7-9c8 9cb-9cc 9d7 a03 a3e-a40 a83",
    "abe-ac0 ac9 acb-acc b02-b03 b3e b40 b47-b48 b4b-b4c b57 bbe-bbf bc1-bc2 bc6-bc8 bca-bcc",
    "bd7 c01-c03 c41-c44 c82-c83 cbe cc0-cc4 cc7-cc8 cca-ccb cd5-cd6 cf3 d02-d03 d3e-d40",
    "d46-d48 d4a-d4c d57 d82-d83 dcf-dd1 dd8-ddf df2-df3 f3e-f3f f7f 102b-102c 1031 1038",
    "103b-103c 1056-1057 1062-1064 1067-106d 1083-1084 1087-108c 108f 109a-109c 1715 1734 17b6",
    "17be-17c5 17c7-17c8 1923-1926 1929-192b 1930-1931 1933-1938 1a19-1a1a 1a55 1a57 1a61",
    "1a63-1a64 1a6d-1a72 1b04 1b35 1b3b 1b3d-1b41 1b43-1b44 1b82 1ba1 1ba6-1ba7 1baa 1be7",
    "1bea-1bec 1bee 1bf2-1bf3 1c24-1c2b 1c34-1c35 1ce1 1cf7 302e-302f a823-a824 a827 a880-a881",
    "a8b4-a8c3 a952-a953 a983 a9b4-a9b5 a9ba-a9bb a9be-a9c0 aa2f-aa30 aa33-aa34 aa4d aa7b aa7d",
    "aaeb aaee-aaef aaf5 abe3-abe4 abe6-abe7 abe9-abea abec 11000 11002 11082 110b0-110b2",
    "110b7-110b8 1112c 11145-11146 11182 111b3-111b5 111bf-111c0 111ce 1122c-1122e 11232-11233",
    "11235 112e0-112e2 11302-11303 1133e-1133f 11341-11344 11347-11348 1134b-1134d 11357",
    "11362-11363 113b8-113ba 113c2 113c5 113c7-113ca 113cc-113cd 113cf 11435-11437 11440-11441",
    "11445 114b0-114b2 114b9 114bb-114be 114c1 115af-115b1 115b8-115bb 115be 11630-11632",
    "1163b-1163c 1163e 116ac 116ae-116af 116b6 1171e 11720-11721 11726 1182c-1182e 11838",
    "11930-11935 11937-11938 1193d 11940 11942 119d1-119d3 119dc-119df 119e4 11a39 11a57-11a58",
    "11a97 11c2f 11c3e 11ca9 11cb1 11cb4 11d8a-11d8e 11d93-11d94 11d96 11ef5-11ef6 11f03",
    "11f34-11f35 11f3e-11f3f 11f41 1612a-1612c 16f51-16f87 16ff0-16ff1 1d165-1d166 1d16d-1d172"]⟩

def enclosingMark : Category :=
  ⟨"me", ["enclosingmark"], ["488-489 1abe 20dd-20e0 20e2-20e4 a670-a672"]⟩

def decimalNumber : Category :=
  ⟨"nd", ["decimalnumber", "digit"], [
    "30-39 660-669 6f0-6f9 7c0-7c9 966-96f 9e6-9ef a66-a6f ae6-aef b66-b6f be6-bef c66-c6f",
    "ce6-cef d66-d6f de6-def e50-e59 ed0-ed9 f20-f29 1040-1049 1090-1099 17e0-17e9 1810-1819",
    "1946-194f 19d0-19d9 1a80-1a89 1a90-1a99 1b50-1b59 1bb0-1bb9 1c40-1c49 1c50-1c59 a620-a629",
    "a8d0-a8d9 a900-a909 a9d0-a9d9 a9f0-a9f9 aa50-aa59 abf0-abf9 ff10-ff19 104a0-104a9",
    "10d30-10d39 10d40-10d49 11066-1106f 110f0-110f9 11136-1113f 111d0-111d9 112f0-112f9",
    "11450-11459 114d0-114d9 11650-11659 116c0-116c9 116d0-116e3 11730-11739 118e0-118e9",
    "11950-11959 11bf0-11bf9 11c50-11c59 11d50-11d59 11da0-11da9 11f50-11f59 16130-16139",
    "16a60-16a69 16ac0-16ac9 16b50-16b59 16d70-16d79 1ccf0-1ccf9 1d7ce-1d7ff 1e140-1e149",
    "1e2f0-1e2f9 1e4f0-1e4f9 1e5f1-1e5fa 1e950-1e959 1fbf0-1fbf9"]⟩

def letterNumber : Category :=
  ⟨"nl", ["letternumber"], [
    "16ee-16f0 2160-2182 2185-2188 3007 3021-3029 3038-303a a6e6-a6ef 10140-10174 10341 1034a",
    "103d1-103d5 12400-1246e"]⟩

def otherNumber : Category :=
  ⟨"no", ["othernumber"], [
    "b2-b3 b9 bc-be 9f4-9f9 b72-b77 bf0-bf2 c78-c7e d58-d5e d70-d78 f2a-f33 1369-137c 17f0-17f9",
    "19da 2070 2074-2079 2080-2089 2150-215f 2189 2460-249b 24ea-24ff 2776-2793 2cfd 3192-3195",
    "3220-3229 3248-324f 3251-325f 3280-3289 32b1-32bf a830-a835 10107-10133 10175-10178",
    "1018a-1018b 102e1-102fb 10320-10323 10858-1085f 10879-1087f 108a7-108af 108fb-108ff",
    "10916-1091b 109bc-109bd 109c0-109cf 109d2-109ff 10a40-10a48 10a7d-10a7e 10a9d-10a9f",
    "10aeb-10aef 10b58-10b5f 10b78-10b7f 10ba9-10baf 10cfa-10cff 10e60-10e7e 10f1d-10f26",
    "10f51-10f54 10fc5-10fcb 11052-11065 111e1-111f4 1173a-1173b 118ea-118f2 11c5a-11c6c",
    "11fc0-11fd4 16b5b-16b61 16e80-16e96 1d2c0-1d2d3 1d2e0-1d2f3 1d360-1d378 1e8c7-1e8cf",
    "1ec71-1ecab 1ecad-1ecaf 1ecb1-1ecb4 1ed01-1ed2d 1ed2f-1ed3d 1f100-1f10c"]⟩

def connectorPunctuation : Category :=
  ⟨"pc", ["connectorpunctuation"], ["5f 203f-2040 2054 fe33-fe34 fe4d-fe4f ff3f"]⟩

def dashPunctuation : Category :=
  ⟨"pd", ["dashpunctuation"], [
    "2d 58a 5be 1400 1806 2010-2015 2e17 2e1a 2e3a-2e3b 2e40 2e5d 301c 3030 30a0 fe31-fe32 fe58",
    "fe63 ff0d 10d6e 10ead"]⟩

def openPunctuation : Category :=
  ⟨"ps", ["openpunctuation"], [
    "28 5b 7b f3a f3c 169b 201a 201e 2045 207d 208d 2308 230a 2329 2768-2774/2 27c5 27e6-27ee/2",
    "2983-2997/2 29d8 29da 29fc 2e22-2e28/2 2e42 2e55-2e5b/2 3008-3010/2 3014-301a/2 301d fd3f",
    "fe17 fe35-fe43/2 fe47 fe59-fe5d/2 ff08 ff3b ff5b ff5f ff62"]⟩

def closePunctuation : Category :=
  ⟨"pe", ["closepunctuation"], [
    "29 5d 7d f3b f3d 169c 2046 207e 208e 2309 230b 232a 2769-2775/2 27c6 27e7-27ef/2",
    "2984-2998/2 29d9 29db 29fd 2e23-2e29/2 2e56-2e5c/2 3009-3011/2 3015-301b/2 301e-301f fd3e",
    "fe18 fe36-fe44/2 fe48 fe5a-fe5e/2 ff09 ff3d ff5d ff60 ff63"]⟩

def initialPunctuation : Category :=
  ⟨"pi", ["initialpunctuation"], ["ab 2018 201b-201c 201f 2039 2e02 2e04 2e09 2e0c 2e1c 2e20"]⟩

def finalPunctuation : Category :=
  ⟨"pf", ["finalpunctuation"], ["bb 2019 201d 203a 2e03 2e05 2e0a 2e0d 2e1d 2e21"]⟩

def otherPunctuation : Category :=
  ⟨"po", ["otherpunctuation"], [
    "21-23 25-27 2a 2c 2e-2f 3a-3b 3f-40 5c a1 a7 b6-b7 bf 37e 387 55a-55f 589 5c0 5c3 5c6",
    "5f3-5f4 609-60a 60c-60d 61b 61d-61f 66a-66d 6d4 700-70d 7f7-7f9 830-83e 85e 964-965 970",
    "9fd a76 af0 c77 c84 df4 e4f e5a-e5b f04-f12 f14 f85 fd0-fd4 fd9-fda 104a-104f 10fb",
    "1360-1368 166e 16eb-16ed 1735-1736 17d4-17d6 17d8-17da 1800-1805 1807-180a 1944-1945",
    "1a1e-1a1f 1aa0-1aa6 1aa8-1aad 1b4e-1b4f 1b5a-1b60 1b7d-1b7f 1bfc-1bff 1c3b-1c3f 1c7e-1c7f",
    "1cc0-1cc7 1cd3 2016-2017 2020-2027 2030-2038 203b-203e 2041-2043 2047-2051 2053 2055-205e",
    "2cf9-2cfc 2cfe-2cff 2d70 2e00-2e01 2e06-2e08 2e0b 2e0e-2e16 2e18-2e19 2e1b 2e1e-2e1f",
    "2e2a-2e2e 2e30-2e39 2e3c-2e3f 2e41 2e43-2e4f 2e52-2e54 3001-3003 303d 30fb a4fe-a4ff",
    "a60d-a60f a673 a67e a6f2-a6f7 a874-a877 a8ce-a8cf a8f8-a8fa a8fc a92e-a92f a95f a9c1-a9cd",
    "a9de-a9df aa5c-aa5f aade-aadf aaf0-aaf1 abeb fe10-fe16 fe19 fe30 fe45-fe46 fe49-fe4c",
    "fe50-fe52 fe54-fe57 fe5f-fe61 fe68 fe6a-fe6b ff01-ff03 ff05-ff07 ff0a ff0c ff0e-ff0f",
    "ff1a-ff1b ff1f-ff20 ff3c ff61 ff64-ff65 10100-10102 1039f 103d0 1056f 10857 1091f 1093f",
    "10a50-10a58 10a7f 10af0-10af6 10b39-10b3f 10b99-10b9c 10f55-10f59 10f86-10f89 11047-1104d",
    "110bb-110bc 110be-110c1 11140-11143 11174-11175 111c5-111c8 111cd 111db 111dd-111df",
    "11238-1123d 112a9 113d4-113d5 113d7-113d8 1144b-1144f 1145a-1145b 1145d 114c6 115c1-115d7",
    "11641-11643 11660-1166c 116b9 1173c-1173e 1183b 11944-11946 119e2 11a3f-11a46 11a9a-11a9c",
    "11a9e-11aa2 11b00-11b09 11be1 11c41-11c45 11c70-11c71 11ef7-11ef8 11f43-11f4f 11fff",
    "12470-12474 12ff1-12ff2 16a6e-16a6f 16af5 16b37-16b3b 16b44 16d6d-16d6f 16e97-16e9a 16fe2",
    "1bc9f 1da87-1da8b 1e5ff 1e95e-1e95f"]⟩

def mathSymbol : Category :=
  ⟨"sm", ["mathsymbol"], [
    "2b 3c-3e 7c 7e ac b1 d7 f7 3f6 606-608 2044 2052 207a-207c 208a-208c 2118 2140-2144 214b",
    "2190-2194 219a-219b 21a0 21a3 21a6 21ae 21ce-21cf 21d2 21d4 21f4-22ff 2320-2321 237c",
    "239b-23b3 23dc-23e1 25b7 25c1 25f8-25ff 266f 27c0-27c4 27c7-27e5 27f0-27ff 2900-2982",
    "2999-29d7 29dc-29fb 29fe-2aff 2b30-2b44 2b47-2b4c fb29 fe62 fe64-fe66 ff0b ff1c-ff1e ff5c",
    "ff5e ffe2 ffe9-ffec 10d8e-10d8f 1d6c1 1d6db 1d6fb 1d715 1d735 1d74f 1d76f 1d789 1d7a9",
    "1d7c3 1eef0-1eef1"]⟩

def currencySymbol : Category :=
  ⟨"sc", ["currencysymbol"], [
    "24 a2-a5 58f 60b 7fe-7ff 9f2-9f3 9fb af1 bf9 e3f 17db 20a0-20c0 a838 fdfc fe69 ff04",
    "ffe0-ffe1 ffe5-ffe6 11fdd-11fe0 1e2ff 1ecb0"]⟩

def modifierSymbol : Category :=
  ⟨"sk", ["modifiersymbol"], [
    "5e 60 a8 af b4 b8 2c2-2c5 2d2-2df 2e5-2eb 2ed 2ef-2ff 375 384-385 888 1fbd 1fbf-1fc1",
    "1fcd-1fcf 1fdd-1fdf 1fed-1fef 1ffd-1ffe 309b-309c a700-a716 a720-a721 a789-a78a ab5b",
    "ab6a-ab6b fbb2-fbc2 ff3e ff40 ffe3 1f3fb-1f3ff"]⟩

def otherSymbol : Category :=
  ⟨"so", ["othersymbol"], [
    "a6 a9 ae b0 482 58d-58e 60e-60f 6de 6e9 6fd-6fe 7f6 9fa b70 bf3-bf8 bfa c7f d4f d79",
    "f01-f03 f13 f15-f17 f1a-f1f f34-f38/2 fbe-fc5 fc7-fcc fce-fcf fd5-fd8 109e-109f 1390-1399",
    "166d 1940 19de-19ff 1b61-1b6a 1b74-1b7c 2100-2101 2103-2106 2108-2109 2114 2116-2117",
    "211e-2123 2125-2129/2 212e 213a-213b 214a 214c-214d 214f 218a-218b 2195-2199 219c-219f",
    "21a1-21a2 21a4-21a5 21a7-21ad 21af-21cd 21d0-21d1 21d3 21d5-21f3 2300-2307 230c-231f",
    "2322-2328 232b-237b 237d-239a 23b4-23db 23e2-2429 2440-244a 249c-24e9 2500-25b6 25b8-25c0",
    "25c2-25f7 2600-266e 2670-2767 2794-27bf 2800-28ff 2b00-2b2f 2b45-2b46 2b4d-2b73 2b76-2b95",
    "2b97-2bff 2ce5-2cea 2e50-2e51 2e80-2e99 2e9b-2ef3 2f00-2fd5 2ff0-2fff 3004 3012-3013 3020",
    "3036-3037 303e-303f 3190-3191 3196-319f 31c0-31e5 31ef 3200-321e 322a-3247 3250 3260-327f",
    "328a-32b0 32c0-33ff 4dc0-4dff a490-a4c6 a828-a82b a836-a837 a839 aa77-aa79 fd40-fd4f fdcf",
    "fdfd-fdff ffe4 ffe8 ffed-ffee fffc-fffd 10137-1013f 10179-10189 1018c-1018e 10190-1019c",
    "101a0 101d0-101fc 10877-10878 10ac8 1173f 11fd5-11fdc 11fe1-11ff1 16b3c-16b3f 16b45 1bc9c",
    "1cc00-1ccef 1cd00-1ceb3 1cf50-1cfc3 1d000-1d0f5 1d100-1d126 1d129-1d164 1d16a-1d16c",
    "1d183-1d184 1d18c-1d1a9 1d1ae-1d1ea 1d200-1d241 1d245 1d300-1d356 1d800-1d9ff 1da37-1da3a",
    "1da6d-1da74 1da76-1da83 1da85-1da86 1e14f 1ecac 1ed2e 1f000-1f02b 1f030-1f093 1f0a0-1f0ae",
    "1f0b1-1f0bf 1f0c1-1f0cf 1f0d1-1f0f5 1f10d-1f1ad 1f1e6-1f202 1f210-1f23b 1f240-1f248",
    "1f250-1f251 1f260-1f265 1f300-1f3fa 1f400-1f6d7 1f6dc-1f6ec 1f6f0-1f6fc 1f700-1f776",
    "1f77b-1f7d9 1f7e0-1f7eb 1f7f0 1f800-1f80b 1f810-1f847 1f850-1f859 1f860-1f887 1f890-1f8ad",
    "1f8b0-1f8bb 1f8c0-1f8c1 1f900-1fa53 1fa60-1fa6d 1fa70-1fa7c 1fa80-1fa89 1fa8f-1fac6",
    "1face-1fadc 1fadf-1fae9 1faf0-1faf8 1fb00-1fb92 1fb94-1fbef"]⟩

def spaceSeparator : Category :=
  ⟨"zs", ["spaceseparator"], ["20 a0 1680 2000-200a 202f 205f 3000"]⟩

def lineSeparator : Category :=
  ⟨"zl", ["lineseparator"], ["2028"]⟩

def paragraphSeparator : Category :=
  ⟨"zp", ["paragraphseparator"], ["2029"]⟩

def control : Category :=
  ⟨"cc", ["cntrl", "control"], ["0-1f 7f-9f"]⟩

def format : Category :=
  ⟨"cf", ["format"], [
    "ad 600-605 61c 6dd 70f 890-891 8e2 180e 200b-200f 202a-202e 2060-2064 2066-206f feff",
    "fff9-fffb 110bd 110cd 13430-1343f 1bca0-1bca3 1d173-1d17a e0001 e0020-e007f"]⟩

def privateUse : Category :=
  ⟨"co", ["privateuse"], ["e000-f8ff f0000-ffffd 100000-10fffd"]⟩

/-- All general categories. -/
def all : List Category :=
  [uppercaseLetter, lowercaseLetter, titlecaseLetter, modifierLetter, otherLetter, nonspacingMark,
   spacingMark, enclosingMark, decimalNumber, letterNumber, otherNumber, connectorPunctuation,
   dashPunctuation, openPunctuation, closePunctuation, initialPunctuation, finalPunctuation,
   otherPunctuation, mathSymbol, currencySymbol, modifierSymbol, otherSymbol, spaceSeparator,
   lineSeparator, paragraphSeparator, control, format, privateUse]

end Category

end DocStore.Regex
