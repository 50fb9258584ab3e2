import DocStore.Regex.CharSet
/-!
# Ages

The code points that each version of Unicode added, as tables of ranges. A character has the age of
a version if that version holds it, so `Age.charSet?` collects the versions up to the one named.
-/

namespace DocStore.Regex

/-- A version of Unicode and what it added. -/
structure Age where
  version : String
  ranges : List String

namespace Age

/-- The versions before 5.0. -/
def earlier : List Age :=
  [⟨"1.1", [
    "0-1f5 1fa-217 250-2a8 2b0-2de 2e0-2e9 300-345 360-361 374-375 37a 37e 384-38a 38c 38e-3a1",
    "3a3-3ce 3d0-3d6 3da-3e0/2 3e2-3f3 401-40c 40e-44f 451-45c 45e-486 490-4c4 4c7-4c8 4cb-4cc",
    "4d0-4eb 4ee-4f5 4f8-4f9 531-556 559-55f 561-587 589 5b0-5b9 5bb-5c3 5d0-5ea 5f0-5f4 60c",
    "61b 61f 621-63a 640-652 660-66d 670-6b7 6ba-6be 6c0-6ce 6d0-6ed 6f0-6f9 901-903 905-939",
    "93c-94d 950-954 958-970 981-983 985-98c 98f-990 993-9a8 9aa-9b0 9b2 9b6-9b9 9bc 9be-9c4",
    "9c7-9c8 9cb-9cd 9d7 9dc-9dd 9df-9e3 9e6-9fa a02 a05-a0a a0f-a10 a13-a28 a2a-a30 a32-a33",
    "a35-a36 a38-a39 a3c a3e-a42 a47-a48 a4b-a4d a59-a5c a5e a66-a74 a81-a83 a85-a8b a8d",
    "a8f-a91 a93-aa8 aaa-ab0 ab2-ab3 ab5-ab9 abc-ac5 ac7-ac9 acb-acd ad0 ae0 ae6-aef b01-b03",
    "b05-b0c b0f-b10 b13-b28 b2a-b30 b32-b33 b36-b39 b3c-b43 b47-b48 b4b-b4d b56-b57 b5c-b5d",
    "b5f-b61 b66-b70 b82-b83 b85-b8a b8e-b90 b92-b95 b99-b9a b9c b9e-b9f ba3-ba4 ba8-baa",
    "bae-bb5 bb7-bb9 bbe-bc2 bc6-bc8 bca-bcd bd7 be7-bf2 c01-c03 c05-c0c c0e-c10 c12-c28",
    "c2a-c33 c35-c39 c3e-c44 c46-c48 c4a-c4d c55-c56 c60-c61 c66-c6f c82-c83 c85-c8c c8e-c90",
    "c92-ca8 caa-cb3 cb5-cb9 cbe-cc4 cc6-cc8 cca-ccd cd5-cd6 cde ce0-ce1 ce6-cef d02-d03",
    "d05-d0c d0e-d10 d12-d28 d2a-d39 d3e-d43 d46-d48 d4a-d4d d57 d60-d61 d66-d6f e01-e3a",
    "e3f-e5b e81-e82 e84 e87-e88 e8a e8d e94-e97 e99-e9f ea1-ea3 ea5 ea7 eaa-eab ead-eb9",
    "ebb-ebd ec0-ec4 ec6 ec8-ecd ed0-ed9 edc-edd 10a0-10c5 10d0-10f6 10fb 1100-1159 115f-11a2",
    "11a8-11f9 1e00-1e9a 1ea0-1ef9 1f00-1f15 1f18-1f1d 1f20-1f45 1f48-1f4d 1f50-1f57",
    "1f59-1f5d/2 1f5f-1f7d 1f80-1fb4 1fb6-1fc4 1fc6-1fd3 1fd6-1fdb 1fdd-1fef 1ff2-1ff4",
    "1ff6-1ffe 2000-202e 2030-2046 206a-2070 2074-208e 20a0-20aa 20d0-20e1 2100-2138 2153-2182",
    "2190-21ea 2200-22f1 2300 2302-237a 2400-2424 2440-244a 2460-24ea 2500-2595 25a0-25ef",
    "2600-2613 261a-266f 2701-2704 2706-2709 270c-2727 2729-274b 274d 274f-2752 2756 2758-275e",
    "2761-2767 2776-2794 2798-27af 27b1-27be 3000-3037 303f 3041-3094 3099-309e 30a1-30fe",
    "3105-312c 3131-318e 3190-319f 3200-321c 3220-3243 3260-327b 327f-32b0 32c0-32cb 32d0-32fe",
    "3300-3376 337b-33dd 33e0-33fe 4e00-9fa5 e000-fa2d fb00-fb06 fb13-fb17 fb1e-fb36 fb38-fb3c",
    "fb3e fb40-fb41 fb43-fb44 fb46-fbb1 fbd3-fd3f fd50-fd8f fd92-fdc7 fdf0-fdfb fe20-fe23",
    "fe30-fe44 fe49-fe52 fe54-fe66 fe68-fe6b fe70-fe72 fe74 fe76-fefc feff ff01-ff5e ff61-ffbe",
    "ffc2-ffc7 ffca-ffcf ffd2-ffd7 ffda-ffdc ffe0-ffe6 ffe8-ffee fffd-ffff"]⟩,
   ⟨"2.0", [
    "591-5a1 5a3-5af 5c4 f00-f47 f49-f69 f71-f8b f90-f95 f97 f99-fad fb1-fb7 fb9 1e9b 20ab",
    "ac00-d7a3 1fffe-1ffff 2fffe-2ffff 3fffe-3ffff 4fffe-4ffff 5fffe-5ffff 6fffe-6ffff",
    "7fffe-7ffff 8fffe-8ffff 9fffe-9ffff afffe-affff bfffe-bffff cfffe-cffff dfffe-dffff",
    "efffe-10ffff"]⟩,
   ⟨"2.1", ["20ac fffc"]⟩,
   ⟨"3.0", [
    "1f6-1f9 218-21f 222-233 2a9-2ad 2df 2ea-2ee 346-34e 362 3d7 3db-3e1/2 400 40d 450 45d",
    "488-489 48c-48f 4ec-4ed 58a 653-655 6b8-6b9 6bf 6cf 6fa-6fe 700-70d 70f-72c 730-74a",
    "780-7b0 d82-d83 d85-d96 d9a-db1 db3-dbb dbd dc0-dc6 dca dcf-dd4 dd6 dd8-ddf df2-df4 f6a",
    "f96 fae-fb0 fb8 fba-fbc fbe-fcc fcf 1000-1021 1023-1027 1029-102a 102c-1032 1036-1039",
    "1040-1059 1200-1206 1208-1246 1248 124a-124d 1250-1256 1258 125a-125d 1260-1286 1288",
    "128a-128d 1290-12ae 12b0 12b2-12b5 12b8-12be 12c0 12c2-12c5 12c8-12ce 12d0-12d6 12d8-12ee",
    "12f0-130e 1310 1312-1315 1318-131e 1320-1346 1348-135a 1361-137c 13a0-13f4 1401-1676",
    "1680-169c 16a0-16f0 1780-17dc 17e0-17e9 1800-180e 1810-1819 1820-1877 1880-18a9 202f",
    "2048-204d 20ad-20af 20e2-20e3 2139-213a 2183 21eb-21f3 2301 237b 237d-239a 2425-2426",
    "25f0-25f7 2619 2670-2671 2800-28ff 2e80-2e99 2e9b-2ef3 2f00-2fd5 2ff0-2ffb 3038-303a 303e",
    "31a0-31b7 3400-4db5 a000-a48c a490-a4a1 a4a4-a4b3 a4b5-a4c0 a4c2-a4c4 a4c6 fb1d fff9-fffb"]⟩,
   ⟨"3.1", [
    "3f4-3f5 fdd0-fdef 10300-1031e 10320-10323 10330-1034a 10400-10425 10428-1044d 1d000-1d0f5",
    "1d100-1d126 1d12a-1d1dd 1d400-1d454 1d456-1d49c 1d49e-1d49f 1d4a2 1d4a5-1d4a6 1d4a9-1d4ac",
    "1d4ae-1d4b9 1d4bb 1d4bd-1d4c0 1d4c2-1d4c3 1d4c5-1d505 1d507-1d50a 1d50d-1d514 1d516-1d51c",
    "1d51e-1d539 1d53b-1d53e 1d540-1d544 1d546 1d54a-1d550 1d552-1d6a3 1d6a8-1d7c9 1d7ce-1d7ff",
    "20000-2a6d6 2f800-2fa1d e0001 e0020-e007f"]⟩,
   ⟨"3.2", [
    "220 34f 363-36f 3d8-3d9 3f6 48a-48b 4c5-4c6 4c9-4ca 4cd-4ce 500-50f 66e-66f 7b1 10f7-10f8",
    "1700-170c 170e-1714 1720-1736 1740-1753 1760-176c 176e-1770 1772-1773 2047 204e-2052 2057",
    "205f-2063 2071 20b0-20b1 20e4-20ea 213d-214b 21f4-21ff 22f2-22ff 237c 239b-23ce 24eb-24fe",
    "2596-259f 25f8-25ff 2616-2617 2672-267d 2680-2689 2768-2775 27d0-27eb 27f0-27ff 2900-2aff",
    "303b-303d 3095-3096 309f-30a0 30ff 31f0-31ff 3251-325f 32b1-32bf a4a2-a4a3 a4b4 a4c1 a4c5",
    "fa30-fa6a fdfc fe00-fe0f fe45-fe46 fe73 ff5f-ff60"]⟩,
   ⟨"4.0", [
    "221 234-236 2ae-2af 2ef-2ff 350-357 35d-35f 3f7-3fb 600-603 60d-615 656-658 6ee-6ef 6ff",
    "72d-72f 74d-74f 904 9bd a01 a03 a8c ae1-ae3 af1 b35 b71 bf3-bfa cbc-cbd 17dd 17f0-17f9",
    "1900-191c 1920-192b 1930-193b 1940 1944-196d 1970-1974 19e0-19ff 1d00-1d6b 2053-2054 213b",
    "23cf-23d0 24ff 2614-2615 268a-2691 26a0-26a1 2b00-2b0d 321d-321e 3250 327c-327d 32cc-32cf",
    "3377-337a 33de-33df 33ff 4dc0-4dff fdfd fe47-fe48 10000-1000b 1000d-10026 10028-1003a",
    "1003c-1003d 1003f-1004d 10050-1005d 10080-100fa 10100-10102 10107-10133 10137-1013f",
    "10380-1039d 1039f 10426-10427 1044e-1049d 104a0-104a9 10800-10805 10808 1080a-10835",
    "10837-10838 1083c 1083f 1d300-1d356 1d4c1 e0100-e01ef"]⟩,
   ⟨"4.1", [
    "237-241 358-35c 3fc-3ff 4f6-4f7 5a2 5c5-5c7 60b 61e 659-65e 750-76d 97d 9ce bb6 be6",
    "fd0-fd1 10f9-10fa 10fc 1207 1247 1287 12af 12cf 12ef 130f 131f 1347 135f-1360 1380-1399",
    "1980-19a9 19b0-19c9 19d0-19d9 19de-19df 1a00-1a1b 1a1e-1a1f 1d6c-1dc3 2055-2056 2058-205e",
    "2090-2094 20b2-20b5 20eb 213c 214c 23d1-23db 2618 267e-267f 2692-269c 26a2-26b1 27c0-27c6",
    "2b0e-2b13 2c00-2c2e 2c30-2c5e 2c80-2cea 2cf9-2d25 2d30-2d65 2d6f 2d80-2d96 2da0-2da6",
    "2da8-2dae 2db0-2db6 2db8-2dbe 2dc0-2dc6 2dc8-2dce 2dd0-2dd6 2dd8-2dde 2e00-2e17 2e1c-2e1d",
    "31c0-31cf 327e 9fa6-9fbb a700-a716 a800-a82b fa70-fad9 fe10-fe19 10140-1018a 103a0-103c3",
    "103c8-103d5 10a00-10a03 10a05-10a06 10a0c-10a13 10a15-10a17 10a19-10a33 10a38-10a3a",
    "10a3f-10a47 10a50-10a58 1d200-1d245 1d6a4-1d6a5"]⟩]

/-- The versions from 5.0 on. -/
def later : List Age :=
  [⟨"5.0", [
    "242-24f 37b-37d 4cf 4fa-4ff 510-513 5ba 7c0-7fa 97b-97c 97e-97f ce2-ce3 cf1-cf2 1b00-1b4b",
    "1b50-1b7c 1dc4-1dca 1dfe-1dff 20ec-20ef 214d-214e 2184 23dc-23e7 26b2 27c7-27ca 2b14-2b1a",
    "2b20-2b23 2c60-2c6c 2c74-2c77 a717-a71a a720-a721 a840-a877 10900-10919 1091f 12000-1236e",
    "12400-12462 12470-12473 1d360-1d371 1d7ca-1d7cb"]⟩,
   ⟨"5.1", [
    "370-373 376-377 3cf 487 514-523 606-60a 616-61a 63b-63f 76e-77f 971-972 a51 a75 b44",
    "b62-b63 bd0 c3d c58-c59 c62-c63 c78-c7f d3d d44 d62-d63 d70-d75 d79-d7f f6b-f6c fce",
    "fd2-fd4 1022 1028 102b 1033-1035 103a-103f 105a-1099 109e-109f 18aa 1b80-1baa 1bae-1bb9",
    "1c00-1c37 1c3b-1c49 1c4d-1c7f 1dcb-1de6 1e9c-1e9f 1efa-1eff 2064 20f0 214f 2185-2188 269d",
    "26b3-26bc 26c0-26c3 27cc 27ec-27ef 2b1b-2b1f 2b24-2b4c 2b50-2b54 2c6d-2c6f 2c71-2c73",
    "2c78-2c7d 2de0-2dff 2e18-2e1b 2e1e-2e30 312d 31d0-31e3 9fbc-9fc3 a500-a62b a640-a65f",
    "a662-a673 a67c-a697 a71b-a71f a722-a78c a7fb-a7ff a880-a8c4 a8ce-a8d9 a900-a953 a95f",
    "aa00-aa36 aa40-aa4d aa50-aa59 aa5c-aa5f fe24-fe26 10190-1019b 101d0-101fd 10280-1029c",
    "102a0-102d0 10920-10939 1093f 1d129 1f000-1f02b 1f030-1f093"]⟩,
   ⟨"5.2", [
    "524-525 800-82d 830-83e 900 94e 955 979-97a 9fb fd5-fd8 109a-109d 115a-115e 11a3-11a7",
    "11fa-11ff 1400 1677-167f 18b0-18f5 19aa-19ab 19da 1a20-1a5e 1a60-1a7c 1a7f-1a89 1a90-1a99",
    "1aa0-1aad 1cd0-1cf2 1dfd 20b6-20b8 2150-2152 2189 23e8 269e-269f 26bd-26bf 26c4-26cd",
    "26cf-26e1 26e3 26e8-26ff 2757 2b55-2b59 2c70 2c7e-2c7f 2ceb-2cf1 2e31 3244-324f 9fc4-9fcb",
    "a4d0-a4ff a6a0-a6f7 a830-a839 a8e0-a8fb a960-a97c a980-a9cd a9cf-a9d9 a9de-a9df aa60-aa7b",
    "aa80-aac2 aadb-aadf abc0-abed abf0-abf9 d7b0-d7c6 d7cb-d7fb fa6b-fa6d 10840-10855",
    "10857-1085f 1091a-1091b 10a60-10a7f 10b00-10b35 10b39-10b55 10b58-10b72 10b78-10b7f",
    "10c00-10c48 10e60-10e7e 11080-110c1 13000-1342e 1f100-1f10a 1f110-1f12e 1f131 1f13d 1f13f",
    "1f142 1f146 1f14a-1f14e 1f157 1f15f 1f179 1f17b-1f17c 1f17f 1f18a-1f18d 1f190 1f200",
    "1f210-1f231 1f240-1f248 2a700-2b734"]⟩,
   ⟨"6.0", [
    "526-527 620 65f 840-85b 85e 93a-93b 94f 956-957 973-977 b72-b77 d29 d3a d4e f8c-f8f",
    "fd9-fda 135d-135e 1bc0-1bf3 1bfc-1bff 1dfc 2095-209c 20b9 23e9-23f3 26ce 26e2 26e4-26e7",
    "2705 270a-270b 2728 274c 274e 2753-2755 275f-2760 2795-2797 27b0 27bf 27ce-27cf 2d70 2d7f",
    "31b8-31ba a660-a661 a78d-a78e a790-a791 a7a0-a7a9 a7fa ab01-ab06 ab09-ab0e ab11-ab16",
    "ab20-ab26 ab28-ab2e fbb2-fbc1 11000-1104d 11052-1106f 16800-16a38 1b000-1b001 1f0a0-1f0ae",
    "1f0b1-1f0be 1f0c1-1f0cf 1f0d1-1f0df 1f130 1f132-1f13c 1f13e 1f140-1f141 1f143-1f145",
    "1f147-1f149 1f14f-1f156 1f158-1f15e 1f160-1f169 1f170-1f178 1f17a 1f17d-1f17e 1f180-1f189",
    "1f18e-1f18f 1f191-1f19a 1f1e6-1f1ff 1f201-1f202 1f232-1f23a 1f250-1f251 1f300-1f320",
    "1f330-1f335 1f337-1f37c 1f380-1f393 1f3a0-1f3c4 1f3c6-1f3ca 1f3e0-1f3f0 1f400-1f43e 1f440",
    "1f442-1f4f7 1f4f9-1f4fc 1f500-1f53d 1f550-1f567 1f5fb-1f5ff 1f601-1f610 1f612-1f614",
    "1f616-1f61a/2 1f61c-1f61e 1f620-1f625 1f628-1f62b 1f62d 1f630-1f633 1f635-1f640",
    "1f645-1f64f 1f680-1f6c5 1f700-1f773 2b740-2b81d"]⟩,
   ⟨"6.1", [
    "58f 604 8a0 8a2-8ac 8e4-8fe af0 ede-edf 10c7 10cd 10fd-10ff 1bab-1bad 1bba-1bbf 1cc0-1cc7",
    "1cf3-1cf6 27cb 27cd 2cf2-2cf3 2d27 2d2d 2d66-2d67 2e32-2e3b 9fcc a674-a67b a69f a792-a793",
    "a7aa a7f8-a7f9 aae0-aaf6 fa2e-fa2f 10980-109b7 109be-109bf 110d0-110e8 110f0-110f9",
    "11100-11134 11136-11143 11180-111c8 111d0-111d9 11680-116b7 116c0-116c9 16f00-16f44",
    "16f50-16f7e 16f8f-16f9f 1ee00-1ee03 1ee05-1ee1f 1ee21-1ee22 1ee24 1ee27 1ee29-1ee32",
    "1ee34-1ee37 1ee39 1ee3b 1ee42 1ee47-1ee4b/2 1ee4d-1ee4f 1ee51-1ee52 1ee54 1ee57-1ee5f/2",
    "1ee61-1ee62 1ee64 1ee67-1ee6a 1ee6c-1ee72 1ee74-1ee77 1ee79-1ee7c 1ee7e 1ee80-1ee89",
    "1ee8b-1ee9b 1eea1-1eea3 1eea5-1eea9 1eeab-1eebb 1eef0-1eef1 1f16a-1f16b 1f540-1f543 1f600",
    "1f611 1f615-1f61b/2 1f61f 1f626-1f627 1f62c 1f62e-1f62f 1f634"]⟩,
   ⟨"6.2", ["20ba"]⟩,
   ⟨"6.3", ["61c 2066-2069"]⟩,
   ⟨"7.0", [
    "37f 528-52f 58d-58e 605 8a1 8ad-8b2 8ff 978 980 c00 c34 c81 d01 de6-def 16f1-16f8",
    "191d-191e 1ab0-1abe 1cf8-1cf9 1de7-1df5 20bb-20bd 23f4-23fa 2700 2b4d-2b4f 2b5a-2b73",
    "2b76-2b95 2b98-2bb9 2bbd-2bc8 2bca-2bd1 2e3c-2e42 a698-a69d a794-a79f a7ab-a7ad a7b0-a7b1",
    "a7f7 a9e0-a9fe aa7c-aa7f ab30-ab5f ab64-ab65 fe27-fe2d 1018b-1018c 101a0 102e0-102fb 1031f",
    "10350-1037a 10500-10527 10530-10563 1056f 10600-10736 10740-10755 10760-10767 10860-1089e",
    "108a7-108af 10a80-10a9f 10ac0-10ae6 10aeb-10af6 10b80-10b91 10b99-10b9c 10ba9-10baf 1107f",
    "11150-11176 111cd 111da 111e1-111f4 11200-11211 11213-1123d 112b0-112ea 112f0-112f9",
    "11301-11303 11305-1130c 1130f-11310 11313-11328 1132a-11330 11332-11333 11335-11339",
    "1133c-11344 11347-11348 1134b-1134d 11357 1135d-11363 11366-1136c 11370-11374 11480-114c7",
    "114d0-114d9 11580-115b5 115b8-115c9 11600-11644 11650-11659 118a0-118f2 118ff 11ac0-11af8",
    "1236f-12398 12463-1246e 12474 16a40-16a5e 16a60-16a69 16a6e-16a6f 16ad0-16aed 16af0-16af5",
    "16b00-16b45 16b50-16b59 16b5b-16b61 16b63-16b77 16b7d-16b8f 1bc00-1bc6a 1bc70-1bc7c",
    "1bc80-1bc88 1bc90-1bc99 1bc9c-1bca3 1e800-1e8c4 1e8c7-1e8d6 1f0bf 1f0e0-1f0f5 1f10b-1f10c",
    "1f321-1f32c 1f336 1f37d 1f394-1f39f 1f3c5 1f3cb-1f3ce 1f3d4-1f3df 1f3f1-1f3f7 1f43f 1f441",
    "1f4f8 1f4fd-1f4fe 1f53e-1f53f 1f544-1f54a 1f568-1f579 1f57b-1f5a3 1f5a5-1f5fa 1f641-1f642",
    "1f650-1f67f 1f6c6-1f6cf 1f6e0-1f6ec 1f6f0-1f6f3 1f780-1f7d4 1f800-1f80b 1f810-1f847",
    "1f850-1f859 1f860-1f887 1f890-1f8ad"]⟩,
   ⟨"8.0", [
    "8b3-8b4 8e3 af9 c5a d5f 13f5 13f8-13fd 20be 218a-218b 2bec-2bef 9fcd-9fd5 a69e a78f",
    "a7b2-a7b7 a8fc-a8fd ab60-ab63 ab70-abbf fe2e-fe2f 108e0-108f2 108f4-108f5 108fb-108ff",
    "109bc-109bd 109c0-109cf 109d2-109ff 10c80-10cb2 10cc0-10cf2 10cfa-10cff 111c9-111cc",
    "111db-111df 11280-11286 11288 1128a-1128d 1128f-1129d 1129f-112a9 11300 11350 115ca-115dd",
    "11700-11719 1171d-1172b 11730-1173f 12399 12480-12543 14400-14646 1d1de-1d1e8 1d800-1da8b",
    "1da9b-1da9f 1daa1-1daaf 1f32d-1f32f 1f37e-1f37f 1f3cf-1f3d3 1f3f8-1f3ff 1f4ff 1f54b-1f54f",
    "1f643-1f644 1f6d0 1f910-1f918 1f980-1f984 1f9c0 2b820-2cea1"]⟩,
   ⟨"9.0", [
    "8b6-8bd 8d4-8e2 c80 d4f d54-d56 d58-d5e d76-d78 1c80-1c88 1dfb 23fb-23fe 2e43-2e44 a7ae",
    "a8c5 1018d-1018e 104b0-104d3 104d8-104fb 1123e 11400-11459 1145b 1145d 11660-1166c",
    "11c00-11c08 11c0a-11c36 11c38-11c45 11c50-11c6c 11c70-11c8f 11c92-11ca7 11ca9-11cb6 16fe0",
    "17000-187ec 18800-18af2 1e000-1e006 1e008-1e018 1e01b-1e021 1e023-1e024 1e026-1e02a",
    "1e900-1e94a 1e950-1e959 1e95e-1e95f 1f19b-1f1ac 1f23b 1f57a 1f5a4 1f6d1-1f6d2 1f6f4-1f6f6",
    "1f919-1f91e 1f920-1f927 1f930 1f933-1f93e 1f940-1f94b 1f950-1f95e 1f985-1f991"]⟩,
   ⟨"10.0", [
    "860-86a 9fc-9fd afa-aff d00 d3b-d3c 1cf7 1df6-1df9 20bf 23ff 2bd2 2e45-2e49 312e 9fd6-9fea",
    "1032d-1032f 11a00-11a47 11a50-11a83 11a86-11a9c 11a9e-11aa2 11d00-11d06 11d08-11d09",
    "11d0b-11d36 11d3a 11d3c-11d3d 11d3f-11d47 11d50-11d59 16fe1 1b002-1b11e 1b170-1b2fb",
    "1f260-1f265 1f6d3-1f6d4 1f6f7-1f6f8 1f900-1f90b 1f91f 1f928-1f92f 1f931-1f932 1f94c",
    "1f95f-1f96b 1f992-1f997 1f9d0-1f9e6 2ceb0-2ebe0"]⟩,
   ⟨"11.0", [
    "560 588 5ef 7fd-7ff 8d3 9fe a76 c04 c84 1878 1c90-1cba 1cbd-1cbf 2bba-2bbc 2bd3-2beb",
    "2bf0-2bfe 2e4a-2e4e 312f 9feb-9fef a7af a7b8-a7b9 a8fe-a8ff 10a34-10a35 10a48 10d00-10d27",
    "10d30-10d39 10f00-10f27 10f30-10f59 110cd 11144-11146 1133b 1145e 1171a 11800-1183b 11a9d",
    "11d60-11d65 11d67-11d68 11d6a-11d8e 11d90-11d91 11d93-11d98 11da0-11da9 11ee0-11ef8",
    "16e40-16e9a 187ed-187f1 1d2e0-1d2f3 1d372-1d378 1ec71-1ecb4 1f12f 1f6f9 1f7d5-1f7d8",
    "1f94d-1f94f 1f96c-1f970 1f973-1f976 1f97a 1f97c-1f97f 1f998-1f9a2 1f9b0-1f9b9 1f9c1-1f9c2",
    "1f9e7-1f9ff 1fa60-1fa6d"]⟩,
   ⟨"12.0", [
    "c77 e86 e89 e8c e8e-e93 e98 ea0 ea8-ea9 eac eba 1cfa 2bc9 2bff 2e4f a7ba-a7bf a7c2-a7c6",
    "ab66-ab67 10fe0-10ff6 1145f 116b8 119a0-119a7 119aa-119d7 119da-119e4 11a84-11a85",
    "11fc0-11ff1 11fff 13430-13438 16f45-16f4a 16f4f 16f7f-16f87 16fe2-16fe3 187f2-187f7",
    "1b150-1b152 1b164-1b167 1e100-1e12c 1e130-1e13d 1e140-1e149 1e14e-1e14f 1e2c0-1e2f9 1e2ff",
    "1e94b 1ed01-1ed3d 1f16c 1f6d5 1f6fa 1f7e0-1f7eb 1f90d-1f90f 1f93f 1f971 1f97b 1f9a5-1f9aa",
    "1f9ae-1f9af 1f9ba-1f9bf 1f9c3-1f9ca 1f9cd-1f9cf 1fa00-1fa53 1fa70-1fa73 1fa78-1fa7a",
    "1fa80-1fa82 1fa90-1fa95"]⟩,
   ⟨"12.1", ["32ff"]⟩,
   ⟨"13.0", [
    "8be-8c7 b55 d04 d81 1abf-1ac0 2b97 2e50-2e52 31bb-31bf 4db6-4dbf 9ff0-9ffc a7c7-a7ca",
    "a7f5-a7f6 a82c ab68-ab6b 1019c 10e80-10ea9 10eab-10ead 10eb0-10eb1 10fb0-10fcb 11147",
    "111ce-111cf 1145a 11460-11461 11900-11906 11909 1190c-11913 11915-11916 11918-11935",
    "11937-11938 1193b-11946 11950-11959 11fb0 16fe4 16ff0-16ff1 18af3-18cd5 18d00-18d08",
    "1f10d-1f10f 1f16d-1f16f 1f1ad 1f6d6-1f6d7 1f6fb-1f6fc 1f8b0-1f8b1 1f90c 1f972 1f977-1f978",
    "1f9a3-1f9a4 1f9ab-1f9ad 1f9cb 1fa74 1fa83-1fa86 1fa96-1faa8 1fab0-1fab6 1fac0-1fac2",
    "1fad0-1fad6 1fb00-1fb92 1fb94-1fbca 1fbf0-1fbf9 2a6d7-2a6dd 30000-3134a"]⟩,
   ⟨"14.0", [
    "61d 870-88e 890-891 898-89f 8b5 8c8-8d2 c3c c5d cdd 170d 1715 171f 180f 1ac1-1ace 1b4c",
    "1b7d-1b7e 1dfa 20c0 2c2f 2c5f 2e53-2e5d 9ffd-9fff a7c0-a7c1 a7d0-a7d1 a7d3 a7d5-a7d9",
    "a7f2-a7f4 fbc2 fd40-fd4f fdcf fdfe-fdff 10570-1057a 1057c-1058a 1058c-10592 10594-10595",
    "10597-105a1 105a3-105b1 105b3-105b9 105bb-105bc 10780-10785 10787-107b0 107b2-107ba",
    "10f70-10f89 11070-11075 110c2 116b9 11740-11746 11ab0-11abf 12f90-12ff2 16a70-16abe",
    "16ac0-16ac9 1aff0-1aff3 1aff5-1affb 1affd-1affe 1b11f-1b122 1cf00-1cf2d 1cf30-1cf46",
    "1cf50-1cfc3 1d1e9-1d1ea 1df00-1df1e 1e290-1e2ae 1e7e0-1e7e6 1e7e8-1e7eb 1e7ed-1e7ee",
    "1e7f0-1e7fe 1f6dd-1f6df 1f7f0 1f979 1f9cc 1fa7b-1fa7c 1faa9-1faac 1fab7-1faba 1fac3-1fac5",
    "1fad7-1fad9 1fae0-1fae7 1faf0-1faf6 2a6de-2a6df 2b735-2b738"]⟩,
   ⟨"15.0", [
    "cf3 ece 10efd-10eff 1123f-11241 11b00-11b09 11f00-11f10 11f12-11f3a 11f3e-11f59 1342f",
    "13439-13455 1b132 1b155 1d2c0-1d2d3 1df25-1df2a 1e030-1e06d 1e08f 1e4d0-1e4f9 1f6dc",
    "1f774-1f776 1f77b-1f77f 1f7d9 1fa75-1fa77 1fa87-1fa88 1faad-1faaf 1fabb-1fabd 1fabf",
    "1face-1facf 1fada-1fadb 1fae8 1faf7-1faf8 2b739 31350-323af"]⟩,
   ⟨"15.1", ["2ffc-2fff 31ef 2ebf0-2ee5d"]⟩,
   ⟨"16.0", [
    "897 1b4e-1b4f 1b7f 1c89-1c8a 2427-2429 31e4-31e5 a7cb-a7cd a7da-a7dc 105c0-105f3",
    "10d40-10d65 10d69-10d85 10d8e-10d8f 10ec2-10ec4 10efc 11380-11389 1138b 1138e 11390-113b5",
    "113b7-113c0 113c2 113c5 113c7-113ca 113cc-113d5 113d7-113d8 113e1-113e2 116d0-116e3",
    "11bc0-11be1 11bf0-11bf9 11f5a 13460-143fa 16100-16139 16d40-16d79 18cff 1cc00-1ccf9",
    "1cd00-1ceb3 1e5d0-1e5fa 1e5ff 1f8b2-1f8bb 1f8c0-1f8c1 1fa89 1fa8f 1fabe 1fac6 1fadc 1fadf",
    "1fae9 1fbcb-1fbef"]⟩]

/-- All versions in order. -/
def all : List Age := earlier ++ later

/-- Whether a normal name is that of the version: its number, or `v` and its digits. -/
def isNamed (age : Age) (name : String) : Bool :=
  name == age.version || name == "v" ++ age.version.replace "." ""

/-- The ages up to the one with a name. -/
def upTo? (name : String) : List Age → Option (List Age)
  | [] => none
  | age :: ages => if age.isNamed name then some [age] else (upTo? name ages).map (age :: ·)

/-- The characters that a version holds. -/
def charSet? (name : String) : Option CharSet :=
  (upTo? name all).map fun ages => CharSet.ofTable (ages.flatMap Age.ranges)

end Age

end DocStore.Regex
