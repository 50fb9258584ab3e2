import DocStore.Regex.CharSet
/-!
# Simple case folding

Characters that are equal when case is ignored form an orbit under simple folding. Nearly all orbits
are pairs, and pairs at one distance come in runs: `41-5a+20` stands for the pairs of `41` to `5a`
with the code points `20` above them, in hexadecimal, and `100-12e/2+1` for every second of `100` to
`12e` with its successor.
-/

namespace DocStore.Regex

/-- The orbits of two characters, as runs. -/
def pairRuns : List String := [
    "41-4a+20 4c-5a/2+20 4d-51/2+20 55-59/2+20 c0-de/2+20 c1-c3/2+20 c7-d5/2+20 d9-dd/2+20",
    "df+1dbf ff+79 100-12e/2+1 132-136/2+1 139-147/2+1 14a-176/2+1 179-17d/2+1 180+c3 181+d2",
    "182-184/2+1 186+ce 187+1 189-18a+cd 18b+1 18e+4f 18f+ca 190+cb 191+1 193+cd 194+cf 195+61",
    "196+d3 197+d1 198+1 19a+a3 19b+a641 19c+d3 19d+d5 19e+82 19f+d6 1a0-1a4/2+1 1a6+da 1a7+1",
    "1a9+da 1ac+1 1ae+da 1af+1 1b1-1b2+d9 1b3-1b5/2+1 1b7+db 1b8+1 1bc+1 1bf+38 1cd-1db/2+1",
    "1de-1ee/2+1 1f4+1 1f8-21e/2+1 222-232/2+1 23a+2a2b 23b+1 23e+2a28 23f-240+2a3f 241+1",
    "244+45 245+47 246-24e/2+1 250+2a1f 251+2a1c 252+2a1e 25c+a54f 261+a54b 264+a567 265+a528",
    "266+a544 26a+a544 26b+29f7 26c+a541 271+29fd 27d+29e7 282+a543 287+a52a 29d+a515 29e+a512",
    "370-372/2+1 376+1 37b-37d+82 37f+74 386+26 388-38a+25 38c+40 38e-38f+3f 390+1c43",
    "391-393/2+20 394-396/2+20 397+20 39b-39f/2+20 39e+20 3a4-3a5+20 3a7-3a8+20 3aa-3ab+20",
    "3b0+1c33 3cf+8 3d8-3ee/2+1 3f2+7 3f7+1 3fa+1 400-40f+50 410-411+20 413-41f/2+20",
    "416-41c/2+20 420+20 423-429+20 42b-42f+20 460+1 464-480/2+1 48a-4be/2+1 4c0+f 4c1-4cd/2+1",
    "4d0-52e/2+1 531-556+30 10a0-10c5+1c60 10c7+1c60 10cd+1c60 10d0-10fa+bc0 10fd-10ff+bc0",
    "13a0-13ef+97d0 13f0-13f5+8 1c89+1 1d79+8a04 1d7d+ee6 1d8e+8a38 1e00-1e5e/2+1 1e62-1e94/2+1",
    "1ea0-1efe/2+1 1f00-1f07+8 1f10-1f15+8 1f20-1f27+8 1f30-1f37+8 1f40-1f45+8 1f51-1f57/2+8",
    "1f60-1f67+8 1f70-1f71+4a 1f72-1f75+56 1f76-1f77+64 1f78-1f79+80 1f7a-1f7b+70 1f7c-1f7d+7e",
    "1f80-1f87+8 1f90-1f97+8 1fa0-1fa7+8 1fb0-1fb1+8 1fb3+9 1fc3+9 1fd0-1fd1+8 1fe0-1fe1+8",
    "1fe5+7 1ff3+9 2132+1c 2160-216f+10 2183+1 24b6-24cf+1a 2c00-2c2f+30 2c60+1 2c67-2c6b/2+1",
    "2c72+1 2c75+1 2c80-2ce2/2+1 2ceb-2ced/2+1 2cf2+1 a640-a648/2+1 a64c-a66c/2+1 a680-a69a/2+1",
    "a722-a72e/2+1 a732-a76e/2+1 a779-a77b/2+1 a77e-a786/2+1 a78b+1 a790-a792/2+1 a794+30",
    "a796-a7a8/2+1 a7b3+3a0 a7b4-a7c2/2+1 a7c7-a7c9/2+1 a7cc+1 a7d0+1 a7d6-a7da/2+1 a7f5+1",
    "fb05+1 ff21-ff3a+20 10400-10427+28 104b0-104d3+28 10570-10594/2+27 10571-10579/2+27",
    "1057d-10589/2+27 1058d-10591/2+27 10595+27 10c80-10cb2+40 10d50-10d65+20 118a0-118bf+20",
    "16e40-16e5f+20 1e900-1e921+22"]

/-- The orbits of more than two characters. -/
def largeOrbits : List (List Nat) :=
  [[0x4b, 0x6b, 0x212a], [0x53, 0x73, 0x17f], [0xb5, 0x39c, 0x3bc], [0xc5, 0xe5, 0x212b],
   [0x1c4, 0x1c5, 0x1c6], [0x1c7, 0x1c8, 0x1c9], [0x1ca, 0x1cb, 0x1cc], [0x1f1, 0x1f2, 0x1f3],
   [0x345, 0x399, 0x3b9, 0x1fbe], [0x392, 0x3b2, 0x3d0], [0x395, 0x3b5, 0x3f5],
   [0x398, 0x3b8, 0x3d1, 0x3f4], [0x39a, 0x3ba, 0x3f0], [0x3a0, 0x3c0, 0x3d6],
   [0x3a1, 0x3c1, 0x3f1], [0x3a3, 0x3c2, 0x3c3], [0x3a6, 0x3c6, 0x3d5], [0x3a9, 0x3c9, 0x2126],
   [0x412, 0x432, 0x1c80], [0x414, 0x434, 0x1c81], [0x41e, 0x43e, 0x1c82], [0x421, 0x441, 0x1c83],
   [0x422, 0x442, 0x1c84, 0x1c85], [0x42a, 0x44a, 0x1c86], [0x462, 0x463, 0x1c87],
   [0x1c88, 0xa64a, 0xa64b], [0x1e60, 0x1e61, 0x1e9b]]

/-- The pairs of a run. -/
def readPairs (run : String) : List (List Nat) :=
  match run.splitOn "+" with
  | [span, distance] =>
    (readRange span).flatMap fun r =>
      (List.range (r.2 + 1 - r.1)).map fun i => [r.1 + i, r.1 + i + readHex distance]
  | _ => []

/-- The orbits of simple case folding. -/
def orbits : List (List Nat) :=
  largeOrbits ++ pairRuns.flatMap fun line => (line.splitOn " ").flatMap readPairs

/-- The characters that differ from another one in case only. -/
def orbitMembers : List (Nat × Nat) := orbits.flatMap fun orbit => orbit.map fun n => (n, n)

/-- The set with every character that folds like one of its members. -/
def CharSet.caseClosure (set : CharSet) : CharSet :=
  let added := orbits.flatMap fun orbit =>
    if orbit.any set.holds then orbit.map fun n => (n, n) else []
  if added.isEmpty then set else CharSet.ofRanges (set.ranges ++ added)

end DocStore.Regex
