/-!
# Text

The characters with the Unicode property White_Space, with cutting and splitting at them, and the
bytes of text in UTF-8.

Every text is a byte sequence. Not every byte sequence is a text: the lossy reader puts U+FFFD for
each longest prefix of a well-formed sequence that cannot be completed, and for each byte that
cannot start one.
-/

namespace DocStore

/-! ## White space -/

/-- The code points with the property White_Space. -/
def isBlank (c : Char) : Bool :=
  let n := c.toNat
  (9 ≤ n && n ≤ 13) || n == 0x20 || n == 0x85 || n == 0xA0 || n == 0x1680 ||
  (0x2000 ≤ n && n ≤ 0x200A) || n == 0x2028 || n == 0x2029 || n == 0x202F || n == 0x205F ||
  n == 0x3000

def trimStart (cs : List Char) : List Char := cs.dropWhile isBlank

/-- Cuts white space off both ends. -/
def trim (cs : List Char) : List Char :=
  ((trimStart cs).reverse.dropWhile isBlank).reverse

/-- The words `current :: words cs`, where `current` holds the characters read so far, reversed. -/
def wordsFrom (current : List Char) : List Char → List (List Char)
  | [] => if current.isEmpty then [] else [current.reverse]
  | c :: cs =>
    if isBlank c then
      if current.isEmpty then wordsFrom [] cs else current.reverse :: wordsFrom [] cs
    else wordsFrom (c :: current) cs

/-- The maximal runs of characters other than white space. -/
def words (text : String) : List String := (wordsFrom [] text.toList).map String.ofList

/-- The lower case of the ASCII letters; other characters stay. -/
def asciiLower (text : String) : String := text.map Char.toLower

/-! ## UTF-8 -/

namespace Utf8

def encode (text : String) : List UInt8 := text.toList.flatMap String.utf8EncodeChar

def replacement : Char := '\uFFFD'

def isContinuation (b : UInt8) : Bool := 0x80 ≤ b && b ≤ 0xBF

/-- The bytes that may follow a first byte of a sequence of three or four. -/
def isSecond (first second : UInt8) : Bool :=
  if first == 0xE0 then 0xA0 ≤ second && second ≤ 0xBF
  else if first == 0xED then 0x80 ≤ second && second ≤ 0x9F
  else if first == 0xF0 then 0x90 ≤ second && second ≤ 0xBF
  else if first == 0xF4 then 0x80 ≤ second && second ≤ 0x8F
  else isContinuation second

/-- The six low bits of a continuation byte. -/
def low (b : UInt8) : Nat := b.toNat % 64

def decodeLossy : List UInt8 → List Char
  | [] => []
  | a :: rest₁ =>
    if a < 0x80 then Char.ofNat a.toNat :: decodeLossy rest₁
    else match rest₁ with
      | [] => [replacement]
      | b :: rest₂ =>
        if 0xC2 ≤ a && a ≤ 0xDF then
          if isContinuation b then
            Char.ofNat (a.toNat % 32 * 64 + low b) :: decodeLossy rest₂
          else replacement :: decodeLossy (b :: rest₂)
        else if 0xE0 ≤ a && a ≤ 0xF4 then
          if isSecond a b then
            match rest₂ with
            | [] => [replacement]
            | c :: rest₃ =>
              if !isContinuation c then replacement :: decodeLossy (c :: rest₃)
              else if a ≤ 0xEF then
                Char.ofNat (a.toNat % 16 * 4096 + low b * 64 + low c) :: decodeLossy rest₃
              else match rest₃ with
                | [] => [replacement]
                | d :: rest₄ =>
                  if isContinuation d then
                    Char.ofNat (a.toNat % 8 * 262144 + low b * 4096 + low c * 64 + low d) ::
                      decodeLossy rest₄
                  else replacement :: decodeLossy (d :: rest₄)
          else replacement :: decodeLossy (b :: rest₂)
        else replacement :: decodeLossy (b :: rest₂)

end Utf8

end DocStore
