import DocStore.Text
/-!
# Text encodings of byte sequences

Hexadecimal has two lower-case digits a byte. Its reader takes digits of either case, and a pair may
be a plus sign and one digit.

Base64 has the standard alphabet with padding. Three bytes are four characters; a last group of one
or two bytes is padded with `=`. The reader accepts exactly what the writer produces: the unused
bits of the last group are zero and the padding is complete.

Of the four encodings, hexadecimal, base64 and Latin-1 lose nothing. UTF-8 replaces what is not
text. Latin-1 keeps the low byte of every code point.
-/

namespace DocStore

/-! ## Hexadecimal -/

/-- The lower-case hexadecimal digit of a number below sixteen. -/
def hexDigit (n : Nat) : Char :=
  if n < 10 then Char.ofNat ('0'.toNat + n) else Char.ofNat ('a'.toNat + (n - 10))

/-- The number that a hexadecimal digit of either case stands for. -/
def hexValue? (c : Char) : Option Nat :=
  if '0' ≤ c ∧ c ≤ '9' then some (c.toNat - '0'.toNat)
  else if 'a' ≤ c ∧ c ≤ 'f' then some (c.toNat - 'a'.toNat + 10)
  else if 'A' ≤ c ∧ c ≤ 'F' then some (c.toNat - 'A'.toNat + 10)
  else none

namespace Hex

def encodeByte (b : UInt8) : List Char := [hexDigit (b.toNat / 16), hexDigit (b.toNat % 16)]

def encode (bytes : List UInt8) : String := String.ofList (bytes.flatMap encodeByte)

/-- The byte of a pair of characters: two digits, or a plus sign and one digit. -/
def pair? (high low : Char) : Option UInt8 := do
  let l ← hexValue? low
  if high = '+' then some (UInt8.ofNat l)
  else
    let h ← hexValue? high
    some (UInt8.ofNat (16 * h + l))

def decodeChars : List Char → Option (List UInt8)
  | [] => some []
  | [_] => none
  | high :: low :: rest => do
    let b ← pair? high low
    let bs ← decodeChars rest
    some (b :: bs)

def decode (text : String) : Option (List UInt8) := decodeChars text.toList

end Hex

/-! ## Base64 -/

namespace Base64

/-- The character of a number below sixty-four. -/
def digit (n : Nat) : Char :=
  if n < 26 then Char.ofNat ('A'.toNat + n)
  else if n < 52 then Char.ofNat ('a'.toNat + (n - 26))
  else if n < 62 then Char.ofNat ('0'.toNat + (n - 52))
  else if n = 62 then '+' else '/'

def value? (c : Char) : Option Nat :=
  if 'A' ≤ c ∧ c ≤ 'Z' then some (c.toNat - 'A'.toNat)
  else if 'a' ≤ c ∧ c ≤ 'z' then some (c.toNat - 'a'.toNat + 26)
  else if '0' ≤ c ∧ c ≤ '9' then some (c.toNat - '0'.toNat + 52)
  else if c = '+' then some 62
  else if c = '/' then some 63
  else none

def encodeChars : List UInt8 → List Char
  | [] => []
  | [a] =>
    let n := a.toNat
    [digit (n / 4), digit (n % 4 * 16), '=', '=']
  | [a, b] =>
    let n := a.toNat * 256 + b.toNat
    [digit (n / 1024), digit (n / 16 % 64), digit (n % 16 * 4), '=']
  | a :: b :: c :: rest =>
    let n := a.toNat * 65536 + b.toNat * 256 + c.toNat
    digit (n / 262144) :: digit (n / 4096 % 64) :: digit (n / 64 % 64) :: digit (n % 64) ::
      encodeChars rest

def encode (bytes : List UInt8) : String := String.ofList (encodeChars bytes)

def decodeChars : List Char → Option (List UInt8)
  | [] => some []
  | [c₁, c₂, '=', '='] => do
    let a ← value? c₁
    let b ← value? c₂
    if b % 16 = 0 then some [UInt8.ofNat (a * 4 + b / 16)] else none
  | [c₁, c₂, c₃, '='] => do
    let a ← value? c₁
    let b ← value? c₂
    let c ← value? c₃
    if c % 4 = 0 then
      let n := a * 1024 + b * 16 + c / 4
      some [UInt8.ofNat (n / 256), UInt8.ofNat (n % 256)]
    else none
  | c₁ :: c₂ :: c₃ :: c₄ :: rest => do
    let a ← value? c₁
    let b ← value? c₂
    let c ← value? c₃
    let d ← value? c₄
    let n := a * 262144 + b * 4096 + c * 64 + d
    let bytes ← decodeChars rest
    some (UInt8.ofNat (n / 65536) :: UInt8.ofNat (n / 256 % 256) :: UInt8.ofNat (n % 256) :: bytes)
  | _ => none

def decode (text : String) : Option (List UInt8) := decodeChars text.toList

end Base64

/-! ## Encodings -/

inductive Encoding where
  | hex
  | base64
  | utf8
  | latin1
  deriving DecidableEq, Inhabited

namespace Encoding

def name : Encoding → String
  | .hex => "Hex"
  | .base64 => "Base64"
  | .utf8 => "Utf8"
  | .latin1 => "Latin1"

def encode (encoding : Encoding) (bytes : List UInt8) : String :=
  match encoding with
  | .hex => Hex.encode bytes
  | .base64 => Base64.encode bytes
  | .utf8 => String.ofList (Utf8.decodeLossy bytes)
  | .latin1 => String.ofList (bytes.map fun b => Char.ofNat b.toNat)

/-- The bytes of a text, or nothing when the text is not valid in the encoding. -/
def decode (encoding : Encoding) (text : String) : Option (List UInt8) :=
  match encoding with
  | .hex => Hex.decode text
  | .base64 => Base64.decode text
  | .utf8 => some (Utf8.encode text)
  | .latin1 => some (text.toList.map fun c => UInt8.ofNat c.toNat)

end Encoding

end DocStore
