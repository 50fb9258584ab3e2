import DocStore.Regex.Pattern
/-!
# Ranges of characters as ranges of bytes

In UTF-8 a range of code points is a union of products of byte ranges: `ByteRange.sequences` cuts a
range where the number of bytes changes, then at whole blocks of 64, 4096 and 262144 code points, so
that in each piece every byte runs through a range on its own. The pieces come in ascending order.
-/

namespace DocStore.Regex

/-- The bytes from a first one to a last one. -/
structure ByteRange where
  first : Nat
  last : Nat
  deriving DecidableEq

namespace ByteRange

/-- The UTF-8 bytes of a code point. -/
def encode (n : Nat) : List Nat :=
  if n < 0x80 then [n]
  else if n < 0x800 then [0xC0 + n / 64, 0x80 + n % 64]
  else if n < 0x10000 then [0xE0 + n / 4096, 0x80 + n / 64 % 64, 0x80 + n % 64]
  else [0xF0 + n / 262144, 0x80 + n / 4096 % 64, 0x80 + n / 64 % 64, 0x80 + n % 64]

/-- Cuts a range at the blocks of each of some sizes: what lies before the first whole block, the
whole blocks, and what lies after them. -/
def cutAtBlocks : List Nat → Nat → Nat → List (Nat × Nat)
  | [], low, high => [(low, high)]
  | size :: sizes, low, high =>
    if low / size = high / size then [(low, high)]
    else
      let start := if low % size = 0 then low else (low / size + 1) * size
      let before := if low < start then [(low, start - 1)] else []
      if start / size = high / size then before ++ [(start, high)]
      else if (high + 1) % size = 0 then before ++ cutAtBlocks sizes start high
      else
        let stop := high / size * size
        before ++ cutAtBlocks sizes start (stop - 1) ++ [(stop, high)]

/-- The ranges of code points with one number of bytes; surrogates are left out. -/
def windows : List (Nat × Nat) :=
  [(0, 0x7F), (0x80, 0x7FF), (0x800, 0xD7FF), (0xE000, 0xFFFF), (0x10000, 0x10FFFF)]

/-- The sequences of byte ranges of a range of code points. -/
def sequences (low high : Nat) : List (List ByteRange) :=
  windows.flatMap fun window =>
    let low := max low window.1
    let high := min high window.2
    if high < low then []
    else if high < 0x80 then [[⟨low, high⟩]]
    else
      (cutAtBlocks [64, 4096, 262144] low high).map fun piece =>
        List.zipWith ByteRange.mk (encode piece.1) (encode piece.2)

/-- The sequences of byte ranges of a set. -/
def ofSet (set : CharSet) : List (List ByteRange) :=
  set.ranges.flatMap fun r => sequences r.1 r.2

end ByteRange

end DocStore.Regex
