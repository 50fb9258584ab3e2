import DocStore.Double.Arithmetic
import DocStore.Double.Shortest
/-!
# Numbers from text

* `readInt64?` reads a decimal integer with an optional sign that fits in 64 bits.
* `Double.read?` reads a decimal, with optional sign, point and exponent, or the name of an
  infinity or of the NaN, and rounds the exact value once.
-/

namespace DocStore

/-- Splits off the leading decimal digits, as their number and their count. -/
def readDigits : List Char → (Nat × Nat) × List Char
  | cs =>
    let digits := cs.takeWhile Char.isDigit
    ((digits.foldl (fun n c => 10 * n + (c.toNat - '0'.toNat)) 0, digits.length),
      cs.dropWhile Char.isDigit)

/-- Splits off an optional sign; `true` is a minus. -/
def readSign : List Char → Bool × List Char
  | '-' :: rest => (true, rest)
  | '+' :: rest => (false, rest)
  | cs => (false, cs)

/-- Reads a whole text as a signed integer of 64 bits. -/
def readInt64? (cs : List Char) : Option Int :=
  let (negative, rest) := readSign cs
  match readDigits rest with
  | ((_, 0), _) => none
  | ((n, _), []) =>
    let value : Int := if negative then -n else n
    if IsInt64 value then some value else none
  | _ => none

namespace Double

/-- The double nearest to `± digits * 10 ^ exponent`. Exponents that can only give an infinity or a
zero are cut off before the power is taken. -/
def ofDecimal (negative : Bool) (digits : Nat) (exponent : Int) : Double :=
  let top := exponent + Decimal.digitCount digits
  if digits = 0 ∨ top < -400 then zero negative
  else if top > 400 then .infinity negative
  else nearest negative (digits * Nat.pow 10 exponent.toNat * unitsPerOne)
      (Nat.pow 10 (-exponent).toNat)

/-- The exponent after `e`, or zero when there is none; fails on other text. -/
def readExponent? : List Char → Option Int
  | [] => some 0
  | c :: cs =>
    if c = 'e' ∨ c = 'E' then
      let (negative, rest) := readSign cs
      match readDigits rest with
      | ((_, 0), _) => none
      | ((n, _), []) => some (if negative then -n else n)
      | _ => none
    else none

/-- Reads digits with an optional point among or around them, then an exponent. -/
def readDecimal? (negative : Bool) (cs : List Char) : Option Double :=
  let ((whole, wholeCount), rest) := readDigits cs
  let ((fraction, places), rest) :=
    match rest with
    | '.' :: rest => readDigits rest
    | rest => ((0, 0), rest)
  if wholeCount + places = 0 then none
  else (readExponent? rest).map fun exponent =>
    ofDecimal negative (whole * Nat.pow 10 places + fraction) (exponent - places)

/-- Reads a whole text as a number; names are matched without regard to case. -/
def read? (cs : List Char) : Option Double :=
  let (negative, rest) := readSign cs
  let name := String.ofList (rest.map Char.toLower)
  if name = "nan" then some .nan
  else if name = "inf" ∨ name = "infinity" then some (.infinity negative)
  else readDecimal? negative rest

end Double

end DocStore
