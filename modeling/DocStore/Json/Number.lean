import DocStore.Double.Arithmetic
import DocStore.Double.Read
import DocStore.Json.Basic
/-!
# Numbers in JSON text

An integer literal in the range of 64 bits, signed or unsigned, is an integer; every other literal,
and minus zero, is a double. A double is not rounded once from its exact value: the leading digits
that fit in 64 bits are taken as a double, which is then multiplied or divided by a power of ten.
Digits beyond those only count as powers of ten. A literal too large for a double is no number.
-/

namespace DocStore.Json

/-- The parts of a well-formed literal. -/
structure Literal where
  negative : Bool
  whole : List Nat
  fraction : List Nat
  exponent : Option Int

namespace Literal

def digits (cs : List Char) : List Nat := cs.map fun c => c.toNat - '0'.toNat

/-- Splits a literal into its parts; `none` when the text is not of the form of a number. -/
def read? (cs : List Char) : Option Literal := do
  let (negative, cs) := match cs with
    | '-' :: rest => (true, rest)
    | cs => (false, cs)
  let whole := cs.takeWhile Char.isDigit
  if whole.isEmpty || (whole.length ≠ 1 && whole.head? == some '0') then none
  let (fraction, cs) ← match cs.dropWhile Char.isDigit with
    | '.' :: rest =>
      let fraction := rest.takeWhile Char.isDigit
      if fraction.isEmpty then none else some (fraction, rest.dropWhile Char.isDigit)
    | rest => some ([], rest)
  let exponent ← match cs with
    | [] => some none
    | _ => (Double.readExponent? cs).map some
  some ⟨negative, digits whole, digits fraction, exponent⟩

/-- Appends digits to a number while it stays below `2 ^ 64`; the number and the digits left
over. -/
def gather (acc : Nat) : List Nat → Nat × List Nat
  | [] => (acc, [])
  | d :: ds => if 10 * acc + d < uint64Count then gather (10 * acc + d) ds else (acc, d :: ds)

/-- Divides by `10 ^ 308` until the exponent is in reach of one power of ten, at most `fuel`
times; the number is zero before that unless it was reached. -/
def scaleDown : Nat → Double → Int → Double
  | 0, x, _ => x
  | fuel + 1, x, exponent =>
    if exponent < -308 then
      if x.equals (Double.zero false) then x
      else scaleDown fuel (x.div (Double.ofDecimal false 1 308)) (exponent + 308)
    else x.div (Double.ofDecimal false 1 (-exponent))

/-- The double of `significand * 10 ^ exponent`, taken in steps; `none` when it is too large. -/
def scale? (significand : Nat) (exponent : Int) : Option Double :=
  let x := Double.ofInt significand
  if exponent < 0 then some (scaleDown 4 x exponent)
  else if 308 < exponent then if significand = 0 then some x else none
  else
    let y := x.mul (Double.ofDecimal false 1 exponent)
    if y.isFinite then some y else none

/-- The double of a literal. Exponents beyond 31 bits leave a zero, or nothing. -/
def toDouble? (l : Literal) : Option Double := do
  let (whole, beyond) := gather 0 l.whole
  let (significand, left) := gather whole l.fraction
  let shift : Int := (beyond.length : Int) - ((l.fraction.length - left.length : Nat) : Int)
  let exponent : Int := l.exponent.getD 0
  let x ←
    if 2147483648 ≤ exponent.natAbs then
      if significand ≠ 0 ∧ 0 < exponent then none else some (Double.zero false)
    else scale? significand (shift + exponent)
  some (if l.negative then x.neg else x)

/-- The number of a literal; `none` when it is too large for a double. -/
def toJson? (l : Literal) : Option Json :=
  let n : Nat := l.whole.foldl (fun n d => 10 * n + d) 0
  let isInteger := l.fraction.isEmpty && l.exponent.isNone
  if isInteger && !l.negative && n < uint64Count then some (.int n)
  else if isInteger && l.negative && 0 < n && IsInt64 (-n) then some (.int (-n))
  else l.toDouble?.map Json.double

end Literal

/-- The number of a literal text. -/
def ofLiteral? (text : String) : Option Json := (Literal.read? text.toList).bind Literal.toJson?

end DocStore.Json
