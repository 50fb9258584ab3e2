import DocStore.Double.Arithmetic
import DocStore.Value.Basic
/-!
# Numbers

A number is an exact 64-bit integer or a double. Integer arithmetic stays exact while the result
fits and goes on in doubles when it does not; division of integers stays integral only when it
leaves no remainder. There are two orders: `Number.compare?` looks at a mixed pair as doubles, and
`Number.totalOrder` compares exact values with the NaN below everything.
-/

namespace DocStore

/-- The 64-bit integer of this value, if there is one. -/
def int64? (n : Int) : Option Int64 :=
  if IsInt64 n then some (Int64.ofInt n) else none

inductive Number where
  | int (n : Int64)
  | float (x : Double)
  deriving DecidableEq

namespace Number

def ofValue? : Value → Option Number
  | .int32 n => some (.int n.toInt64)
  | .int64 n => some (.int n)
  | .double x => some (.float x)
  | _ => none

def toValue : Number → Value
  | .int n => .int64 n
  | .float x => .double x

def toDouble : Number → Double
  | .int n => Double.ofInt n.toInt
  | .float x => x

/-- The integer of an exact result, or the double that stands in for it. -/
def exactOr (exact : Int) (rounded : Double) : Number :=
  match int64? exact with
  | some n => .int n
  | none => .float rounded

def isZero : Number → Bool
  | .int n => n == 0
  | .float x => x.isNaN || x.equals (Double.zero false)

def neg : Number → Number
  | .int n => exactOr (-n.toInt) (Double.ofInt n.toInt).neg
  | .float x => .float x.neg

def add : Number → Number → Number
  | .int a, .int b =>
    exactOr (a.toInt + b.toInt) ((Double.ofInt a.toInt).add (Double.ofInt b.toInt))
  | a, b => .float (a.toDouble.add b.toDouble)

def sub (a b : Number) : Number := a.add b.neg

def mul : Number → Number → Number
  | .int a, .int b =>
    exactOr (a.toInt * b.toInt) ((Double.ofInt a.toInt).mul (Double.ofInt b.toInt))
  | a, b => .float (a.toDouble.mul b.toDouble)

/-- Division; an integer quotient is kept when it is exact and fits. -/
def div (a b : Number) : Number :=
  let quotient := Number.float (a.toDouble.div b.toDouble)
  match a, b with
  | .int m, .int n =>
    if n = 0 ∨ m.toInt.tmod n.toInt ≠ 0 then quotient
    else match int64? (m.toInt.tdiv n.toInt) with
      | some q => .int q
      | none => quotient
  | _, _ => quotient

/-- The remainder of division toward zero; it has the sign of the dividend. -/
def rem : Number → Number → Number
  | .int a, .int b =>
    if b = 0 then .float ((Double.ofInt a.toInt).rem (Double.ofInt b.toInt))
    else .int (Int64.ofInt (a.toInt.tmod b.toInt))
  | a, b => .float (a.toDouble.rem b.toDouble)

/-- The order of two integers, or of both numbers as doubles. -/
def compare? : Number → Number → Option Ordering
  | .int a, .int b => some (compare a.toInt b.toInt)
  | a, b => a.toDouble.compare? b.toDouble

def equals (a b : Number) : Bool := a.compare? b == some .eq

/-- The first double past the 64-bit integers, `2 ^ 63`. -/
def int64Limit : Double := .finite false Double.leadingBit 1085 (by decide)

/-- An integer against a double. The NaN and what lies beyond the 64-bit integers are told first;
the whole part of any other double is a 64-bit integer, and its fraction decides where the two
tie. -/
def compareIntDouble (n : Int64) (x : Double) : Ordering :=
  if x.isNaN || x.compare? int64Limit.neg == some .lt then .gt
  else if (x.compare? int64Limit).any Ordering.isGE then .lt
  else
    let whole := x.floor?.getD 0
    (compare n.toInt whole).then (if whole * Double.unitsPerOne < x.units then .lt else .eq)

/-- The order of exact values, with every NaN equal and below every number. -/
def totalOrder : Number → Number → Ordering
  | .int a, .int b => compare a.toInt b.toInt
  | .int a, .float x => compareIntDouble a x
  | .float x, .int b => (compareIntDouble b x).swap
  | .float x, .float y =>
    match x.compare? y with
    | some order => order
    | none => compare y.isNaN.toNat x.isNaN.toNat

end Number

end DocStore
