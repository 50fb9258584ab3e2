/-!
# Binary64 numbers as exact values

Every finite binary64 number is a whole multiple of `2 ^ (-1074)`, so its value is an integer count
of such units. `Double` keeps one canonical significand and shift per finite number, `Double.units`
is the exact count, and comparison, rounding and truncation are integer arithmetic on counts.

* `Double.nearest` rounds an exact ratio of units to the nearest double, ties to the even
  significand, and overflows to an infinity.
* `Double.compare?` is the order of the exact values; a NaN is comparable to nothing.

There is one NaN. The range of signed 64-bit integers, into which doubles are truncated, comes
first.
-/

namespace DocStore

/-! ## The range of 64-bit integers -/

/-- The least signed 64-bit integer. -/
abbrev int64Least : Int := -9223372036854775808

/-- The greatest signed 64-bit integer. -/
abbrev int64Greatest : Int := 9223372036854775807

/-- The range of signed 64-bit integers. -/
abbrev IsInt64 (n : Int) : Prop := int64Least ≤ n ∧ n ≤ int64Greatest

/-- The number of unsigned 64-bit integers. -/
abbrev uint64Count : Nat := 18446744073709551616

/-- The nearest signed 64-bit integer. -/
def clampInt64 (n : Int) : Int := max int64Least (min n int64Greatest)

theorem isInt64_clampInt64 (n : Int) : IsInt64 (clampInt64 n) := by
  simp only [clampInt64, IsInt64, int64Least, int64Greatest]
  omega

theorem clampInt64_of_isInt64 {n : Int} (h : IsInt64 n) : clampInt64 n = n := by
  simp only [clampInt64, IsInt64, int64Least, int64Greatest] at *
  omega

/-! ## Doubles -/

/-- The highest bit of a significand with 53 bits, which is `2 ^ 52`. -/
abbrev Double.leadingBit : Nat := 4503599627370496

/-- The pairs `significand * 2 ^ shift` that stand for one finite magnitude each: the significand
has at most 53 bits, and fewer only when the shift is zero. -/
def Double.IsCanonical (significand shift : Nat) : Prop :=
  significand < 2 * Double.leadingBit ∧ shift ≤ 2045 ∧
    (Double.leadingBit ≤ significand ∨ shift = 0)

instance (significand shift : Nat) : Decidable (Double.IsCanonical significand shift) := by
  unfold Double.IsCanonical; infer_instance

/-- A binary64 number: a finite one is `± significand * 2 ^ shift` units of `2 ^ (-1074)`. -/
inductive Double where
  | nan
  | infinity (negative : Bool)
  | finite (negative : Bool) (significand shift : Nat)
      (canonical : Double.IsCanonical significand shift)
  deriving DecidableEq

namespace Double

/-- The number of units in one. -/
def unitsPerOne : Nat := 1 <<< 1074

/-- The sign bit; the NaN has none. -/
def isNegative : Double → Bool
  | .nan => false
  | .infinity negative => negative
  | .finite negative _ _ _ => negative

def isNaN : Double → Bool
  | .nan => true
  | _ => false

def isFinite : Double → Bool
  | .finite _ _ _ _ => true
  | _ => false

/-- The distance from zero in units; zero for what is not finite. -/
def magnitude : Double → Nat
  | .finite _ significand shift _ => significand <<< shift
  | _ => 0

/-- The signed count of units; zero for what is not finite. -/
def units (x : Double) : Int :=
  if x.isNegative then -(x.magnitude : Int) else x.magnitude

/-- The finite number with these parts, or an infinity when the parts lie outside the format. -/
def ofParts (negative : Bool) (significand shift : Nat) : Double :=
  if h : IsCanonical significand shift then .finite negative significand shift h
  else .infinity negative

def zero (negative : Bool) : Double := ofParts negative 0 0

instance : Inhabited Double := ⟨zero false⟩

/-- `num / den` rounded to the nearest integer, a tie to the even one. -/
def roundHalfEven (num den : Nat) : Nat :=
  let quotient := num / den
  let twice := 2 * (num % den)
  if twice < den ∨ (twice = den ∧ quotient % 2 = 0) then quotient else quotient + 1

/-- The double nearest to `± num / den` units, a tie to the even significand. -/
def nearest (negative : Bool) (num den : Nat) : Double :=
  let shift := Nat.log2 (num / den) - 52
  let significand := roundHalfEven num (den <<< shift)
  if significand = 2 * leadingBit then ofParts negative leadingBit (shift + 1)
  else ofParts negative significand shift

/-- The double nearest to an integer. -/
def ofInt (n : Int) : Double :=
  nearest (n < 0) (n.natAbs * unitsPerOne) 1

/-- The order of the exact values, with the infinities at the ends. -/
def compare? : Double → Double → Option Ordering
  | .nan, _ | _, .nan => none
  | .infinity a, .infinity b => some (compare b.toNat a.toNat)
  | .infinity a, .finite .. => some (if a then .lt else .gt)
  | .finite .., .infinity b => some (if b then .gt else .lt)
  | x@(.finite ..), y@(.finite ..) => some (compare x.units y.units)

/-- Equality of values: both zeros are equal and a NaN equals nothing. -/
def equals (x y : Double) : Bool := compare? x y == some .eq

/-- The integer part of a finite number. -/
def truncate? : Double → Option Int
  | x@(.finite ..) => some (x.units.tdiv unitsPerOne)
  | _ => none

/-- The greatest integer not above a finite number. -/
def floor? : Double → Option Int
  | x@(.finite ..) => some (x.units.fdiv unitsPerOne)
  | _ => none

/-- Whether the number is finite and has no fraction. -/
def isIntegral (x : Double) : Bool :=
  x.isFinite && x.magnitude % unitsPerOne == 0

/-- The integer part held within the signed 64-bit range; a NaN gives zero. -/
def clampToInt64 : Double → Int
  | .nan => 0
  | .infinity negative => if negative then int64Least else int64Greatest
  | x@(.finite ..) => clampInt64 (x.units.tdiv unitsPerOne)

end Double

end DocStore
