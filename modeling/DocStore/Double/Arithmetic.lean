import DocStore.Double.Basic
/-!
# Arithmetic on binary64 numbers

Sums, products, quotients and remainders of finite numbers are taken exactly on units and rounded
once by `Double.nearest`. The remaining cases are those of the standard: the sign of a product is
the product of the signs, a sum that vanishes is positive unless both terms are negative, and an
operation without a value is the NaN.
-/

namespace DocStore.Double

def neg : Double → Double
  | .nan => .nan
  | .infinity negative => .infinity !negative
  | .finite negative significand shift canonical => .finite (!negative) significand shift canonical

def add : Double → Double → Double
  | .nan, _ | _, .nan => .nan
  | .infinity a, .infinity b => if a == b then .infinity a else .nan
  | .infinity a, _ => .infinity a
  | _, .infinity b => .infinity b
  | x@(.finite ..), y@(.finite ..) =>
    let sum := x.units + y.units
    if sum = 0 then zero (x.isNegative && y.isNegative) else nearest (sum < 0) sum.natAbs 1

def mul (x y : Double) : Double :=
  let negative := x.isNegative != y.isNegative
  match x, y with
  | .nan, _ | _, .nan => .nan
  | .infinity _, .infinity _ => .infinity negative
  | .infinity _, other | other, .infinity _ =>
    if other.magnitude = 0 then .nan else .infinity negative
  | .finite .., .finite .. => nearest negative (x.magnitude * y.magnitude) unitsPerOne

def div (x y : Double) : Double :=
  let negative := x.isNegative != y.isNegative
  match x, y with
  | .nan, _ | _, .nan => .nan
  | .infinity _, .infinity _ => .nan
  | .infinity _, _ => .infinity negative
  | _, .infinity _ => zero negative
  | .finite .., .finite .. =>
    if y.magnitude = 0 then if x.magnitude = 0 then .nan else .infinity negative
    else nearest negative (x.magnitude * unitsPerOne) y.magnitude

/-- The remainder of division toward zero: it has the sign of the dividend and is exact. -/
def rem (x y : Double) : Double :=
  match x, y with
  | .nan, _ | _, .nan => .nan
  | .infinity _, _ => .nan
  | _, .infinity _ => x
  | .finite .., .finite .. =>
    if y.magnitude = 0 then .nan else nearest x.isNegative (x.magnitude % y.magnitude) 1

end DocStore.Double
