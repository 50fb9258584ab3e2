import DocStore.Double.Shortest
/-!
# Numbers as text

Three written forms of a double. All but `exactDigits` use the fewest digits that read back.

* `Double.plain` never uses an exponent: `1`, `-0`, `2.5`, `inf`, `NaN`.
* `Double.scientific` always shows a fraction or an exponent: `1.0` and `0.00001` between `1e-5`
  and `1e16`, `1e+16` and `5e-324` outside.
* `Double.exactDigits` writes all digits of the integer nearest to the value.
-/

namespace DocStore

namespace Decimal

/-- The digits followed by zeros, or with a point, or after leading zeros. -/
def positional (d : Decimal) : String :=
  let text := toString d.digits
  if 0 ≤ d.exponent then text ++ "".pushn '0' d.exponent.toNat
  else
    let places := (-d.exponent).toNat
    let padded :=
      if text.length ≤ places then "".pushn '0' (places + 1 - text.length) ++ text else text
    let whole := padded.length - places
    String.ofList (padded.toList.take whole) ++ "." ++ String.ofList (padded.toList.drop whole)

/-- One digit, a point before the others if there are any, and the power of ten with its sign. -/
def exponential (d : Decimal) : String :=
  let digits := (toString d.digits).toList
  let power := d.exponent + (digits.length - 1 : Nat)
  let mantissa := String.ofList (digits.take 1) ++
    (if digits.length ≤ 1 then "" else "." ++ String.ofList (digits.drop 1))
  mantissa ++ "e" ++ (if power < 0 then "-" else "+") ++ toString power.natAbs

end Decimal

namespace Double

def signText (negative : Bool) : String := if negative then "-" else ""

/-- The shortest positional form; halfway cases go up. -/
def plain : Double → String
  | .nan => "NaN"
  | .infinity negative => signText negative ++ "inf"
  | .finite negative significand shift _ =>
    signText negative ++
      (if significand = 0 then "0" else (shortest .up significand shift).positional)

/-- The shortest form with a fraction or an exponent; halfway cases go to the even digit. Values
without one are written `null`. -/
def scientific : Double → String
  | .nan | .infinity _ => "null"
  | .finite negative significand shift _ =>
    signText negative ++
      (if significand = 0 then "0.0" else
        let d := shortest .toEven significand shift
        let point := d.exponent + (Decimal.digitCount d.digits : Int)
        if -5 < point ∧ point ≤ 16 then d.positional ++ (if 0 ≤ d.exponent then ".0" else "")
        else d.exponential)

/-- Every digit of the nearest integer, for a finite number. -/
def exactDigits : Double → String
  | .nan => "NaN"
  | .infinity negative => signText negative ++ "inf"
  | x@(.finite negative ..) =>
    signText negative ++ toString (roundHalfEven x.magnitude unitsPerOne)

end Double

end DocStore
