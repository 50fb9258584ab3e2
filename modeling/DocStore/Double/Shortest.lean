import DocStore.Double.Basic
/-!
# The fewest digits that read back

`Double.shortest` finds the shortest decimal that rounds to a given finite number, and of the
shortest ones the nearest. A decimal with `n` significant digits lies on a grid; if the interval of
values that round to the number holds a point of the grid, it holds one of the number's two
neighbours on it. The grids of 1, 2, … 17 digits are tried in turn, in exact arithmetic.

What to do when both neighbours are equally near is the caller's choice (`Tie`).
-/

namespace DocStore

/-- How a decimal is chosen when the value lies halfway between two candidates. -/
inductive Tie where
  | up
  | toEven
  deriving DecidableEq

/-- A positive decimal `digits * 10 ^ exponent`. -/
structure Decimal where
  digits : Nat
  exponent : Int
  deriving DecidableEq

namespace Decimal

/-- The number of decimal digits of a natural number; zero has none. -/
def digitCount (n : Nat) : Nat :=
  if n = 0 then 0 else (Nat.toDigits 10 n).length

/-- Moves trailing zeros of the digits into the exponent, at most `fuel` of them. -/
def dropZeros : Nat → Decimal → Decimal
  | 0, d => d
  | fuel + 1, d =>
    if d.digits ≠ 0 ∧ d.digits % 10 = 0 then dropZeros fuel ⟨d.digits / 10, d.exponent + 1⟩ else d

/-- The `k` with `10 ^ (k - 1) ≤ num / den < 10 ^ k`, for a positive ratio. -/
def magnitudeOf (num den : Nat) : Int :=
  if den ≤ num then digitCount (num / den)
  else 1 - (digitCount ((den + num - 1) / num - 1) : Int)

end Decimal

namespace Double

/-- The values that round to a number, in quarters of a unit. -/
structure Neighbourhood where
  low : Nat
  high : Nat
  closed : Bool

/-- Half the gap to either neighbour; the gap below a power of two is the smaller one. The ends
belong to the interval when the significand is even. -/
def neighbourhood (significand shift : Nat) : Neighbourhood :=
  let gap := 1 <<< shift
  let centre := 4 * significand * gap
  let below := if significand = leadingBit ∧ shift ≠ 0 then gap else 2 * gap
  ⟨centre - below, centre + 2 * gap, significand % 2 == 0⟩

/-- The neighbour with `count` digits that lies in the neighbourhood and nearest to the value
`significand * 2 ^ shift`, whose decimal magnitude is `k`. -/
def onGrid? (tie : Tie) (significand shift : Nat) (k : Int) (count : Nat) : Option Decimal :=
  let exponent := k - count
  -- a grid point `c` is the value `c * up / down` in quarters of a unit
  let up := 4 * unitsPerOne * Nat.pow 10 exponent.toNat
  let down := Nat.pow 10 (-exponent).toNat
  let value := ((4 * significand) <<< shift) * down
  let c := value / up
  let area := neighbourhood significand shift
  let holds (c : Nat) : Bool :=
    let point := c * up
    if area.closed then area.low * down ≤ point && point ≤ area.high * down
    else area.low * down < point && point < area.high * down
  let below := value - c * up
  let above := (c + 1) * up - value
  let preferLow : Bool := below < above || (below == above && tie == .toEven && c % 2 == 0)
  match holds c, holds (c + 1) with
  | true, true => some ⟨if preferLow then c else c + 1, exponent⟩
  | true, false => some ⟨c, exponent⟩
  | false, true => some ⟨c + 1, exponent⟩
  | false, false => none

/-- The shortest decimal that rounds to `significand * 2 ^ shift` units, the nearest of those. -/
def shortest (tie : Tie) (significand shift : Nat) : Decimal :=
  let k := Decimal.magnitudeOf (significand <<< shift) unitsPerOne
  match (List.range 17).findSome? fun n => onGrid? tie significand shift k (n + 1) with
  | some d => d.dropZeros 17
  | none => ⟨0, 0⟩

end Double

end DocStore
