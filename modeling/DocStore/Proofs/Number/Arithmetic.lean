import Mathlib.Logic.Basic
import DocStore.Number
/-!
# Exactness of integer arithmetic

Every operation on two 64-bit integers either gives the integer of the exact result or leaves the
integers for a double, so what is to be shown of each is when it gives an integer, and which. A sum,
a product and a negation do so exactly when the result fits; a quotient when there is one; a
remainder whenever the divisor is not zero.

Subtraction goes through a negation, and the least integer has none. Its negation is the double
`2 ^ 63`, and from there on the sum is one of doubles: a negative number less the least integer fits
and is a double all the same (`exists_inexact_difference`).
-/

namespace DocStore

theorem isInt64_toInt (n : Int64) : IsInt64 n.toInt :=
  ⟨n.le_toInt, Int.le_of_lt_add_one n.toInt_lt⟩

theorem toInt_eq_zero_iff {n : Int64} : n.toInt = 0 ↔ n = 0 := by
  rw [← Int64.toInt_inj, Int64.toInt_zero]

theorem int64?_eq_some_iff {k : Int} {n : Int64} : int64? k = some n ↔ n.toInt = k := by
  simp only [int64?, Option.ite_none_right_eq_some, Option.some.injEq]
  constructor
  · rintro ⟨⟨least, greatest⟩, rfl⟩
    exact Int64.toInt_ofInt_of_le least (Int.lt_add_one_of_le greatest)
  · rintro rfl
    exact ⟨isInt64_toInt n, Int64.ofInt_toInt n⟩

theorem int64?_eq_none_iff {k : Int} : int64? k = none ↔ ¬ IsInt64 k := by
  simp [int64?]

namespace Number

theorem exactOr_eq_int_iff {k : Int} {x : Double} {n : Int64} :
    exactOr k x = .int n ↔ n.toInt = k := by
  rw [← int64?_eq_some_iff, exactOr]
  split <;> simp_all

/-! ### Each operation -/

theorem neg_int_eq_int_iff {a n : Int64} : (int a).neg = .int n ↔ n.toInt = -a.toInt :=
  exactOr_eq_int_iff

theorem add_int_eq_int_iff {a b n : Int64} :
    (int a).add (.int b) = .int n ↔ n.toInt = a.toInt + b.toInt :=
  exactOr_eq_int_iff

theorem mul_int_eq_int_iff {a b n : Int64} :
    (int a).mul (.int b) = .int n ↔ n.toInt = a.toInt * b.toInt :=
  exactOr_eq_int_iff

theorem add_float_ne_int (a : Number) (x : Double) (n : Int64) : a.add (.float x) ≠ .int n := by
  cases a <;> simp [add]

/-- The least integer has no negation among the integers; its double has one. -/
theorem neg_int_minValue :
    (int Int64.minValue).neg = .float (Double.ofInt int64Least).neg := by
  have none_fits : int64? (-Int64.minValue.toInt) = none := int64?_eq_none_iff.mpr (by decide)
  rw [neg, exactOr, none_fits]
  rfl

/-- Every other integer has one. -/
theorem neg_int_of_ne {b : Int64} (h : b ≠ Int64.minValue) :
    ∃ c : Int64, (int b).neg = .int c ∧ c.toInt = -b.toInt := by
  have fits : IsInt64 (-b.toInt) := by
    have range := isInt64_toInt b
    have apart : b.toInt ≠ int64Least := fun e => h (Int64.toInt_inj.mp e)
    simp only [IsInt64, int64Least, int64Greatest] at *
    omega
  have negated : (Int64.ofInt (-b.toInt)).toInt = -b.toInt :=
    int64?_eq_some_iff.mp (if_pos fits)
  exact ⟨_, neg_int_eq_int_iff.mpr negated, negated⟩

/-- The difference goes through the negation of the subtrahend: it is an integer when it fits and
the subtrahend has a negation. -/
theorem sub_int_eq_int_iff {a b n : Int64} :
    (int a).sub (.int b) = .int n ↔
      n.toInt = a.toInt - b.toInt ∧ b ≠ Int64.minValue := by
  by_cases least : b = Int64.minValue
  · subst least
    simp [sub, neg_int_minValue, add_float_ne_int]
  · obtain ⟨c, negated, toInt_c⟩ := neg_int_of_ne least
    rw [sub, negated, add_int_eq_int_iff, toInt_c, ← Int.sub_eq_add_neg]
    simp [least]

/-- A quotient that leaves no remainder is an integer, unless it is one past the greatest. -/
theorem div_int_eq_int_iff {a b n : Int64} :
    (int a).div (.int b) = .int n ↔ b ≠ 0 ∧ n.toInt * b.toInt = a.toInt := by
  by_cases zero : b = 0
  · simp [div, zero]
  by_cases exact : a.toInt.tmod b.toInt = 0
  · have product := Int.tdiv_mul_cancel (Int.dvd_of_tmod_eq_zero exact)
    have quotient_iff : n.toInt * b.toInt = a.toInt ↔ n.toInt = a.toInt.tdiv b.toInt := by
      rw [← product, Int.mul_tdiv_cancel _ (mt toInt_eq_zero_iff.mp zero)]
      exact Int.mul_eq_mul_right_iff (mt toInt_eq_zero_iff.mp zero)
    rw [quotient_iff, ← int64?_eq_some_iff]
    simp only [div, zero, exact, ne_eq, not_true_eq_false, or_self, if_false, not_false_eq_true,
      true_and]
    split <;> simp_all
  · have inexact : n.toInt * b.toInt ≠ a.toInt := fun e => exact (by rw [← e, Int.mul_tmod_left])
    simp [div, exact, inexact]

/-- A remainder is an integer whenever there is one. -/
theorem rem_int_eq_int_iff {a b n : Int64} :
    (int a).rem (.int b) = .int n ↔ b ≠ 0 ∧ n.toInt = a.toInt.tmod b.toInt := by
  by_cases zero : b = 0
  · simp [rem, zero]
  · have fits : IsInt64 (a.toInt.tmod b.toInt) := by
      have range := isInt64_toInt b
      have small : (a.toInt.tmod b.toInt).natAbs < b.toInt.natAbs := by
        rw [Int.natAbs_tmod]
        exact Nat.mod_lt _ (Int.natAbs_pos.mpr (mt toInt_eq_zero_iff.mp zero))
      simp only [IsInt64, int64Least, int64Greatest] at *
      omega
    have remainder : (Int64.ofInt (a.toInt.tmod b.toInt)).toInt = a.toInt.tmod b.toInt :=
      int64?_eq_some_iff.mp (if_pos fits)
    simp only [rem, zero, if_false, Number.int.injEq, not_false_eq_true, true_and, ne_eq]
    rw [← Int64.toInt_inj, remainder, eq_comm]

/-! ### All of them -/

/-- **Integer arithmetic is exact but for one difference.** Of two integers each operation gives an
integer exactly when there is an exact result that fits, and then that one; a difference is the
exception, which is no integer either when the least integer is taken from a negative one. -/
theorem integer_arithmetic_exact_iff (a b n : Int64) :
    ((int a).neg = .int n ↔ n.toInt = -a.toInt) ∧
    ((int a).add (.int b) = .int n ↔ n.toInt = a.toInt + b.toInt) ∧
    ((int a).sub (.int b) = .int n ↔
      n.toInt = a.toInt - b.toInt ∧ ¬ (a.toInt < 0 ∧ b = Int64.minValue)) ∧
    ((int a).mul (.int b) = .int n ↔ n.toInt = a.toInt * b.toInt) ∧
    ((int a).div (.int b) = .int n ↔ b ≠ 0 ∧ n.toInt * b.toInt = a.toInt) ∧
    ((int a).rem (.int b) = .int n ↔ b ≠ 0 ∧ n.toInt = a.toInt.tmod b.toInt) := by
  refine ⟨neg_int_eq_int_iff, add_int_eq_int_iff, ?_, mul_int_eq_int_iff, div_int_eq_int_iff,
    rem_int_eq_int_iff⟩
  -- from an integer that is not negative the least one takes the difference out of the range
  rw [sub_int_eq_int_iff, and_congr_right_iff]
  intro difference
  have fits := isInt64_toInt n
  by_cases least : b = Int64.minValue
  · subst least
    have toInt_least : Int64.minValue.toInt = int64Least := rfl
    simp only [IsInt64, int64Least, int64Greatest] at *
    simp only [ne_eq, not_true_eq_false, and_true, false_iff, not_not]
    omega
  · simp [least]

/-- A difference that fits and is a double. -/
theorem exists_inexact_difference : ∃ a b n : Int64,
    n.toInt = a.toInt - b.toInt ∧ (int a).sub (.int b) ≠ .int n :=
  ⟨-1, Int64.minValue, Int64.maxValue, by decide, by decide⟩

end Number

end DocStore
