import DocStore.Proofs.Number.Arithmetic
import DocStore.Proofs.Number.Rounding
/-!
# Integers that pass through a double

An operator that takes a count reads it as a double and takes the whole part of that. What is left
of a 64-bit integer is `Double.roundedUnits` of it (`Double.truncate?_ofInt`): rounding does not
depend on the unit that is counted in, so it may be done on the integer itself.

Up to `2 ^ 53` nothing changes, and beyond it nothing gets below
(`Double.roundedUnits_of_natAbs_le`, `Double.le_natAbs_roundedUnits`). At the ends of the range,
what is within 512 of the least integer becomes that (`Double.int64Least_lt_roundedUnits_iff`), and
nothing exceeds `2 ^ 63` (`Double.roundedUnits_le`).
-/

namespace DocStore

namespace Double

/-! ### Counting in another unit -/

theorem roundHalfEven_mul_right (num den : Nat) {factor : Nat} (h : 0 < factor) :
    roundHalfEven (num * factor) (den * factor) = roundHalfEven num den := by
  have htwice : 2 * (num % den * factor) = 2 * (num % den) * factor := (Nat.mul_assoc ..).symm
  simp only [roundHalfEven, Nat.mul_div_mul_right num den h, Nat.mul_mod_mul_right, htwice,
    Nat.mul_lt_mul_right h, Nat.mul_left_inj (Nat.ne_of_gt h)]

theorem roundingShift_mul_two_pow {num : Nat} (h : 0 < roundingShift num) (k : Nat) :
    roundingShift (num * 2 ^ k) = roundingShift num + k := by
  have hnum : num ≠ 0 := by rintro rfl; simp [roundingShift] at h
  have hlog : (num * 2 ^ k).log2 = num.log2 + k := by
    rw [Nat.log2_eq_iff (Nat.mul_ne_zero hnum (Nat.two_pow_pos k).ne'), Nat.add_right_comm,
      Nat.pow_add, Nat.pow_add]
    exact ⟨Nat.mul_le_mul_right _ (Nat.log2_self_le hnum),
      Nat.mul_lt_mul_of_pos_right Nat.lt_log2_self (Nat.two_pow_pos k)⟩
  rw [roundingShift] at h ⊢
  rw [roundingShift]
  omega

theorem roundedCount_of_lt {num : Nat} (h : num < 2 ^ 53) : roundedCount num = num :=
  roundedCount_shiftLeft h 0

theorem roundedCount_two_pow : roundedCount (2 ^ 53) = 2 ^ 53 :=
  @roundedCount_shiftLeft 1 (by decide) 53

/-- A count has its 53 bits in any unit: either it has no more than these, or its rounding shift
grows with the unit. -/
theorem roundedCount_mul_unit (num k : Nat) :
    roundedCount (num * 1 <<< k) = roundedCount num * 1 <<< k := by
  rw [Nat.one_shiftLeft]
  rcases Nat.eq_zero_or_pos (roundingShift num) with hshift | hshift
  · have hnum : num < 2 ^ 53 := by simpa [hshift] using lt_two_pow_roundingShift num
    rw [roundedCount_of_lt hnum, ← Nat.shiftLeft_eq, roundedCount_shiftLeft hnum]
  · rw [roundedCount_eq, roundedCount_eq, roundingShift_mul_two_pow hshift, Nat.pow_add,
      roundHalfEven_mul_right _ _ (Nat.two_pow_pos k), Nat.mul_assoc]

theorem roundedUnits_mul_unit (n : Int) (k : Nat) :
    roundedUnits (n * (1 <<< k : Nat)) = roundedUnits n * (1 <<< k : Nat) := by
  have hpos : 0 < 1 <<< k := by
    rw [Nat.one_shiftLeft]
    exact Nat.two_pow_pos k
  have hsign : n * (1 <<< k : Nat) < (0 : Int) * ((1 <<< k : Nat) : Int) ↔ n < 0 :=
    Int.mul_lt_mul_right (Int.natCast_pos.mpr hpos)
  rw [Int.zero_mul] at hsign
  simp only [roundedUnits, hsign, Int.natAbs_mul, Int.natAbs_natCast, roundedCount_mul_unit,
    Int.natCast_mul]
  split
  · rw [Int.neg_mul]
  · rfl

/-! ### The whole part of the double of an integer -/

theorem units_ofInt (n : Int64) :
    (ofInt n.toInt).units = roundedUnits n.toInt * unitsPerOne :=
  (ofInt_rounded n).2.trans (roundedUnits_mul_unit n.toInt 1074)

/-- **The whole part of the double of an integer is the integer, rounded to 53 bits.** -/
theorem truncate?_ofInt (n : Int64) :
    (ofInt n.toInt).truncate? = some (roundedUnits n.toInt) := by
  have hfinite := (ofInt_rounded n).1
  have hunits := units_ofInt n
  cases hdouble : ofInt n.toInt with
  | finite negative significand shift canonical =>
    rw [hdouble] at hunits
    rw [truncate?, hunits, Int.mul_tdiv_cancel _ (Int.ne_of_gt Number.unitsPerOne_pos)]
  | _ => rw [hdouble] at hfinite; cases hfinite

theorem clampToInt64_of_truncate? {x : Double} {n : Int} (h : x.truncate? = some n) :
    x.clampToInt64 = clampInt64 n := by
  cases x with
  | finite => exact congrArg clampInt64 (Option.some.inj h)
  | _ => cases h

/-! ### Small integers, and the ends of the range -/

theorem natAbs_roundedUnits (n : Int) : (roundedUnits n).natAbs = roundedCount n.natAbs := by
  rw [roundedUnits]
  split <;> omega

theorem roundedUnits_neg (n : Int) : roundedUnits (-n) = -roundedUnits n := by
  have hzero : n = 0 → (roundedCount n.natAbs : Int) = 0 := by
    rintro rfl
    exact congrArg Nat.cast roundedCount_zero
  simp only [roundedUnits, Int.natAbs_neg]
  split <;> split <;> omega

theorem roundedUnits_of_natAbs_le {n : Int} (h : n.natAbs ≤ 2 ^ 53) : roundedUnits n = n := by
  have hcount : roundedCount n.natAbs = n.natAbs := by
    rcases Nat.lt_or_eq_of_le h with hlt | heq
    · exact roundedCount_of_lt hlt
    · rw [heq]
      exact roundedCount_two_pow
  rw [roundedUnits, hcount]
  split <;> omega

theorem le_natAbs_roundedUnits {n : Int} (h : 2 ^ 53 ≤ n.natAbs) :
    2 ^ 53 ≤ (roundedUnits n).natAbs := by
  rw [natAbs_roundedUnits]
  calc 2 ^ 53 = roundedCount (2 ^ 53) := roundedCount_two_pow.symm
    _ ≤ roundedCount n.natAbs := roundedCount_mono h

theorem roundedUnits_pos_iff {n : Int} : 0 < roundedUnits n ↔ 0 < n := by
  constructor
  · intro h
    by_contra hn
    have hle := roundedUnits_mono (show n ≤ 0 by omega)
    rw [roundedUnits_of_natAbs_le (n := 0) (by decide)] at hle
    omega
  · intro h
    have hle := roundedUnits_mono (show 1 ≤ n by omega)
    rw [roundedUnits_of_natAbs_le (n := 1) (by decide)] at hle
    omega

theorem int64Least_le_roundedUnits (n : Int64) : int64Least ≤ roundedUnits n.toInt :=
  calc int64Least = roundedUnits int64Least := by decide +kernel
    _ ≤ roundedUnits n.toInt := roundedUnits_mono n.le_toInt

/-- The least integer and the 512 after it become the least integer. -/
theorem int64Least_lt_roundedUnits_iff (n : Int64) :
    int64Least < roundedUnits n.toInt ↔ int64Least + 512 < n.toInt := by
  constructor
  · intro h
    by_contra hn
    have hle : roundedUnits n.toInt ≤ roundedUnits (int64Least + 512) :=
      roundedUnits_mono (Int.not_lt.mp hn)
    have hlast : roundedUnits (int64Least + 512) = int64Least := by decide +kernel
    omega
  · intro h
    have hle : roundedUnits (int64Least + 513) ≤ roundedUnits n.toInt := roundedUnits_mono h
    have hnext : roundedUnits (int64Least + 513) = int64Least + 1024 := by decide +kernel
    omega

theorem roundedUnits_le (n : Int64) : roundedUnits n.toInt ≤ int64Greatest + 1 :=
  calc roundedUnits n.toInt ≤ roundedUnits (int64Greatest + 1) :=
        roundedUnits_mono (Int.le_of_lt n.toInt_lt)
    _ = int64Greatest + 1 := by decide +kernel

end Double

end DocStore
