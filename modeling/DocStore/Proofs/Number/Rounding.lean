import DocStore.Proofs.Value.Order
import Mathlib.Algebra.Group.Nat.Defs
import Mathlib.Data.Nat.Log
import Mathlib.Order.Monotone.Defs
/-!
# Rounding keeps the order

An integer is rounded to a double by counting in a coarser unit, `2 ^ shift` small ones, that leaves
53 bits. This never turns an order round (`roundedUnits_mono`) and leaves alone what has at most 53
bits (`roundedCount_shiftLeft`), doubles among them. So numbers compare as doubles the way they
compare exactly, except that some of them tie (`totalOrder_rounded`), and `Number.compare?` is the
exact order but for such ties (`exists_compare?`).
-/

namespace DocStore

namespace Double

/-! ### Halves to even -/

theorem div_le_roundHalfEven (num den : Nat) : num / den ≤ roundHalfEven num den := by
  rw [roundHalfEven]
  split <;> omega

theorem roundHalfEven_le_succ (num den : Nat) : roundHalfEven num den ≤ num / den + 1 := by
  rw [roundHalfEven]
  split <;> omega

theorem roundHalfEven_of_dvd {num den : Nat} (hden : 0 < den) (h : den ∣ num) :
    roundHalfEven num den = num / den := by
  rw [roundHalfEven, Nat.mod_eq_zero_of_dvd h]
  exact if_pos (.inl hden)

theorem roundHalfEven_mono {den : Nat} : Monotone (roundHalfEven · den) := by
  intro num num' h
  rcases Nat.lt_or_eq_of_le (Nat.div_le_div_right (c := den) h) with hquotient | hquotient
  · calc roundHalfEven num den ≤ num / den + 1 := roundHalfEven_le_succ num den
      _ ≤ num' / den := hquotient
      _ ≤ roundHalfEven num' den := div_le_roundHalfEven num' den
  · -- of one quotient, the greater number leaves the greater remainder
    have hremainder : num % den ≤ num' % den := by
      have h₁ := Nat.div_add_mod num den
      have h₂ := Nat.div_add_mod num' den
      rw [hquotient] at h₁
      omega
    simp only [roundHalfEven, hquotient]
    split <;> split <;> omega

/-! ### Fifty-three bits -/

/-- The shift at which a count has 53 bits, or zero where it has fewer. -/
def roundingShift (num : Nat) : Nat := num.log2 - 52

/-- The count that is rounded to 53 bits. -/
def roundedCount (num : Nat) : Nat :=
  roundHalfEven num (1 <<< roundingShift num) <<< roundingShift num

theorem roundedCount_eq (num : Nat) :
    roundedCount num = roundHalfEven num (2 ^ roundingShift num) * 2 ^ roundingShift num := by
  rw [roundedCount, Nat.shiftLeft_eq, Nat.shiftLeft_eq, Nat.one_mul]

theorem roundingShift_mono : Monotone roundingShift := fun num num' h => by
  rcases Nat.eq_zero_or_pos num with rfl | hnum
  · exact Nat.zero_le _
  · have hlog : num.log2 ≤ num'.log2 :=
      (Nat.le_log2 (by omega)).mpr ((Nat.log2_self_le (by omega)).trans h)
    exact Nat.sub_le_sub_right hlog 52

theorem lt_two_pow_roundingShift (num : Nat) : num < 2 ^ 53 * 2 ^ roundingShift num := by
  have hlog : num < 2 ^ (num.log2 + 1) := Nat.lt_log2_self
  have hshift : num.log2 + 1 ≤ 53 + roundingShift num := by rw [roundingShift]; omega
  rw [← Nat.pow_add]
  exact hlog.trans_le (Nat.pow_le_pow_right Nat.two_pos hshift)

theorem two_pow_roundingShift_le {num : Nat} (h : 0 < roundingShift num) :
    2 ^ 52 * 2 ^ roundingShift num ≤ num := by
  have hshift : 52 + roundingShift num = num.log2 := by rw [roundingShift] at h ⊢; omega
  have hnum : num ≠ 0 := by rintro rfl; simp [roundingShift] at h
  rw [← Nat.pow_add, hshift]
  exact Nat.log2_self_le hnum

theorem roundHalfEven_roundingShift_le (num : Nat) :
    roundHalfEven num (2 ^ roundingShift num) ≤ 2 ^ 53 := by
  have hquotient : num / 2 ^ roundingShift num < 2 ^ 53 :=
    (Nat.div_lt_iff_lt_mul (Nat.two_pow_pos _)).mpr (lt_two_pow_roundingShift num)
  exact (roundHalfEven_le_succ _ _).trans hquotient

theorem le_roundHalfEven_roundingShift {num : Nat} (h : 0 < roundingShift num) :
    2 ^ 52 ≤ roundHalfEven num (2 ^ roundingShift num) :=
  ((Nat.le_div_iff_mul_le (Nat.two_pow_pos _)).mpr (two_pow_roundingShift_le h)).trans
    (div_le_roundHalfEven _ _)

/-- Rounding keeps the order of counts: within one shift by their quotients, and between two because
the lower one reaches at most the first count of the next. -/
theorem roundedCount_mono : Monotone roundedCount := fun num num' h => by
  rw [roundedCount_eq, roundedCount_eq]
  rcases Nat.lt_or_eq_of_le (roundingShift_mono h) with hshift | hshift
  · have hpos : 0 < roundingShift num' := Nat.zero_lt_of_lt hshift
    calc roundHalfEven num (2 ^ roundingShift num) * 2 ^ roundingShift num
        ≤ 2 ^ 53 * 2 ^ roundingShift num :=
          Nat.mul_le_mul_right _ (roundHalfEven_roundingShift_le num)
      _ = 2 ^ 52 * 2 ^ (roundingShift num + 1) := by rw [Nat.pow_succ']; omega
      _ ≤ 2 ^ 52 * 2 ^ roundingShift num' :=
          Nat.mul_le_mul_left _ (Nat.pow_le_pow_right Nat.two_pos hshift)
      _ ≤ roundHalfEven num' (2 ^ roundingShift num') * 2 ^ roundingShift num' :=
          Nat.mul_le_mul_right _ (le_roundHalfEven_roundingShift hpos)
  · rw [hshift]
    exact Nat.mul_le_mul_right _ (roundHalfEven_mono h)

/-- What has at most 53 bits is not changed. -/
theorem roundedCount_shiftLeft {significand : Nat} (h : significand < 2 ^ 53) (shift : Nat) :
    roundedCount (significand <<< shift) = significand <<< shift := by
  have hshift : roundingShift (significand <<< shift) ≤ shift := by
    rcases Nat.eq_zero_or_pos (significand <<< shift) with hzero | hpos
    · rw [hzero]
      exact Nat.zero_le _
    · have hlog : (significand <<< shift).log2 < 53 + shift := by
        rw [Nat.log2_lt (by omega), Nat.shiftLeft_eq, Nat.pow_add]
        exact Nat.mul_lt_mul_of_pos_right h (Nat.two_pow_pos shift)
      rw [roundingShift]
      omega
  have hdvd : 2 ^ roundingShift (significand <<< shift) ∣ significand <<< shift := by
    have hpow := Nat.pow_dvd_pow 2 hshift
    rw [Nat.shiftLeft_eq] at hpow ⊢
    exact Nat.dvd_mul_left_of_dvd hpow significand
  rw [roundedCount_eq, roundHalfEven_of_dvd (Nat.two_pow_pos _) hdvd, Nat.div_mul_cancel hdvd]

/-! ### Signed counts -/

/-- The signed count that is rounded to 53 bits. -/
def roundedUnits (count : Int) : Int :=
  if count < 0 then -(roundedCount count.natAbs : Int) else roundedCount count.natAbs

theorem roundedUnits_mono {count count' : Int} (h : count ≤ count') :
    roundedUnits count ≤ roundedUnits count' := by
  have hmono {num num' : Nat} : num ≤ num' → roundedCount num ≤ roundedCount num' :=
    fun hle => roundedCount_mono hle
  simp only [roundedUnits]
  split <;> split
  · have := @hmono count'.natAbs count.natAbs (by omega)
    omega
  · omega
  · omega
  · have := @hmono count.natAbs count'.natAbs (by omega)
    omega

theorem roundedCount_zero : roundedCount 0 = 0 := roundedCount_shiftLeft (by decide) 0

/-- The count of a double is not changed. -/
theorem roundedUnits_units (x : Double) : roundedUnits x.units = x.units := by
  have hmagnitude : roundedCount x.magnitude = x.magnitude := by
    cases x with
    | finite negative significand shift canonical => exact roundedCount_shiftLeft canonical.1 shift
    | _ => exact roundedCount_zero
  simp only [roundedUnits, units]
  split <;> split <;> simp only [Int.natAbs_neg, Int.natAbs_natCast, hmagnitude] <;> omega

/-! ### The double of an integer -/

theorem ofParts_of_isCanonical {significand shift : Nat} (h : IsCanonical significand shift)
    (negative : Bool) : ofParts negative significand shift = .finite negative significand shift h :=
  dif_pos h

theorem nearest_eq (negative : Bool) (num : Nat) : nearest negative num 1 =
    if roundHalfEven num (1 <<< roundingShift num) = 2 * leadingBit
    then ofParts negative leadingBit (roundingShift num + 1)
    else ofParts negative (roundHalfEven num (1 <<< roundingShift num)) (roundingShift num) := by
  rw [nearest, Nat.div_one]
  rfl

/-- A count well within the range of doubles rounds to a finite one. -/
theorem nearest_one (negative : Bool) {num : Nat} (h : num < 2 ^ 2000) :
    ∃ significand shift canonical,
      nearest negative num 1 = .finite negative significand shift canonical ∧
        significand <<< shift = roundedCount num := by
  have hbound : roundHalfEven num (1 <<< roundingShift num) ≤ 2 ^ 53 := by
    rw [Nat.shiftLeft_eq, Nat.one_mul]
    exact roundHalfEven_roundingShift_le num
  have hfull : 0 < roundingShift num → 2 ^ 52 ≤ roundHalfEven num (1 <<< roundingShift num) := by
    rw [Nat.shiftLeft_eq, Nat.one_mul]
    exact le_roundHalfEven_roundingShift
  have hshift : roundingShift num ≤ 2000 := by
    rcases Nat.eq_zero_or_pos num with rfl | hpos
    · exact Nat.zero_le _
    · have hlog := (Nat.log2_lt (by omega)).mpr h
      rw [roundingShift]
      omega
  rw [nearest_eq, roundedCount]
  generalize roundHalfEven num (1 <<< roundingShift num) = significand at *
  generalize roundingShift num = shift at *
  split
  · next hover =>
    have hcanonical : IsCanonical leadingBit (shift + 1) :=
      ⟨by decide, Nat.succ_le_succ (hshift.trans (by decide)), .inl le_rfl⟩
    refine ⟨_, _, hcanonical, ofParts_of_isCanonical hcanonical negative, ?_⟩
    rw [hover, Nat.shiftLeft_succ_inside]
  · next hunder =>
    have hcanonical : IsCanonical significand shift := by
      refine ⟨?_, hshift.trans (by decide), ?_⟩
      · simp only [leadingBit] at hunder ⊢
        omega
      · rcases Nat.eq_zero_or_pos shift with hzero | hpos
        · exact .inr hzero
        · exact .inl (hfull hpos)
    exact ⟨_, _, hcanonical, ofParts_of_isCanonical hcanonical negative, rfl⟩

/-- The double of a 64-bit integer is finite, and its count is the rounded one. -/
theorem ofInt_rounded (n : Int64) :
    (ofInt n.toInt).isFinite = true ∧
    (ofInt n.toInt).units = roundedUnits (n.toInt * unitsPerOne) := by
  have hrange : n.toInt.natAbs * unitsPerOne < 2 ^ 2000 := by
    have habs : n.toInt.natAbs ≤ 2 ^ 63 := by
      have hleast := n.le_toInt
      have hgreatest := n.toInt_lt
      omega
    exact (Nat.mul_le_mul_right _ habs).trans_lt (by decide +kernel)
  obtain ⟨significand, shift, canonical, hnearest, hcount⟩ := nearest_one (n.toInt < 0) hrange
  rw [ofInt, hnearest]
  refine ⟨rfl, ?_⟩
  have hsign : n.toInt * unitsPerOne < 0 * unitsPerOne ↔ n.toInt < 0 :=
    Int.mul_lt_mul_right Number.unitsPerOne_pos
  rw [Int.zero_mul] at hsign
  simp only [units, isNegative, magnitude, hcount, roundedUnits, hsign, decide_eq_true_eq,
    Int.natAbs_mul, Int.natAbs_natCast]

end Double

namespace Number

/-! ### Comparing as doubles -/

/-- The number as a double. -/
def rounded (a : Number) : Number := .float a.toDouble

theorem tier_rounded (a : Number) : a.rounded.tier = a.tier := by
  cases a with
  | float x => rfl
  | int n =>
    obtain ⟨hfinite, -⟩ := Double.ofInt_rounded n
    rw [rounded, toDouble]
    cases hdouble : Double.ofInt n.toInt with
    | finite => rfl
    | _ => rw [hdouble] at hfinite; cases hfinite

theorem exactUnits_rounded (a : Number) :
    a.rounded.exactUnits = Double.roundedUnits a.exactUnits := by
  cases a with
  | float x => exact (Double.roundedUnits_units x).symm
  | int n => exact (Double.ofInt_rounded n).2

/-- What keeps an order may only make things tie. -/
theorem compare_of_monotone {f : Int → Int} (hf : ∀ {a b}, a ≤ b → f a ≤ f b) (a b : Int) :
    compare (f a) (f b) = compare a b ∨ compare (f a) (f b) = .eq := by
  rcases Int.lt_trichotomy a b with h | h | h
  · rw [Int.compare_eq_lt.mpr h, Int.compare_eq_lt, Int.compare_eq_eq]
    exact Int.lt_or_eq_of_le (hf (Int.le_of_lt h))
  · exact .inr (Int.compare_eq_eq.mpr (congrArg f h))
  · rw [Int.compare_eq_gt.mpr h, Int.compare_eq_gt, Int.compare_eq_eq]
    exact (Int.lt_or_eq_of_le (hf (Int.le_of_lt h))).imp_right Eq.symm

/-- **As doubles, numbers stand in their order or tie.** -/
theorem totalOrder_rounded (a b : Number) :
    a.rounded.totalOrder b.rounded = a.totalOrder b ∨ a.rounded.totalOrder b.rounded = .eq := by
  rw [totalOrder_eq, totalOrder_eq, tier_rounded, tier_rounded, exactUnits_rounded,
    exactUnits_rounded]
  cases htier : compare a.tier b.tier with
  | eq => exact compare_of_monotone Double.roundedUnits_mono a.exactUnits b.exactUnits
  | _ => exact .inl rfl

theorem compare?_float {x y : Double} (hx : x ≠ .nan) (hy : y ≠ .nan) :
    x.compare? y = some ((Number.float x).totalOrder (.float y)) := by
  cases x with
  | nan => exact absurd rfl hx
  | _ => cases y with
    | nan => exact absurd rfl hy
    | _ => rfl

theorem toDouble_ne_nan {a : Number} (h : a ≠ .float .nan) : a.toDouble ≠ .nan := by
  cases a with
  | float x => exact fun hx => h (congrArg Number.float hx)
  | int n =>
    intro hnan
    have hfinite := (Double.ofInt_rounded n).1
    rw [toDouble] at hnan
    rw [hnan] at hfinite
    cases hfinite

/-- Numbers are compared exactly or seen to tie: two integers exactly, and any others as doubles. -/
theorem exists_compare? {a b : Number} (ha : a ≠ .float .nan) (hb : b ≠ .float .nan) :
    ∃ order, a.compare? b = some order ∧ (order = a.totalOrder b ∨ order = .eq) ∧
      (a.rounded.totalOrder b.rounded = order ∨ a.rounded.totalOrder b.rounded = .eq) := by
  have hdouble := compare?_float (toDouble_ne_nan ha) (toDouble_ne_nan hb)
  have hties := totalOrder_rounded a b
  cases a with
  | int m =>
    cases b with
    | int n => exact ⟨_, rfl, .inl rfl, hties⟩
    | float y => exact ⟨_, hdouble, hties, .inl rfl⟩
  | float x => exact ⟨_, hdouble, hties, .inl rfl⟩

end Number

end DocStore
