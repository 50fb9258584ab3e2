import DocStore.Proofs.Value.Order
import Mathlib.Data.EReal.Basic
/-!
# Numbers are ordered by their real values

`Double.toReal` reads the format of finite doubles, and `Number.realValue` adds the infinities and
the NaN. The order of numbers counts units of the smallest double; since a finite number is its
count of units over `2 ^ 1074` (`Number.realValue_cases`), it is the order of real values
(`Number.totalOrder_eq_lt_iff`), for integers and doubles in any mixture.
-/

namespace DocStore

/-! ## Real values -/

/-- The real number that a finite double stands for: a significand times a power of two. -/
noncomputable def Double.toReal : Double → ℝ
  | .finite negative significand shift _ =>
    (if negative then -1 else 1) * significand * 2 ^ ((shift : ℤ) - 1074)
  | _ => 0

namespace Number

/-- The real value of a number. The infinities stand at the ends of the reals, and the NaN below all
of them. -/
noncomputable def realValue : Number → WithBot EReal
  | .float .nan => ⊥
  | .float (.infinity true) => ((⊥ : EReal) : WithBot EReal)
  | .float (.infinity false) => ((⊤ : EReal) : WithBot EReal)
  | .float x@(.finite ..) => ((x.toReal : EReal) : WithBot EReal)
  | .int n => (((n.toInt : ℝ) : EReal) : WithBot EReal)

theorem cast_shiftLeft (count shift : ℕ) :
    ((count <<< shift : ℕ) : ℝ) = count * 2 ^ (shift : ℤ) := by
  rw [Nat.shiftLeft_eq, Nat.cast_mul, Nat.cast_pow, Nat.cast_ofNat, zpow_natCast]

theorem cast_unitsPerOne : (Double.unitsPerOne : ℝ) = 2 ^ (1074 : ℤ) := by
  rw [Double.unitsPerOne, cast_shiftLeft, Nat.cast_one, one_mul, Nat.cast_ofNat]

theorem cast_unitsPerOne_pos : (0 : ℝ) < Double.unitsPerOne := by
  rw [cast_unitsPerOne]
  exact zpow_pos two_pos _

/-- A finite double is a count of units. -/
theorem toReal_eq {x : Double} (hfinite : x.isFinite = true) :
    x.toReal = x.units / Double.unitsPerOne := by
  cases x with
  | finite negative significand shift canonical =>
    have hmagnitude : (significand : ℝ) * 2 ^ ((shift : ℤ) - 1074) =
        ((significand <<< shift : ℕ) : ℝ) / Double.unitsPerOne := by
      rw [cast_shiftLeft, cast_unitsPerOne, zpow_sub₀ two_ne_zero, mul_div_assoc]
    rw [Double.toReal, mul_assoc, hmagnitude, Double.units, Double.isNegative, Double.magnitude]
    cases negative with
    | false => rw [if_neg Bool.false_ne_true, if_neg Bool.false_ne_true, one_mul, Int.cast_natCast]
    | true => rw [if_pos rfl, if_pos rfl, neg_one_mul, Int.cast_neg, Int.cast_natCast, neg_div]
  | _ => cases hfinite

/-- The tiers of the extended reals. In each of them the units decide. -/
theorem realValue_cases (a : Number) :
    (a.tier = 0 ∧ a.exactUnits = 0 ∧ a.realValue = ⊥) ∨
    (a.tier = 1 ∧ a.exactUnits = 0 ∧ a.realValue = ((⊥ : EReal) : WithBot EReal)) ∨
    (a.tier = 2 ∧
      a.realValue = (((a.exactUnits / Double.unitsPerOne : ℝ) : EReal) : WithBot EReal)) ∨
    (a.tier = 3 ∧ a.exactUnits = 0 ∧ a.realValue = ((⊤ : EReal) : WithBot EReal)) := by
  cases a with
  | int n =>
    refine .inr (.inr (.inl ⟨rfl, ?_⟩))
    rw [realValue, exactUnits, Int.cast_mul, Int.cast_natCast,
      mul_div_cancel_right₀ _ (ne_of_gt cast_unitsPerOne_pos)]
  | float x =>
    rcases x with _ | (_ | _) | _
    · exact .inl ⟨rfl, rfl, rfl⟩
    · exact .inr (.inr (.inr ⟨rfl, rfl, rfl⟩))
    · exact .inr (.inl ⟨rfl, rfl, rfl⟩)
    · refine .inr (.inr (.inl ⟨rfl, ?_⟩))
      rw [realValue, toReal_eq rfl, exactUnits]

/-- **The order of numbers is the order of their real values.** -/
theorem totalOrder_eq_lt_iff (a b : Number) :
    a.totalOrder b = .lt ↔ a.realValue < b.realValue := by
  rw [totalOrder_eq, Ordering.then_eq_lt, Nat.compare_eq_lt, Nat.compare_eq_eq, Int.compare_eq_lt]
  rcases realValue_cases a with ⟨ha, hu, hx⟩ | ⟨ha, hu, hx⟩ | ⟨ha, hx⟩ | ⟨ha, hu, hx⟩ <;>
    rcases realValue_cases b with ⟨hb, hv, hy⟩ | ⟨hb, hv, hy⟩ | ⟨hb, hy⟩ | ⟨hb, hv, hy⟩ <;>
    rw [ha, hb, hx, hy]
  case inr.inr.inl.inr.inr.inl =>
    rw [WithBot.coe_lt_coe, EReal.coe_lt_coe_iff,
      div_lt_div_iff_of_pos_right cast_unitsPerOne_pos, Int.cast_lt]
    simp
  all_goals simp [*, -WithBot.coe_top]

theorem totalOrder_eq_gt_iff (a b : Number) :
    a.totalOrder b = .gt ↔ b.realValue < a.realValue := by
  rw [@Std.OrientedCmp.eq_swap _ totalOrder _ a b, Ordering.swap_eq_gt, totalOrder_eq_lt_iff]

theorem totalOrder_eq_eq_iff (a b : Number) :
    a.totalOrder b = .eq ↔ a.realValue = b.realValue := by
  have hlt := totalOrder_eq_lt_iff a b
  have hgt := totalOrder_eq_gt_iff a b
  rcases lt_trichotomy a.realValue b.realValue with h | h | h
  · simp [hlt.mpr h, ne_of_lt h]
  · have hnotlt : a.totalOrder b ≠ .lt := fun hless => ne_of_lt (hlt.mp hless) h
    have hnotgt : a.totalOrder b ≠ .gt := fun hmore => ne_of_gt (hgt.mp hmore) h
    refine iff_of_true ?_ h
    cases horder : a.totalOrder b with
    | lt => exact absurd horder hnotlt
    | eq => rfl
    | gt => exact absurd horder hnotgt
  · simp [hgt.mpr h, ne_of_gt h]

end Number

namespace Value

/-- Numbers of all kinds are compared as numbers. -/
theorem order_of_ofValue? {a b : Value} {x y : Number} (hx : Number.ofValue? a = some x)
    (hy : Number.ofValue? b = some y) : a.order b = x.totalOrder y := by
  cases a <;> cases hx <;> cases b <;> cases hy <;> rfl

/-- **The order of values is a total preorder, and exact on numbers.** Values of any kinds, at any
depth, are comparable and transitively so. Two numbers, of any width and whether integers or
doubles, stand in the order of their real values; so the zeros tie, the infinities stand at the
ends, and the NaN stands below every number. -/
theorem order_total_exact :
    (∀ a : Value, a.order a = .eq) ∧
    (∀ a b : Value, a.order b = (b.order a).swap) ∧
    (∀ a b c : Value, a.order b ≠ .gt → b.order c ≠ .gt → a.order c ≠ .gt) ∧
    ∀ (a b : Value) (x y : Number), Number.ofValue? a = some x → Number.ofValue? b = some y →
      (a.order b = .lt ↔ x.realValue < y.realValue) ∧
      (a.order b = .eq ↔ x.realValue = y.realValue) ∧
      (a.order b = .gt ↔ y.realValue < x.realValue) := by
  refine ⟨fun a => Std.ReflCmp.compare_self, fun a b => Std.OrientedCmp.eq_swap,
    fun a b c hab hbc => ?_, fun a b x y hx hy => ?_⟩
  · exact Ordering.isLE_iff_ne_gt.mp (Std.TransCmp.isLE_trans
      (Ordering.isLE_iff_ne_gt.mpr hab) (Ordering.isLE_iff_ne_gt.mpr hbc))
  · rw [order_of_ofValue? hx hy]
    exact ⟨x.totalOrder_eq_lt_iff y, x.totalOrder_eq_eq_iff y, x.totalOrder_eq_gt_iff y⟩

end Value

end DocStore
