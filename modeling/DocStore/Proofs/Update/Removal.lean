import DocStore.Field.Update
import DocStore.Proofs.Number.Whole
/-!
# Items removed from the ends of a list

`$shift` takes items from the front of a list and `$pop` from its end, and with a negative count
each does what the other one does with the opposite count (`Field.popItems_eq`). A count passes
through a double, so what is removed is as many items as the rounded count says. That is what was
asked for wherever both counts reach beyond the list or rounding leaves the count alone, and so in
every list of at most `2 ^ 53` items (`Field.removal_exact_iff`).

The least integer has no opposite. `$pop` by it, or by one of the 512 integers that round to it,
gives an overflow.
-/

namespace DocStore

variable {σ : Type}

namespace Field

/-! ### What a signed count asks for -/

/-- What is left of a list without its first `count` items, or without all of them if it has
fewer. -/
def WithoutFirst (count : Nat) (items rest : List Value) : Prop :=
  ∃ gone, items = gone ++ rest ∧ gone.length = min count items.length

/-- What is left of a list without its last `count` items, or without all of them if it has
fewer. -/
def WithoutLast (count : Nat) (items rest : List Value) : Prop :=
  ∃ gone, items = rest ++ gone ∧ gone.length = min count items.length

/-- A positive count takes items from the front of a list, a negative one from its end. -/
def Leaves (count : Int) (items rest : List Value) : Prop :=
  if 0 < count then WithoutFirst count.natAbs items rest else WithoutLast count.natAbs items rest

theorem withoutFirst_drop_iff (count k : Nat) (items : List Value) :
    WithoutFirst count items (items.drop k) ↔ min k items.length = min count items.length := by
  constructor
  · rintro ⟨gone, hitems, hgone⟩
    have hlength := congrArg List.length hitems
    rw [List.length_append, List.length_drop] at hlength
    omega
  · intro hmin
    exact ⟨items.take k, (List.take_append_drop k items).symm, by rw [List.length_take, hmin]⟩

theorem withoutLast_take_iff (count k : Nat) (items : List Value) :
    WithoutLast count items (items.take (items.length - k)) ↔
      min k items.length = min count items.length := by
  constructor
  · rintro ⟨gone, hitems, hgone⟩
    have hlength := congrArg List.length hitems
    rw [List.length_append, List.length_take] at hlength
    omega
  · intro hmin
    refine ⟨items.drop (items.length - k), (List.take_append_drop _ items).symm, ?_⟩
    rw [List.length_drop]
    omega

/-! ### Shifting and popping -/

/-- Shifting by one count does what another one of the same sign asks for when both take equally
many. -/
theorem leaves_shiftItems_iff {count k : Int} (hsign : 0 < k ↔ 0 < count) (items : List Value) :
    Leaves count items (shiftItems k items) ↔
      min k.natAbs items.length = min count.natAbs items.length := by
  by_cases hpos : 0 < count
  · have hk : k.toNat = k.natAbs := by omega
    rw [Leaves, shiftItems, if_pos hpos, if_pos (hsign.mpr hpos), hk]
    exact withoutFirst_drop_iff _ _ items
  · have hk : (-k).toNat = k.natAbs := by omega
    rw [Leaves, shiftItems, if_neg hpos, if_neg (mt hsign.mp hpos), hk]
    exact withoutLast_take_iff _ _ items

/-- Counts of one sign that take equally many items leave the same ones. -/
theorem shiftItems_congr {k l : Int} (hsign : 0 < k ↔ 0 < l) {items : List Value}
    (hmin : min k.natAbs items.length = min l.natAbs items.length) :
    shiftItems k items = shiftItems l items := by
  by_cases hpos : 0 < l
  · rw [shiftItems, shiftItems, if_pos hpos, if_pos (hsign.mpr hpos), List.drop_eq_drop_iff]
    omega
  · rw [shiftItems, shiftItems, if_neg hpos, if_neg (mt hsign.mp hpos), List.take_eq_take_iff]
    omega

/-- Popping is shifting by the opposite count, which the least integer does not have. -/
theorem popItems_eq {count : Int} (h : count ≠ int64Least) (items : List Value) :
    popItems count items = .ok (shiftItems (-count) items) := by
  rw [popItems, shiftItems, Int.neg_neg]
  rcases Int.lt_trichotomy count 0 with hneg | rfl | hpos
  · rw [if_neg (by omega), if_neg h, if_pos (by omega)]
  · rw [if_neg (Int.lt_irrefl 0), if_neg h]
    simp
  · rw [if_pos hpos, if_neg (by omega)]

/-! ### Counts as the operators read them -/

/-- The count of removals that is read from an integer. -/
def readCount (c : Int64) : Int := clampInt64 (Double.roundedUnits c.toInt)

theorem readCount_pos_iff (c : Int64) : 0 < readCount c ↔ 0 < c.toInt := by
  have hpos := @Double.roundedUnits_pos_iff c.toInt
  rw [readCount, clampInt64, int64Least, int64Greatest]
  omega

theorem readCount_neg_iff (c : Int64) : readCount c < 0 ↔ c.toInt < 0 := by
  have hpos := @Double.roundedUnits_pos_iff (-c.toInt)
  rw [Double.roundedUnits_neg] at hpos
  rw [readCount, clampInt64, int64Least, int64Greatest]
  omega

theorem readCount_eq_least_iff (c : Int64) :
    readCount c = int64Least ↔ c.toInt ≤ int64Least + 512 := by
  have hleast := Double.int64Least_lt_roundedUnits_iff c
  have hbound := Double.int64Least_le_roundedUnits c
  rw [readCount, clampInt64]
  simp only [int64Least, int64Greatest] at *
  omega

/-- No list is so long that the greatest integer and its successor make a difference. -/
theorem min_readCount {items : List Value} (hitems : (items.length : Int) ≤ int64Greatest)
    (c : Int64) :
    min (readCount c).natAbs items.length =
      min (Double.roundedUnits c.toInt).natAbs items.length := by
  have hleast := Double.int64Least_le_roundedUnits c
  have hgreatest := Double.roundedUnits_le c
  rw [readCount, clampInt64]
  simp only [int64Least, int64Greatest] at *
  omega

/-- The count that is read from an integer other than zero. -/
theorem removalCount?_int {argument : Value} {c : Int64}
    (hargument : Number.ofValue? argument = some (.int c)) (hc : c ≠ 0) :
    removalCount? argument = some (readCount c) := by
  have hclamp : (Double.ofInt c.toInt).clampToInt64 = readCount c :=
    Double.clampToInt64_of_truncate? (Double.truncate?_ofInt c)
  have htruthy : argument.isTruthy = true := by
    cases argument with
    | int64 n =>
      cases hargument
      simpa [Value.isTruthy] using hc
    | int32 n =>
      cases hargument
      have hn : n ≠ 0 := by
        rintro rfl
        exact hc rfl
      simpa [Value.isTruthy] using hn
    | _ => cases hargument
  have hread : removalCount? argument =
      (Number.ofValue? argument).map fun n => n.toDouble.clampToInt64 := by
    cases argument with
    | int64 | int32 => exact if_pos htruthy
    | _ => cases hargument
  rw [hread, hargument, Option.map_some, Number.toDouble, hclamp]

theorem update_of_list {field : Field σ} (h : field.kind = .array) (operator : UpdateOperator)
    (value : Option Value) (argument : Value) (data : Document) :
    field.update operator value argument data =
      updateList field.path operator value argument data := by
  rw [update, h]

section

variable {field : Field σ} (hlist : field.kind = .array) {argument : Value} {k : Int}
  (hcount : removalCount? argument = some k) (items : List Value) (data : Document)

include hlist hcount

theorem update_shift_list :
    field.update .shift (some (.array items)) argument data =
      .ok (some (.array (shiftItems k items)), data) := by
  rw [update_of_list hlist, updateList]
  simp only [Option.bind_some, Value.asArray?, hcount]
  rfl

theorem update_pop_list :
    field.update .pop (some (.array items)) argument data =
      (popItems k items).map fun rest => (some (.array rest), data) := by
  rw [update_of_list hlist, updateList]
  simp only [Option.bind_some, Value.asArray?, hcount]
  cases popItems k items <;> rfl

end

/-! ### The items that are removed -/

/-- Whether a count, rounded to 53 bits, takes as many items of a list as the count itself. -/
def TakesAsMany (count : Int) (items : List Value) : Prop :=
  min (Double.roundedUnits count).natAbs items.length = min count.natAbs items.length

theorem takesAsMany_of_length_le {items : List Value} (h : items.length ≤ 2 ^ 53) (count : Int) :
    TakesAsMany count items := by
  rcases Nat.le_total count.natAbs (2 ^ 53) with hsmall | hlarge
  · rw [TakesAsMany, Double.roundedUnits_of_natAbs_le hsmall]
  · have hrounded := Double.le_natAbs_roundedUnits hlarge
    rw [TakesAsMany, Nat.min_eq_right (h.trans hrounded), Nat.min_eq_right (h.trans hlarge)]

/-- **`$shift` and `$pop` remove what is asked for, but for the rounding of the count and an
overflow.** For every list and every integer count other than zero, each leaves what the count asks
for if and only if the rounded count takes as many items, which it always does in a list of at most
`2 ^ 53` items, and `$pop` does what `$shift` does by the opposite count. Only `$pop` fails, by the
least integer and the 512 after it.

No list has more items than the greatest integer. -/
theorem removal_exact_iff {field : Field σ} (hlist : field.kind = .array) {items : List Value}
    (hitems : (items.length : Int) ≤ int64Greatest) {argument : Value} {c : Int64}
    (hargument : Number.ofValue? argument = some (.int c)) (hc : c ≠ 0) (data : Document) :
    (∃ rest,
      field.update .shift (some (.array items)) argument data = .ok (some (.array rest), data) ∧
        (Leaves c.toInt items rest ↔ TakesAsMany c.toInt items)) ∧
    (int64Least + 512 < c.toInt → ∃ rest,
      field.update .pop (some (.array items)) argument data = .ok (some (.array rest), data) ∧
        (Leaves (-c.toInt) items rest ↔ TakesAsMany c.toInt items) ∧
        ∀ opposite d, Number.ofValue? opposite = some (.int d) → d.toInt = -c.toInt →
          field.update .shift (some (.array items)) opposite data =
            .ok (some (.array rest), data)) ∧
    (c.toInt ≤ int64Least + 512 →
      field.update .pop (some (.array items)) argument data = .error .overflow) ∧
    (items.length ≤ 2 ^ 53 → TakesAsMany c.toInt items) := by
  have hcount := removalCount?_int hargument hc
  refine ⟨⟨_, update_shift_list hlist hcount items data, ?_⟩, fun hleast => ?_, fun hleast => ?_,
    fun hlength => takesAsMany_of_length_le hlength c.toInt⟩
  · rw [leaves_shiftItems_iff (readCount_pos_iff c), min_readCount hitems, TakesAsMany]
  · have hpop : popItems (readCount c) items = .ok (shiftItems (-readCount c) items) :=
      popItems_eq (fun h => Int.not_le.mpr hleast ((readCount_eq_least_iff c).mp h)) items
    refine ⟨shiftItems (-readCount c) items, ?_, ?_, fun opposite d hopposite hd => ?_⟩
    · rw [update_pop_list hlist hcount, hpop]
      rfl
    · have hsign : 0 < -readCount c ↔ 0 < -c.toInt := by
        have hneg := readCount_neg_iff c
        omega
      rw [leaves_shiftItems_iff hsign, Int.natAbs_neg, Int.natAbs_neg, min_readCount hitems,
        TakesAsMany]
    · have hd' : d ≠ 0 := by
        have hc' := mt toInt_eq_zero_iff.mp hc
        exact mt toInt_eq_zero_iff.mpr (by omega)
      have hsign : 0 < readCount d ↔ 0 < -readCount c := by
        have hpos := readCount_pos_iff d
        have hneg := readCount_neg_iff c
        omega
      have hmin : min (readCount d).natAbs items.length =
          min (-readCount c).natAbs items.length := by
        rw [min_readCount hitems, hd, Double.roundedUnits_neg, Int.natAbs_neg, Int.natAbs_neg,
          min_readCount hitems]
      rw [update_shift_list hlist (removalCount?_int hopposite hd'), shiftItems_congr hsign hmin]
  · rw [update_pop_list hlist hcount, (readCount_eq_least_iff c).mpr hleast]
    rfl

/-- A list of anything. -/
def tagsField : Field Unit := .array "tags" .none (.mixed "tags")

/-- The first count past those that overflow. -/
theorem removal_exact_iff_tags :
    ∃ first last,
      tagsField.update .shift (some (.array [.int64 1, .int64 2]))
          (.int64 (-9223372036854775295)) [] = .ok (some (.array last), []) ∧
      tagsField.update .pop (some (.array [.int64 1, .int64 2]))
          (.int64 (-9223372036854775295)) [] = .ok (some (.array first), []) ∧
      Leaves (-9223372036854775295) [.int64 1, .int64 2] last ∧
      Leaves 9223372036854775295 [.int64 1, .int64 2] first := by
  obtain ⟨⟨last, hshift, hlast⟩, hpop, -, hmany⟩ :=
    @removal_exact_iff Unit tagsField rfl [.int64 1, .int64 2] (by decide)
      (.int64 (-9223372036854775295)) (-9223372036854775295) rfl (by decide) []
  obtain ⟨first, hpop, hfirst, -⟩ := hpop (by decide)
  exact ⟨first, last, hshift, hpop, hlast.mpr (hmany (by decide)), hfirst.mpr (hmany (by decide))⟩

/-- Popping by the least integer, which asks for the first item of a list of one. -/
theorem exists_pop_that_overflows :
    ∃ c : Int64, c ≠ 0 ∧ Leaves (-c.toInt) [.int64 1] [] ∧
      tagsField.update .pop (some (.array [.int64 1])) (.int64 c) [] = .error .overflow := by
  have hcount : removalCount? (.int64 Int64.minValue) = some int64Least := by
    rw [removalCount?_int rfl (by decide), (readCount_eq_least_iff Int64.minValue).mpr (by decide)]
  refine ⟨Int64.minValue, by decide, ⟨[.int64 1], rfl, rfl⟩, ?_⟩
  rw [update_pop_list rfl hcount]
  rfl

end Field

end DocStore
