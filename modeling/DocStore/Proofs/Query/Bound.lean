import DocStore.Proofs.Field.Absence
import DocStore.Proofs.Field.Range
import DocStore.Proofs.Query.Membership
import DocStore.Proofs.Sort
/-!
# Bounds of sorted records

Sorting goes by the order of a field, and the range operators by the order of values. On what a
field stores, the two orders are the same but for one thing: among the items of lists, a byte field
puts bytes before a null, and the order of values puts the null first. `Field.BytesMeetNull` says
that the first difference of two values is of this kind, and then the orders are the reverse of each
other (`Field.reversedIff_order`).

What lies between two matches of a bound is itself a match (`Field.query_between`), so that in
records in the order of a sort the matches of a bound stand together. `Field.range_follows_order`
has both.
-/

open Std

namespace DocStore

variable {σ α : Type}

/-! ## Orders that differ in places -/

/-- Two lists tie item by item before a place where their items are related. -/
inductive FirstAt (tie related : α → α → Prop) : List α → List α → Prop where
  | here {x y : α} {xs ys : List α} : related x y → FirstAt tie related (x :: xs) (y :: ys)
  | later {x y : α} {xs ys : List α} : tie x y → FirstAt tie related xs ys →
    FirstAt tie related (x :: xs) (y :: ys)

/-- Two comparisons are the reverse of each other on a condition that excludes ties, and the same
without it. -/
def ReversedIff (reversed : Prop) (o o' : Ordering) : Prop :=
  (reversed ∧ o = o'.swap ∧ o' ≠ .eq) ∨ (¬ reversed ∧ o = o')

/-- Lists compare the other way round where the first items that do not tie do. -/
theorem reversedIff_compareLex {cmp cmp' : α → α → Ordering} {related : α → α → Prop} :
    ∀ {xs ys : List α},
      (∀ x ∈ xs, ∀ y ∈ ys, ReversedIff (related x y) (cmp x y) (cmp' x y)) →
      ReversedIff (FirstAt (fun x y => cmp x y = .eq) related xs ys) (List.compareLex cmp xs ys)
        (List.compareLex cmp' xs ys)
  | [], [], _ | [], _ :: _, _ | _ :: _, [], _ => .inr ⟨nofun, rfl⟩
  | x :: xs, y :: ys, h => by
    have hrest := reversedIff_compareLex fun x hx y hy =>
      h x (List.mem_cons_of_mem _ hx) y (List.mem_cons_of_mem _ hy)
    rw [List.compareLex_cons_cons, List.compareLex_cons_cons]
    rcases h x List.mem_cons_self y List.mem_cons_self with ⟨hrelated, hcmp, hne⟩ | ⟨hnot, hcmp⟩
    · cases ho : cmp' x y with
      | eq => exact absurd ho hne
      | lt | gt =>
        rw [hcmp, ho]
        exact .inl ⟨.here hrelated, rfl, nofun⟩
    · rw [← hcmp]
      cases htie : cmp x y with
      | eq =>
        rcases hrest with ⟨hfirst, hreversed, hne⟩ | ⟨hfirst, hsame⟩
        · exact .inl ⟨.later htie hfirst, hreversed, hne⟩
        · refine .inr ⟨?_, hsame⟩
          rintro (hrelated | ⟨-, hlater⟩)
          · exact hnot hrelated
          · exact hfirst hlater
      | lt | gt =>
        refine .inr ⟨?_, rfl⟩
        rintro (hrelated | ⟨heq, -⟩)
        · exact hnot hrelated
        · rw [htie] at heq
          cases heq

theorem orderOptional_some (a b : Value) : orderOptional (some a) (some b) = a.order b := by
  cases ha : a.isAbsentValue with
  | true =>
    rw [orderOptional, present_some_of_absent ha]
    cases a <;> cases ha <;> cases b <;> rfl
  | false =>
    cases hb : b.isAbsentValue with
    | true =>
      rw [orderOptional, present_some_of_present ha, present_some_of_absent hb]
      cases b <;> cases hb <;> cases a <;> first | rfl | cases ha
    | false => rw [orderOptional, present_some_of_present ha, present_some_of_present hb]

namespace Field

/-! ## What a field stores -/

/-- Whether validation accepts a value and gives it back as it is. -/
def GivesBack (field : Field σ) (value : Value) : Prop :=
  ∃ data data' s s', (field.validate (some value) data).run s = (.ok (some value, data'), s')

theorem check_of_givesBack {field : Field σ} {value : Value} (h : field.GivesBack value) :
    field.check (some value) = .ok (some value) := by
  obtain ⟨data, data', s, s', hrun⟩ := h
  exact check_of_validate hrun

theorem checkItem_of_check {field : Field σ} {value : Value}
    (h : field.check (some value) = .ok (some value)) :
    checkItem field.check value = .ok value := by
  rw [checkItem, h]
  rfl

/-- Whether the first difference of two values is between bytes and a null, through lists of
bytes. -/
def BytesMeetNull : Field σ → Value → Value → Prop
  | .scalar _ .buffer _, .binary _ _, .null => True
  | .scalar _ .buffer _, .null, .binary _ _ => True
  | .array _ _ child, .array xs, .array ys =>
    FirstAt (fun x y => child.order (some x) (some y) = .eq) (BytesMeetNull child) xs ys
  | _, _, _ => False

/-- **The order of a field is that of values, reversed where bytes meet a null first.** -/
theorem reversedIff_order (field : Field σ) {x y : Value} (hx : checkItem field.check x = .ok x)
    (hy : checkItem field.check y = .ok y) :
    ReversedIff (field.BytesMeetNull x y) (field.order (some x) (some y)) (x.order y) := by
  induction field generalizing x y with
  | scalar path kind options =>
    have hx := eq_null_or_checkScalar hx
    have hy := eq_null_or_checkScalar hy
    cases kind with
    | buffer =>
      rcases hx with rfl | hx <;> rcases hy with rfl | hy
      · exact .inr ⟨id, rfl⟩
      · cases y <;> cases hy
        exact .inl ⟨trivial, rfl, nofun⟩
      · cases x <;> cases hx
        exact .inl ⟨trivial, rfl, nofun⟩
      · cases x <;> cases hx
        cases y <;> cases hy
        exact .inr ⟨id, rfl⟩
    | date =>
      rcases hx with rfl | hx <;> rcases hy with rfl | hy
      · exact .inr ⟨id, rfl⟩
      · cases y <;> cases hy
        exact .inr ⟨id, rfl⟩
      · cases x <;> cases hx
        exact .inr ⟨id, rfl⟩
      · cases x <;> cases hx
        cases y <;> cases hy
        exact .inr ⟨id, rfl⟩
    | _ => exact .inr ⟨by simp [BytesMeetNull], orderOptional_some x y⟩
  | array path options child ih =>
    rcases eq_null_or_check_of_checkItem hx with rfl | hx
    · exact .inr ⟨by simp [BytesMeetNull], orderOptional_some _ y⟩
    obtain ⟨-, xs, -, -, rfl⟩ := check_array_eq_some.mp hx
    rcases eq_null_or_check_of_checkItem hy with rfl | hy
    · exact .inr ⟨by simp [BytesMeetNull], orderOptional_some (.array xs) .null⟩
    obtain ⟨-, ys, -, -, rfl⟩ := check_array_eq_some.mp hy
    rw [BytesMeetNull, order, orderLists_eq, Value.order, Value.orderItems_eq]
    exact reversedIff_compareLex fun x hmem y hmem' =>
      ih (checkItem_of_check_array hx x hmem) (checkItem_of_check_array hy y hmem')
  | virtual path getter setter =>
    rcases eq_null_or_check_of_checkItem hx with rfl | hx
    · exact .inr ⟨by simp [BytesMeetNull], orderOptional_some _ y⟩
    · cases hx

end Field

/-! ## Range operators -/

/-- What a range operator asks of the order of a value and its bound. -/
def QueryOperator.asks? : QueryOperator → Option (Ordering → Bool)
  | .lt => some (· == .lt)
  | .lte => some Ordering.isLE
  | .gt => some (· == .gt)
  | .gte => some Ordering.isGE
  | _ => none

theorem rangeOrder?_eq_some_iff {value : Option Value} {bound : Value} {o : Ordering} :
    rangeOrder? value bound = some o ↔
      ∃ x, value = some x ∧ x.rank ≠ 0 ∧ x.rank = bound.rank ∧ x.order bound = o := by
  rcases value with _ | x
  · constructor
    · rintro ⟨⟩
    · rintro ⟨_, ⟨⟩, -⟩
  · rw [rangeOrder?]
    split
    · next h =>
      constructor
      · rintro ⟨⟩
      · rintro ⟨_, ⟨⟩, hzero, hrank, -⟩
        rcases h with h | h | h
        · exact absurd h hzero
        · exact absurd (hrank.trans h) hzero
        · exact absurd hrank h
    · next h =>
      rw [not_or, not_or, not_not] at h
      simp [h.2.1, h.2.2]

namespace Field

variable {field : Field σ} {op : QueryOperator} {asks : Ordering → Bool} {bound : Value}

theorem query_of_asks (hop : op.asks? = some asks)
    (hbound : field.check (some bound) = .ok (some bound)) (value : Option Value) :
    field.query op value bound = (rangeOrder? value bound).any asks := by
  have hgeneric : queryGeneric field.accepts op value bound =
      (rangeOrder? value bound).any asks := by
    cases op <;> cases hop <;> rw [queryGeneric] <;>
      rcases rangeOrder? value bound with _ | o <;> rfl
  rw [← hgeneric]
  cases field with
  | scalar path kind options =>
    cases kind with
    | date =>
      obtain ⟨found, -, hscalar⟩ := check_scalar_eq_some.mp hbound
      cases found <;> cases hscalar
      cases op <;> cases hop <;> rfl
    | _ => cases op <;> cases hop <;> rfl
  | array path options child => cases op <;> cases hop <;> rfl
  | virtual path getter setter => rfl

/-- Whether the four operators say of a value and a bound what the order of the field says. -/
structure RangeFollowsOrder (field : Field σ) (value bound : Value) : Prop where
  lt : field.query .lt (some value) bound = true ↔ field.order (some value) (some bound) = .lt
  gt : field.query .gt (some value) bound = true ↔ field.order (some value) (some bound) = .gt
  lte : field.query .lte (some value) bound = true ↔ field.order (some value) (some bound) ≠ .gt
  gte : field.query .gte (some value) bound = true ↔ field.order (some value) (some bound) ≠ .lt

section

variable {value : Value} (hvalue : field.check (some value) = .ok (some value))
  (hbound : field.check (some bound) = .ok (some bound)) (hrank : value.rank = bound.rank)

include hvalue hbound hrank

theorem query_of_rank_eq (hop : op.asks? = some asks) :
    field.query op (some value) bound = asks (value.order bound) := by
  have hrange : rangeOrder? (some value) bound = some (value.order bound) :=
    rangeOrder?_eq_some_iff.mpr
      ⟨value, rfl, rank_ne_zero (present_of_check_eq_some hvalue), hrank, rfl⟩
  rw [query_of_asks hop hbound, hrange, Option.any_some]

/-- **The operators follow the order of the field unless bytes meet a null first.** -/
theorem rangeFollowsOrder_iff :
    field.RangeFollowsOrder value bound ↔ ¬ field.BytesMeetNull value bound := by
  have hquery := fun (op : QueryOperator) asks (hop : op.asks? = some asks) =>
    query_of_rank_eq hvalue hbound hrank hop
  rcases reversedIff_order field (checkItem_of_check hvalue) (checkItem_of_check hbound) with
    ⟨hmeet, horder, hne⟩ | ⟨hnot, horder⟩
  · refine ⟨fun h => ?_, fun h => absurd hmeet h⟩
    have hlt := h.lt
    rw [hquery .lt _ rfl, horder] at hlt
    cases ho : value.order bound with
    | eq => exact absurd ho hne
    | lt | gt => simp [ho] at hlt
  · refine ⟨fun _ => hnot, fun _ => ⟨?_, ?_, ?_, ?_⟩⟩
    · rw [hquery .lt _ rfl, horder, beq_iff_eq]
    · rw [hquery .gt _ rfl, horder, beq_iff_eq]
    · rw [hquery .lte _ rfl, horder, Ordering.isLE_iff_ne_gt]
    · rw [hquery .gte _ rfl, horder, Ordering.isGE_iff_ne_lt]

theorem query_eq_asks_order (hop : op.asks? = some asks)
    (hnot : ¬ field.BytesMeetNull value bound) :
    field.query op (some value) bound = asks (field.order (some value) (some bound)) := by
  rcases reversedIff_order field (checkItem_of_check hvalue) (checkItem_of_check hbound) with
    ⟨hmeet, -⟩ | ⟨-, horder⟩
  · exact absurd hmeet hnot
  · rw [query_of_rank_eq hvalue hbound hrank hop, horder]

end

/-! ## Between two matches -/

/-- Values that stand in the order of a field have ascending ranks. -/
theorem rank_le_of_isLE {x y : Value} (hx : field.check (some x) = .ok (some x))
    (hy : field.check (some y) = .ok (some y)) (h : (field.order (some x) (some y)).isLE) :
    x.rank ≤ y.rank := by
  have hvalues : (x.order y).isLE → x.rank ≤ y.rank := by
    rw [Value.order_eq]
    intro h
    rcases Nat.lt_trichotomy x.rank y.rank with hlt | heq | hgt
    · exact hlt.le
    · exact heq.le
    · rw [Nat.compare_eq_gt.mpr hgt] at h
      cases h
  cases field with
  | scalar path kind options =>
    obtain ⟨_, hfound, hscalar⟩ := check_scalar_eq_some.mp hx
    obtain ⟨_, hfound', hscalar'⟩ := check_scalar_eq_some.mp hy
    cases (eq_some_of_present hfound).1
    cases (eq_some_of_present hfound').1
    cases kind with
    | buffer | date =>
      cases x <;> cases hscalar
      cases y <;> cases hscalar'
      exact le_rfl
    | _ =>
      have horder := orderOptional_some x y
      exact hvalues (horder ▸ h)
  | array path options child =>
    obtain ⟨-, xs, -, -, rfl⟩ := check_array_eq_some.mp hx
    obtain ⟨-, ys, -, -, rfl⟩ := check_array_eq_some.mp hy
    exact le_rfl
  | virtual path getter setter => cases hx

/-- What is absent stands before or after everything that is stored. -/
theorem not_isLE_of_absent {x z : Value} {absent : Option Value}
    (hx : field.check (some x) = .ok (some x)) (hz : field.check (some z) = .ok (some z))
    (habsent : present absent = none) (h : (field.order (some x) absent).isLE) :
    ¬ (field.order absent (some z)).isLE := by
  have hoptional : ¬ (orderOptional (some x) absent).isLE := by
    rw [orderOptional, habsent, present_of_check_eq_some hx]
    exact Bool.false_ne_true
  cases field with
  | scalar path kind options =>
    obtain ⟨_, hfound, hscalar⟩ := check_scalar_eq_some.mp hx
    obtain ⟨_, hfound', hscalar'⟩ := check_scalar_eq_some.mp hz
    cases (eq_some_of_present hfound).1
    cases (eq_some_of_present hfound').1
    cases kind with
    | buffer =>
      cases z <;> cases hscalar'
      rcases absent_cases habsent with rfl | rfl | rfl <;> exact Bool.false_ne_true
    | date =>
      cases x <;> cases hscalar
      rcases absent_cases habsent with rfl | rfl | rfl <;> cases h
    | _ => exact absurd h hoptional
  | array path options child =>
    obtain ⟨-, xs, -, -, rfl⟩ := check_array_eq_some.mp hx
    rcases absent_cases habsent with rfl | rfl | rfl <;> exact absurd h hoptional
  | virtual path getter setter => cases hx

/-- Whether a value of a path can be told from a bound: nothing is there, or something that the
field gives back and in which bytes meet no null of the bound first. -/
def Clear (field : Field σ) (bound : Value) (value : Option Value) : Prop :=
  present value = none ∨
    ∃ x, value = some x ∧ field.GivesBack x ∧ ¬ field.BytesMeetNull x bound

theorem exists_of_query (hop : op.asks? = some asks)
    (hbound : field.check (some bound) = .ok (some bound)) {value : Option Value}
    (hclear : field.Clear bound value) (h : field.query op value bound = true) :
    ∃ x, value = some x ∧ x.rank = bound.rank ∧ field.check (some x) = .ok (some x) ∧
      ¬ field.BytesMeetNull x bound := by
  rw [query_of_asks hop hbound, Option.any_eq_true] at h
  obtain ⟨o, hrange, -⟩ := h
  obtain ⟨x, rfl, hzero, hrank, -⟩ := rangeOrder?_eq_some_iff.mp hrange
  rcases hclear with habsent | ⟨_, ⟨⟩, hstored, hnot⟩
  · rcases absent_cases habsent with h | ⟨⟨⟩⟩ | ⟨⟨⟩⟩
    · cases h
    · exact absurd rfl hzero
    · exact absurd rfl hzero
  · exact ⟨x, rfl, hrank, check_of_givesBack hstored, hnot⟩

/-- **What stands between two matches of a bound is a match.** -/
theorem query_between (hop : op.asks? = some asks)
    (hbound : field.check (some bound) = .ok (some bound)) {u v w : Option Value}
    (hu : field.Clear bound u) (hv : field.Clear bound v) (hw : field.Clear bound w)
    (huv : (field.order u v).isLE) (hvw : (field.order v w).isLE)
    (hmatch : field.query op u bound = true) (hmatch' : field.query op w bound = true) :
    field.query op v bound = true := by
  obtain ⟨x, rfl, hrankx, hx, hnotx⟩ := exists_of_query hop hbound hu hmatch
  obtain ⟨z, rfl, hrankz, hz, hnotz⟩ := exists_of_query hop hbound hw hmatch'
  rcases hv with habsent | ⟨y, rfl, hstored, hnot⟩
  · exact absurd hvw (not_isLE_of_absent hx hz habsent huv)
  have hy := check_of_givesBack hstored
  have hrank : y.rank = bound.rank := by
    have hxy := rank_le_of_isLE hx hy huv
    have hyz := rank_le_of_isLE hy hz hvw
    omega
  rw [query_eq_asks_order hx hbound hrankx hop hnotx] at hmatch
  rw [query_eq_asks_order hz hbound hrankz hop hnotz] at hmatch'
  rw [query_eq_asks_order hy hbound hrank hop hnot]
  -- Below the bound the second match decides, above it the first one.
  cases op with
  | lt =>
    cases hop
    exact beq_iff_eq.mpr (TransCmp.lt_of_isLE_of_lt hvw (beq_iff_eq.mp hmatch'))
  | lte =>
    cases hop
    exact TransCmp.isLE_trans hvw hmatch'
  | gt =>
    cases hop
    have hbelow := OrientedCmp.gt_iff_lt.mp (beq_iff_eq.mp hmatch)
    exact beq_iff_eq.mpr (OrientedCmp.gt_iff_lt.mpr (TransCmp.lt_of_lt_of_isLE hbelow huv))
  | gte =>
    cases hop
    exact OrientedCmp.isGE_iff_isLE.mpr
      (TransCmp.isLE_trans (OrientedCmp.isGE_iff_isLE.mp hmatch) huv)
  | _ => cases hop

end Field

/-! ## Sorted records -/

/-- The items with a property stand together in a list. -/
def StandTogether (holds : α → Bool) (xs : List α) : Prop :=
  ∃ before block after, xs = before ++ block ++ after ∧ (∀ x ∈ block, holds x = true) ∧
    ∀ x ∈ before ++ after, holds x = false

theorem standTogether_of_between {R : α → α → Prop} {holds : α → Bool} {xs : List α}
    (hsorted : xs.Pairwise R)
    (hbetween : ∀ u ∈ xs, ∀ v ∈ xs, ∀ w ∈ xs, R u v → R v w → holds u = true → holds w = true →
      holds v = true) : StandTogether holds xs := by
  induction xs with
  | nil => exact ⟨[], [], [], rfl, List.forall_mem_nil _, List.forall_mem_nil _⟩
  | cons x xs ih =>
    obtain ⟨hfirst, hsorted⟩ := List.pairwise_cons.mp hsorted
    obtain ⟨before, block, after, rfl, hblock, hothers⟩ := ih hsorted fun u hu v hv w hw =>
      hbetween u (List.mem_cons_of_mem _ hu) v (List.mem_cons_of_mem _ hv) w
        (List.mem_cons_of_mem _ hw)
    cases hx : holds x with
    | false =>
      exact ⟨x :: before, block, after, rfl, hblock, List.forall_mem_cons.mpr ⟨hx, hothers⟩⟩
    | true =>
      cases block with
      | nil =>
        refine ⟨[], [x], before ++ after, by simp, List.forall_mem_singleton.mpr hx, hothers⟩
      | cons w block =>
        cases before with
        | nil =>
          exact ⟨[], x :: w :: block, after, rfl, List.forall_mem_cons.mpr ⟨hx, hblock⟩, hothers⟩
        | cons v before =>
          -- An item before the block would be between two items with the property.
          have hmem : v ∈ (v :: before) ++ (w :: block) ++ after := by simp
          have hmem' : w ∈ (v :: before) ++ (w :: block) ++ after := by simp
          have hvw : R v w := (List.pairwise_cons.mp hsorted).1 w (by simp)
          have hv := hbetween x List.mem_cons_self v (List.mem_cons_of_mem _ hmem) w
            (List.mem_cons_of_mem _ hmem') (hfirst v hmem) hvw hx (hblock w List.mem_cons_self)
          rw [hothers v (by simp)] at hv
          cases hv

/-- Records in the order of a sort are in the order of its first key. -/
theorem SortOrder.isLE_of_first {sort : SortOrder σ} {key : SortKey × Field σ}
    {rest : List (SortKey × Field σ)} (hkeys : sort.keys = key :: rest)
    {v w : String → Option Value} (h : (sort.order v w).isLE) :
    (orderKey key (v key.1.path) (w key.1.path)).isLE := by
  rw [order, hkeys, orderBy] at h
  cases hfirst : orderKey key (v key.1.path) (w key.1.path) with
  | gt =>
    rw [hfirst] at h
    cases h
  | _ => rfl

theorem Field.isLE_of_descending {field : Field σ} {a b : Option Value}
    (h : (Direction.descending.apply (field.order a b)).isLE) : (field.order b a).isLE := by
  rw [Direction.apply, Ordering.isLE_swap] at h
  exact OrientedCmp.isGE_iff_isLE.mp h

/-- **Range operators follow the order of a field, unless bytes meet a null first.** For a bound and
a value of its kind, both as the field stores them, the four operators say what the order says if
and only if the first difference of the two is not between bytes and a null in lists. So, in records
in the order of a sort by the field, ascending or descending and whatever its other keys are, the
matches of a bound stand together, as long as no record differs from the bound in that way; records
without a value, and with values of other kinds, may be among them. -/
theorem Field.range_follows_order (field : Field σ) (bound : Value)
    (hbound : field.GivesBack bound) :
    (∀ value, field.GivesBack value → value.rank = bound.rank →
      (field.RangeFollowsOrder value bound ↔ ¬ field.BytesMeetNull value bound)) ∧
    ∀ (sort : SortOrder σ) (key : SortKey) (rest : List (SortKey × Field σ)),
      sort.keys = (key, field) :: rest →
      ∀ records : List (String → Option Value),
        records.Pairwise (fun v w => (sort.order v w).isLE) →
        (∀ v ∈ records, field.Clear bound (v key.path)) →
        ∀ op ∈ ([.lt, .lte, .gt, .gte] : List QueryOperator),
          StandTogether (fun v => field.query op (v key.path) bound) records := by
  have hcheck := check_of_givesBack hbound
  refine ⟨fun value hvalue hrank => rangeFollowsOrder_iff (check_of_givesBack hvalue) hcheck hrank,
    fun sort key rest hkeys records hsorted hclear op hop => ?_⟩
  obtain ⟨asks, hasks⟩ : ∃ asks, op.asks? = some asks := by
    simp only [List.mem_cons, List.not_mem_nil, or_false] at hop
    rcases hop with rfl | rfl | rfl | rfl <;> exact ⟨_, rfl⟩
  refine standTogether_of_between hsorted fun u hu v hv w hw huv hvw hmatch hmatch' => ?_
  have huv := SortOrder.isLE_of_first hkeys huv
  have hvw := SortOrder.isLE_of_first hkeys hvw
  obtain ⟨path, direction⟩ := key
  cases direction with
  | ascending =>
    exact query_between hasks hcheck (hclear u hu) (hclear v hv) (hclear w hw) huv hvw hmatch
      hmatch'
  | descending =>
    exact query_between hasks hcheck (hclear w hw) (hclear v hv) (hclear u hu)
      (isLE_of_descending hvw) (isLE_of_descending huv) hmatch' hmatch

/-! ### A list of bytes -/

namespace Field

def partsField : Field Unit := list "parts" .none (some (.scalar "parts" .buffer .none))

/-- A list of one part with one byte. -/
def onePart (byte : UInt8) : Value := .array [.binary 0 [byte]]

theorem givesBack_onePart (byte : UInt8) : partsField.GivesBack (onePart byte) :=
  ⟨[], [], .idle, .idle, rfl⟩

theorem not_bytesMeetNull_onePart (byte byte' : UInt8) :
    ¬ partsField.BytesMeetNull (onePart byte) (onePart byte') := by
  rintro (h | ⟨-, h⟩) <;> cases h

/-- Three records, the first without parts, and the second part as the bound. -/
theorem range_follows_order_parts :
    partsField.GivesBack (onePart 1) ∧ partsField.RangeFollowsOrder (onePart 0) (onePart 1) ∧
      StandTogether (fun v => partsField.query .lte (v "parts") (onePart 1))
        [fun _ => none, fun _ => some (onePart 0), fun _ => some (onePart 1),
          fun _ => some (onePart 2)] := by
  have hbound := givesBack_onePart 1
  have hclear : ∀ byte, partsField.Clear (onePart 1) (some (onePart byte)) := fun byte =>
    .inr ⟨_, rfl, givesBack_onePart byte, not_bytesMeetNull_onePart byte 1⟩
  obtain ⟨hvalues, hrecords⟩ := range_follows_order partsField (onePart 1) hbound
  refine ⟨hbound, (hvalues _ (givesBack_onePart 0) rfl).mpr (not_bytesMeetNull_onePart 0 1),
    hrecords ⟨[(⟨"parts", .ascending⟩, partsField)]⟩ _ [] rfl _ (by decide +kernel) ?_ .lte
      (by simp)⟩
  simp only [List.forall_mem_cons]
  exact ⟨.inl rfl, hclear 0, hclear 1, hclear 2, List.forall_mem_nil _⟩

/-- A list with a null is less than a list with bytes for `$lt`, and stands after it. -/
theorem exists_range_against_order :
    ¬ ∀ (field : Field Unit) (value bound : Value), field.GivesBack value → field.GivesBack bound →
      value.rank = bound.rank → field.RangeFollowsOrder value bound := by
  intro hfollows
  have hnull : partsField.GivesBack (.array [.null]) := ⟨[], [], .idle, .idle, rfl⟩
  have hlt := (hfollows partsField (.array [.null]) (onePart 1) hnull (givesBack_onePart 1) rfl).lt
  have hless : partsField.query .lt (some (.array [.null])) (onePart 1) = true := by decide +kernel
  have hafter : partsField.order (some (.array [.null])) (some (onePart 1)) = .gt := rfl
  cases hafter.symm.trans (hlt.mp hless)

end Field

end DocStore
