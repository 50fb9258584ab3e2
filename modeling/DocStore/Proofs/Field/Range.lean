import DocStore.Proofs.Field.Check
import DocStore.Proofs.Value.Equality
import DocStore.Query.Compile
/-!
# Equality and the range operators

Loose equality and the order of values are two recursions of their own. They go by the same places:
lists by index and, where the keys are listed in the same order, documents by key
(`Value.order_eq_eq_iff`). So two values that are loosely equal tie in the order if and only if the
documents at the same places list their keys in the same order, unless an integer is rounded to meet
a double (`Value.order_eq_eq_of_looseEq`). For fields without a type the range operators say the
same of a stored value and an argument (`Schema.range_of_equality`).
-/

namespace DocStore

namespace Number

/-- Whether a double expresses the number. -/
def IsExact (x : Number) : Prop := (Number.float x.toDouble).realValue = x.realValue

instance (x : Number) : Decidable x.IsExact :=
  decidable_of_iff _ (totalOrder_eq_eq_iff (.float x.toDouble) x)

/-- Numbers that are equal as doubles tie in the order, unless they were rounded. -/
theorem totalOrder_eq_eq_of_equals {x y : Number} (h : x.equals y = true)
    (hexact : (∃ m n, x = .int m ∧ y = .int n) ∨ x.IsExact ∧ y.IsExact) : x.totalOrder y = .eq := by
  obtain ⟨hdouble, hint⟩ := (equals_iff x y).mp h
  obtain ⟨-, hreal⟩ := (Double.equals_iff _ _).mp hdouble
  rw [totalOrder_eq_eq_iff]
  rcases hexact with ⟨m, n, rfl, rfl⟩ | ⟨hx, hy⟩
  · rw [hint m n rfl rfl]
  · rw [← hx, ← hy, hreal]

end Number

namespace Value

theorem isScalar_of_ofValue? {a : Value} {x : Number} (h : Number.ofValue? a = some x) :
    a.IsScalar := by
  cases a with
  | array => cases h
  | document => cases h
  | _ => trivial

theorem rank_of_ofValue? {a : Value} {x : Number} (h : Number.ofValue? a = some x) :
    a.rank = 1 := by
  cases a <;> cases h <;> rfl

/-! ## Lists and documents, item by item -/

theorem compareLex_eq_eq_iff {α : Type} (cmp : α → α → Ordering) (xs ys : List α) :
    List.compareLex cmp xs ys = .eq ↔ List.Forall₂ (fun x y => cmp x y = .eq) xs ys := by
  induction xs generalizing ys with
  | nil => cases ys <;> simp [List.compareLex_nil_cons, List.compareLex_nil_nil]
  | cons x xs ih =>
    cases ys with
    | nil => simp [List.compareLex_cons_nil]
    | cons y ys => rw [List.compareLex_cons_cons, Ordering.then_eq_eq, ih, List.forall₂_cons]

/-- Lists are related item by item when the items of one index are. -/
theorem forall₂_iff_getElem? {α : Type} {R : α → α → Prop} (xs ys : List α) : List.Forall₂ R xs ys ↔
    xs.length = ys.length ∧ ∀ (i : Nat) x y, xs[i]? = some x → ys[i]? = some y → R x y := by
  rw [List.forall₂_iff_get]
  refine and_congr_right fun _ => ⟨fun h i x y hx hy => ?_, fun h i hx hy => ?_⟩
  · obtain ⟨hi, rfl⟩ := List.getElem?_eq_some_iff.mp hx
    obtain ⟨hj, rfl⟩ := List.getElem?_eq_some_iff.mp hy
    exact h i hi hj
  · exact h i _ _ (List.getElem?_eq_getElem hx) (List.getElem?_eq_getElem hy)

/-- Documents are related entry by entry when they list the same keys in the same order and the
values of one key are related. -/
theorem forall₂_entries_iff (R : Value → Value → Prop) {xs : Document}
    (hxs : (OrderedMap.keys xs).Nodup) (ys : Document) :
    List.Forall₂ (fun e f => e.1 = f.1 ∧ R e.2 f.2) xs ys ↔
      OrderedMap.keys xs = OrderedMap.keys ys ∧
        ∀ key x y, OrderedMap.get? xs key = some x → OrderedMap.get? ys key = some y → R x y := by
  induction xs generalizing ys with
  | nil => cases ys <;> simp [OrderedMap.keys]
  | cons entry xs ih =>
    cases ys with
    | nil => simp [OrderedMap.keys]
    | cons entry' ys =>
      obtain ⟨key, x⟩ := entry
      obtain ⟨key', y⟩ := entry'
      obtain ⟨hfresh, hrest⟩ := List.nodup_cons.mp hxs
      have hkeys : OrderedMap.keys ((key, x) :: xs) = OrderedMap.keys ((key', y) :: ys) ↔
          key = key' ∧ OrderedMap.keys xs = OrderedMap.keys ys := List.cons.injEq .. ▸ Iff.rfl
      rw [List.forall₂_cons, ih hrest, hkeys]
      constructor
      · rintro ⟨⟨rfl, hhead⟩, hsame, htail⟩
        refine ⟨⟨rfl, hsame⟩, fun k u v hu hv => ?_⟩
        rw [OrderedMap.get?_cons] at hu hv
        by_cases hk : k = key
        · rw [if_pos hk, Option.some.injEq] at hu hv
          rw [← hu, ← hv]
          exact hhead
        · rw [if_neg hk] at hu hv
          exact htail k u v hu hv
      · rintro ⟨⟨rfl, hsame⟩, hvalues⟩
        refine ⟨⟨rfl, hvalues key x y (by simp [OrderedMap.get?_cons])
            (by simp [OrderedMap.get?_cons])⟩, hsame, fun k u v hu hv => ?_⟩
        -- The first key stands nowhere else, so what is found in the rest is found in the whole.
        have hk : k ≠ key := by
          rintro rfl
          exact hfresh (OrderedMap.exists_get?_iff.mp ⟨u, hu⟩)
        refine hvalues k u v ?_ ?_
        · rw [OrderedMap.get?_cons, if_neg hk, hu]
        · rw [OrderedMap.get?_cons, if_neg hk, hv]

/-! ## Ties in the order -/

/-- What a tie of two values in the order asks of themselves, when their parts are left aside. -/
inductive LevelTied : Value → Value → Prop where
  | scalars {a b : Value} : a.IsScalar → order a b = .eq → LevelTied a b
  | lists {xs ys : List Value} : xs.length = ys.length → LevelTied (.array xs) (.array ys)
  | documents {xs ys : Document} : OrderedMap.keys xs = OrderedMap.keys ys →
    LevelTied (.document xs) (.document ys)

theorem LevelTied.eq_array {xs : List Value} {b : Value} (h : LevelTied (.array xs) b) :
    ∃ ys, b = .array ys ∧ xs.length = ys.length := by
  cases h with
  | scalars ha => cases ha
  | lists hlength => exact ⟨_, rfl, hlength⟩

theorem LevelTied.eq_document {xs : Document} {b : Value} (h : LevelTied (.document xs) b) :
    ∃ ys, b = .document ys ∧ OrderedMap.keys xs = OrderedMap.keys ys := by
  cases h with
  | scalars ha => cases ha
  | documents hkeys => exact ⟨_, rfl, hkeys⟩

theorem order_array_eq_iff (xs ys : List Value) : order (.array xs) (.array ys) = .eq ↔
    xs.length = ys.length ∧ ∀ (i : Nat) x y, xs[i]? = some x → ys[i]? = some y →
    order x y = .eq := by
  rw [order, orderItems_eq, compareLex_eq_eq_iff, forall₂_iff_getElem?]

theorem order_document_eq_iff {xs : Document} (hxs : (OrderedMap.keys xs).Nodup) (ys : Document) :
    order (.document xs) (.document ys) = .eq ↔ OrderedMap.keys xs = OrderedMap.keys ys ∧
      ∀ key x y, OrderedMap.get? xs key = some x → OrderedMap.get? ys key = some y →
        order x y = .eq := by
  have hentry : (fun e f => orderEntry e f = .eq) = fun e f => e.1 = f.1 ∧ order e.2 f.2 = .eq := by
    funext e f
    rw [orderEntry, compareLex, Ordering.then_eq_eq, compareOn, Std.LawfulEqCmp.compare_eq_iff_eq]
  rw [order, orderEntries_eq, compareLex_eq_eq_iff, hentry]
  exact forall₂_entries_iff (fun x y => order x y = .eq) hxs ys

theorem levelwise_order : Levelwise (fun a b => order a b = .eq) LevelTied where
  scalar {a b} ha := by
    refine ⟨.scalars ha, fun h => ?_⟩
    cases h with
    | scalars _ htied => exact htied
    | lists => cases ha
    | documents => cases ha
  array {xs b} := by
    constructor
    · intro h
      cases b with
      | array ys =>
        obtain ⟨hlength, hitems⟩ := (order_array_eq_iff xs ys).mp h
        exact ⟨ys, rfl, .lists hlength, hitems⟩
      | _ => cases h
    · rintro ⟨ys, rfl, hlevel, hitems⟩
      obtain ⟨_, heq, hlength⟩ := hlevel.eq_array
      cases heq
      exact (order_array_eq_iff xs ys).mpr ⟨hlength, hitems⟩
  document {xs b} hxs := by
    constructor
    · intro h
      cases b with
      | document ys =>
        obtain ⟨hkeys, hvalues⟩ := (order_document_eq_iff hxs ys).mp h
        exact ⟨ys, rfl, .documents hkeys, hvalues⟩
      | _ => cases h
    · rintro ⟨ys, rfl, hlevel, hvalues⟩
      obtain ⟨_, heq, hkeys⟩ := hlevel.eq_document
      cases heq
      exact (order_document_eq_iff hxs ys).mpr ⟨hkeys, hvalues⟩
  eq_array h := h.eq_array.imp fun _ => And.left
  eq_document h := h.eq_document.imp fun _ => And.left

/-- Two values tie in the order if and only if they tie at each of their places. -/
theorem order_eq_eq_iff {a : Value} (hkeys : a.DistinctKeys) (b : Value) :
    order a b = .eq ↔ ∀ u v, Facing a b u v → LevelTied u v :=
  levelwise_order.iff_forall_facing hkeys b

/-- Documents that stand at the same place list their keys in the same order. -/
def SameKeyOrder (a b : Value) : Prop :=
  ∀ xs ys, Facing a b (.document xs) (.document ys) → OrderedMap.keys xs = OrderedMap.keys ys

/-- Numbers that stand at the same place are two integers, or a double expresses each of them. -/
def Unrounded (a b : Value) : Prop :=
  ∀ u v x y, Facing a b u v → Number.ofValue? u = some x → Number.ofValue? v = some y →
    (∃ m n, x = .int m ∧ y = .int n) ∨ x.IsExact ∧ y.IsExact

/-- A comparison of numbers of which doubles express all is not rounded. -/
theorem unrounded_of_exact {a b : Value}
    (ha : Throughout (fun u => ∀ x, Number.ofValue? u = some x → x.IsExact) a)
    (hb : Throughout (fun v => ∀ y, Number.ofValue? v = some y → y.IsExact) b) : Unrounded a b :=
  fun u v x y hface hx hy => .inr ⟨ha u hface.part x hx, hb v hface.symm.part y hy⟩

/-- **Loosely equal values tie in the order where their documents list their keys in the same
order.** -/
theorem order_eq_eq_of_looseEq {a b : Value} (hkeys : a.DistinctKeys) (hequal : looseEq a b = true)
    (hexact : Unrounded a b) : order a b = .eq ↔ SameKeyOrder a b := by
  rw [looseEq_iff hkeys] at hequal
  rw [order_eq_eq_iff hkeys]
  constructor
  · intro h xs ys hface
    obtain ⟨_, heq, hsame⟩ := (h _ _ hface).eq_document
    cases heq
    exact hsame
  · intro h u v hface
    cases hequal u v hface with
    | numbers hx hy hnumbers =>
      refine .scalars (isScalar_of_ofValue? hx) ?_
      rw [order_of_ofValue? hx hy]
      exact Number.totalOrder_eq_eq_of_equals hnumbers (hexact u v _ _ hface hx hy)
    | scalars hu => exact .scalars hu Std.ReflCmp.compare_self
    | lists hlength => exact .lists hlength
    | documents => exact .documents (h _ _ hface)

theorem rank_eq_of_looseEq {a b : Value} (hkeys : a.DistinctKeys) (hequal : looseEq a b = true) :
    a.rank = b.rank := by
  cases (looseEq_iff hkeys b).mp hequal a b (.here a b) with
  | numbers hx hy => rw [rank_of_ofValue? hx, rank_of_ofValue? hy]
  | _ => rfl

end Value

namespace Field

variable {σ : Type}

theorem accepts_of_kind_mixed {field : Field σ} (h : field.kind = .mixed) (value : Option Value)
    (query : Value) : field.accepts value query = equalOrAbsent value query := by
  cases field with
  | scalar path kind options =>
    cases kind with
    | mixed => rfl
    | _ => cases h
  | array => cases h
  | virtual => cases h

theorem query_of_kind_mixed {field : Field σ} (h : field.kind = .mixed) (operator : QueryOperator)
    (value : Option Value) (argument : Value) :
    field.query operator value argument = queryGeneric field.accepts operator value argument := by
  rw [query, h]

end Field

theorem rank_ne_zero {value : Value} (h : present (some value) = some value) : value.rank ≠ 0 := by
  obtain ⟨-, habsent⟩ := eq_some_of_present h
  cases value with
  | null | undefined => cases habsent
  | _ => exact Nat.succ_ne_zero _

/-- **What is equal is neither less nor greater, if its keys stand in order.** A field without a
type, declared or not, that accepts a present value `v` for an argument `x` lets it pass `$gte` and
`$lte` and stops it at `$lt` and `$gt` if and only if the documents at the same places of `v` and
`x` list their keys in the same order. -/
theorem Schema.range_of_equality {σ : Type} (schema : Schema σ) (path : String)
    (hmixed : (schema.fieldOrMixed path).kind = .mixed) {v x : Value}
    (hpresent : present (some v) = some v) (hkeys : v.DistinctKeys) (hexact : v.Unrounded x)
    (hequal : (schema.fieldOrMixed path).accepts (some v) x = true) :
    ((schema.fieldOrMixed path).query .gte (some v) x = true ∧
      (schema.fieldOrMixed path).query .lte (some v) x = true ∧
      (schema.fieldOrMixed path).query .lt (some v) x = false ∧
      (schema.fieldOrMixed path).query .gt (some v) x = false) ↔ v.SameKeyOrder x := by
  have hloose : v.looseEq x = true := by
    rwa [Field.accepts_of_kind_mixed hmixed, equalOrAbsent, hpresent] at hequal
  have hrange : rangeOrder? (some v) x = some (v.order x) := by
    have hrank := Value.rank_eq_of_looseEq hkeys hloose
    have hv := rank_ne_zero hpresent
    exact if_neg fun h => h.elim hv fun h =>
      h.elim (fun hx => hv (hrank.trans hx)) fun hne => hne hrank
  simp only [Field.query_of_kind_mixed hmixed, Field.queryGeneric, hrange, Option.any_some]
  rw [← Value.order_eq_eq_of_looseEq hkeys hloose hexact]
  cases v.order x <;> decide

/-- A shape with a corner, under an undeclared path; the argument writes the numbers as other
kinds. -/
theorem Schema.range_of_equality_shape :
    let schema : Schema Unit := .empty
    let v := Value.document [("label", .string "tile"), ("corner", .array [.int32 1, .int64 2])]
    let x := Value.document
      [("label", .string "tile"), ("corner", .array [.double (.ofInt 1), .double (.ofInt 2)])]
    (schema.fieldOrMixed "shape").kind = .mixed ∧ present (some v) = some v ∧ v.DistinctKeys ∧
      v.Unrounded x ∧ (schema.fieldOrMixed "shape").accepts (some v) x = true ∧
      v.SameKeyOrder x := by
  intro schema v x
  have hkeys : v.DistinctKeys := by
    simp (disch := decide) [Value.DistinctKeys, Value.throughout_document, Value.throughout_array,
      Value.throughout_of_isScalar, OrderedMap.keys, v]
  have hexact : v.Unrounded x := by
    apply Value.unrounded_of_exact
    all_goals simp (disch := decide) [Value.throughout_document, Value.throughout_array,
      Value.throughout_of_isScalar, Number.ofValue?, v, x]
    all_goals decide +kernel
  have hequal : (schema.fieldOrMixed "shape").accepts (some v) x = true := by decide +kernel
  exact ⟨rfl, rfl, hkeys, hexact, hequal,
    (Schema.range_of_equality schema "shape" rfl rfl hkeys hexact hequal).mp
    ⟨by decide +kernel, by decide +kernel, by decide +kernel, by decide +kernel⟩⟩

/-- Documents with the same entries in another order are equal, and one is less than the other. -/
theorem Schema.exists_equal_value_below : ∃ v x : Value, v.NaNFree ∧ x.NaNFree ∧ v.DistinctKeys ∧
    x.DistinctKeys ∧ v.rank = x.rank ∧
      let field := (Schema.empty : Schema Unit).fieldOrMixed "shape"
      field.kind = .mixed ∧ present (some v) = some v ∧ field.accepts (some v) x = true ∧
        field.query .gte (some v) x = false ∧ field.query .lt (some v) x = true := by
  refine ⟨.document [("a", .bool true), ("b", .bool false)],
    .document [("b", .bool false), ("a", .bool true)], ?_, ?_, ?_, ?_, rfl, rfl, rfl,
      by decide +kernel, by decide +kernel, by decide +kernel⟩
  all_goals simp (disch := decide) [Value.NaNFree, Value.DistinctKeys, Value.throughout_document,
    Value.throughout_of_isScalar, OrderedMap.keys]

end DocStore
