import DocStore.Field.Compare
import DocStore.Proofs.Value.Order
/-!
# The order of a field is total

`Field.transCmp_order` says that every field, however its arrays are nested, compares values by a
total preorder, whatever values they are. Each order is put together from total preorders: of keys,
of one criterion after another, and of the items of lists.
-/

open Std

namespace DocStore.Field

variable {σ : Type}

/-! ## Bytes and dates -/

/-- The bytes of a value that has any. -/
def bytes? : Option Value → Option (List UInt8)
  | some (.binary _ bytes) => some bytes
  | _ => none

theorem bytes?_eq_none {v : Option Value} (h : ∀ subtype bytes, v ≠ some (.binary subtype bytes)) :
    bytes? v = none := by
  rw [bytes?.eq_def]
  split
  · exact absurd rfl (h _ _)
  · rfl

theorem orderBuffers_eq (a b : Option Value) :
    orderBuffers a b = (compare (bytes? b).isSome (bytes? a).isSome).then
      (Value.orderBytes ((bytes? a).getD []) ((bytes? b).getD [])) := by
  rw [orderBuffers.eq_def]
  split
  · rfl
  · next hb =>
    rw [bytes?_eq_none hb]
    rfl
  · next ha =>
    rw [bytes?_eq_none ha]
    rfl
  · next ha hb _ =>
    rw [bytes?_eq_none ha, bytes?_eq_none hb]
    rfl

instance : TransCmp orderBuffers :=
  have := transCmp_comap Value.orderBytes fun a => (bytes? a).getD []
  have : TransCmp fun a b => compareOn (fun a => (bytes? a).isSome) b a := .opposite
  transCmp_of_eq (compareLex (fun a b => compareOn (fun a => (bytes? a).isSome) b a) _)
    orderBuffers_eq

theorem orderDates_eq (a b : Option Value) :
    orderDates a b = compareOn (fun v => (v.bind Value.asDateTime?).map Int64.toInt) a b := by
  rw [orderDates, compareOn]
  cases a.bind Value.asDateTime? <;> cases b.bind Value.asDateTime? <;> rfl

instance : TransCmp orderDates := transCmp_of_eq _ orderDates_eq

/-! ## Lists -/

theorem orderLists_eq (item : Value → Value → Ordering) (xs ys : List Value) :
    orderLists item xs ys = List.compareLex item xs ys := by
  induction xs generalizing ys with
  | nil => cases ys <;> rfl
  | cons x xs ih =>
    cases ys with
    | nil => rfl
    | cons y ys => rw [orderLists, ih, List.compareLex_cons_cons]

/-- A value with the items of its list, if it is one, taken out. -/
def emptied : Option Value → Option Value
  | some (.array _) => some (.array [])
  | v => v

/-- The items of a list. -/
def items (v : Option Value) : List Value := (v.bind Value.asArray?).getD []

theorem emptied_of_not_list {v : Option Value} (h : ∀ xs, v ≠ some (.array xs)) :
    emptied v = v := by
  rw [emptied.eq_def]
  split
  · exact absurd rfl (h _)
  · rfl

theorem items_of_not_list {v : Option Value} (h : ∀ xs, v ≠ some (.array xs)) : items v = [] := by
  rcases v with _ | v
  · rfl
  · cases v with
    | array xs => exact absurd rfl (h xs)
    | _ => rfl

/-- What a list holds does not matter against something else. -/
theorem orderOptional_emptied {a b : Option Value}
    (h : ∀ xs ys, a = some (.array xs) → b = some (.array ys) → False) (o : Ordering)
    (ho : (∀ xs, a ≠ some (.array xs)) → (∀ ys, b ≠ some (.array ys)) → o = .eq) :
    orderOptional a b = (orderOptional (emptied a) (emptied b)).then o := by
  have hlist (xs : List Value) (v : Option Value) (hv : ∀ ys, v ≠ some (.array ys)) :
      orderOptional (some (.array xs)) v = (orderOptional (some (.array [])) v).then o ∧
        orderOptional v (some (.array xs)) = (orderOptional v (some (.array []))).then o := by
    rcases v with _ | v
    · exact ⟨rfl, rfl⟩
    · cases v with
      | array ys => exact absurd rfl (hv ys)
      | _ => exact ⟨rfl, rfl⟩
  by_cases ha : ∃ xs, a = some (.array xs)
  · obtain ⟨xs, rfl⟩ := ha
    have hb (ys : List Value) (heq : b = some (.array ys)) : False := h xs ys rfl heq
    rw [emptied_of_not_list hb]
    exact (hlist xs b hb).1
  · have ha := not_exists.mp ha
    rw [emptied_of_not_list ha]
    by_cases hb : ∃ ys, b = some (.array ys)
    · obtain ⟨ys, rfl⟩ := hb
      exact (hlist ys a ha).2
    · have hb := not_exists.mp hb
      rw [emptied_of_not_list hb, ho ha hb, Ordering.then_eq]

/-- Lists are told from other values by their kind, and only then from each other by their items. -/
theorem order_array (path : String) (options : FieldOptions σ) (child : Field σ)
    (a b : Option Value) :
    order (.array path options child) a b = (orderOptional (emptied a) (emptied b)).then
      (List.compareLex (fun x y => order child (some x) (some y)) (items a) (items b)) := by
  rw [order.eq_def]
  dsimp only
  split
  · exact orderLists_eq _ _ _
  · next hlists =>
    refine orderOptional_emptied hlists _ fun ha hb => ?_
    rw [items_of_not_list ha, items_of_not_list hb, List.compareLex_nil_nil]

/-- **Every field compares values by a total preorder.** -/
instance transCmp_order (field : Field σ) : TransCmp field.order := by
  induction field with
  | scalar path kind options =>
    cases kind with
    | buffer => exact inferInstanceAs (TransCmp orderBuffers)
    | date => exact inferInstanceAs (TransCmp orderDates)
    | _ => exact inferInstanceAs (TransCmp orderOptional)
  | «virtual» path getter setter => exact inferInstanceAs (TransCmp orderOptional)
  | array path options child ih =>
    have hkind := transCmp_comap orderOptional emptied
    have hitem := transCmp_comap child.order some
    have hitems := transCmp_comap (List.compareLex fun x y => order child (some x) (some y)) items
    exact transCmp_of_eq (compareLex _ _) (order_array path options child)

end DocStore.Field
