import DocStore.Field.Basic
import DocStore.Value.Order
/-!
# The order of a field's values

`Field.order` is what sorting uses. Most fields have the total order of values with absent ones
first. Dates stand after everything that is no date, byte sequences before everything else, and
lists compare item by item through the field of their elements.
-/

namespace DocStore.Field

variable {σ : Type}

/-- Bytes before everything else, which is all equal. -/
def orderBuffers : Option Value → Option Value → Ordering
  | some (.binary _ a), some (.binary _ b) => Value.orderBytes a b
  | some (.binary _ _), _ => .lt
  | _, some (.binary _ _) => .gt
  | _, _ => .eq

/-- Dates after everything else, which is all equal. -/
def orderDates (a b : Option Value) : Ordering :=
  match a.bind Value.asDateTime?, b.bind Value.asDateTime? with
  | some a, some b => compare a.toInt b.toInt
  | some _, none => .gt
  | none, some _ => .lt
  | none, none => .eq

/-- Items in lexicographic order. -/
def orderLists (item : Value → Value → Ordering) : List Value → List Value → Ordering
  | [], [] => .eq
  | [], _ :: _ => .lt
  | _ :: _, [] => .gt
  | a :: as, b :: bs => (item a b).then (orderLists item as bs)

/-- The order of two values of the field. -/
def order : Field σ → Option Value → Option Value → Ordering
  | .scalar _ kind _, a, b =>
    match kind with
    | .buffer => orderBuffers a b
    | .date => orderDates a b
    | _ => orderOptional a b
  | .array _ _ child, a, b =>
    match a, b with
    | some (.array xs), some (.array ys) =>
      orderLists (fun x y => order child (some x) (some y)) xs ys
    | a, b => orderOptional a b
  | .virtual _ _ _, a, b => orderOptional a b

end DocStore.Field
