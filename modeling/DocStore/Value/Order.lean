import DocStore.Number
/-!
# Order of values

`Value.order` is a total order: first by the rank of the kind, then by the natural order of the
kind. Numbers go by exact value, texts by code point, lists and documents entry by entry and then by
length. `Value.rangeOrder?` is the order that range operators see: only present values of one rank
are comparable.
-/

namespace DocStore

namespace Value

/-- The place of a kind among the kinds. Kinds without an order of their own share the last. -/
def rank : Value → Nat
  | .null | .undefined => 0
  | .int32 _ | .int64 _ | .double _ => 1
  | .string _ => 2
  | .document _ => 3
  | .array _ => 4
  | .binary _ _ => 5
  | .bool _ => 6
  | .dateTime _ => 7
  | .minKey | .maxKey | .objectId _ => 8

/-- Byte sequences in lexicographic order. -/
def orderBytes : List UInt8 → List UInt8 → Ordering
  | [], [] => .eq
  | [], _ :: _ => .lt
  | _ :: _, [] => .gt
  | a :: as, b :: bs => (compare a.toNat b.toNat).then (orderBytes as bs)

/-- The order of two values of one rank that hold no other values. -/
def orderScalars : Value → Value → Ordering
  | .string a, .string b => compare a b
  | .bool a, .bool b => compare a.toNat b.toNat
  | .dateTime a, .dateTime b => compare a.toInt b.toInt
  | .binary _ a, .binary _ b => orderBytes a b
  | a, b =>
    match Number.ofValue? a, Number.ofValue? b with
    | some x, some y => x.totalOrder y
    | _, _ => .eq

mutual

/-- The total order of values. -/
def order : Value → Value → Ordering
  | .array xs, .array ys => orderItems xs ys
  | .document xs, .document ys => orderEntries xs ys
  | a, b => (compare a.rank b.rank).then (orderScalars a b)

/-- Lists in lexicographic order. -/
def orderItems : List Value → List Value → Ordering
  | [], [] => .eq
  | [], _ :: _ => .lt
  | _ :: _, [] => .gt
  | x :: xs, y :: ys => (order x y).then (orderItems xs ys)

/-- Documents in lexicographic order of their entries, a key before its value. -/
def orderEntries : List (String × Value) → List (String × Value) → Ordering
  | [], [] => .eq
  | [], _ :: _ => .lt
  | _ :: _, [] => .gt
  | (k, x) :: xs, (l, y) :: ys => ((compare k l).then (order x y)).then (orderEntries xs ys)

end

end Value

/-- The total order with absent values first and equal to each other. -/
def orderOptional (a b : Option Value) : Ordering :=
  match present a, present b with
  | none, none => .eq
  | none, some _ => .lt
  | some _, none => .gt
  | some x, some y => x.order y

/-- The order of two present values of one rank. -/
def rangeOrder? (a : Option Value) (b : Value) : Option Ordering :=
  match a with
  | none => none
  | some x =>
    if x.rank = 0 ∨ b.rank = 0 ∨ x.rank ≠ b.rank then none else some (x.order b)

end DocStore
