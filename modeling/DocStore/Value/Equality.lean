import DocStore.Number
import DocStore.Value.Path
/-!
# Equality of values

`Value.looseEq` compares numbers by value whatever their width, lists item by item and documents key
by key without regard to order. `Value.same` also tells the kinds of numbers apart.
-/

namespace DocStore.Value

/-- Equality of values that are neither a list nor a document. -/
def scalarEq : Value → Value → Bool
  | .null, .null | .undefined, .undefined | .minKey, .minKey | .maxKey, .maxKey => true
  | .bool a, .bool b => a == b
  | .int32 a, .int32 b => a == b
  | .int64 a, .int64 b => a == b
  | .double a, .double b => a.equals b
  | .string a, .string b => a == b
  | .dateTime a, .dateTime b => a == b
  | .binary s a, .binary t b => s == t && a == b
  | .objectId a, .objectId b => a == b
  | _, _ => false

/-- Numbers by value, other scalars by kind and value. -/
def scalarLooseEq (a b : Value) : Bool :=
  match Number.ofValue? a, Number.ofValue? b with
  | some x, some y => x.equals y
  | _, _ => scalarEq a b

mutual

/-- Equality by a test of scalars: lists item by item, documents as maps. -/
def eqBy (scalar : Value → Value → Bool) : Value → Value → Bool
  | .array xs, .array ys => xs.length == ys.length && eqItems scalar xs ys
  | .document xs, .document ys => xs.length == ys.length && eqEntries scalar xs ys
  | a, b => scalar a b

/-- Items at the same place are equal, as far as both lists go. -/
def eqItems (scalar : Value → Value → Bool) : List Value → List Value → Bool
  | x :: xs, y :: ys => eqBy scalar x y && eqItems scalar xs ys
  | _, _ => true

/-- Every entry has an equal value under its key in the other document. -/
def eqEntries (scalar : Value → Value → Bool) : List (String × Value) → Document → Bool
  | [], _ => true
  | (key, value) :: rest, other =>
    (match OrderedMap.get? other key with
      | some found => eqBy scalar value found
      | none => false) && eqEntries scalar rest other

end

/-- Equality with numbers compared by value. -/
def looseEq (a b : Value) : Bool := eqBy scalarLooseEq a b

/-- Equality with the kinds of numbers told apart. -/
def same (a b : Value) : Bool := eqBy scalarEq a b

/-- Whether a list holds a loosely equal value. -/
def memOf (items : List Value) (needle : Value) : Bool := items.any fun item => looseEq item needle

end DocStore.Value
