import DocStore.Field.Basic
import DocStore.Number
import DocStore.Value.Coerce
import DocStore.Value.Equality
/-!
# Update operators of fields

`Field.updateOperators` lists the operators that a field takes and `Field.update` applies one. The
result is the new value of the path, where nothing removes it, and the data, which only a renaming
changes.

Arithmetic starts from the argument when there is no current number or it is zero: an increment
gives the argument, a decrement its opposite, and the other three give zero.
-/

namespace DocStore.Field

variable {σ : Type}

/-- The operators that every field takes. -/
def genericUpdateOperators : List UpdateOperator := [.set, .unset, .rename]

/-- The operators that a field takes. -/
def updateOperators : Field σ → List UpdateOperator
  | .scalar _ kind _ =>
    match kind with
    | .number | .integer =>
      genericUpdateOperators ++ [.inc, .dec, .mul, .div, .mod, .max, .min]
    | .date => genericUpdateOperators ++ [.inc, .dec]
    | _ => genericUpdateOperators
  | .array _ _ _ => genericUpdateOperators ++ [.push, .unshift, .pull, .shift, .pop, .addToSet]
  | .virtual _ _ _ => genericUpdateOperators

/-- The generic meaning of an operator. -/
def updateGeneric (path : String) (operator : UpdateOperator) (value : Option Value)
    (argument : Value) (data : Document) : Except StoreError (Option Value × Document) :=
  match operator with
  | .set => .ok (present (some argument), data)
  | .unset => .ok (if argument.isTruthy then none else value, data)
  | .rename =>
    match argument with
    | .string target =>
      match present value with
      | some value => .ok (none, data.set target value)
      | none => .ok (none, data)
    | _ => .error (.invalidQuery (.noRenameTarget path))
  | other => .error (.invalidQuery (.unsupportedUpdate other path))

/-! ## Numbers -/

/-- Whether an operator computes with numbers. -/
def isArithmetic : UpdateOperator → Bool
  | .inc | .dec | .mul | .div | .mod | .max | .min => true
  | _ => false

/-- The number that takes the place of the current one; only arithmetic operators give one. -/
def arithmetic? (operator : UpdateOperator) (current : Option Number) (x : Number) :
    Option Number :=
  let seed := current.filter fun n => !n.isZero
  match operator with
  | .inc => some (seed.elim x fun n => n.add x)
  | .dec => some (seed.elim x.neg fun n => n.sub x)
  | .mul => some (seed.elim (.int 0) fun n => n.mul x)
  | .div => some (seed.elim (.int 0) fun n => n.div x)
  | .mod => some (seed.elim (.int 0) fun n => n.rem x)
  | .max => some (current.elim x fun n => if (n.compare? x).any Ordering.isGE then n else x)
  | .min => some (current.elim x fun n => if (n.compare? x).any Ordering.isLE then n else x)
  | _ => none

def updateNumber (path : String) (operator : UpdateOperator) (value : Option Value)
    (argument : Value) (data : Document) : Except StoreError (Option Value × Document) :=
  if !isArithmetic operator then
    updateGeneric path operator value argument data
  else match Number.ofValue? argument with
    | none => .error (.invalidQuery (.expectsNumber operator path argument))
    | some x =>
      let current := value.bind Number.ofValue?
      .ok ((arithmetic? operator current x).map Number.toValue, data)

/-! ## Dates -/

/-- The whole milliseconds of an argument, within 64 bits. -/
def wholeMillis? (argument : Value) : Option Int :=
  ((Number.ofValue? argument).bind fun n => n.toDouble.truncate?).filter fun n => IsInt64 n

/-- Shifts a date by milliseconds; an absent date stays absent. -/
def shiftDate (path : String) (operator : UpdateOperator) (sign : Int) (value : Option Value)
    (argument : Value) : Except StoreError (Option Value) :=
  match wholeMillis? argument with
  | none => .error (.invalidQuery (.expectsMilliseconds operator path argument))
  | some millis =>
    match value.bind Value.asDateTime? with
    | none => .ok none
    | some start =>
      let shifted := (int64? (sign * millis)).map fun delta => start.toInt + delta.toInt
      match shifted.filter Moment.inRange with
      | some shifted => .ok (some (.dateTime (Int64.ofInt shifted)))
      | none => .error (.invalidQuery (.outOfDateRange operator path argument))

def updateDate (path : String) (operator : UpdateOperator) (value : Option Value)
    (argument : Value) (data : Document) : Except StoreError (Option Value × Document) :=
  match operator with
  | .inc => (shiftDate path .inc 1 value argument).map fun value => (value, data)
  | .dec => (shiftDate path .dec (-1) value argument).map fun value => (value, data)
  | _ => updateGeneric path operator value argument data

/-! ## Lists -/

/-- The number of items that an argument asks to remove; nothing leaves the list as it is. -/
def removalCount? : Value → Option Int
  | .bool true => some 1
  | argument =>
    if argument.isTruthy then
      (Number.ofValue? argument).map fun n => n.toDouble.clampToInt64
    else none

/-- Drops the first items of a list, or the last ones when the count is not positive. -/
def shiftItems (count : Int) (items : List Value) : List Value :=
  if 0 < count then items.drop count.toNat
  else items.take (items.length - (-count).toNat)

/-- Drops the last items of a list, or the first ones when the count is not positive. The least
64-bit integer has no opposite. -/
def popItems (count : Int) (items : List Value) : Except StoreError (List Value) :=
  if 0 < count then .ok (items.take (items.length - count.toNat))
  else if count = int64Least then .error .overflow
  else .ok (items.drop (-count).toNat)

/-- Appends the values that no item is equal to yet. -/
def addMissing : List Value → List Value → List Value
  | items, [] => items
  | items, value :: rest =>
    addMissing (if Value.memOf items value then items else items ++ [value]) rest

def updateList (path : String) (operator : UpdateOperator) (value : Option Value)
    (argument : Value) (data : Document) : Except StoreError (Option Value × Document) :=
  let current := value.bind Value.asArray?
  let stored (items : Option (List Value)) : Except StoreError (Option Value × Document) :=
    .ok (items.map Value.array, data)
  match operator with
  | .push => stored (some (current.getD [] ++ argument.argumentList))
  | .unshift => stored (some (argument.argumentList ++ current.getD []))
  | .pull =>
    stored (current.map fun items =>
      items.filter fun item => !Value.memOf argument.argumentList item)
  | .shift =>
    match current, removalCount? argument with
    | some items, some count => stored (some (shiftItems count items))
    | current, _ => stored current
  | .pop =>
    match current, removalCount? argument with
    | some items, some count => do
      let items ← popItems count items
      stored (some items)
    | current, _ => stored current
  | .addToSet => stored (some (addMissing (current.getD []) argument.argumentList))
  | _ => updateGeneric path operator value argument data

/-- Applies an operator to the value of a path. -/
def update (field : Field σ) (operator : UpdateOperator) (value : Option Value) (argument : Value)
    (data : Document) : Except StoreError (Option Value × Document) :=
  match field.kind with
  | .number | .integer => updateNumber field.path operator value argument data
  | .date => updateDate field.path operator value argument data
  | .array => updateList field.path operator value argument data
  | _ => updateGeneric field.path operator value argument data

end DocStore.Field
