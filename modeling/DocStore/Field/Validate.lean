import DocStore.Field.Basic
import DocStore.Session
import DocStore.Number
import DocStore.Value.Equality
/-!
# Checking values before they are written

`Field.validate` accepts or refuses the value of a path and gives the form in which it is stored. A
virtual path stores nothing: its setter receives the value together with the data that is being
validated, and may change the data.
-/

namespace DocStore

/-- A present value, which a required field must have. -/
def FieldOptions.require {σ : Type} (path : String) (options : FieldOptions σ)
    (value : Option Value) : Except StoreError (Option Value) :=
  match present value with
  | some value => .ok (some value)
  | .none => if options.required then .error (.validation path .required) else .ok .none

namespace Field

variable {σ : Type}

/-- A number of a number field: the NaN is refused. -/
def checkNumber (value : Value) : Except ValidationFault Value :=
  match Number.ofValue? value with
  | some (.float .nan) => .error (.notNumber (.double .nan))
  | some number => .ok number.toValue
  | none => .error (.notNumber value)

/-- A number of an integer field: fractions and infinities are refused as well, and the rest is held
within 64 bits. -/
def checkInteger (value : Value) : Except ValidationFault Value :=
  match Number.ofValue? value with
  | some (.float .nan) => .error (.notNumber (.double .nan))
  | some (.float x) =>
    if x.isIntegral then .ok (.int64 (Int64.ofInt x.clampToInt64)) else .error (.notInteger x)
  | some number => .ok number.toValue
  | none => .error (.notNumber value)

/-- The stored form of a present value of a single field, or why it is refused. -/
def checkScalar (kind : ScalarKind) (options : FieldOptions σ) (value : Value) :
    Except ValidationFault Value :=
  match kind with
  | .string =>
    match value with
    | .string _ => .ok value
    | _ => .error (.notString value)
  | .number => checkNumber value
  | .integer => checkInteger value
  | .boolean =>
    match value with
    | .bool _ => .ok value
    | _ => .error (.notBoolean value)
  | .date =>
    match value with
    | .dateTime _ => .ok value
    | _ => .error (.notDate value)
  | .buffer =>
    match value with
    | .binary _ _ => .ok value
    | _ => .error (.notBuffer value)
  | .enum =>
    if Value.memOf options.elements value then .ok value
    else .error (.notOneOf options.elements)
  | .cuid =>
    match value with
    | .string text => if isIdentifier text then .ok value else .error (.notId value)
    | _ => .error (.notId value)
  | .mixed | .object => .ok value

/-- Checks every item of a list in turn, carrying the data along. -/
def validateItems (check : Value → Document → Act σ (Option Value × Document)) :
    List Value → Document → Act σ (List Value × Document)
  | [], data => return ([], data)
  | item :: items, data => do
    let (item, data) ← check item data
    let (items, data) ← validateItems check items data
    return (item.getD .null :: items, data)

/-- Checks the value of a path; the result is what is stored and the data after it. -/
def validate : Field σ → Option Value → Document → Act σ (Option Value × Document)
  | .scalar path kind options, value, data => do
    match ← Act.ofExcept (options.require path value) with
    | none => return (none, data)
    | some value =>
      match checkScalar kind options value with
      | .ok value => return (some value, data)
      | .error fault => throw (.validation path fault)
  | .array path options child, value, data => do
    match ← Act.ofExcept (options.require path value) with
    | none => return (none, data)
    | some (.array items) =>
      let (items, data) ← validateItems
        (fun item data => validate child (some item) data) items data
      return (some (.array items), data)
    | some other => throw (.validation path (.notArray other))
  | .virtual _ _ setter, value, data => do
    match setter, present value with
    | some set, some value =>
      let data ← Act.onHost (set value data)
      return (none, data)
    | _, _ => return (none, data)

end Field

end DocStore
