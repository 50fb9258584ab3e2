import DocStore.Field.Basic
import DocStore.Session
import DocStore.Value.Coerce
/-!
# Reading values into fields

`Field.cast` is applied when a document is read from the store. An absent value becomes the default;
a present one is converted to the kind of the field. A list field wraps a single value, and a
required identifier field draws an identifier where it has none.
-/

namespace DocStore

/-- A present value, or what the default produces. -/
def FieldOptions.fill {σ : Type} (options : FieldOptions σ) (value : Option Value) :
    Act σ (Option Value) :=
  match present value with
  | some value => pure (some value)
  | .none =>
    match options.default? with
    | some producer => do return some (← Act.onHost producer)
    | .none => pure .none

namespace Field

variable {σ : Type}

/-- Bytes from a text in the declared encoding. -/
def decodeText (path : String) (options : FieldOptions σ) (text : String) :
    Except StoreError Value :=
  match (encodingOf options).decode text with
  | some content => .ok (.bytes content)
  | none => .error (.validation path (.undecodable (encodingOf options) text))

/-- A byte sequence from bytes, text or a list of numbers. -/
def castBuffer (path : String) (options : FieldOptions σ) : Value → Except StoreError Value
  | .binary subtype content => .ok (.binary subtype content)
  | .string text => decodeText path options text
  | .array items => .ok (.bytes (items.map Value.toByte))
  | other => .error (.validation path (.unreadableBuffer other))

/-- A present value of a single field in the form of its kind. -/
def castScalar (path : String) (kind : ScalarKind) (options : FieldOptions σ) (value : Value) :
    Except StoreError Value :=
  match kind with
  | .string => .ok (.string value.stringify)
  | .number => .ok value.toNumber
  | .integer => .ok value.toInteger
  | .boolean => .ok (.bool value.toFlag)
  | .date =>
    .ok (match value.toDate? with
      | some millis => .dateTime millis
      | none => value)
  | .buffer => castBuffer path options value
  | .mixed | .object | .enum | .cuid => .ok value

/-- The items of a list, or a present value as the only item. -/
def itemsOf (value : Option Value) : Option (List Value) :=
  (present value).map Value.argumentList

/-- Converts a stored value for reading. -/
def cast : Field σ → Option Value → Act σ (Option Value)
  | .scalar path kind options, value => do
    match ← options.fill value with
    | some value =>
      let value ← Act.ofExcept (castScalar path kind options value)
      return some value
    | none =>
      if kind = .cuid ∧ options.required then return some (.string (← Act.drawId))
      else return none
  | .array _ options child, value => do
    match itemsOf (← options.fill value) with
    | none => return none
    | some items =>
      let items ← items.mapM fun item => do
        let item ← cast child (some item)
        return item.getD .null
      return some (.array items)
  | .virtual _ _ _, _ => return none

end Field

end DocStore
