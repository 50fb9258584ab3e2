import DocStore.Field.Cast
/-!
# Values in snapshots

`Field.serialize` gives the form of a value in a snapshot, and `Field.parse` restores it: flags are
0 and 1, dates are texts, and byte sequences are texts in the declared encoding.
-/

namespace DocStore.Field

variable {σ : Type}

/-- The snapshot form of a present value of a single field. -/
def serializeScalar (kind : ScalarKind) (options : FieldOptions σ) (value : Value) : Value :=
  match kind, value with
  | .boolean, .bool flag => .int32 (if flag then 1 else 0)
  | .date, .dateTime millis =>
    match Date.format? millis.toInt with
    | some text => .string text
    | none => value
  | .buffer, .binary _ content => .string ((encodingOf options).encode content)
  | _, _ => value

/-- The snapshot form of a value. -/
def serialize : Field σ → Option Value → Option Value
  | .scalar _ kind options, value =>
    match kind with
    | .boolean | .date | .buffer => (present value).map (serializeScalar kind options)
    | _ => value
  | .array _ _ child, value =>
    match present value with
    | some (.array items) =>
      some (.array (items.map fun item => (serialize child (some item)).getD .null))
    | other => other
  | .virtual _ _ _, _ => none

/-- The value of a present snapshot form of a single field. -/
def parseScalar (path : String) (kind : ScalarKind) (options : FieldOptions σ) (raw : Value) :
    Except StoreError Value :=
  match kind with
  | .boolean => .ok (.bool raw.isTruthy)
  | .date =>
    match raw.toDate? with
    | some millis => .ok (.dateTime millis)
    | none => .error (.validation path (.unreadableDate raw))
  | .buffer =>
    match raw with
    | .string text => decodeText path options text
    | other => .ok other
  | _ => .ok raw

/-- Restores a value from its snapshot form. -/
def parse : Field σ → Option Value → Except StoreError (Option Value)
  | .scalar path kind options, raw =>
    match kind with
    | .boolean | .date | .buffer =>
      match present raw with
      | some raw => (parseScalar path kind options raw).map some
      | none => .ok none
    | _ => .ok raw
  | .array _ _ child, raw =>
    match present raw with
    | some (.array items) => do
      let items ← items.mapM fun item => do
        let item ← parse child (some item)
        pure (item.getD .null)
      return some (.array items)
    | other => .ok other
  | .virtual _ _ _, _ => .ok none

end DocStore.Field
