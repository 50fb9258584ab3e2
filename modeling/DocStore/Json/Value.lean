import DocStore.Json.Basic
import DocStore.Value.Display
/-!
# Values as JSON

`Value.toJson` is the plain form that snapshots hold: dates in ISO 8601, bytes in hexadecimal, and
`null` for what has no JSON form. `Value.ofJson` reads integers of 64 bits as such and every other
number as a double.
-/

namespace DocStore

namespace Value

mutual

/-- The plain JSON form of a value. -/
def toJson : Value → Json
  | .null | .undefined => .null
  | .bool flag => .bool flag
  | .int32 n => .int n.toInt
  | .int64 n => .int n.toInt
  | .double x => if x.isFinite then .double x else .null
  | .string text => .string text
  | .array items => .array (toJsonItems items)
  | .document entries => .object (toJsonMembers entries)
  | .dateTime millis =>
    match Date.format? millis.toInt with
    | some text => .string text
    | none => .null
  | .binary _ bytes => .string (Hex.encode bytes)
  | other => .string other.display

def toJsonItems : List Value → List Json
  | [] => []
  | item :: items => toJson item :: toJsonItems items

def toJsonMembers : List (String × Value) → List (String × Json)
  | [] => []
  | (key, value) :: entries => (key, toJson value) :: toJsonMembers entries

end

mutual

/-- The value that a JSON tree stands for. -/
def ofJson : Json → Value
  | .null => .null
  | .bool flag => .bool flag
  | .int n => if IsInt64 n then .int64 (Int64.ofInt n) else .double (Double.ofInt n)
  | .double x => .double x
  | .string text => .string text
  | .array items => .array (ofJsonItems items)
  | .object members => .document (ofJsonMembers [] members)

def ofJsonItems : List Json → List Value
  | [] => []
  | item :: items => ofJson item :: ofJsonItems items

/-- Stores the members in turn, so a repeated key keeps its last value. -/
def ofJsonMembers (doc : Document) : List (String × Json) → Document
  | [] => doc
  | (key, item) :: members => ofJsonMembers (OrderedMap.insert doc key (ofJson item)) members

end

end Value

/-- The document that a JSON object stands for; other trees are none. -/
def Document.ofJson? (json : Json) : Option Document := (Value.ofJson json).asDocument?

end DocStore
