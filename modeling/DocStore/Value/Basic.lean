import DocStore.Double.Basic
import DocStore.OrderedMap
/-!
# Stored values

A `Value` is a scalar of one of the stored kinds, a list, or a document, which is an ordered map
from keys to values. Absence has three forms, a missing value, `null` and `undefined`; `isAbsent`
and `present` treat them as one.
-/

namespace DocStore

/-- A stored value. Dates are milliseconds since the epoch.

Seven kinds that a document may also hold have no constructor: regular expressions, code, code with
a scope, timestamps, symbols, decimals and pointers. Nothing looks into them. Every function treats
them as it treats object ids: they share the last rank of the order, are equal to the same value of
the same kind only, and appear in JSON as the text they are displayed as. What is said of all values
leaves them out. -/
inductive Value where
  | null
  | undefined
  | minKey
  | maxKey
  | bool (flag : Bool)
  | int32 (n : Int32)
  | int64 (n : Int64)
  | double (x : Double)
  | string (text : String)
  | array (items : List Value)
  | document (entries : List (String × Value))
  | dateTime (millis : Int64)
  | binary (subtype : UInt8) (bytes : List UInt8)
  | objectId (bytes : List UInt8)
  deriving Inhabited

/-- A document: keys and values in order. -/
abbrev Document := OrderedMap Value

namespace Value

def isAbsentValue : Value → Bool
  | .null | .undefined => true
  | _ => false

def asString? : Value → Option String
  | .string text => some text
  | _ => none

def asDocument? : Value → Option Document
  | .document entries => some entries
  | _ => none

def asArray? : Value → Option (List Value)
  | .array items => some items
  | _ => none

def asDateTime? : Value → Option Int64
  | .dateTime millis => some millis
  | _ => none

/-- The values of an argument: the items of a list, or the argument itself. -/
def argumentList : Value → List Value
  | .array items => items
  | other => [other]

/-- The flag an operator argument stands for. Zero, NaN, the empty text and absence are false. -/
def isTruthy : Value → Bool
  | .null | .undefined => false
  | .bool flag => flag
  | .int32 n => n != 0
  | .int64 n => n != 0
  | .double x => !x.isNaN && !x.equals (Double.zero false)
  | .string text => !text.isEmpty
  | _ => true

end Value

/-- Whether a value is missing, `null` or `undefined`. -/
def isAbsent : Option Value → Bool
  | none => true
  | some value => value.isAbsentValue

/-- Makes an explicit `null` or `undefined` missing. -/
def present (value : Option Value) : Option Value :=
  if isAbsent value then none else value

/-- The `_id` of a document when it is a text. -/
def Document.id? (doc : Document) : Option String :=
  (OrderedMap.get? doc "_id").bind Value.asString?

end DocStore
