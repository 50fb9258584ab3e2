import DocStore.Double.Read
import DocStore.Json.Value
import DocStore.Number
/-!
# Conversions between kinds of values

What a value becomes when it is read into a field of another kind: a text, a number, a whole number,
or a date.
-/

namespace DocStore.Value

mutual

/-- The textual form: integral doubles with all their digits, lists joined by commas, and dates,
documents and bytes in their JSON form. -/
def stringify : Value → String
  | .string text => text
  | .double x => if x.isIntegral then x.exactDigits else x.plain
  | .array items => stringifyItems items
  | value@(.dateTime _) | value@(.document _) | value@(.binary _ _) =>
    match value.toJson with
    | .string text => text
    | json => json.print
  | other => other.display

def stringifyItems : List Value → String
  | [] => ""
  | [item] => stringify item
  | item :: items => stringify item ++ "," ++ stringifyItems items

end

def ofInt (n : Int) : Value := .int64 (Int64.ofInt n)

/-- The number that a text denotes: zero when it is blank, an integer when it fits, a double
otherwise, and the NaN when it is no number. -/
def numberOfText (text : String) : Value :=
  let cs := trim text.toList
  if cs.isEmpty then ofInt 0
  else match readInt64? cs with
    | some n => ofInt n
    | none => .double ((Double.read? cs).getD .nan)

/-- The number that a value denotes; what has none is the NaN. -/
def toNumber : Value → Value
  | .int32 n => .int64 n.toInt64
  | .int64 n => .int64 n
  | .double x => .double x
  | .bool flag => ofInt flag.toNat
  | .dateTime millis => .int64 millis
  | .string text => numberOfText text
  | _ => .double .nan

/-- The integer at the head of a text after white space; digits after it are needed, and it must fit
in 64 bits. -/
def leadingInteger? (text : String) : Option Int :=
  let (negative, rest) := readSign (trimStart text.toList)
  let ((n, count), _) := readDigits rest
  let value : Int := if negative then -n else n
  if count ≠ 0 ∧ IsInt64 value then some value else none

/-- The integer part of the number that a value denotes, held within 64 bits. -/
def toInteger : Value → Value
  | .string text =>
    match leadingInteger? text with
    | some n => ofInt n
    | none => .double .nan
  | other =>
    match other.toNumber with
    | .double x => if x.isFinite then ofInt x.clampToInt64 else .double x
    | number => number

/-- The date that a value denotes: a date, the text of one, or a finite number of milliseconds. -/
def toDate? : Value → Option Int64
  | .dateTime millis => some millis
  | .string text => (Date.read? text).map Int64.ofInt
  | other =>
    match Number.ofValue? other with
    | some n => if n.toDouble.isFinite then some (Int64.ofInt n.toDouble.clampToInt64) else none
    | none => none

/-- A flag from a value: the texts `false` and `0` are false, others as truthy as they are. -/
def toFlag : Value → Bool
  | .string text => !(text == "false" || text == "0") && !text.isEmpty
  | other => other.isTruthy

/-- The byte that a list item stands for: the low byte of a number, or zero. -/
def toByte (value : Value) : UInt8 :=
  match Number.ofValue? value with
  | some n => UInt8.ofNat (n.toDouble.clampToInt64 % 256).toNat
  | none => 0

/-- A binary value of the generic subtype. -/
def bytes (content : List UInt8) : Value := .binary 0 content

end DocStore.Value
