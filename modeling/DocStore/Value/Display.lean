import DocStore.Bytes
import DocStore.Date.Text
import DocStore.Double.Text
import DocStore.Value.Basic
/-!
# Values as text

The written form of a value in messages: texts in quotes and without escapes, lists in brackets,
documents in braces with quoted keys, dates as a calendar date and a time of day.
-/

namespace DocStore

namespace Date

/-- The fraction of a second with the fewest digits, at least one. -/
def fractionText (milli : Nat) : String :=
  if milli % 100 = 0 then padded 1 (milli / 100)
  else if milli % 10 = 0 then padded 2 (milli / 10)
  else padded 3 milli

/-- Date, time and offset; the hour has no leading zero. Outside the years -9999 to 9999 it is the
number of milliseconds. -/
def display (millis : Int) : String :=
  let m := Moment.ofMillis millis
  if -9999 ≤ m.date.year ∧ m.date.year ≤ 9999 then
    yearText m.date.year ++ "-" ++ padded 2 m.date.month ++ "-" ++ padded 2 m.date.day ++ " " ++
      toString m.hour ++ ":" ++ padded 2 m.minute ++ ":" ++ padded 2 m.second ++ "." ++
      fractionText m.millisecond ++ " +00:00:00"
  else toString millis

end Date

namespace Value

mutual

/-- The written form of a value. -/
def display : Value → String
  | .null => "null"
  | .undefined => "undefined"
  | .minKey => "MinKey"
  | .maxKey => "MaxKey"
  | .bool flag => if flag then "true" else "false"
  | .int32 n => toString n.toInt
  | .int64 n => toString n.toInt
  | .double x => x.plain
  | .string text => "\"" ++ text ++ "\""
  | .array items => "[" ++ displayItems items ++ "]"
  | .document [] => "\x7b\x7d"
  | .document entries => "\x7b " ++ displayEntries entries ++ " \x7d"
  | .dateTime millis => "DateTime(\"" ++ Date.display millis.toInt ++ "\")"
  | .binary subtype bytes =>
    "Binary(0x" ++ String.ofList (Nat.toDigits 16 subtype.toNat) ++ ", " ++
      Base64.encode bytes ++ ")"
  | .objectId bytes => "ObjectId(\"" ++ Hex.encode bytes ++ "\")"

/-- The items, with commas between them. -/
def displayItems : List Value → String
  | [] => ""
  | [item] => display item
  | item :: items => display item ++ ", " ++ displayItems items

/-- The entries, with commas between them. -/
def displayEntries : List (String × Value) → String
  | [] => ""
  | [(key, value)] => "\"" ++ key ++ "\": " ++ display value
  | (key, value) :: entries =>
    "\"" ++ key ++ "\": " ++ display value ++ ", " ++ displayEntries entries

end

/-- The written form, with a text as it is. -/
def plainText : Value → String
  | .string text => text
  | other => other.display

end Value

end DocStore
