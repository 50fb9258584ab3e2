import DocStore.Date.Calendar
import DocStore.Text
/-!
# Dates as text

`Date.format?` writes an instant in ISO 8601 with milliseconds and `Z`; a year outside 0 to 9999 has
a sign. `Date.read?` reads, after cutting white space off the ends, the first of these that fits:

* RFC 3339, with a fraction of any length, an offset, and `T`, `t` or a blank before the time;
* a date, `T` or white space, and a time without offset, taken as UTC;
* a date alone, taken as its midnight.

In the last two, a number may be preceded by white space and may be shorter than usual, and the year
may have a sign and then any number of digits. Second 60 counts as the second after 59.
-/

namespace DocStore.Date

/-! ## Writing -/

/-- At least `width` digits, with leading zeros. -/
def padded (width n : Nat) : String :=
  let text := toString n
  "".pushn '0' (width - text.length) ++ text

/-- Four digits; years outside 0 to 9999 have a sign. -/
def yearText (year : Int) : String :=
  (if year < 0 then "-" else if 9999 < year then "+" else "") ++ padded 4 year.natAbs

def format (m : Moment) : String :=
  yearText m.date.year ++ "-" ++ padded 2 m.date.month ++ "-" ++ padded 2 m.date.day ++ "T" ++
    padded 2 m.hour ++ ":" ++ padded 2 m.minute ++ ":" ++ padded 2 m.second ++ "." ++
    padded 3 m.millisecond ++ "Z"

/-- The written form of an instant of the supported years. -/
def format? (millis : Int) : Option String := (Moment.ofMillis? millis).map format

/-! ## Reading -/

/-- A reader of one part: the part and the rest of the text. -/
abbrev Reader (α : Type) := List Char → Option (α × List Char)

/-- Reads `least` to `most` decimal digits. -/
def number (least most : Nat) : Reader Nat := fun cs =>
  let digits := (cs.take most).takeWhile Char.isDigit
  if digits.length < least then none
  else some (digits.foldl (fun n c => 10 * n + (c.toNat - '0'.toNat)) 0, cs.drop digits.length)

/-- Reads one given character. -/
def literal (c : Char) : Reader Unit
  | d :: rest => if d = c then some ((), rest) else none
  | [] => none

/-- Keeps a reading only when the part lies within bounds. -/
def within (low high : Nat) (reader : Reader Nat) : Reader Nat := fun cs => do
  let (n, rest) ← reader cs
  if low ≤ n ∧ n ≤ high then some (n, rest) else none

/-- The milliseconds of a point and digits, of which nine count; nothing when there is no point. -/
def fraction : Reader Nat
  | '.' :: cs =>
    let digits := cs.takeWhile Char.isDigit
    if digits.isEmpty then none
    else
      let leading := (digits ++ ['0', '0', '0']).take 3
      some (leading.foldl (fun n c => 10 * n + (c.toNat - '0'.toNat)) 0, cs.dropWhile Char.isDigit)
  | cs => some (0, cs)

/-- Minutes east of UTC: `Z`, or a sign, two digits, a colon and two digits. -/
def offset : Reader Int
  | 'Z' :: rest | 'z' :: rest => some (0, rest)
  | sign :: cs => do
    let (hours, cs) ← within 0 23 (number 2 2) cs
    let ((), cs) ← literal ':' cs
    let (minutes, rest) ← within 0 59 (number 2 2) cs
    let east : Int := hours * 60 + minutes
    if sign = '+' then some (east, rest)
    else if sign = '-' ∨ sign = '\u2212' then some (-east, rest)
    else none
  | [] => none

/-- Milliseconds of a time of day. -/
def clock (hour minute second milli : Nat) : Int :=
  ((hour * 60 + minute) * 60 + second) * 1000 + milli

/-- The instant of a date and a time of day in UTC, when the date exists. -/
def instant? (date : Civil) (time : Int) : Option Int :=
  if date.isValid then some (date.toDays * millisPerDay + time) else none

/-- Hour, minute, second and fraction, each number read by `part`. -/
def timeOfDay (part : Reader Nat) : Reader Int := fun cs => do
  let (hour, cs) ← within 0 23 part cs
  let ((), cs) ← literal ':' cs
  let (minute, cs) ← within 0 59 part cs
  let ((), cs) ← literal ':' cs
  let (second, cs) ← within 0 60 part cs
  let (milli, cs) ← fraction cs
  some (clock hour minute second milli, cs)

/-- Year, month and day, the last two read by `part`. -/
def calendarDate (year : Reader Int) (part : Reader Nat) : Reader Civil := fun cs => do
  let (y, cs) ← year cs
  let ((), cs) ← literal '-' cs
  let (m, cs) ← within 1 12 part cs
  let ((), cs) ← literal '-' cs
  let (d, cs) ← within 1 31 part cs
  some (⟨y, m, d⟩, cs)

def rfc3339? (cs : List Char) : Option Int := do
  let (date, cs) ← calendarDate (fun cs => (number 4 4 cs).map fun (y, r) => ((y : Int), r))
    (number 2 2) cs
  let cs ← match cs with
    | c :: rest => if c = 'T' ∨ c = 't' ∨ c = ' ' then some rest else none
    | [] => none
  let (time, cs) ← timeOfDay (number 2 2) cs
  let (east, cs) ← offset cs
  if cs.isEmpty then (instant? date time).map fun millis => millis - east * 60000 else none

/-- A year: up to four digits, or a sign and any number of them. -/
def looseYear : Reader Int := fun cs =>
  match trimStart cs with
  | '-' :: rest => (number 1 rest.length rest).map fun (y, r) => (-(y : Int), r)
  | '+' :: rest => (number 1 rest.length rest).map fun (y, r) => ((y : Int), r)
  | cs => (number 1 4 cs).map fun (y, r) => ((y : Int), r)

/-- A number of one or two digits after optional white space. -/
def loosePart : Reader Nat := fun cs => number 1 2 (trimStart cs)

/-- A date and a time of day without offset; `gap` passes over what stands between them. -/
def local? (gap : List Char → Option (List Char)) (cs : List Char) : Option Int := do
  let (date, cs) ← calendarDate looseYear loosePart cs
  let cs ← gap cs
  let (time, cs) ← timeOfDay loosePart cs
  if cs.isEmpty then instant? date time else none

def dateOnly? (cs : List Char) : Option Int := do
  let (date, cs) ← calendarDate looseYear loosePart cs
  if cs.isEmpty then instant? date 0 else none

/-- The instant that a text denotes, in milliseconds. -/
def read? (text : String) : Option Int :=
  let cs := trim text.toList
  rfc3339? cs <|> local? (fun cs => (literal 'T' cs).map Prod.snd) cs <|>
    local? (fun cs => some (trimStart cs)) cs <|> dateOnly? cs

end DocStore.Date
