import DocStore.Field.Basic
import DocStore.Regex.Syntax
import DocStore.Value.Coerce
import DocStore.Value.Equality
import DocStore.Value.Order
/-!
# Query operators of fields

`Field.accepts` is plain equality through a field, `Field.queryOperators` lists the operators that a
field takes, and `Field.query` answers one of them.
-/

namespace DocStore

/-- Equality of a stored value and a query value, where absence is equal to absence. -/
def equalOrAbsent (value : Option Value) (query : Value) : Bool :=
  match present value with
  | some value => value.looseEq query
  | none => query.isAbsentValue

/-- The flags that a text of options turns on. -/
def patternFlags (options : String) : Regex.Flags :=
  let has (c : Char) : Bool := options.toList.contains c
  { Regex.Flags.plain with
    ignoreCase := has 'i', multiLine := has 'm', dotAll := has 's', verbose := has 'x' }

/-- The pattern of an operator argument: a text, or a document with a pattern and its options. -/
def compilePattern (argument : Value) : Except StoreError Regex.Pattern := do
  let (pattern, options) ← match argument with
    | .string pattern => .ok (pattern, "")
    | .document spec =>
      match (OrderedMap.get? spec "pattern").bind Value.asString? with
      | some pattern =>
        .ok (pattern, ((OrderedMap.get? spec "options").bind Value.asString?).getD "")
      | none => .error (.invalidQuery .noPattern)
    | other => .error (.invalidQuery (.notAPattern other))
  match Regex.Pattern.compile (patternFlags options) pattern with
  | .ok pattern => .ok pattern
  | .error .malformed => .error (.invalidQuery (.malformedPattern pattern))
  | .error .tooLarge => .error (.invalidQuery (.patternTooLarge Regex.Automaton.limit))

namespace Field

variable {σ : Type}

/-- Equality through a date field: a query that denotes a date is compared as one. -/
def acceptsDate (value : Option Value) (query : Value) : Bool :=
  match value.bind Value.asDateTime?, query.toDate? with
  | some at₁, some at₂ => at₁ == at₂
  | _, _ => equalOrAbsent value query

/-- Equality through a byte field: bytes by content, and with the text that encodes them. -/
def acceptsBuffer (options : FieldOptions σ) (value : Option Value) (query : Value) : Bool :=
  match value, query with
  | some (.binary _ content), .binary _ expected => content == expected
  | some (.binary _ content), .string text => (encodingOf options).decode text == some content
  | value, query => equalOrAbsent value query

/-- Items at the same place are accepted, and the lists are equally long. -/
def acceptsLists (item : Value → Value → Bool) : List Value → List Value → Bool
  | [], [] => true
  | a :: as, b :: bs => item a b && acceptsLists item as bs
  | _, _ => false

/-- Whether a stored value equals a query value. -/
def accepts : Field σ → Option Value → Value → Bool
  | .scalar _ kind options, value, query =>
    match kind with
    | .date => acceptsDate value query
    | .buffer => acceptsBuffer options value query
    | _ => equalOrAbsent value query
  | .array _ _ child, value, query =>
    match value, query with
    | some (.array items), .array expected =>
      acceptsLists (fun a b => accepts child (some a) b) items expected
    | value, query => equalOrAbsent value query
  | .virtual _ _ _, value, query => equalOrAbsent value query

/-- The operators that every field takes. -/
def genericQueryOperators : List QueryOperator :=
  [.present, .ne, .lt, .lte, .gt, .gte, .oneOf, .noneOf]

/-- The operators that a field takes. -/
def queryOperators : Field σ → List QueryOperator
  | .scalar _ kind _ =>
    match kind with
    | .string => genericQueryOperators ++ [.length, .regex]
    | .date => genericQueryOperators ++ [.day, .month, .year]
    | _ => genericQueryOperators
  | .array _ _ _ => genericQueryOperators ++ [.length, .all]
  | .virtual _ _ _ => genericQueryOperators

/-- The generic meaning of an operator, with equality through the field. -/
def queryGeneric (accepts : Option Value → Value → Bool) (operator : QueryOperator)
    (value : Option Value) (argument : Value) : Bool :=
  match operator with
  | .present => (!isAbsent value) == argument.isTruthy
  | .ne => !accepts value argument
  | .lt => rangeOrder? value argument == some .lt
  | .lte => (rangeOrder? value argument).any Ordering.isLE
  | .gt => rangeOrder? value argument == some .gt
  | .gte => (rangeOrder? value argument).any Ordering.isGE
  | .oneOf => argument.argumentList.any fun item => accepts value item
  | .noneOf => !argument.argumentList.any fun item => accepts value item
  | _ => false

/-- Whether an argument is a number equal to a count. -/
def isCount (argument : Value) (count : Int) : Bool :=
  (Number.ofValue? argument).any fun n => n.equals (.int (Int64.ofInt count))

/-- Whether an argument is a number equal to a part of a stored date. -/
def isDatePart (part : Moment → Int) (value : Option Value) (argument : Value) : Bool :=
  match (value.bind Value.asDateTime?).bind fun millis => Moment.ofMillis? millis.toInt with
  | some m => isCount argument (part m)
  | none => false

/-- The items of a stored list. -/
def storedItems (value : Option Value) : Option (List Value) := value.bind Value.asArray?

def queryString (field : Field σ) (operator : QueryOperator) (value : Option Value)
    (argument : Value) : Bool :=
  match operator with
  | .length => isCount argument (((value.bind Value.asString?).map String.length).getD 0 : Nat)
  | .regex =>
    match value.bind Value.asString?, compilePattern argument with
    | some text, .ok pattern => pattern.isMatch text
    | _, _ => false
  | _ => queryGeneric field.accepts operator value argument

def queryDate (field : Field σ) (operator : QueryOperator) (value : Option Value)
    (argument : Value) : Bool :=
  match operator with
  | .day => isDatePart (fun m => m.date.day) value argument
  | .month => isDatePart (fun m => m.date.month - 1) value argument
  | .year => isDatePart (fun m => m.date.year) value argument
  | .lt | .lte | .gt | .gte =>
    match argument.toDate? with
    | some millis => queryGeneric field.accepts operator value (.dateTime millis)
    | none => false
  | _ => queryGeneric field.accepts operator value argument

def queryList (field : Field σ) (operator : QueryOperator) (value : Option Value)
    (argument : Value) : Bool :=
  match operator with
  | .length => isCount argument (((storedItems value).map List.length).getD 0 : Nat)
  | .oneOf => (storedItems value).any fun items => argument.argumentList.any (Value.memOf items)
  | .noneOf => (storedItems value).all fun items => !argument.argumentList.any (Value.memOf items)
  | .all => (storedItems value).any fun items => argument.argumentList.all (Value.memOf items)
  | _ => queryGeneric field.accepts operator value argument

/-- The answer of an operator on a stored value. -/
def query (field : Field σ) (operator : QueryOperator) (value : Option Value) (argument : Value) :
    Bool :=
  match field.kind with
  | .string => field.queryString operator value argument
  | .date => field.queryDate operator value argument
  | .array => field.queryList operator value argument
  | _ => queryGeneric field.accepts operator value argument

end Field

end DocStore
