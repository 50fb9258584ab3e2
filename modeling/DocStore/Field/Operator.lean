/-!
# Names of kinds and operators

The closed sets of field kinds, query operators and update operators, with the texts that name them.
An operator is written with a dollar sign and read with any number of them; some have two names.
-/

namespace DocStore

/-- The kinds of fields. -/
inductive FieldKind where
  | mixed
  | string
  | number
  | integer
  | boolean
  | date
  | buffer
  | array
  | object
  | enum
  | cuid
  | virtual
  deriving DecidableEq

def FieldKind.name : FieldKind → String
  | .mixed => "Mixed"
  | .string => "String"
  | .number => "Number"
  | .integer => "Integer"
  | .boolean => "Boolean"
  | .date => "Date"
  | .buffer => "Buffer"
  | .array => "Array"
  | .object => "Object"
  | .enum => "Enum"
  | .cuid => "CUID"
  | .virtual => "Virtual"

/-- The operators of queries. -/
inductive QueryOperator where
  | present
  | ne
  | lt
  | lte
  | gt
  | gte
  | oneOf
  | noneOf
  | length
  | all
  | day
  | month
  | year
  | regex
  deriving DecidableEq

namespace QueryOperator

def name : QueryOperator → String
  | .present => "$exists"
  | .ne => "$ne"
  | .lt => "$lt"
  | .lte => "$lte"
  | .gt => "$gt"
  | .gte => "$gte"
  | .oneOf => "$in"
  | .noneOf => "$nin"
  | .length => "$length"
  | .all => "$all"
  | .day => "$day"
  | .month => "$month"
  | .year => "$year"
  | .regex => "$regex"

/-- The operator of a name without dollar signs. -/
def ofName? (name : String) : Option QueryOperator :=
  match name with
  | "exist" | "exists" => some .present
  | "ne" => some .ne
  | "lt" => some .lt
  | "lte" | "max" => some .lte
  | "gt" => some .gt
  | "gte" | "min" => some .gte
  | "in" => some .oneOf
  | "nin" => some .noneOf
  | "size" | "length" => some .length
  | "all" => some .all
  | "day" => some .day
  | "month" => some .month
  | "year" => some .year
  | "regex" => some .regex
  | _ => none

end QueryOperator

/-- The operators of updates. -/
inductive UpdateOperator where
  | set
  | unset
  | rename
  | inc
  | dec
  | mul
  | div
  | mod
  | max
  | min
  | push
  | unshift
  | pull
  | shift
  | pop
  | addToSet
  deriving DecidableEq

namespace UpdateOperator

def name : UpdateOperator → String
  | .set => "$set"
  | .unset => "$unset"
  | .rename => "$rename"
  | .inc => "$inc"
  | .dec => "$dec"
  | .mul => "$mul"
  | .div => "$div"
  | .mod => "$mod"
  | .max => "$max"
  | .min => "$min"
  | .push => "$push"
  | .unshift => "$unshift"
  | .pull => "$pull"
  | .shift => "$shift"
  | .pop => "$pop"
  | .addToSet => "$addToSet"

/-- The operator of a name without dollar signs. -/
def ofName? (name : String) : Option UpdateOperator :=
  match name with
  | "set" => some .set
  | "unset" => some .unset
  | "rename" => some .rename
  | "inc" => some .inc
  | "dec" => some .dec
  | "mul" => some .mul
  | "div" => some .div
  | "mod" => some .mod
  | "max" => some .max
  | "min" => some .min
  | "push" | "append" => some .push
  | "unshift" | "prepend" => some .unshift
  | "pull" => some .pull
  | "shift" => some .shift
  | "pop" => some .pop
  | "addToSet" => some .addToSet
  | _ => none

end UpdateOperator

/-- A name without the dollar signs in front of it. -/
def bareOperator (name : String) : String := String.ofList (name.toList.dropWhile (· == '$'))

/-- Whether a key begins with a dollar sign. -/
def isOperatorKey (key : String) : Bool := key.toList.head? == some '$'

end DocStore
