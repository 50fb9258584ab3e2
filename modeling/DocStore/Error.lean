import DocStore.Bytes
import DocStore.Field.Operator
import DocStore.Json.Basic
import DocStore.Value.Display
/-!
# Errors

What can go wrong in a store, by cause. Each family has its own type of faults, which hold what the
fault is about; `StoreError.message` is the one place where the wording is decided. The three errors
about ids also have a code.
-/

namespace DocStore

/-- Why a value is not accepted at its path. -/
inductive ValidationFault where
  | required
  | notBoolean (value : Value)
  | notOneOf (elements : List Value)
  | notNumber (value : Value)
  | notInteger (x : Double)
  | notArray (value : Value)
  | notDate (value : Value)
  | unreadableDate (value : Value)
  | notId (value : Value)
  | notString (value : Value)
  | notBuffer (value : Value)
  | unreadableBuffer (value : Value)
  | undecodable (encoding : Encoding) (text : String)
  | idChanged

/-- Why a query, an update or a sort has no meaning. -/
inductive QueryFault where
  | unknownOperator (name : String)
  | unknownUpdateOperator (name : String)
  | expectsQueries (key : String)
  | expectsQuery
  | expectsPredicateName
  | unknownPredicate (name : String)
  | unsupported (operator path : String) (kind : FieldKind)
  | unsupportedUpdate (operator : UpdateOperator) (path : String)
  | noPattern
  | notAPattern (value : Value)
  | malformedPattern (pattern : String)
  | patternTooLarge (limit : Nat)
  | noRenameTarget (path : String)
  | expectsNumber (operator : UpdateOperator) (path : String) (argument : Value)
  | expectsMilliseconds (operator : UpdateOperator) (path : String) (argument : Value)
  | outOfDateRange (operator : UpdateOperator) (path : String) (argument : Value)
  | expectsFields (operator : UpdateOperator)
  | invalidDirection (path : String) (value : Value)

/-- Why a declaration is not a schema. -/
inductive SchemaFault where
  | unknownType (name : String)
  | unknownEncoding (name : String)
  | invalidDefinition (json : Json)
  | invalidOption (key : String) (json : Json)
  | notAnObject
  | unnamedPath

/-- Why a population cannot be resolved. -/
inductive PopulationFault where
  | invalidOption (key : String)
  | notACount (key : String)
  | invalidEntry (value : Value)
  | invalidExpression (value : Value)
  | noPath
  | noModel
  | unregisteredModel (name : String)

inductive MethodFault where
  | unnamed
  | noMethod (name : String)
  | noStatic (name : String)

/-- Why an id is missing. -/
inductive IdFault where
  | document (model : String)
  | record (model : String)

inductive HookFault where
  | rejected (reason : String)
  | uncompleted

/-- Why a snapshot cannot be written or read. -/
inductive PersistenceFault where
  | noPath
  | invalidSnapshot
  | recordsNotArray (model : String)
  | invalidRecord (model : String) (value : Value)
  | databaseDropped
  | refused (reason : String)

/-- An error of a store. `overflow` is a count that has no opposite among the 64-bit integers. -/
inductive StoreError where
  | validation (path : String) (fault : ValidationFault)
  | population (fault : PopulationFault)
  | idExist (id : String)
  | idNotExist (id : String)
  | idUndefined (fault : IdFault)
  | invalidSchema (fault : SchemaFault)
  | invalidHook (kind : String)
  | invalidMethod (fault : MethodFault)
  | invalidQuery (fault : QueryFault)
  | emptyReduction
  | hook (fault : HookFault)
  | io
  | persistence (fault : PersistenceFault)
  | overflow

def ValidationFault.message : ValidationFault → String
  | .required => "is required!"
  | .notBoolean value => s!"must be a boolean, got `{value.plainText}`"
  | .notOneOf elements => "must be one of " ++ ", ".intercalate (elements.map Value.plainText)
  | .notNumber value => s!"must be a number, got `{value.plainText}`"
  | .notInteger x => s!"must be an integer, got `{x.plain}`"
  | .notArray value => s!"`{value.plainText}` is not an array!"
  | .notDate value => s!"is not a valid date: `{value.plainText}`"
  | .unreadableDate value => s!"cannot be interpreted as a date: `{value.plainText}`"
  | .notId value => s!"`{value.plainText}` is not a valid CUID"
  | .notString value => s!"must be a string, got `{value.plainText}`"
  | .notBuffer value => s!"is not a valid buffer: `{value.plainText}`"
  | .unreadableBuffer value => s!"cannot be interpreted as a buffer: `{value.plainText}`"
  | .undecodable encoding text => s!"cannot be interpreted as {encoding.name} bytes: `{text}`"
  | .idChanged => "cannot be changed"

def QueryFault.message : QueryFault → String
  | .unknownOperator name => s!"Unknown query operator `${name}`"
  | .unknownUpdateOperator name => s!"Unknown update operator `${name}`"
  | .expectsQueries key => s!"`{key}` expects a list of queries"
  | .expectsQuery => "`$not` expects a query"
  | .expectsPredicateName => "`$where` expects the name of a registered predicate"
  | .unknownPredicate name => s!"No predicate named `{name}` is registered"
  | .unsupported operator path kind => s!"`{operator}` is not supported by `{path}` ({kind.name})"
  | .unsupportedUpdate operator path => s!"`{operator.name}` is not supported by `{path}`"
  | .noPattern => "`$regex` needs a `pattern`"
  | .notAPattern value => s!"`$regex` expects a pattern, got `{value.plainText}`"
  | .malformedPattern pattern => s!"regex parse error: {pattern}"
  | .patternTooLarge limit => s!"Compiled regex exceeds size limit of {limit} bytes."
  | .noRenameTarget path => s!"`$rename` of `{path}` needs a target path"
  | .expectsNumber operator path argument =>
    s!"`{operator.name}` on `{path}` expects a number, got `{argument.plainText}`"
  | .expectsMilliseconds operator path argument =>
    s!"`{operator.name}` on `{path}` expects milliseconds, got `{argument.plainText}`"
  | .outOfDateRange operator path argument =>
    s!"`{operator.name}` by `{argument.plainText}` moves `{path}` out of the date range"
  | .expectsFields operator => s!"`{operator.name}` expects a document of fields"
  | .invalidDirection path value => s!"Invalid sort direction for `{path}`: {value.display}"

def SchemaFault.message : SchemaFault → String
  | .unknownType name => s!"Unknown type `{name}`"
  | .unknownEncoding name => s!"Unknown encoding `{name}`"
  | .invalidDefinition json => s!"Invalid schema definition `{json.print}`"
  | .invalidOption key json => s!"Invalid option `{key}`: {json.print}"
  | .notAnObject => "Schema must be an object"
  | .unnamedPath => "Schema path must have a name"

def PopulationFault.message : PopulationFault → String
  | .invalidOption key => s!"invalid option `{key}`"
  | .notACount key => s!"`{key}` must be a non-negative integer"
  | .invalidEntry value => s!"invalid entry {value.display}"
  | .invalidExpression value => s!"invalid expression {value.display}"
  | .noPath => "path is required"
  | .noModel => "model is required"
  | .unregisteredModel name => s!"model `{name}` is not registered"

def MethodFault.message : MethodFault → String
  | .unnamed => "Method name is required"
  | .noMethod name => s!"`{name}` is not a method"
  | .noStatic name => s!"`{name}` is not a static method"

def IdFault.message : IdFault → String
  | .document model => s!"document of `{model}` has no id"
  | .record model => s!"snapshot record of `{model}` has no id"

def HookFault.message : HookFault → String
  | .rejected reason => reason
  | .uncompleted => "hook dropped its callback without completing"

def PersistenceFault.message : PersistenceFault → String
  | .noPath => "options.path is required"
  | .invalidSnapshot => "invalid snapshot"
  | .recordsNotArray model => s!"records of `{model}` must be an array"
  | .invalidRecord model value => s!"invalid record of `{model}`: {value.display}"
  | .databaseDropped => "database has been dropped"
  | .refused reason => reason

namespace StoreError

/-- The text of an error. -/
def message : StoreError → String
  | .validation path fault => s!"`{path}` {fault.message}"
  | .population fault => "Population error: " ++ fault.message
  | .idExist id => s!"ID `{id}` has been used"
  | .idNotExist id => s!"ID `{id}` does not exist"
  | .idUndefined fault => "ID is not defined: " ++ fault.message
  | .invalidSchema fault => "Invalid schema: " ++ fault.message
  | .invalidHook kind =>
    s!"Invalid hook: Hook type must be `save` or `remove`, got `{kind}`"
  | .invalidMethod fault => "Invalid method: " ++ fault.message
  | .invalidQuery fault => "Invalid query: " ++ fault.message
  | .emptyReduction => "Reduce of empty cursor with no initial value"
  | .hook fault => "Hook error: " ++ fault.message
  | .io => "I/O error"
  | .persistence fault => "Persistence error: " ++ fault.message
  | .overflow => "attempt to negate with overflow"

/-- The name of the family of an error. -/
def kind : StoreError → String
  | .validation _ _ => "Validation"
  | .population _ => "Population"
  | .idExist _ => "IdExist"
  | .idNotExist _ => "IdNotExist"
  | .idUndefined _ => "IdUndefined"
  | .invalidSchema _ => "InvalidSchema"
  | .invalidHook _ => "InvalidHook"
  | .invalidMethod _ => "InvalidMethod"
  | .invalidQuery _ => "InvalidQuery"
  | .emptyReduction => "EmptyReduction"
  | .hook _ => "Hook"
  | .io => "Io"
  | .persistence _ => "Persistence"
  | .overflow => "Overflow"

/-- The code of the errors about ids. -/
def code? : StoreError → Option String
  | .idExist _ => some "ID_EXIST"
  | .idNotExist _ => some "ID_NOT_EXIST"
  | .idUndefined _ => some "ID_UNDEFINED"
  | _ => none

end StoreError

end DocStore
