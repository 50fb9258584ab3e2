import DocStore.Sort
/-!
# Populations

A population replaces the ids under a path by the documents of a model. `PopulationRequest.parse`
reads requests from a text of paths, a document of options, or a list of both. `Schema.populations`
resolves the model of each request: the one it names, or else the reference of the field, which for
a list is the reference of its elements.
-/

namespace DocStore

/-- The documents to take from a model: a query that they match, an order, and a section. -/
structure Selection where
  matching : Option Document
  sort : List SortKey
  skip : Nat
  limit : Option Nat

namespace Selection

/-- Everything, in the order of the ids. -/
def all : Selection := ⟨none, [], 0, none⟩

/-- The part of a list that the section keeps. -/
def cut {α : Type} (selection : Selection) (items : List α) : List α :=
  let rest := items.drop selection.skip
  match selection.limit with
  | some n => rest.take n
  | none => rest

end Selection

/-- A population that may leave its model to the schema. -/
structure PopulationRequest where
  path : String
  model : Option String
  selection : Selection

/-- A population of a path from a model. -/
structure Population where
  path : String
  model : String
  selection : Selection

namespace PopulationRequest

/-- All documents under a path. -/
def ofPath (path : String) : PopulationRequest := ⟨path, none, Selection.all⟩

/-- A count: a whole number that is not negative, at most the greatest 64-bit integer. -/
def readCount (key : String) (value : Value) : Except StoreError Nat :=
  let count : Int := match value with
    | .int32 n => n.toInt
    | .int64 n => n.toInt
    | .double x => if x.isIntegral then x.clampToInt64 else -1
    | _ => -1
  if 0 ≤ count then .ok count.toNat else .error (.population (.notACount key))

/-- Adds one option to the options read so far. -/
def addOption (request : PopulationRequest) (key : String) (value : Value) :
    Except StoreError PopulationRequest :=
  let select (selection : Selection) : Except StoreError PopulationRequest :=
    .ok { request with selection }
  match key, value with
  | "path", .string path => .ok { request with path }
  | "model", .string model => .ok { request with model := some model }
  | "match", .document query => select { request.selection with matching := some query }
  | "sort", .string text => select { request.selection with sort := SortKey.ofText text }
  | "sort", .document doc => do
    let sort ← SortKey.parse doc
    select { request.selection with sort }
  | "skip", value => do
    let skip ← readCount key value
    select { request.selection with skip }
  | "limit", value => do
    let limit ← readCount key value
    select { request.selection with limit := some limit }
  | key, _ => .error (.population (.invalidOption key))

/-- Reads a document of options. -/
def ofDocument (doc : Document) : Except StoreError PopulationRequest :=
  doc.foldlM (fun request entry => request.addOption entry.1 entry.2) (ofPath "")

/-- Reads an entry of a list; a text there is one path. -/
def ofEntry : Value → Except StoreError PopulationRequest
  | .string path => .ok (ofPath path)
  | .document doc => ofDocument doc
  | other => .error (.population (.invalidEntry other))

/-- Reads the requests that a value stands for. -/
def parse : Value → Except StoreError (List PopulationRequest)
  | .string text => .ok ((words text).map ofPath)
  | .document doc => do
    let request ← ofDocument doc
    return [request]
  | .array items => items.mapM ofEntry
  | other => .error (.population (.invalidExpression other))

end PopulationRequest

namespace Schema

variable {σ : Type}

/-- The model that a path refers to. -/
def reference? (schema : Schema σ) (path : String) : Option String :=
  (schema.field? path).bind fun field => (field.child?.getD field).options.reference

/-- Resolves the model of a request. -/
def population (schema : Schema σ) (request : PopulationRequest) : Except StoreError Population :=
  if request.path.isEmpty then .error (.population .noPath)
  else match request.model.or (schema.reference? request.path) with
    | some model => .ok ⟨request.path, model, request.selection⟩
    | none => .error (.population .noModel)

/-- Resolves the models of requests. -/
def populations (schema : Schema σ) (requests : List PopulationRequest) :
    Except StoreError (List Population) :=
  requests.mapM schema.population

end Schema

end DocStore
