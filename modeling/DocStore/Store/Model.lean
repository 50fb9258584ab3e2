import DocStore.Query.Compile
import DocStore.Store.LiveDocument
import DocStore.Update
/-!
# Models

A model holds the stored documents of one schema under their ids, in the order in which they
entered. Every write passes the same stations: the data is read through the schema, the hooks before
the write run, the data is checked, and only then is it stored; `Model.commit` is the second half of
them. Hooks after the write run on a copy, when the document is stored already.

An action on a model is a `ModelAct`; what it stored before it failed stays stored.
-/

namespace DocStore

/-- A query as it is given: a document to read, or an expression. -/
inductive QuerySpec (σ : Type) where
  | document (query : Document)
  | expr (query : Expr σ)

/-- An update as it is given: a document to read, or mutations. -/
inductive UpdateSpec where
  | document (update : Document)
  | mutations (update : List Mutation)

namespace Schema

variable {σ : Type}

/-- Reads and resolves a query. -/
def compileQuery (schema : Schema σ) : QuerySpec σ → Except StoreError (Predicate σ)
  | .document query => do
    let expr ← Expr.parse query
    expr.compile schema
  | .expr query => query.compile schema

/-- Reads and resolves an update. -/
def prepareUpdate (schema : Schema σ) : UpdateSpec → Except StoreError (CompiledUpdate σ)
  | .document update => do
    let mutations ← Mutation.parse update
    schema.compileUpdate mutations
  | .mutations update => schema.compileUpdate update

end Schema

/-- A model: its fixed parts and its stored documents by id. -/
structure Model (σ : Type) where
  handle : ModelHandle σ
  records : OrderedMap Document

/-- A model with the session in which it is used. -/
structure ModelState (σ : Type) where
  model : Model σ
  session : Session σ

/-- An action on a model. -/
abbrev ModelAct (σ α : Type) := ActOn (ModelState σ) α

namespace ModelHandle

variable {σ : Type}

/-- Reads data through the schema into a live document. -/
def materialize (handle : ModelHandle σ) (data : Document) : Act σ (LiveDocument σ) := do
  let data ← handle.schema.applyGetters data
  return LiveDocument.ofData handle data

/-- Runs hooks on a live document. -/
def runHooks (hooks : List (Hook σ)) (doc : LiveDocument σ) : Act σ (LiveDocument σ) := do
  let (result, doc) ← Act.onHost (LiveDocument.edit (Hook.runAll hooks) doc)
  Act.ofExcept result
  return doc

/-- Runs the hooks after a write on a copy of the document. -/
def runPost (handle : ModelHandle σ) (kind : HookKind) (doc : LiveDocument σ) : Act σ Unit := do
  let _ ← runHooks (handle.schema.hooks .post kind) doc.copy

end ModelHandle

namespace Model

variable {σ : Type}

def empty (handle : ModelHandle σ) : Model σ := ⟨handle, []⟩

/-- An action that uses only the session. -/
def inSession {α : Type} (act : Act σ α) : ModelAct σ α := fun state =>
  let (result, session) := act.run state.session
  (result, { state with session })

/-- The fixed parts of the model. -/
def currentHandle : ModelAct σ (ModelHandle σ) := return (← get).model.handle

/-- Changes the stored documents. -/
def store (change : OrderedMap Document → OrderedMap Document) : ModelAct σ Unit :=
  modify fun state =>
    { state with model := { state.model with records := change state.model.records } }

def count (model : Model σ) : Nat := model.records.length

def has (model : Model σ) (id : String) : Bool := model.records.contains id

/-! ## Reading -/

/-- A live document of data, without storing it. -/
def newDocument (data : Document) : ModelAct σ (LiveDocument σ) := do
  inSession ((← currentHandle).materialize data)

/-- The document under an id. -/
def find? (id : String) : ModelAct σ (Option (LiveDocument σ)) := do
  match (← get).model.records.get? id with
  | some data => return some (← newDocument data)
  | none => return none

/-- The document under an id, which must be stored. -/
def findById (id : String) : ModelAct σ (LiveDocument σ) := do
  match ← find? id with
  | some doc => return doc
  | none => throw (.idNotExist id)

/-- Every stored document, in order. -/
def documents : ModelAct σ (List (LiveDocument σ)) := do
  (← get).model.records.mapM fun entry => newDocument entry.2

/-! ## Writing -/

/-- Runs the hooks before a save, checks the data and stores it under its id, which must not have
changed on the way. -/
def commit (id : String) (data : Document) : ModelAct σ (LiveDocument σ) := do
  let handle ← currentHandle
  let doc ← inSession
    (ModelHandle.runHooks (handle.schema.hooks .pre .save) (LiveDocument.ofData handle data))
  let stored ← inSession (handle.schema.applySetters doc.data)
  if stored.id? ≠ some id then throw (.validation "_id" .idChanged)
  store fun records => records.insert id stored
  newDocument stored

/-- Stores new data; its id must be free. -/
def insertNew (data : Document) : ModelAct σ (LiveDocument σ) := do
  let handle ← currentHandle
  let data ← inSession (handle.schema.applyGetters data)
  match data.id? with
  | none => throw (.idUndefined (.document handle.name))
  | some id =>
    if (← get).model.has id then throw (.idExist id)
    commit id data

/-- Stores the result of an update under its id. -/
def updateStored (id : String) (update : CompiledUpdate σ) : ModelAct σ (LiveDocument σ) := do
  let handle ← currentHandle
  match (← get).model.records.get? id with
  | none => throw (.idNotExist id)
  | some data =>
    let data ← inSession (Act.ofExcept (update.apply data))
    let data ← inSession (handle.schema.applyGetters data)
    commit id data

/-- Stores other data under an id. -/
def replaceStored (id : String) (data : Document) : ModelAct σ (LiveDocument σ) := do
  let handle ← currentHandle
  if !(← get).model.has id then throw (.idNotExist id)
  let data ← inSession (handle.schema.applyGetters (OrderedMap.insert data "_id" (.string id)))
  commit id data

/-- Takes a stored document out. -/
def removeStored (id : String) : ModelAct σ (LiveDocument σ) := do
  let handle ← currentHandle
  match (← get).model.records.get? id with
  | none => throw (.idNotExist id)
  | some data =>
    let doc ← newDocument data
    let doc ← inSession (ModelHandle.runHooks (handle.schema.hooks .pre .remove) doc)
    store fun records => records.erase id
    return doc

/-- Runs the hooks after a write and answers its document. -/
def finish (kind : HookKind) (doc : LiveDocument σ) : ModelAct σ (LiveDocument σ) := do
  inSession ((← currentHandle).runPost kind doc)
  return doc

/-- Inserts a document. -/
def insert (data : Document) : ModelAct σ (LiveDocument σ) := do
  finish .save (← insertNew data)

/-- Inserts documents in order, up to the first that fails. -/
def insertMany (data : List Document) : ModelAct σ (List (LiveDocument σ)) := data.mapM insert

/-- Applies an update to the document under an id. -/
def updateById (id : String) (spec : UpdateSpec) : ModelAct σ (LiveDocument σ) := do
  let update ← inSession (Act.ofExcept ((← currentHandle).schema.prepareUpdate spec))
  finish .save (← updateStored id update)

/-- Replaces the document under an id. -/
def replaceById (id : String) (data : Document) : ModelAct σ (LiveDocument σ) := do
  finish .save (← replaceStored id data)

/-- Removes the document under an id. -/
def removeById (id : String) : ModelAct σ (LiveDocument σ) := do
  finish .remove (← removeStored id)

/-- Replaces the document with the id of the data, or inserts one where none is stored. -/
def save (data : Document) : ModelAct σ (LiveDocument σ) := do
  match data.id? with
  | some id => if (← get).model.has id then replaceById id data else insert data
  | none => insert data

/-! ## Importing and exporting -/

/-- Reads snapshot records and adds them to those read so far; their ids must be new. -/
def importFrom (model : Model σ) (sofar : OrderedMap Document) :
    List Document → Except StoreError (OrderedMap Document)
  | [] => .ok sofar
  | record :: rest => do
    let record ← model.handle.schema.importRecord record
    match record.id? with
    | none => throw (.idUndefined (.record model.handle.name))
    | some id =>
      if model.has id || sofar.contains id then throw (.idExist id)
      importFrom model (sofar.insert id record) rest

/-- Adds snapshot records without hooks and checks: all of them, or none when one fails. -/
def importRecords (records : List Document) : ModelAct σ Nat := do
  let imported ← inSession (Act.ofExcept ((← get).model.importFrom [] records))
  store fun records => records ++ imported
  return imported.length

/-- The snapshot records of the stored documents, in order. -/
def exportRecords (model : Model σ) : List Document :=
  model.records.values.map model.handle.schema.exportRecord

end Model

end DocStore
