import DocStore.Population
import DocStore.Store.Cursor
/-!
# Databases

A database holds models, of which the registered ones have a name. A model that is taken out of the
registry keeps its documents for those who have its handle. Everything that goes from one model to
another goes through the registry, which is gone when the database is dropped.

Documents and cursors write through the models of their documents, one document at a time.
-/

namespace DocStore

/-- What a database calls when a snapshot has another version: the version of the snapshot and its
own. -/
abbrev VersionCallback (σ : Type) := Int → Int → StateM σ (Except StoreError Unit)

/-- Where snapshots are kept, and what is there. -/
inductive SnapshotPlace where
  | unset
  | unreachable
  | directory
  | file (content : Option String)

/-- The choices that are made once for a database. -/
structure DatabaseOptions (σ : Type) where
  version : Int
  onUpgrade : Option (VersionCallback σ)
  onDowngrade : Option (VersionCallback σ)

/-- A database. Models are found by their numbers; the registry holds the numbers of names. -/
structure Database (σ : Type) where
  options : DatabaseOptions σ
  place : SnapshotPlace
  models : List (Model σ)
  registry : OrderedMap Nat
  dropped : Bool

/-- A database with the session in which it is used. -/
structure DatabaseState (σ : Type) where
  database : Database σ
  session : Session σ

/-- An action on a database. -/
abbrev DatabaseAct (σ α : Type) := ActOn (DatabaseState σ) α

/-- A population as it is given: a value to read, or requests. -/
inductive PopulateSpec where
  | value (expr : Value)
  | requests (requests : List PopulationRequest)

namespace Schema

variable {σ : Type}

/-- Reads and resolves a population. -/
def preparePopulation (schema : Schema σ) : PopulateSpec → Except StoreError (List Population)
  | .value expr => do
    let requests ← PopulationRequest.parse expr
    schema.populations requests
  | .requests requests => schema.populations requests

end Schema

namespace Database

variable {σ α : Type}

def empty (options : DatabaseOptions σ) (place : SnapshotPlace) : Database σ :=
  ⟨options, place, [], [], false⟩

/-- The model with a number. -/
def model? (db : Database σ) (number : Nat) : Option (Model σ) := db.models[number]?

/-- The registered model of a name. -/
def registered? (db : Database σ) (name : String) : Option (Model σ) :=
  (db.registry.get? name).bind db.model?

/-- The names of the registered models, in order. -/
def names (db : Database σ) : List String := db.registry.keys

/-- Registers a new model, whose schema gets an `_id` unless it declares one. -/
def register (db : Database σ) (name : String) (schema : Schema σ) : ModelHandle σ × Database σ :=
  let handle : ModelHandle σ := ⟨db.models.length, name, schema.ensureId⟩
  (handle,
    { db with
      models := db.models ++ [Model.empty handle]
      registry := db.registry.insert name handle.number })

/-- The registered model of a name; a schema is used only where there is none. -/
def model (name : String) (schema : Schema σ) : DatabaseAct σ (ModelHandle σ) := do
  let db := (← get).database
  match db.registered? name with
  | some found => return found.handle
  | none =>
    let (handle, db) := db.register name schema
    modify fun state => { state with database := db }
    return handle

def drop (db : Database σ) : Database σ := { db with dropped := true }

/-! ## Actions -/

/-- An action that uses only the session. -/
def inSession (act : Act σ α) : DatabaseAct σ α := fun state =>
  let (result, session) := act.run state.session
  (result, { state with session })

/-- A computation of the host, as an action on a database. -/
def onHost (f : StateM σ α) : DatabaseAct σ α := inSession (Act.onHost f)

/-- The result of a pure step. -/
def ofExcept (result : Except StoreError α) : DatabaseAct σ α := inSession (Act.ofExcept result)

/-- An action on one model. -/
def onModel (handle : ModelHandle σ) (act : ModelAct σ α) : DatabaseAct σ α := fun state =>
  let db := state.database
  let model := (db.model? handle.number).getD (Model.empty handle)
  let (result, ⟨model, session⟩) := act.run ⟨model, state.session⟩
  (result, ⟨{ db with models := db.models.set handle.number model }, session⟩)

/-- Fails when the database was dropped. -/
def requireOpen : DatabaseAct σ Unit := do
  if (← get).database.dropped then throw (.persistence .databaseDropped)

/-- Takes the name of a model out of the registry. -/
def destroy (handle : ModelHandle σ) : DatabaseAct σ Unit := do
  requireOpen
  modify fun state =>
    { state with
      database := { state.database with registry := state.database.registry.erase handle.name } }

/-- The registered model of a name, which must be there. -/
def lookup (name : String) : DatabaseAct σ (ModelHandle σ) := do
  requireOpen
  match (← get).database.registered? name with
  | some found => return found.handle
  | none => throw (.population (.unregisteredModel name))

/-! ## Populating -/

/-- Keeps the documents that match a query, if there is one. -/
def keepMatching (handle : ModelHandle σ) (matching : Option Document)
    (documents : List (LiveDocument σ)) : ModelAct σ (List (LiveDocument σ)) := do
  match matching with
  | none => return documents
  | some query =>
    let predicate ← Model.inSession (Act.ofExcept (handle.schema.compileQuery (.document query)))
    let (found, _) ← Model.onHost
      (LiveDocument.select (LiveDocument.run predicate) 0 none documents)
    return found

/-- Sorts documents by keys, if there are any. -/
def sortFound (handle : ModelHandle σ) (keys : List SortKey) (documents : List (LiveDocument σ)) :
    ModelAct σ (List (LiveDocument σ)) :=
  if keys.isEmpty then return documents
  else Model.onHost ((handle.schema.sortOrder keys).sortM LiveDocument.get documents)

/-- The stored documents of those items of a list that are stored ids, in order. -/
def findAll (ids : List Value) : ModelAct σ (List (LiveDocument σ)) := do
  let found ← (ids.filterMap Value.asString?).mapM Model.find?
  return found.filterMap id

/-- The documents of a list of ids that a selection takes. -/
def resolveMany (ids : List Value) (selection : Selection) :
    ModelAct σ (List (ResolvedDocument σ)) := do
  let handle ← Model.currentHandle
  let found ← findAll ids
  let found ← keepMatching handle selection.matching found
  let found ← sortFound handle selection.sort found
  return (selection.cut found).map fun doc => ⟨doc.model, doc.data⟩

/-- The document of an id, if it matches. -/
def resolveOne (id : String) (selection : Selection) :
    ModelAct σ (Option (ResolvedDocument σ)) := do
  match ← Model.find? id with
  | none => return none
  | some doc =>
    let found ← keepMatching (← Model.currentHandle) selection.matching [doc]
    return found.head?.map fun doc => ⟨doc.model, doc.data⟩

/-- Resolves one path of a document: a list of ids to a list of documents, and an id that is found
to a document. -/
def populateStep (doc : LiveDocument σ) (population : Population) :
    DatabaseAct σ (LiveDocument σ) := do
  let target ← lookup population.model
  let (value, doc) ← onHost (LiveDocument.get population.path doc)
  match value with
  | some (.array ids) =>
    let found ← onModel target (resolveMany ids population.selection)
    let value := Value.array (found.map fun d => .document d.data)
    return doc.populate population.path found value
  | some (.string id) =>
    match ← onModel target (resolveOne id population.selection) with
    | some found => return doc.populate population.path [found] (.document found.data)
    | none => return doc
  | _ => return doc

/-- Resolves the paths of a copy of a document in order. -/
def populateAll (doc : LiveDocument σ) (populations : List Population) :
    DatabaseAct σ (LiveDocument σ) :=
  populations.foldlM populateStep doc.copy

/-- Populates a document, with the references of a model. -/
def populate (handle : ModelHandle σ) (doc : LiveDocument σ) (spec : PopulateSpec) :
    DatabaseAct σ (LiveDocument σ) := do
  let populations ← ofExcept (handle.schema.preparePopulation spec)
  populateAll doc populations

/-- Populates every document of a cursor. -/
def populateCursor (cursor : Cursor σ) (spec : PopulateSpec) : DatabaseAct σ (Cursor σ) := do
  let populations ← ofExcept (cursor.schema.preparePopulation spec)
  let documents ← cursor.documents.mapM fun doc => populateAll doc populations
  return cursor.derive documents

/-! ## Writing documents -/

/-- Saves a document, with ids in its populated paths. -/
def saveDocument (doc : LiveDocument σ) : DatabaseAct σ (LiveDocument σ) :=
  onModel doc.model (Model.save doc.depopulated)

/-- Updates what is stored under the id of a document. -/
def updateDocument (spec : UpdateSpec) (doc : LiveDocument σ) : DatabaseAct σ (LiveDocument σ) := do
  let id ← ofExcept doc.requireId
  onModel doc.model (Model.updateById id spec)

/-- Replaces what is stored under the id of a document. -/
def replaceDocument (data : Document) (doc : LiveDocument σ) :
    DatabaseAct σ (LiveDocument σ) := do
  let id ← ofExcept doc.requireId
  onModel doc.model (Model.replaceById id data)

/-- Removes what is stored under the id of a document. -/
def removeDocument (doc : LiveDocument σ) : DatabaseAct σ (LiveDocument σ) := do
  let id ← ofExcept doc.requireId
  onModel doc.model (Model.removeById id)

/-- Writes every document of a cursor in order, up to the first that fails. -/
def updateCursor (spec : UpdateSpec) (cursor : Cursor σ) : DatabaseAct σ (List (LiveDocument σ)) :=
  cursor.documents.mapM (updateDocument spec)

def replaceCursor (data : Document) (cursor : Cursor σ) : DatabaseAct σ (List (LiveDocument σ)) :=
  cursor.documents.mapM (replaceDocument data)

def removeCursor (cursor : Cursor σ) : DatabaseAct σ (List (LiveDocument σ)) :=
  cursor.documents.mapM removeDocument

/-- Updates the documents that match a query before the first update. -/
def updateWhere (handle : ModelHandle σ) (query : QuerySpec σ) (spec : UpdateSpec) :
    DatabaseAct σ (List (LiveDocument σ)) := do
  updateCursor spec (← onModel handle (Model.find query FindOptions.all))

/-- Replaces the documents that match a query. -/
def replaceWhere (handle : ModelHandle σ) (query : QuerySpec σ) (data : Document) :
    DatabaseAct σ (List (LiveDocument σ)) := do
  replaceCursor data (← onModel handle (Model.find query FindOptions.all))

/-- Removes the documents that match a query. -/
def removeWhere (handle : ModelHandle σ) (query : QuerySpec σ) :
    DatabaseAct σ (List (LiveDocument σ)) := do
  removeCursor (← onModel handle (Model.find query FindOptions.all))

end Database

end DocStore
