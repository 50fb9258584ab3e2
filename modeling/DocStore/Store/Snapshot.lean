import DocStore.Json.Text
import DocStore.Store.Database
/-!
# Snapshots

A snapshot is a JSON object with the version of the database under `meta` and the exported records
of every registered model under `models`. `Snapshot.read?` reads one from text: unknown members are
passed over, a group of fields may also be written as a list of their values in order, and a model
that is named twice keeps its first place and its last records.

`Database.save` writes the text of `Database.snapshot` to the place of the database, and
`Database.load` imports what is there into the registered models.
-/

namespace DocStore

/-- A snapshot as it is read: its version and the records of its models. -/
structure Snapshot where
  version : Int
  models : OrderedMap Json

namespace Snapshot

open Json (Draft)

/-- The name and version of the program that writes snapshots. -/
def writer : String × Json := ("docvault", .string "0.1.0")

/-- The JSON form of a snapshot. -/
def toJson (snapshot : Snapshot) : Json :=
  .object
    [("meta", .object [("version", .int snapshot.version), writer]),
     ("models", .object snapshot.models)]

/-- The values of the named fields of a group: by name from an object, where no field may come twice
and other members are passed over, or in order from a list, which has no more items than fields. -/
def fields? (names : List String) : Draft → Option (List (Option Draft))
  | .object members => do
    let members ← members.mapM fun (key, item) => key.map fun name => (name, item)
    names.mapM fun name =>
      match members.filter fun entry => entry.1 = name with
      | [] => some none
      | [(_, item)] => some (some item)
      | _ => none
  | .array items =>
    if items.length ≤ names.length then
      some ((List.range names.length).map fun i => items[i]?)
    else none
  | _ => none

/-- A version: a 64-bit integer, and zero where there is none. -/
def readVersion? : Option Draft → Option Int
  | none => some 0
  | some (.number (some (.int n))) => if IsInt64 n then some n else none
  | some _ => none

/-- Whether a name of a writer is well formed; it may be missing. -/
def isWriterName : Option Draft → Bool
  | none | some .null | some (.string (some _)) => true
  | some _ => false

/-- The version in the group under `meta`. -/
def readMeta? (draft : Draft) : Option Int :=
  match fields? ["version", writer.1] draft with
  | some [version, name] => if isWriterName name then readVersion? version else none
  | _ => none

/-- The records under `models`, with at most 125 lists and objects inside one another. -/
def readModels? : Option Draft → Option (OrderedMap Json)
  | none => some []
  | some (.object members) => (Draft.toJsonMembers? 125 members).map OrderedMap.ofEntries
  | some _ => none

def ofDraft? (draft : Draft) : Option Snapshot :=
  match fields? ["meta", "models"] draft with
  | some [some group, models] => do
    let version ← readMeta? group
    let models ← readModels? models
    some ⟨version, models⟩
  | _ => none

/-- Reads a snapshot. -/
def read? (text : String) : Option Snapshot := (Draft.read? text).bind ofDraft?

/-- The documents of the records of a model. -/
def records (name : String) : Json → Except StoreError (List Document)
  | .array items => items.mapM fun item =>
    match Value.ofJson item with
    | .document doc => .ok doc
    | other => .error (.persistence (.invalidRecord name other))
  | _ => .error (.persistence (.recordsNotArray name))

end Snapshot

namespace Database

variable {σ : Type}

/-- The exported records of a model, as JSON. -/
def exportModel (model : Model σ) : Json :=
  .array (model.exportRecords.map fun record => (Value.document record).toJson)

/-- The snapshot of the registered models. -/
def snapshot (db : Database σ) : Snapshot where
  version := db.options.version
  models := db.names.filterMap fun name =>
    (db.registered? name).map fun model => (name, exportModel model)

/-- Writes the snapshot to the place of the database. -/
def save (db : Database σ) : Except StoreError (Database σ) :=
  match db.place with
  | .unset => .error (.persistence .noPath)
  | .unreachable | .directory => .error .io
  | .file _ => .ok { db with place := .file (some db.snapshot.toJson.print) }

/-- Imports the records of one model, unless it is not registered. -/
def importModel (name : String) (json : Json) : DatabaseAct σ Unit := do
  match (← get).database.registered? name with
  | none => return ()
  | some model =>
    let records ← ofExcept (Snapshot.records name json)
    let _ ← onModel model.handle (Model.importRecords records)

/-- Tells the host that a snapshot had another version. -/
def announceVersion (old : Int) : DatabaseAct σ Unit := do
  let options := (← get).database.options
  let callback :=
    if old < options.version then options.onUpgrade
    else if options.version < old then options.onDowngrade
    else none
  match callback with
  | none => return ()
  | some callback => ofExcept (← onHost (callback old options.version))

/-- Imports a snapshot: the models in order, then the change of version. -/
def restore (snapshot : Snapshot) : DatabaseAct σ Unit := do
  snapshot.models.forM fun entry => importModel entry.1 entry.2
  announceVersion snapshot.version

/-- Imports the snapshot at the place of the database; there may be none. -/
def load : DatabaseAct σ Unit := do
  match (← get).database.place with
  | .unset => throw (.persistence .noPath)
  | .unreachable | .file none => return ()
  | .directory => throw .io
  | .file (some text) =>
    match Snapshot.read? text with
    | none => throw (.persistence .invalidSnapshot)
    | some snapshot => restore snapshot

end Database

end DocStore
