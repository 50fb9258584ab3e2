import DocStore.Json.Value
import DocStore.Schema.Basic
import DocStore.Value.Equality
/-!
# Live documents

A live document is the data of one document together with the model it belongs to. Its virtual paths
can be read: the first reading runs the getter and the document remembers the value, so a getter
runs at most once in the life of a document. A copy remembers nothing.

Getters may read other virtual paths. Getters that need one another in a cycle have no value, so a
reading never has more getters under way than there are virtual paths, and `LiveDocument.readWithin`
ends by counting them.

Populated paths hold documents in the data; `LiveDocument.resolved` keeps where they come from, and
`LiveDocument.depopulated` puts the ids back.
-/

namespace DocStore

/-- The parts of a model that never change. Two models differ in their numbers. -/
structure ModelHandle (σ : Type) where
  number : Nat
  name : String
  schema : Schema σ

/-- A document of another model, as it was found. -/
structure ResolvedDocument (σ : Type) where
  model : ModelHandle σ
  data : Document

/-- A document with its model, the virtual values it remembers and what its populated paths hold. -/
structure LiveDocument (σ : Type) where
  model : ModelHandle σ
  data : Document
  computed : OrderedMap (Option Value)
  resolved : OrderedMap (List (ResolvedDocument σ))

/-- A look at a live document, which may make it remember values, with the state of the host. -/
abbrev Visit (σ α : Type) := StateT (LiveDocument σ) (StateM σ) α

/-- The getter of a virtual path. -/
def Schema.getter? {σ : Type} (schema : Schema σ) (path : String) : Option (Getter σ) :=
  (schema.field? path).bind Field.getter?

namespace LiveDocument

variable {σ ω α : Type}

/-- A document that remembers nothing. -/
def ofData (model : ModelHandle σ) (data : Document) : LiveDocument σ := ⟨model, data, [], []⟩

def id? (doc : LiveDocument σ) : Option String := doc.data.id?

/-- The id, which a document needs to be written. -/
def requireId (doc : LiveDocument σ) : Except StoreError String :=
  match doc.id? with
  | some id => .ok id
  | none => .error (.idUndefined (.document doc.model.name))

/-- A copy, which remembers no virtual values. -/
def copy (doc : LiveDocument σ) : LiveDocument σ := { doc with computed := [] }

/-- Writes a value into the data. -/
def set (doc : LiveDocument σ) (path : String) (value : Value) : LiveDocument σ :=
  { doc with data := doc.data.set path value }

/-- Whether two documents belong to one model and hold the same data. -/
def sameAs (a b : LiveDocument σ) : Bool :=
  a.model.number == b.model.number && Value.same (.document a.data) (.document b.data)

/-! ## Reading paths -/

/-- The value of a path without running a getter: what is stored under a plain path, and what is
remembered of a virtual one. -/
def known? (doc : LiveDocument σ) (path : String) : Option (Option Value) :=
  match doc.model.schema.getter? path with
  | some _ => doc.computed.get? path
  | none => some (doc.data.get? path)

def remember (doc : LiveDocument σ) (path : String) (value : Option Value) : LiveDocument σ :=
  { doc with computed := doc.computed.insert path value }

/-- How scripts reach a live document whose paths are read by `value`. -/
def accessBy (value : String → StateM (LiveDocument σ × σ) (Option Value))
    (write : ω → Document → Document) : Access (LiveDocument σ × σ) σ ω where
  value := value
  data state := state.1.data
  write change state := ({ state.1 with data := write change state.1.data }, state.2)
  host := Prod.snd
  setHost host state := (state.1, host)

/-- The value of a path, with at most `depth` getters under way at a time. -/
def readWithin : Nat → String → StateM (LiveDocument σ × σ) (Option Value)
  | 0, path => fun state => ((state.1.known? path).getD none, state)
  | depth + 1, path => fun state =>
    match state.1.known? path, state.1.model.schema.getter? path with
    | none, some getter =>
      let access := accessBy (readWithin depth) fun change _ => Empty.elim change
      let (value, doc, host) := Script.run access getter state
      (value, doc.remember path value, host)
    | value, _ => (value.getD none, state)

/-- The value of a path. -/
def read (path : String) : StateM (LiveDocument σ × σ) (Option Value) := fun state =>
  readWithin state.1.model.schema.virtualPaths.length path state

/-- The value of a path, as a look at the document. -/
def get (path : String) : Visit σ (Option Value) := fun doc host =>
  let (value, doc, host) := read path (doc, host)
  ((value, doc), host)

/-- Runs a reading. -/
def run (reading : Reading σ α) : Visit σ α := fun doc host =>
  let (a, doc, host) :=
    Script.run (accessBy read fun change _ => Empty.elim change) reading (doc, host)
  ((a, doc), host)

/-- Runs an editing. -/
def edit (editing : Editing σ α) : Visit σ α := fun doc host =>
  let (a, doc, host) := Script.run (accessBy read fun change _ => change) editing (doc, host)
  ((a, doc), host)

/-- Calls a method of the schema. -/
def call (name : String) (arguments : List Value) : Visit σ (Except StoreError Value) := do
  let doc ← getThe (LiveDocument σ)
  match doc.model.schema.methods.get? name with
  | some method => run (method arguments)
  | none => return .error (.invalidMethod (.noMethod name))

/-! ## Populated paths -/

/-- Puts resolved documents under a path, with the value that stands for them in the data. -/
def populate (doc : LiveDocument σ) (path : String) (documents : List (ResolvedDocument σ))
    (value : Value) : LiveDocument σ :=
  { doc.set path value with resolved := doc.resolved.insert path documents }

/-- Puts the ids of resolved documents back under a path: all of them where the data holds a list,
and the first one elsewhere. -/
def depopulateStep (data : Document) (path : String) (documents : List (ResolvedDocument σ)) :
    Document :=
  let ids := documents.filterMap fun found => found.data.id?
  match data.get? path, ids with
  | some (.array _), ids => data.set path (.array (ids.map .string))
  | _, id :: _ => data.set path (.string id)
  | _, [] => data

/-- The data with ids in place of resolved documents. -/
def depopulated (doc : LiveDocument σ) : Document :=
  doc.resolved.foldl (fun data entry => depopulateStep data entry.1 entry.2) doc.data

/-! ## Texts -/

/-- The exported form of a document. -/
def toJson (doc : LiveDocument σ) : Json :=
  (Value.document (doc.model.schema.exportRecord doc.data)).toJson

/-- The text of the exported form. -/
def toText (doc : LiveDocument σ) : String := doc.toJson.print

end LiveDocument

end DocStore
