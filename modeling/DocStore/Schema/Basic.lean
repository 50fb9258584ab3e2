import DocStore.Field.Cast
import DocStore.Field.Snapshot
import DocStore.Field.Validate
import DocStore.Hook
import DocStore.Query.Expr
import DocStore.Schema.Definition
/-!
# Schemas

A schema maps dotted paths to fields and runs four pipelines over documents: reading casts values
and fills defaults, writing validates, importing restores snapshot forms and exporting makes them.
Every registration appends one step to the pipelines, which run in the order of registration; a path
that is registered again keeps its place among the paths and takes the new field.

A schema also holds hooks, methods, static methods and named predicates. Static methods work on a
collection as a whole, and only through requests: for its name and the names of its paths, for
documents, and for writes. A `Procedure` is a static method in progress: it is done, or it waits for
the answer to a request.
-/

namespace DocStore

/-! ## Requests to a collection -/

/-- What a static method may ask of its collection. -/
inductive Request (σ : Type) where
  | name
  | paths
  | count
  | insert (data : Document)
  | get (id : String)
  | find (query : Expr σ)
  | update (id : String) (update : Document)
  | remove (id : String)

/-- The type of the answer to a request. -/
abbrev Request.Answer {σ : Type} : Request σ → Type
  | .name => String
  | .paths => List String
  | .count => Nat
  | .insert _ => Except StoreError Document
  | .get _ => Except StoreError (Option Document)
  | .find _ => Except StoreError (List Document)
  | .update _ _ => Except StoreError Document
  | .remove _ => Except StoreError Document

/-- A static method in progress. -/
inductive Procedure (σ : Type) where
  | done (result : Except StoreError Value)
  | ask (request : Request σ) (next : request.Answer → Procedure σ)

/-! ## Schemas -/

/-- An instance method: it runs on a record with arguments. -/
abbrev Method (σ : Type) := List Value → Reading σ (Except StoreError Value)

/-- A static method: it runs on a collection with arguments. -/
abbrev StaticMethod (σ : Type) := List Value → Procedure σ

/-- A hook with the place it is attached to. -/
structure AttachedHook (σ : Type) where
  phase : HookPhase
  kind : HookKind
  hook : Hook σ

/-- Declarations of a collection. -/
structure Schema (σ : Type) where
  fields : OrderedMap (Field σ)
  pipeline : List (String × Field σ)
  attached : List (AttachedHook σ)
  methods : OrderedMap (Method σ)
  statics : OrderedMap (StaticMethod σ)
  predicates : OrderedMap (Predicate σ)

namespace Schema

variable {σ : Type}

def empty : Schema σ := ⟨[], [], [], [], [], []⟩

instance : Inhabited (Schema σ) := ⟨empty⟩

/-! ## Paths -/

/-- Registers a field under a path. -/
def register (schema : Schema σ) (path : String) (field : Field σ) : Schema σ :=
  { schema with
    fields := schema.fields.insert path field
    pipeline := schema.pipeline ++ [(path, field)] }

def field? (schema : Schema σ) (path : String) : Option (Field σ) := schema.fields.get? path

/-- The field of a path; a path without one takes any value. -/
def fieldOrMixed (schema : Schema σ) (path : String) : Field σ :=
  (schema.field? path).getD (Field.mixed path)

mutual

/-- Registers a declaration under a path. A group registers an object, then its own declarations
below the path. -/
def declare (path : String) : Definition σ → ActOn (Schema σ) Unit
  | .nested fields => do
    if path.isEmpty then throw (.invalidSchema .unnamedPath)
    modify fun schema => schema.register path (Field.object path .none)
    declareAll (path ++ ".") fields
  | definition => do
    if path.isEmpty then throw (.invalidSchema .unnamedPath)
    modify fun schema => schema.register path (definition.field path)

/-- Registers declarations in order, each under its name after a prefix, up to the first that
fails. -/
def declareAll (pathPrefix : String) : List (String × Definition σ) → ActOn (Schema σ) Unit
  | [] => return ()
  | (name, definition) :: rest => do
    declare (pathPrefix ++ name) definition
    declareAll pathPrefix rest

end

/-- The schema of a JSON object of declarations. -/
def ofJson (json : Json) : Except StoreError (Schema σ) := do
  match ← Definition.ofJson json with
  | .nested fields =>
    let (result, schema) := (declareAll "" fields).run empty
    result
    return schema
  | _ => .error (.invalidSchema .notAnObject)

/-- Registers a computed path. -/
def declareVirtual (schema : Schema σ) (path : String) (getter : Getter σ)
    (setter : Option (Setter σ)) : Schema σ :=
  schema.register path (.virtual path getter setter)

/-- The paths with a getter. -/
def virtualPaths (schema : Schema σ) : List String :=
  (schema.fields.filter fun entry => entry.2.getter?.isSome).map Prod.fst

/-- Declares `_id` as a required identifier unless it is declared. -/
def ensureId (schema : Schema σ) : Schema σ :=
  if schema.fields.contains "_id" then schema
  else schema.register "_id" (.scalar "_id" .cuid { FieldOptions.none with required := true })

/-! ## Callables -/

def attach (schema : Schema σ) (phase : HookPhase) (kind : HookKind) (hook : Hook σ) : Schema σ :=
  { schema with attached := schema.attached ++ [⟨phase, kind, hook⟩] }

/-- The hooks of a place, in the order in which they were attached. -/
def hooks (schema : Schema σ) (phase : HookPhase) (kind : HookKind) : List (Hook σ) :=
  (schema.attached.filter fun a => a.phase = phase ∧ a.kind = kind).map AttachedHook.hook

/-- A callable needs a name. -/
def requireName (name : String) : Except StoreError Unit :=
  if name.isEmpty then .error (.invalidMethod .unnamed) else .ok ()

def addMethod (schema : Schema σ) (name : String) (method : Method σ) :
    Except StoreError (Schema σ) := do
  requireName name
  return { schema with methods := schema.methods.insert name method }

def addStatic (schema : Schema σ) (name : String) (method : StaticMethod σ) :
    Except StoreError (Schema σ) := do
  requireName name
  return { schema with statics := schema.statics.insert name method }

def addPredicate (schema : Schema σ) (name : String) (predicate : Predicate σ) :
    Except StoreError (Schema σ) := do
  requireName name
  return { schema with predicates := schema.predicates.insert name predicate }

/-! ## Pipelines -/

/-- Runs one action for every step of the pipeline. -/
def runSteps (step : String → Field σ → Document → Act σ Document) :
    List (String × Field σ) → Document → Act σ Document
  | [], doc => return doc
  | (path, field) :: rest, doc => do
    let doc ← step path field doc
    runSteps step rest doc

/-- Casts the value of a path; a path without a value stays as it is. -/
def readStep (path : String) (field : Field σ) (doc : Document) : Act σ Document := do
  match ← field.cast (doc.get? path) with
  | some value => return doc.set path value
  | none => return doc

/-- Validates the value of a path and stores its valid form. -/
def writeStep (path : String) (field : Field σ) (doc : Document) : Act σ Document := do
  let (value, doc) ← field.validate (doc.get? path) doc
  return doc.put path value

/-- Restores the value of a path; a path without a value stays as it is. -/
def importStep (path : String) (field : Field σ) (doc : Document) : Except StoreError Document := do
  match ← field.parse (doc.get? path) with
  | some value => return doc.set path value
  | none => return doc

/-- Stores the snapshot form of the value of a path. -/
def exportStep (path : String) (field : Field σ) (doc : Document) : Document :=
  doc.put path (field.serialize (doc.get? path))

/-- Casts stored values and fills defaults. -/
def applyGetters (schema : Schema σ) (doc : Document) : Act σ Document :=
  runSteps readStep schema.pipeline doc

/-- Validates a document before it is written. -/
def applySetters (schema : Schema σ) (doc : Document) : Act σ Document :=
  runSteps writeStep schema.pipeline doc

/-- Restores a document from a snapshot record. -/
def importRecord (schema : Schema σ) (doc : Document) : Except StoreError Document :=
  schema.pipeline.foldlM (fun doc step => importStep step.1 step.2 doc) doc

/-- The snapshot record of a document. -/
def exportRecord (schema : Schema σ) (doc : Document) : Document :=
  schema.pipeline.foldl (fun doc step => exportStep step.1 step.2 doc) doc

end Schema

end DocStore
