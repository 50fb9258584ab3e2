import DocStore.Field.Update
import DocStore.Schema.Basic
/-!
# Updates

An update is a list of mutations, which run in order on one document, each on what the ones before
it left. `Mutation.parse` reads them from an update document: a plain value is stored at its path,
nested documents extend the path, an operator inside a path applies to it, and an operator at the
top level takes a document of paths and arguments.

`Schema.compileUpdate` resolves the paths of mutations in a schema, and `CompiledUpdate.apply` runs
them.
-/

namespace DocStore

/-- One step of an update. -/
inductive Mutation where
  | set (path : String) (value : Value)
  | operator (path : String) (op : UpdateOperator) (argument : Value)

namespace Mutation

def path : Mutation → String
  | .set path _ | .operator path _ _ => path

end Mutation

/-- Reads the name of an update operator. -/
def UpdateOperator.read : String → Except StoreError UpdateOperator :=
  readOperator ofName? .unknownUpdateOperator

namespace Mutation

/-- The mutations of the entries below a path. -/
def parseBelow (path : String) : List (String × Value) → Except StoreError (List Mutation)
  | [] => .ok []
  | (key, value) :: rest => do
    let first ←
      if isOperatorKey key then do
        let op ← UpdateOperator.read key
        pure [Mutation.operator path op value]
      else match value with
        | .document inner => parseBelow (path ++ "." ++ key) inner
        | value => pure [Mutation.set (path ++ "." ++ key) value]
    let more ← parseBelow path rest
    return first ++ more

/-- The mutations of an operator that is given for several paths at once. -/
def parseInline (key : String) (value : Value) : Except StoreError (List Mutation) := do
  let op ← UpdateOperator.read key
  match value with
  | .document fields => return fields.map fun entry => .operator entry.1 op entry.2
  | _ => throw (.invalidQuery (.expectsFields op))

/-- Reads an update document. -/
def parse : List (String × Value) → Except StoreError (List Mutation)
  | [] => .ok []
  | (key, value) :: rest => do
    let first ←
      if isOperatorKey key then parseInline key value
      else match value with
        | .document inner => parseBelow key inner
        | value => pure [Mutation.set key value]
    let more ← parse rest
    return first ++ more

end Mutation

/-- Mutations with the fields of their paths. -/
structure CompiledUpdate (σ : Type) where
  steps : List (Mutation × Field σ)

namespace Schema

variable {σ : Type}

/-- Resolves a mutation; its operator must be among those of the field. -/
def compileMutation (schema : Schema σ) (mutation : Mutation) :
    Except StoreError (Mutation × Field σ) :=
  let field := schema.fieldOrMixed mutation.path
  match mutation with
  | .set _ _ => .ok (mutation, field)
  | .operator path op _ =>
    if field.updateOperators.contains op then .ok (mutation, field)
    else .error (.invalidQuery (.unsupported op.name path field.kind))

/-- Resolves mutations. -/
def compileUpdate (schema : Schema σ) (mutations : List Mutation) :
    Except StoreError (CompiledUpdate σ) := do
  let steps ← mutations.mapM schema.compileMutation
  return ⟨steps⟩

end Schema

namespace CompiledUpdate

variable {σ : Type}

/-- Runs one mutation. -/
def applyStep (doc : Document) : Mutation × Field σ → Except StoreError Document
  | (.set path value, _) => .ok (doc.set path value)
  | (.operator path op argument, field) => do
    let (value, doc) ← field.update op (doc.get? path) argument doc
    return doc.put path value

/-- Runs the mutations in order, up to the first that fails. -/
def apply (update : CompiledUpdate σ) (doc : Document) : Except StoreError Document :=
  update.steps.foldlM applyStep doc

end CompiledUpdate

end DocStore
