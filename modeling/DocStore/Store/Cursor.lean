import DocStore.Sort
import DocStore.Store.Model
/-!
# Cursors

A cursor is a list of live documents of one schema, in order. Looking at its documents may make them
remember virtual values, so an operation that looks answers together with the cursor as it is left;
the documents of a cursor that is derived are copies.

`Cursor.find` takes the matching documents in order, skips some and stops as soon as it has enough;
documents after that are not looked at. `Cursor.sort` sorts copies.
-/

namespace DocStore

/-- A sort as it is given: a text of words, a document to read, or keys. -/
inductive SortSpec where
  | text (spec : String)
  | document (spec : Document)
  | keys (keys : List SortKey)

/-- Reads a sort. -/
def SortSpec.read : SortSpec → Except StoreError (List SortKey)
  | .text spec => .ok (SortKey.ofText spec)
  | .document spec => SortKey.parse spec
  | .keys given => .ok given

/-- Reads and resolves a sort. -/
def Schema.prepareSort {σ : Type} (schema : Schema σ) (spec : SortSpec) :
    Except StoreError (SortOrder σ) := do
  let keys ← spec.read
  return schema.sortOrder keys

/-- The section of the matches that a query answers. -/
structure FindOptions where
  skip : Nat
  limit : Option Nat

/-- All matches. -/
def FindOptions.all : FindOptions := ⟨0, none⟩

/-- An ordered list of live documents. -/
structure Cursor (σ : Type) where
  schema : Schema σ
  documents : List (LiveDocument σ)

namespace LiveDocument

variable {σ α : Type}

/-- Takes from a list the documents that pass a test: `skip` of them are left out, then at most
`limit` are taken. The second list holds all documents as the looks leave them. -/
def select (test : Visit σ Bool) : Nat → Option Nat → List (LiveDocument σ) →
    StateM σ (List (LiveDocument σ) × List (LiveDocument σ))
  | _, some 0, docs => return ([], docs)
  | _, _, [] => return ([], [])
  | skip, limit, doc :: docs => do
    let (holds, doc) ← test doc
    match holds, skip with
    | false, skip =>
      let (found, docs) ← select test skip limit docs
      return (found, doc :: docs)
    | true, skip + 1 =>
      let (found, docs) ← select test skip limit docs
      return (found, doc :: docs)
    | true, 0 =>
      let (found, docs) ← select test 0 (limit.map (· - 1)) docs
      return (doc :: found, doc :: docs)

/-- The index of the first document that passes a test. -/
def findIndex (test : Visit σ Bool) : List (LiveDocument σ) →
    StateM σ (Option Nat × List (LiveDocument σ))
  | [] => return (none, [])
  | doc :: docs => do
    match ← test doc with
    | (true, doc) => return (some 0, doc :: docs)
    | (false, doc) =>
      let (index, docs) ← findIndex test docs
      return (index.map (· + 1), doc :: docs)

/-- Looks at every document with a running value. -/
def foldVisit (f : α → Visit σ α) : α → List (LiveDocument σ) → StateM σ (α × List (LiveDocument σ))
  | acc, [] => return (acc, [])
  | acc, doc :: docs => do
    let (acc, doc) ← f acc doc
    let (acc, docs) ← foldVisit f acc docs
    return (acc, doc :: docs)

end LiveDocument

namespace Cursor

variable {σ α : Type}

def size (cursor : Cursor σ) : Nat := cursor.documents.length

/-- A cursor of other documents. -/
def derive (cursor : Cursor σ) (documents : List (LiveDocument σ)) : Cursor σ :=
  { cursor with documents }

/-! ## Sections -/

/-- The place of an index, which counts from the end if it is negative. -/
def place? (cursor : Cursor σ) (index : Int) : Option Nat :=
  let place := if index < 0 then cursor.size + index else index
  if 0 ≤ place then some place.toNat else none

/-- The document at an index. -/
def get? (cursor : Cursor σ) (index : Int) : Option (LiveDocument σ) :=
  (cursor.place? index).bind fun i => cursor.documents[i]?

/-- The place of a bound, which counts from the end if it is negative and stays within the
cursor. -/
def bound (cursor : Cursor σ) (index : Int) : Nat := min ((cursor.place? index).getD 0) cursor.size

/-- The documents from one bound up to another; without an upper bound, up to the end. -/
def slice (cursor : Cursor σ) (start : Int) (stop : Option Int) : Cursor σ :=
  let first := cursor.bound start
  let last := (stop.map cursor.bound).getD cursor.size
  cursor.derive (((cursor.documents.take last).drop first).map LiveDocument.copy)

def limit (cursor : Cursor σ) (n : Nat) : Cursor σ :=
  cursor.derive ((cursor.documents.take n).map LiveDocument.copy)

def skip (cursor : Cursor σ) (n : Nat) : Cursor σ :=
  cursor.derive ((cursor.documents.drop n).map LiveDocument.copy)

def reverse (cursor : Cursor σ) : Cursor σ :=
  cursor.derive (cursor.documents.reverse.map LiveDocument.copy)

/-- Plain copies of the data. -/
def toObjects (cursor : Cursor σ) : List Document := cursor.documents.map LiveDocument.data

/-! ## Looking -/

/-- The documents that pass a test, within a section; the second cursor is this one afterwards. -/
def select (cursor : Cursor σ) (test : Visit σ Bool) (options : FindOptions) :
    StateM σ (Cursor σ × Cursor σ) := do
  let (found, documents) ← LiveDocument.select test options.skip options.limit cursor.documents
  return (cursor.derive (found.map LiveDocument.copy), cursor.derive documents)

/-- The documents that match a query, within a section. -/
def find (cursor : Cursor σ) (query : QuerySpec σ) (options : FindOptions) :
    StateM σ (Except StoreError (Cursor σ) × Cursor σ) := do
  match cursor.schema.compileQuery query with
  | .error e => return (.error e, cursor)
  | .ok predicate =>
    let (found, cursor) ← cursor.select (LiveDocument.run predicate) options
    return (.ok found, cursor)

/-- The first document that matches a query. -/
def findOne (cursor : Cursor σ) (query : QuerySpec σ) :
    StateM σ (Except StoreError (Option (LiveDocument σ)) × Cursor σ) := do
  let (found, cursor) ← cursor.find query ⟨0, some 1⟩
  return (found.map fun found => found.documents.head?, cursor)

/-- The index of the first document that matches a query. -/
def position (cursor : Cursor σ) (query : QuerySpec σ) :
    StateM σ (Except StoreError (Option Nat) × Cursor σ) := do
  match cursor.schema.compileQuery query with
  | .error e => return (.error e, cursor)
  | .ok predicate =>
    let (index, documents) ← LiveDocument.findIndex (LiveDocument.run predicate) cursor.documents
    return (.ok index, cursor.derive documents)

/-- The documents that pass a test. -/
def filter (cursor : Cursor σ) (test : Visit σ Bool) : StateM σ (Cursor σ × Cursor σ) :=
  cursor.select test FindOptions.all

/-- Whether some document passes a test; the first that does ends the search. -/
def any (cursor : Cursor σ) (test : Visit σ Bool) : StateM σ (Bool × Cursor σ) := do
  let (index, documents) ← LiveDocument.findIndex test cursor.documents
  return (index.isSome, cursor.derive documents)

/-- Whether every document passes a test; the first that does not ends the search. -/
def all (cursor : Cursor σ) (test : Visit σ Bool) : StateM σ (Bool × Cursor σ) := do
  let fails : Visit σ Bool := do return !(← test)
  let (index, documents) ← LiveDocument.findIndex fails cursor.documents
  return (index.isNone, cursor.derive documents)

/-- Looks at the documents in order with a running value. -/
def fold (cursor : Cursor σ) (acc : α) (f : α → Visit σ α) : StateM σ (α × Cursor σ) := do
  let (acc, documents) ← LiveDocument.foldVisit f acc cursor.documents
  return (acc, cursor.derive documents)

/-- Looks at the documents from the last to the first with a running value. -/
def foldRight (cursor : Cursor σ) (acc : α) (f : α → Visit σ α) : StateM σ (α × Cursor σ) := do
  let (acc, documents) ← LiveDocument.foldVisit f acc cursor.documents.reverse
  return (acc, cursor.derive documents.reverse)

/-- The results of looking at every document. -/
def map (cursor : Cursor σ) (f : Visit σ α) : StateM σ (List α × Cursor σ) := do
  let step (acc : List α) : Visit σ (List α) := do return acc ++ [← f]
  cursor.fold [] step

/-- Folds the documents into one, from a copy of the first on. -/
def reduce (cursor : Cursor σ) (f : LiveDocument σ → Visit σ (LiveDocument σ)) :
    StateM σ (Except StoreError (LiveDocument σ) × Cursor σ) := do
  match cursor.documents with
  | [] => return (.error .emptyReduction, cursor)
  | first :: rest =>
    let (result, rest) ← LiveDocument.foldVisit f first.copy rest
    return (.ok result, cursor.derive (first :: rest))

/-- Folds the documents into one from the last to the first, from a copy of the last on. -/
def reduceRight (cursor : Cursor σ) (f : LiveDocument σ → Visit σ (LiveDocument σ)) :
    StateM σ (Except StoreError (LiveDocument σ) × Cursor σ) := do
  let (result, reversed) ← (cursor.derive cursor.documents.reverse).reduce f
  return (result, reversed.derive reversed.documents.reverse)

/-- A stably sorted copy. -/
def sort (cursor : Cursor σ) (spec : SortSpec) : StateM σ (Except StoreError (Cursor σ)) := do
  match cursor.schema.prepareSort spec with
  | .error e => return .error e
  | .ok order =>
    let documents ← order.sortM LiveDocument.get (cursor.documents.map LiveDocument.copy)
    return .ok (cursor.derive documents)

end Cursor

namespace Model

variable {σ : Type}

/-- A computation of the host, as an action on a model. -/
def onHost {α : Type} (f : StateM σ α) : ModelAct σ α := inSession (Act.onHost f)

/-- A cursor over every stored document. -/
def snapshot : ModelAct σ (Cursor σ) := do
  let handle ← currentHandle
  return ⟨handle.schema, ← documents⟩

/-- The stored documents that match a query, within a section. -/
def find (query : QuerySpec σ) (options : FindOptions) : ModelAct σ (Cursor σ) := do
  let (found, _) ← onHost ((← snapshot).find query options)
  inSession (Act.ofExcept found)

/-- The first stored document that matches a query. -/
def findOne (query : QuerySpec σ) : ModelAct σ (Option (LiveDocument σ)) := do
  let (found, _) ← onHost ((← snapshot).findOne query)
  inSession (Act.ofExcept found)

/-- The stored documents in an order. -/
def sort (spec : SortSpec) : ModelAct σ (Cursor σ) := do
  inSession (Act.ofExcept (← onHost ((← snapshot).sort spec)))

/-- The first stored document. -/
def first : ModelAct σ (Option (LiveDocument σ)) := return (← documents).head?

/-- The last stored document. -/
def last : ModelAct σ (Option (LiveDocument σ)) := return (← documents).getLast?

/-! ## Static methods -/

/-- The result of an action, as the answer to a request. -/
def attempt {α : Type} (act : ModelAct σ α) : StateM (ModelState σ) (Except StoreError α) := act.run

/-- Answers a request of a static method. -/
def answer : (request : Request σ) → StateM (ModelState σ) request.Answer
  | .name => return (← get).model.handle.name
  | .paths => return (← get).model.handle.schema.fields.keys
  | .count => return (← get).model.count
  | .insert data => attempt (return (← insert data).data)
  | .get id => attempt (return (← find? id).map LiveDocument.data)
  | .find query => attempt (return (← find (.expr query) FindOptions.all).toObjects)
  | .update id update => attempt (return (← updateById id (.document update)).data)
  | .remove id => attempt (return (← removeById id).data)

/-- Runs a static method. -/
def runProcedure : Procedure σ → StateM (ModelState σ) (Except StoreError Value)
  | .done result => return result
  | .ask request next => do
    let reply ← answer request
    runProcedure (next reply)

/-- Calls a static method of the schema. -/
def callStatic (name : String) (arguments : List Value) : ModelAct σ Value := do
  match (← currentHandle).schema.statics.get? name with
  | some method => runProcedure (method arguments)
  | none => throw (.invalidMethod (.noStatic name))

end Model

end DocStore
