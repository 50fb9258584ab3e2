import DocStore.Schema.Basic
/-!
# Ready-made callables

The common getters, setters, predicates, methods and static methods, and `Edit`, the steps of which
hooks are usually made: they write, remove and copy paths, refuse the document, or show it to the
host.
-/

namespace DocStore

variable {σ : Type}

/-! ## Virtual paths -/

/-- The id of the record. -/
def Getter.recordId : Getter σ := .look fun doc => .done (doc.id?.map .string)

/-- A value that the host produces. -/
def Getter.ofHost (produce : StateM σ Value) : Getter σ := Script.ofHost (some <$> produce)

/-- The texts at some paths after one another, after those in `parts`; a path without a text leaves
no value. -/
def Getter.joinedAfter (separator : String) (parts : List String) : List String → Getter σ
  | [] => .done (some (.string (separator.intercalate parts)))
  | path :: paths => .read path fun value =>
    match value with
    | some (.string text) => joinedAfter separator (parts ++ [text]) paths
    | _ => .done none

/-- The texts at some paths with a separator between them. -/
def Getter.joined (separator : String) (paths : List String) : Getter σ :=
  Getter.joinedAfter separator [] paths

/-- The parts of a text before and after the first separator. -/
def splitOnce? (separator : List Char) : List Char → Option (List Char × List Char)
  | [] => if separator.isEmpty then some ([], []) else none
  | c :: cs =>
    if separator.isPrefixOf (c :: cs) then some ([], (c :: cs).drop separator.length)
    else (splitOnce? separator cs).map fun (before, after) => (c :: before, after)

/-- Stores the parts of a text before and after the first separator under two keys. -/
def Document.insertParts (separator first second : String) (value : Value) (doc : Document) :
    Document :=
  match value with
  | .string text =>
    match splitOnce? separator.toList text.toList with
    | some (before, after) =>
      let doc : Document := OrderedMap.insert doc first (.string (String.ofList before))
      OrderedMap.insert doc second (.string (String.ofList after))
    | none => doc
  | _ => doc

/-! ## Predicates -/

/-- A test of the value at a path; a path without a value fails it. -/
def Predicate.ofPath (path : String) (test : Value → Bool) : Predicate σ :=
  .read path fun value => .done (value.any test)

/-! ## Methods -/

/-- The value at a path, or null. -/
def Method.ofPath (path : String) : Method σ := fun _ =>
  .read path fun value => .done (.ok (value.getD .null))

/-- The arguments as a list. -/
def Method.arguments : Method σ := fun arguments => .done (.ok (.array arguments))

/-- Fails with a reason. -/
def Method.refusing (reason : String) : Method σ := fun _ =>
  .done (.error (.hook (.rejected reason)))

/-- The result of one request. -/
def Procedure.ofRequest (request : Request σ) (result : request.Answer → Except StoreError Value) :
    Procedure σ :=
  .ask request fun reply => .done (result reply)

/-! ## Hooks -/

/-- A step of a hook. -/
inductive Edit (σ : Type) where
  | set (path : String) (value : Value)
  | unset (path : String)
  | copy (source target : String)
  | refuse (reason : String)
  | refuseIf (path : String) (value : Value) (reason : String)
  | tell (say : Document → StateM σ Unit)

/-- Runs one step. -/
def Edit.run (edit : Edit σ) (doc : Document) : StateM σ (Except StoreError Unit × Document) :=
  match edit with
  | .set path value => return (.ok (), doc.set path value)
  | .unset path => return (.ok (), doc.remove path)
  | .copy source target =>
    return (.ok (), ((doc.get? source).map (doc.set target)).getD doc)
  | .refuse reason => return (.error (.hook (.rejected reason)), doc)
  | .refuseIf path value reason =>
    if (doc.get? path).any fun found => found.looseEq value then
      return (.error (.hook (.rejected reason)), doc)
    else return (.ok (), doc)
  | .tell say => do
    say doc
    return (.ok (), doc)

/-- Runs steps in order up to the first that fails. -/
def Edit.runAll : List (Edit σ) → Document → StateM σ (Except StoreError Unit × Document)
  | [], doc => return (.ok (), doc)
  | edit :: edits, doc => do
    match ← edit.run doc with
    | (.ok (), doc) => runAll edits doc
    | failed => return failed

/-- A hook that takes its steps on the data itself: what it did before it failed stays. -/
def Hook.ofEdits (edits : List (Edit σ)) : Hook σ where
  script := .look fun doc =>
    (Script.ofHost (Edit.runAll edits doc)).bind fun (result, doc) =>
      .write doc (.done result)

/-- Takes steps on a copy of the data. -/
def Edit.onCopy (edits : List (Edit σ)) (doc : Document) :
    StateM σ (Except StoreError Document) := do
  let (result, doc) ← Edit.runAll edits doc
  return result.map fun _ => doc

end DocStore
