import DocStore.Value.Path
/-!
# Scripts over a record

The callables that a schema holds, such as the getters of virtual paths, predicates, methods and
hooks, are scripts: trees of requests to the record they run on and to the state of the host. A
script can look at the stored data, read a path, which on a live document may compute a virtual
value, and use the host's state. It can put new data in place only if its type of writes allows it:
a `Reading` cannot, an `Editing` can.

`Script.run` runs a script on any state that it has `Access` to; `Reading.runOn` and `Editing.runOn`
run one on plain data.
-/

namespace DocStore

/-- A computation with a result in `α` that may write what `ω` holds. -/
inductive Script (σ ω α : Type) where
  | done (result : α)
  | read (path : String) (next : Option Value → Script σ ω α)
  | look (next : Document → Script σ ω α)
  | write (change : ω) (next : Script σ ω α)
  | host (next : σ → Script σ ω α)
  | setHost (state : σ) (next : Script σ ω α)

/-- A script that leaves the record as it is. -/
abbrev Reading (σ α : Type) := Script σ Empty α

/-- A script that may replace the data of the record. -/
abbrev Editing (σ α : Type) := Script σ Document α

namespace Script

variable {σ ω α β : Type}

def bind : Script σ ω α → (α → Script σ ω β) → Script σ ω β
  | .done a, f => f a
  | .read path next, f => .read path fun v => bind (next v) f
  | .look next, f => .look fun d => bind (next d) f
  | .write change next, f => .write change (bind next f)
  | .host next, f => .host fun s => bind (next s) f
  | .setHost state next, f => .setHost state (bind next f)

instance : Monad (Script σ ω) where
  pure := .done
  bind := bind

/-- The value at a path. -/
def value (path : String) : Script σ ω (Option Value) := .read path .done

/-- Runs a computation of the host. -/
def ofHost (f : StateM σ α) : Script σ ω α := .host fun state =>
  let (a, state) := f.run state
  .setHost state (.done a)

/-- Whether every script of a list answers yes; the first no ends it. -/
def all : List (Script σ ω Bool) → Script σ ω Bool
  | [] => .done true
  | s :: rest => s.bind fun b => if b then all rest else .done false

/-- Whether some script of a list answers yes; the first yes ends it. -/
def any : List (Script σ ω Bool) → Script σ ω Bool
  | [] => .done false
  | s :: rest => s.bind fun b => if b then .done true else any rest

end Script

/-- How scripts reach the record and the host in a state. -/
structure Access (τ σ ω : Type) where
  value : String → StateM τ (Option Value)
  data : τ → Document
  write : ω → τ → τ
  host : τ → σ
  setHost : σ → τ → τ

namespace Script

variable {τ σ ω α : Type}

/-- Runs a script on a state. -/
def run (access : Access τ σ ω) : Script σ ω α → τ → α × τ
  | .done a, t => (a, t)
  | .read path next, t =>
    let (value, t) := (access.value path).run t
    run access (next value) t
  | .look next, t => run access (next (access.data t)) t
  | .write change next, t => run access next (access.write change t)
  | .host next, t => run access (next (access.host t)) t
  | .setHost state next, t => run access next (access.setHost state t)

end Script

/-- Plain data, whose paths hold only what is stored. -/
def plainAccess {σ ω : Type} (write : ω → Document → Document) : Access (Document × σ) σ ω where
  value path := fun state => (state.1.get? path, state)
  data := Prod.fst
  write change state := (write change state.1, state.2)
  host := Prod.snd
  setHost host state := (state.1, host)

/-- Runs a reading on plain data. -/
def Reading.runOn {σ α : Type} (reading : Reading σ α) (doc : Document) : StateM σ α := fun host =>
  let (a, state) := Script.run (plainAccess fun change _ => change.elim) reading (doc, host)
  (a, state.2)

/-- Runs an editing on plain data. -/
def Editing.runOn {σ α : Type} (editing : Editing σ α) (doc : Document) :
    StateM σ (α × Document) := fun host =>
  let (a, state) := Script.run (plainAccess fun change _ => change) editing (doc, host)
  ((a, state.1), state.2)

end DocStore
