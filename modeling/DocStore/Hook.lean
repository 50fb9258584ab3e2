import DocStore.Error
import DocStore.Script
/-!
# Hooks

A hook runs before or after a document is saved or removed. It is an editing script that may fail.
Hooks that work on a copy of the data put the copy in place only when they succeed, so `Hook.ofCopy`
and `Hook.ofCallback` change nothing when they fail.
-/

namespace DocStore

/-- The writes that hooks are attached to. -/
inductive HookKind where
  | save
  | remove
  deriving DecidableEq

def HookKind.name : HookKind → String
  | .save => "save"
  | .remove => "remove"

def HookKind.read (name : String) : Except StoreError HookKind :=
  match name with
  | "save" => .ok .save
  | "remove" => .ok .remove
  | other => .error (.invalidHook other)

/-- Whether a hook runs before or after the write. -/
inductive HookPhase where
  | pre
  | post
  deriving DecidableEq

/-- A script run around a write. -/
structure Hook (σ : Type) where
  script : Editing σ (Except StoreError Unit)

namespace Hook

variable {σ : Type}

/-- A hook that computes the new data from a copy of the old. -/
def ofCopy (f : Document → StateM σ (Except StoreError Document)) : Hook σ where
  script := .look fun doc => .host fun s =>
    let (result, s) := (f doc).run s
    .setHost s <|
      match result with
      | .ok doc => .write doc (.done (.ok ()))
      | .error e => .done (.error e)

/-- A hook that reports the new data through a callback, or drops the callback. -/
def ofCallback (f : Document → StateM σ (Option (Except StoreError Document))) : Hook σ :=
  ofCopy fun doc => do
    match ← f doc with
    | some result => return result
    | none => return .error (.hook .uncompleted)

/-- Runs hooks in order up to the first failure. -/
def runAll : List (Hook σ) → Editing σ (Except StoreError Unit)
  | [] => .done (.ok ())
  | hook :: hooks => hook.script.bind fun result =>
    match result with
    | .ok () => runAll hooks
    | .error e => .done (.error e)

end Hook

end DocStore
