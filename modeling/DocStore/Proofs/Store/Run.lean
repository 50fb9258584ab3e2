import DocStore.Proofs.Store.Write
/-!
# Runs of a model

A `Call` is a write, a list of insertions or an import, and `after` is the state in which a list of
calls leaves a model, whether they succeed or fail. `after_preserves` is the induction over such
runs: what storing a checked document, removing a document and adding imported records keep, every
run keeps. `afterWrites` and `afterWrites_preserves` are the same for runs of writes alone.
-/

namespace DocStore.Model

variable {σ : Type}

/-- What holds of a model and is kept by storing and removing is kept by every write. -/
theorem Write.perform_preserves {P : Model σ → Prop}
    (hstored : ∀ model : Model σ, P model → ∀ id stored session, stored.id? = some id →
      ChecksTo model.handle.schema stored session →
      P (model.withRecords (model.records.insert id stored)))
    (hremoved : ∀ model : Model σ, P model → ∀ id, P (model.withRecords (model.records.erase id)))
    (w : Write) {s : ModelState σ} (h : P s.model) : P (w.perform.run s).2.model := by
  rw [w.perform_model]
  exact (w.enter_effect s.model s.session).preserves (hstored s.model h) (hremoved s.model h) h

/-- The state after writes, whether they succeed or fail. -/
def afterWrites (writes : List Write) (s : ModelState σ) : ModelState σ :=
  writes.foldl (fun s w => (w.perform.run s).2) s

/-- **What storing and removing keep, every run of writes keeps.** -/
theorem afterWrites_preserves {P : Model σ → Prop}
    (hstored : ∀ model : Model σ, P model → ∀ id stored session, stored.id? = some id →
      ChecksTo model.handle.schema stored session →
      P (model.withRecords (model.records.insert id stored)))
    (hremoved : ∀ model : Model σ, P model → ∀ id, P (model.withRecords (model.records.erase id)))
    (writes : List Write) {s : ModelState σ} (h : P s.model) : P (afterWrites writes s).model := by
  induction writes generalizing s with
  | nil => exact h
  | cons w writes ih => exact ih (w.perform_preserves hstored hremoved h)

/-- A call that may change a model. -/
inductive Call where
  | write (w : Write)
  | insertMany (data : List Document)
  | importing (records : List Document)

/-- A call from beginning to end. -/
def Call.perform : Call → ModelAct σ Unit
  | .write w => do
    let _ ← w.perform
  | .insertMany data => do
    let _ ← Model.insertMany data
  | .importing records => do
    let _ ← importRecords records

/-- The state after calls, whether they succeed or fail. -/
def after (calls : List Call) (s : ModelState σ) : ModelState σ :=
  calls.foldl (fun s c => (c.perform.run s).2) s

theorem after_append (calls later : List Call) (s : ModelState σ) :
    after (calls ++ later) s = after later (after calls s) := List.foldl_append

/-- An import adds the records that it reads, or nothing. -/
theorem importRecords_run (records : List Document) (s : ModelState σ) :
    (importRecords records).run s =
      match s.model.importFrom [] records with
      | .ok imported =>
        (.ok imported.length, ⟨s.model.withRecords (s.model.records ++ imported), s.session⟩)
      | .error e => (.error e, s) := by
  rw [importRecords, ActOn.run_get_bind, ActOn.run_bind, run_inSession, Act.run_ofExcept]
  cases s.model.importFrom [] records <;> rfl

section Preserves

variable {P : Model σ → Prop}

section Writes

variable (hwrite : ∀ (w : Write) {s : ModelState σ}, P s.model → P (w.perform.run s).2.model)

include hwrite

/-- What writes and the imports of a call keep, the call keeps. -/
theorem Call.perform_preserves_of_writes (c : Call)
    (himported : ∀ records, c = .importing records → ∀ model : Model σ, P model →
      ∀ imported, model.importFrom [] records = .ok imported →
      P (model.withRecords (model.records ++ imported)))
    {s : ModelState σ} (h : P s.model) : P (c.perform.run s).2.model := by
  cases c with
  | write w =>
    rw [Call.perform, ActOn.run_discard_state]
    exact hwrite w h
  | insertMany data =>
    rw [Call.perform, ActOn.run_discard_state]
    exact ActOn.mapM_preserves (P := fun s : ModelState σ => P s.model)
      (fun data _ hs => hwrite (.insert data) hs) data h
  | importing records =>
    rw [Call.perform, ActOn.run_discard_state, importRecords_run]
    rcases himport : s.model.importFrom [] records with e | imported
    · exact h
    · exact himported records rfl s.model h imported himport

/-- What writes and the imports of a run keep, the run keeps. -/
theorem after_preserves_of_writes (calls : List Call)
    (himported : ∀ records, Call.importing records ∈ calls → ∀ model : Model σ, P model →
      ∀ imported, model.importFrom [] records = .ok imported →
      P (model.withRecords (model.records ++ imported)))
    {s : ModelState σ} (h : P s.model) : P (after calls s).model := by
  induction calls generalizing s with
  | nil => exact h
  | cons c calls ih =>
    refine ih (fun records hmem => himported records (List.mem_cons_of_mem c hmem)) ?_
    refine c.perform_preserves_of_writes hwrite (fun records hc => ?_) h
    exact himported records (hc ▸ List.mem_cons_self)

end Writes

variable
  (hstored : ∀ model : Model σ, P model → ∀ id stored session, stored.id? = some id →
    ChecksTo model.handle.schema stored session →
    P (model.withRecords (model.records.insert id stored)))
  (hremoved : ∀ model : Model σ, P model → ∀ id, P (model.withRecords (model.records.erase id)))

include hstored hremoved

/-- What storing, removing and the imports of a run keep, the run keeps. -/
theorem after_preserves_of_mem (calls : List Call)
    (himported : ∀ records, Call.importing records ∈ calls → ∀ model : Model σ, P model →
      ∀ imported, model.importFrom [] records = .ok imported →
      P (model.withRecords (model.records ++ imported)))
    {s : ModelState σ} (h : P s.model) : P (after calls s).model :=
  after_preserves_of_writes (fun w => w.perform_preserves hstored hremoved) calls himported h

/-- **What storing, removing and importing keep, every run keeps.** -/
theorem after_preserves
    (himported : ∀ model : Model σ, P model → ∀ records imported,
      model.importFrom [] records = .ok imported →
      P (model.withRecords (model.records ++ imported)))
    (calls : List Call) {s : ModelState σ} (h : P s.model) : P (after calls s).model :=
  after_preserves_of_mem hstored hremoved calls
    (fun records _ model hmodel imported => himported model hmodel records imported) h

end Preserves

end DocStore.Model
