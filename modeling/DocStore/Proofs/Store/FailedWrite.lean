import DocStore.Proofs.Store.Write
import DocStore.Schema.Callable
/-!
# What a failed write leaves behind

A write that fails before the hooks after it usually leaves no trace. There is one exception: after
a checked document is stored it is read through the schema once more, and this reading may fail too.
`Model.failed_write_keeps_model_iff` says that nothing else can go wrong: a failed write has changed
the model exactly when it stored a document that the schema accepted and could not be read again.

The exception occurs. A default is produced only when a value is missing, so a hook that takes a
value away makes the second reading meet a default that the first one did not (`insert_unreadable`).
-/

namespace DocStore.Model

variable {σ : Type}

/-- A write failed with `e` at reading the document again that it had stored under `id`: the checks
of the schema gave the document, it was not in the store before, and now it is. -/
structure StoredUnread (model : Model σ) (e : StoreError) (after : ModelState σ) (id : String)
    (stored : Document) (session : Session σ) : Prop where
  id_eq : stored.id? = some id
  checked : ChecksTo model.handle.schema stored session
  changed : model.records.get? id ≠ some stored
  unread : (model.handle.schema.applyGetters stored).run session = (.error e, after.session)
  model_eq : after.model = model.withRecords (model.records.insert id stored)

theorem StoredUnread.model_ne {model : Model σ} {e : StoreError} {after : ModelState σ}
    {id : String} {stored : Document} {session : Session σ}
    (h : StoredUnread model e after id stored session) : after.model ≠ model := by
  intro heq
  have hget : model.records.get? id = some stored := by
    rw [← congrArg Model.records heq, h.model_eq, records_withRecords, OrderedMap.get?_insert,
      if_pos rfl]
  exact h.changed hget

/-- Reading a document to a live one fails where the schema fails to read it. -/
theorem materialize_eq_error {handle : ModelHandle σ} {data : Document} {s s' : Session σ}
    {e : StoreError} (h : (handle.materialize data).run s = (.error e, s')) :
    (handle.schema.applyGetters data).run s = (.error e, s') := by
  rw [ModelHandle.materialize, ActOn.run_bind] at h
  rcases hread : (handle.schema.applyGetters data).run s with ⟨e' | data', t⟩
  · rw [hread] at h
    cases h
    rfl
  · rw [hread] at h
    cases h

/-- **A failed write keeps the model, unless it has stored a document that cannot be read again.**
The write fails before the hooks after it, which then do not run. -/
theorem failed_write_keeps_model_iff (w : Write) {s s' : ModelState σ} {e : StoreError}
    (h : w.enter.run s = (.error e, s')) :
    w.perform.run s = (.error e, s') ∧
      (s'.model = s.model ↔
        ¬ ∃ id stored session, StoredUnread s.model e s' id stored session) := by
  refine ⟨by rw [Write.perform_eq, ActOn.run_bind_of_error h], ?_⟩
  constructor
  · rintro heq ⟨id, stored, session, hunread⟩
    exact hunread.model_ne heq
  · intro hnone
    have effect := w.enter_effect s.model s.session
    rw [h] at effect
    generalize hout : ((Except.error e, s') : Except StoreError (LiveDocument σ) × ModelState σ) =
      out at effect
    cases effect with
    | refused e session =>
      cases hout
      rfl
    | stored id stored session hid checked =>
      rw [run_newDocument] at hout
      obtain ⟨hread, hstate⟩ := Prod.mk.inj hout
      by_cases hsame : s.model.records.get? id = some stored
      · rw [hstate, OrderedMap.insert_of_get? hsame]
        rfl
      · refine absurd ⟨id, stored, session, hid, checked, hsame, ?_, ?_⟩ hnone
        · apply materialize_eq_error
          exact Prod.ext hread.symm (by rw [hstate]; rfl)
        · rw [hstate]
    | removed id doc session present => cases hout

/-! ## A document that cannot be read again -/

/-- A field of bytes whose default is no hexadecimal text, and a hook that takes its value away. -/
def unreadableSchema : Schema Unit :=
  ((Schema.empty.register "body"
    (.scalar "body" .buffer (FieldOptions.none.withDefault (.string "zz")))).ensureId).attach
      .pre .save (Hook.ofEdits [.unset "body"])

/-- A new model of this schema. -/
def unreadableModel : ModelState Unit :=
  ⟨Model.empty ⟨0, "File", unreadableSchema⟩, Session.idle⟩

/-- A document with a value for the field. -/
def readableData : Document :=
  [("_id", .string "c000000000000000000000000"), ("body", .binary 0 [1])]

/-- The model after the document was stored without its value. -/
def modelWithUnreadable : ModelState Unit :=
  { unreadableModel with
    model := unreadableModel.model.withRecords
      [("c000000000000000000000000", [("_id", .string "c000000000000000000000000")])] }

/-- The default cannot be read. -/
def unreadableError : StoreError := .validation "body" (.undecodable .hex "zz")

theorem insert_unreadable :
    (Write.insert readableData).enter.run unreadableModel =
      (.error unreadableError, modelWithUnreadable) := rfl

theorem failed_write_keeps_model_iff_insert_unreadable :
    (Write.insert readableData).enter.run unreadableModel =
        (.error unreadableError, modelWithUnreadable) ∧
      (Write.insert readableData).perform.run unreadableModel =
        (.error unreadableError, modelWithUnreadable) ∧
      (modelWithUnreadable.model = unreadableModel.model ↔
        ¬ ∃ id stored session,
          StoredUnread unreadableModel.model unreadableError modelWithUnreadable id stored
            session) :=
  ⟨insert_unreadable, failed_write_keeps_model_iff (.insert readableData) insert_unreadable⟩

/-- Not every failed write keeps the stored documents. -/
theorem exists_failed_write_that_stores :
    ¬ ∀ (w : Write) (s s' : ModelState Unit) (e : StoreError),
      w.enter.run s = (.error e, s') → s'.model.records = s.model.records := by
  intro hkeeps
  have heq := hkeeps _ _ _ _ insert_unreadable
  cases heq

end DocStore.Model
