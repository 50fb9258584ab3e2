import DocStore.Proofs.Action
import DocStore.Store.Cursor
/-!
# What a write does to the store

`Write` names the writes of one document. Each runs as `Write.enter`, the write up to the hooks
after it, and then those hooks, which leave the store as it is (`Write.perform_eq`).

A write is refused, or it commits what was read to the id that it is about, or it removes the
document under this id (`Write.enter_cases`, `Write.target?`). `Write.enter_effect` says all that
this does to the stored documents: nothing at all, with an error; or the storing of one document
that the schema accepts, under the id that it holds, after which the document is read again; or the
removal of a stored document. What holds of every write is proved from these cases.
-/

namespace DocStore.Model

variable {σ α β : Type}

/-- The model with other stored documents. -/
def withRecords (model : Model σ) (records : OrderedMap Document) : Model σ :=
  { model with records }

@[simp] theorem records_withRecords (model : Model σ) (records : OrderedMap Document) :
    (model.withRecords records).records = records := rfl

@[simp] theorem handle_withRecords (model : Model σ) (records : OrderedMap Document) :
    (model.withRecords records).handle = model.handle := rfl

/-! ## Steps of actions on a model -/

theorem run_inSession (act : Act σ α) (s : ModelState σ) :
    (inSession act).run s = ((act.run s.session).1, ⟨s.model, (act.run s.session).2⟩) := rfl

theorem run_inSession_of_run {act : Act σ α} {result : Except StoreError α}
    {session after : Session σ} (h : act.run session = (result, after)) (model : Model σ) :
    (inSession act).run ⟨model, session⟩ = (result, ⟨model, after⟩) := by
  rw [run_inSession, h]

/-- What holds of the error of a step within the session, and of what follows its result, holds of
both in turn. -/
theorem inSession_bind_cases {Q : Except StoreError β × ModelState σ → Prop} {model : Model σ}
    {session : Session σ} {act : Act σ α} {next : α → ModelAct σ β}
    (herror : ∀ e after, Q (.error e, ⟨model, after⟩))
    (hok : ∀ a after, act.run session = (.ok a, after) → Q ((next a).run ⟨model, after⟩)) :
    Q ((inSession act >>= next).run ⟨model, session⟩) := by
  rcases hact : act.run session with ⟨e | a, after⟩
  · rw [ActOn.run_bind_of_error (run_inSession_of_run hact model)]
    exact herror e after
  · rw [ActOn.run_bind_of_ok (run_inSession_of_run hact model)]
    exact hok a after hact

theorem run_newDocument (data : Document) (s : ModelState σ) :
    (newDocument data).run s =
      (((s.model.handle.materialize data).run s.session).1,
        ⟨s.model, ((s.model.handle.materialize data).run s.session).2⟩) := rfl

theorem run_currentHandle_bind (next : ModelHandle σ → ModelAct σ β) (s : ModelState σ) :
    (currentHandle >>= next).run s = (next s.model.handle).run s := rfl

theorem run_store_bind (change : OrderedMap Document → OrderedMap Document)
    (next : Unit → ModelAct σ β) (s : ModelState σ) :
    (store change >>= next).run s =
      (next ()).run ⟨s.model.withRecords (change s.model.records), s.session⟩ := rfl

/-! ## The effect of a write -/

/-- The checks of a schema turn some data into a document, between two sessions. -/
def ChecksTo (schema : Schema σ) (stored : Document) (session : Session σ) : Prop :=
  ∃ data before, (schema.applySetters data).run before = (.ok stored, session)

/-- What a write of a kind may do to a model: an error without a trace, a checked document stored
under the id that it holds and read again, or a stored document removed. The id is the target. -/
inductive Effect (model : Model σ) (kind : HookKind) (target? : Option String) :
    Except StoreError (LiveDocument σ) × ModelState σ → Prop
  | refused (e : StoreError) (session : Session σ) :
      Effect model kind target? (.error e, ⟨model, session⟩)
  | stored (id : String) (stored : Document) (session : Session σ) (hid : stored.id? = some id)
      (checked : ChecksTo model.handle.schema stored session) (saves : kind = .save)
      (target : target? = some id) :
      Effect model kind target?
        ((newDocument stored).run ⟨model.withRecords (model.records.insert id stored), session⟩)
  | removed (id : String) (doc : LiveDocument σ) (session : Session σ)
      (present : model.has id = true) (removes : kind = .remove) (target : target? = some id) :
      Effect model kind target? (.ok doc, ⟨model.withRecords (model.records.erase id), session⟩)

/-- What storing a checked document and removing a document keep, every effect keeps. -/
theorem Effect.preserves {kind : HookKind} {target? : Option String} {P : Model σ → Prop}
    {model : Model σ} {out : Except StoreError (LiveDocument σ) × ModelState σ}
    (effect : Effect model kind target? out)
    (hstored : ∀ id stored session, stored.id? = some id →
      ChecksTo model.handle.schema stored session →
      P (model.withRecords (model.records.insert id stored)))
    (hremoved : ∀ id, P (model.withRecords (model.records.erase id))) (h : P model) :
    P out.2.model := by
  cases effect with
  | refused e session => exact h
  | stored id stored session hid checked => exact hstored id stored session hid checked
  | removed id doc session present => exact hremoved id

/-! ## What a write comes to -/

/-- The id that an insertion of data takes: the one that the data holds when it is read through the
schema, unless it is taken already. -/
def insertedId? (data : Document) (s : ModelState σ) : Option String :=
  match (s.model.handle.schema.applyGetters data).run s.session with
  | (.ok read, _) => read.id?.filter fun id => !s.model.has id
  | (.error _, _) => none

/-- The id of a write that needs it to be stored. -/
def storedId? (id : String) (s : ModelState σ) : Option String :=
  if s.model.has id then some id else none

/-- Whether a document was read through a schema, up to a session. -/
def WasRead (schema : Schema σ) (read : Document) (session : Session σ) : Prop :=
  ∃ data before, (schema.applyGetters data).run before = (.ok read, session)

theorem has_of_get? {model : Model σ} {id : String} {data : Document}
    (h : model.records.get? id = some data) : model.has id = true := by
  rw [has, OrderedMap.contains, h]
  rfl

section Cases

variable {Q : Except StoreError (LiveDocument σ) × ModelState σ → Prop} {model : Model σ}
  (hrefused : ∀ e session, Q (.error e, ⟨model, session⟩))

include hrefused

/-- A commit is refused, or it stores what the checks made of what the hooks left. -/
theorem commit_cases (session : Session σ) (id : String) (data : Document)
    (hstored : ∀ doc stored between after,
      (ModelHandle.runHooks (model.handle.schema.hooks .pre .save)
        (LiveDocument.ofData model.handle data)).run session = (.ok doc, between) →
      (model.handle.schema.applySetters doc.data).run between = (.ok stored, after) →
      stored.id? = some id →
      Q ((newDocument stored).run ⟨model.withRecords (model.records.insert id stored), after⟩)) :
    Q ((commit id data).run ⟨model, session⟩) := by
  rw [commit, run_currentHandle_bind]
  refine inSession_bind_cases hrefused fun doc between hhooks => ?_
  refine inSession_bind_cases hrefused fun stored after hcheck => ?_
  by_cases hid : stored.id? = some id
  · rw [if_neg (fun changed => changed hid), run_store_bind]
    exact hstored doc stored between after hhooks hcheck hid
  · rw [if_pos hid]
    exact hrefused _ _

theorem insertNew_cases (session : Session σ) (data : Document)
    (hcommit : ∀ id read after, WasRead model.handle.schema read after →
      insertedId? data ⟨model, session⟩ = some id → Q ((commit id read).run ⟨model, after⟩)) :
    Q ((insertNew data).run ⟨model, session⟩) := by
  rw [insertNew, run_currentHandle_bind]
  refine inSession_bind_cases hrefused fun read after hread => ?_
  rcases hid : read.id? with _ | id
  · exact hrefused _ _
  · simp only [ActOn.run_get_bind]
    split
    · exact hrefused _ _
    · next hfree =>
      refine hcommit id read after ⟨data, session, hread⟩ ?_
      simp only [insertedId?, hread, hid, Option.filter_some, hfree, Bool.not_false, if_true]

variable {id : String}

theorem updateStored_cases (session : Session σ) (update : CompiledUpdate σ)
    (hcommit : ∀ read after, WasRead model.handle.schema read after →
      storedId? id ⟨model, session⟩ = some id → Q ((commit id read).run ⟨model, after⟩)) :
    Q ((updateStored id update).run ⟨model, session⟩) := by
  rw [updateStored, run_currentHandle_bind, ActOn.run_get_bind]
  rcases hget : model.records.get? id with _ | data
  · exact hrefused _ _
  · refine inSession_bind_cases hrefused fun updated between _ => ?_
    refine inSession_bind_cases hrefused fun read after hread => ?_
    exact hcommit read after ⟨updated, between, hread⟩ (if_pos (has_of_get? hget))

theorem replaceStored_cases (session : Session σ) (data : Document)
    (hcommit : ∀ read after, WasRead model.handle.schema read after →
      storedId? id ⟨model, session⟩ = some id → Q ((commit id read).run ⟨model, after⟩)) :
    Q ((replaceStored id data).run ⟨model, session⟩) := by
  rw [replaceStored, run_currentHandle_bind, ActOn.run_get_bind]
  by_cases hhas : model.has id = true
  · simp only [hhas, Bool.not_true, Bool.false_eq_true, if_false]
    refine inSession_bind_cases hrefused fun read after hread => ?_
    exact hcommit read after ⟨_, session, hread⟩ (if_pos hhas)
  · simp only [hhas, Bool.not_false, if_true]
    exact hrefused _ _

theorem removeStored_cases (session : Session σ)
    (hremoved : ∀ doc after, model.has id = true →
      Q (.ok doc, ⟨model.withRecords (model.records.erase id), after⟩)) :
    Q ((removeStored id).run ⟨model, session⟩) := by
  rw [removeStored, run_currentHandle_bind, ActOn.run_get_bind]
  rcases hget : model.records.get? id with _ | data
  · exact hrefused _ _
  · refine inSession_bind_cases hrefused fun doc between _ => ?_
    refine inSession_bind_cases hrefused fun doc after _ => ?_
    exact hremoved doc after (has_of_get? hget)

end Cases

/-! ## Writes -/

/-- A write of one document. -/
inductive Write where
  | insert (data : Document)
  | save (data : Document)
  | update (id : String) (spec : UpdateSpec)
  | replace (id : String) (data : Document)
  | remove (id : String)

namespace Write

/-- The hooks that run around a write. -/
def kind : Write → HookKind
  | .remove _ => .remove
  | _ => .save

/-- The id that a write is about: one that is stored, or the one that an insertion takes. -/
def target? : Write → ModelState σ → Option String
  | .insert data, s => insertedId? data s
  | .save data, s => if data.id?.any s.model.has then data.id? else insertedId? data s
  | .update id _, s | .replace id _, s | .remove id, s => storedId? id s

/-- A write from beginning to end. -/
def perform : Write → ModelAct σ (LiveDocument σ)
  | .insert data => Model.insert data
  | .save data => Model.save data
  | .update id spec => updateById id spec
  | .replace id data => replaceById id data
  | .remove id => removeById id

/-- A write up to the hooks after it. -/
def enter : Write → ModelAct σ (LiveDocument σ)
  | .insert data => insertNew data
  | .save data => do
    match data.id? with
    | some id => if (← get).model.has id then replaceStored id data else insertNew data
    | none => insertNew data
  | .update id spec => do
    let update ← inSession (Act.ofExcept ((← currentHandle).schema.prepareUpdate spec))
    updateStored id update
  | .replace id data => replaceStored id data
  | .remove id => removeStored id

/-- A write is its first part and then the hooks after it. -/
theorem perform_eq (w : Write) :
    (w.perform : ModelAct σ (LiveDocument σ)) = w.enter >>= finish w.kind := by
  cases w with
  | insert data => rfl
  | save data =>
    simp only [perform, enter, Model.save]
    cases data.id? with
    | none => rfl
    | some id =>
      simp only [bind_assoc]
      congr 1
      funext s
      split <;> rfl
  | update id spec =>
    simp only [perform, enter, updateById, bind_assoc]
    rfl
  | replace id data => rfl
  | remove id => rfl

/-- **A write before its last hooks is refused, commits what was read to its target, or removes
it.** -/
theorem enter_cases (w : Write) {Q : Except StoreError (LiveDocument σ) × ModelState σ → Prop}
    {model : Model σ} (hrefused : ∀ e session, Q (.error e, ⟨model, session⟩)) (session : Session σ)
    (hcommit : w.kind = .save → ∀ id read after, WasRead model.handle.schema read after →
      w.target? ⟨model, session⟩ = some id → Q ((commit id read).run ⟨model, after⟩))
    (hremoved : w.kind = .remove → ∀ id doc after, model.has id = true →
      w.target? ⟨model, session⟩ = some id →
      Q (.ok doc, ⟨model.withRecords (model.records.erase id), after⟩)) :
    Q (w.enter.run ⟨model, session⟩) := by
  cases w with
  | insert data => exact insertNew_cases hrefused session data (hcommit rfl)
  | save data =>
    simp only [enter, target?] at hcommit ⊢
    cases hid : data.id? with
    | none =>
      rw [hid] at hcommit
      exact insertNew_cases hrefused session data (hcommit rfl)
    | some id =>
      simp only [ActOn.run_get_bind]
      rw [hid, Option.any_some] at hcommit
      split
      · next hhas =>
        rw [if_pos hhas] at hcommit
        exact replaceStored_cases hrefused session data fun read after hread _ =>
          hcommit rfl id read after hread rfl
      · next hfree =>
        rw [if_neg hfree] at hcommit
        exact insertNew_cases hrefused session data (hcommit rfl)
  | update id spec =>
    simp only [enter, run_currentHandle_bind]
    refine inSession_bind_cases hrefused fun update after _ => ?_
    exact updateStored_cases hrefused after update fun read later => hcommit rfl id read later
  | replace id data => exact replaceStored_cases hrefused session data (hcommit rfl id)
  | remove id =>
    exact removeStored_cases hrefused session fun doc after hhas =>
      hremoved rfl id doc after hhas (if_pos hhas)

/-- **A write before its last hooks has one of the three effects.** -/
theorem enter_effect (w : Write) (model : Model σ) (session : Session σ) :
    Effect model w.kind (w.target? ⟨model, session⟩) (w.enter.run ⟨model, session⟩) := by
  refine w.enter_cases .refused session (fun hkind id read after _ htarget => ?_)
    fun hkind id doc after hhas htarget => .removed id doc after hhas hkind htarget
  rw [hkind, htarget]
  exact commit_cases .refused after id read fun doc stored between later _ hcheck hid =>
    .stored id stored later hid ⟨doc.data, between, hcheck⟩ rfl rfl

end Write

/-- The hooks after a write leave the model as it is. -/
theorem finish_model (kind : HookKind) (doc : LiveDocument σ) (s : ModelState σ) :
    ((finish kind doc).run s).2.model = s.model := by
  rw [finish, run_currentHandle_bind, ActOn.run_bind, run_inSession]
  rcases (s.model.handle.runPost kind doc).run s.session with ⟨_ | _, _⟩ <;> rfl

/-- The model after a write is the one after its first part. -/
theorem Write.perform_model (w : Write) (s : ModelState σ) :
    (w.perform.run s).2.model = (w.enter.run s).2.model := by
  rw [perform_eq, ActOn.run_bind]
  rcases w.enter.run s with ⟨_ | doc, t⟩
  · rfl
  · exact finish_model w.kind doc t

end DocStore.Model
