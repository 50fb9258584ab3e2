import DocStore.Proofs.OrderedMap
import DocStore.Proofs.Schema.Kept
import DocStore.Proofs.Schema.Registration
import DocStore.Proofs.Store.Run
/-!
# Documents and their ids

In every state that a new model reaches, each document is stored under the id that it holds, and no
id is used twice (`Model.reachable_ids`). Writes keep this because a document is compared with its
id right before it is stored, and imports because the id is read off the record itself.

Documents are read with these ids too where the path of ids is the default one and no other path
reaches into it (`Schema.DefaultId`).
-/

namespace DocStore

/-- Every document is stored under the id that it holds, and no id is used twice. -/
structure KeyedById (records : OrderedMap Document) : Prop where
  nodup : records.keys.Nodup
  id_eq : ∀ entry ∈ records, entry.2.id? = some entry.1

instance (records : OrderedMap Document) : Decidable (KeyedById records) :=
  decidable_of_iff (records.keys.Nodup ∧ ∀ entry ∈ records, entry.2.id? = some entry.1)
    ⟨fun h => ⟨h.1, h.2⟩, fun h => ⟨h.nodup, h.id_eq⟩⟩

namespace KeyedById

theorem nil : KeyedById [] := ⟨List.nodup_nil, fun _ h => absurd h List.not_mem_nil⟩

variable {records : OrderedMap Document} {id : String} {doc : Document}

/-- Storing a document under its id. -/
theorem insert (h : KeyedById records) (hid : doc.id? = some id) :
    KeyedById (records.insert id doc) where
  nodup := OrderedMap.nodup_keys_insert h.nodup id doc
  id_eq entry hentry := by
    rcases OrderedMap.mem_insert hentry with rfl | hold
    · exact hid
    · exact h.id_eq entry hold

theorem erase (h : KeyedById records) (id : String) : KeyedById (records.erase id) where
  nodup := by
    rw [OrderedMap.keys_erase]
    exact h.nodup.filter _
  id_eq entry hentry := h.id_eq entry (List.mem_filter.mp hentry).1

/-- Adding a document with a new id at the end. -/
theorem concat (h : KeyedById records) (hid : doc.id? = some id) (hnew : id ∉ records.keys) :
    KeyedById (records ++ [(id, doc)]) := by
  rw [← OrderedMap.insert_of_not_mem doc hnew]
  exact h.insert hid

theorem id?_of_get? (h : KeyedById records) (hget : records.get? id = some doc) :
    doc.id? = some id := h.id_eq _ (OrderedMap.mem_of_get? hget)

/-- The ids that the documents hold are the keys, in order. -/
theorem map_id? (h : KeyedById records) :
    records.values.map Document.id? = records.keys.map some := by
  rw [OrderedMap.values, OrderedMap.keys, List.map_map, List.map_map]
  exact List.map_congr_left h.id_eq

theorem nodup_ids (h : KeyedById records) : (records.values.map Document.id?).Nodup := by
  rw [h.map_id?]
  exact List.Nodup.map (fun _ _ => Option.some.inj) h.nodup

end KeyedById

/-! ## The default path of ids -/

namespace Schema

variable {σ : Type}

/-- Whether the path of ids is the default one, and every other path lies apart from it. -/
structure DefaultId (schema : Schema σ) : Prop where
  field : schema.field? "_id" = some idField
  steps : ∀ step ∈ schema.pipeline,
    step = ("_id", idField) ∨ Path.Apart (Path.segments step.1) (Path.segments "_id")

/-- A schema without a path at `_id` or below it gets the default one. -/
theorem defaultId_ensureId {schema : Schema σ} (hfree : schema.fields.contains "_id" = false)
    (hapart : ∀ step ∈ schema.pipeline, Path.Apart (Path.segments step.1) (Path.segments "_id")) :
    schema.ensureId.DefaultId := by
  have hensured : schema.ensureId = schema.register "_id" idField := by
    rw [ensureId, hfree]
    rfl
  rw [hensured]
  refine ⟨(OrderedMap.get?_insert _ _ _ _).trans (if_pos rfl), fun step hstep => ?_⟩
  rcases List.mem_append.mp hstep with hold | hnew
  · exact .inr (hapart step hold)
  · exact .inl (List.mem_singleton.mp hnew)

/-- So does a schema of one path that lies apart from `_id`. -/
theorem defaultId_register_ensureId (path : String)
    (hapart : Path.Apart (Path.segments path) (Path.segments "_id")) (field : Field σ) :
    (Schema.empty.register path field).ensureId.DefaultId := by
  refine defaultId_ensureId ?_ fun step hstep => ?_
  · have hne : "_id" ≠ path := by
      rintro rfl
      exact hapart.1 (List.prefix_refl _)
    simp [register, empty, OrderedMap.contains, OrderedMap.get?_insert, hne]
  · obtain rfl := List.mem_singleton.mp hstep
    exact hapart

/-- Reading a document keeps its id. -/
theorem DefaultId.keeps_id {schema : Schema σ} (h : schema.DefaultId) {doc read : Document}
    {id : String} {s s' : Session σ} (hid : doc.id? = some id)
    (hread : (schema.applyGetters doc).run s = (.ok read, s')) : read.id? = some id := by
  refine runSteps_keeps (P := fun doc => doc.id? = some id) (fun step hstep => ?_) hid hread
  intro doc after s s' hid hstepRun
  have hthere := Document.id?_eq_some_iff.mp hid
  obtain ⟨found, t, hcast, hrest⟩ := ActOn.bind_eq_ok hstepRun
  rcases h.steps step hstep with rfl | hapart
  · have hget : doc.get? "_id" = some (.string id) := Document.descend_of_removedSegments hthere
    rw [hget] at hcast
    cases hcast
    cases hrest
    exact Document.id?_eq_some_iff.mpr
      (Document.removedSegments_setSegments _ doc (Path.segments_ne_nil "_id"))
  · cases found with
    | none =>
      cases hrest
      exact hid
    | some value =>
      cases hrest
      rw [Document.id?_eq_some_iff, ← hthere]
      exact Document.removed?_put_of_apart hapart (some value)

end Schema

/-! ## Reachable states -/

namespace Model

variable {σ : Type}

theorem has_eq_false_iff {model : Model σ} {id : String} :
    model.has id = false ↔ id ∉ model.records.keys := by
  rw [← OrderedMap.contains_iff_mem_keys, Bool.not_eq_true]
  rfl

/-- One step of an import that succeeds. -/
theorem importFrom_cons_eq_ok {model : Model σ} {sofar imported : OrderedMap Document}
    {record : Document} {rest : List Document}
    (h : model.importFrom sofar (record :: rest) = .ok imported) :
    ∃ doc id, model.handle.schema.importRecord record = .ok doc ∧ doc.id? = some id ∧
      id ∉ model.records.keys ∧ id ∉ sofar.keys ∧
      model.importFrom (sofar.insert id doc) rest = .ok imported := by
  rw [importFrom] at h
  rcases hread : model.handle.schema.importRecord record with e | doc
  · rw [hread] at h
    cases h
  · rw [hread] at h
    rcases hid : doc.id? with _ | id
    · simp only [hid, bind, Except.bind] at h
      cases h
    · simp only [hid, bind, Except.bind] at h
      by_cases htaken : (model.has id || sofar.contains id) = true
      · rw [if_pos htaken] at h
        cases h
      · rw [if_neg htaken] at h
        rw [Bool.or_eq_true, not_or, Bool.not_eq_true, has_eq_false_iff,
          OrderedMap.contains_iff_mem_keys] at htaken
        exact ⟨doc, id, rfl, hid, htaken.1, htaken.2, h⟩

/-- What an import adds it reads from its records. -/
theorem exists_record_of_mem_importFrom {model : Model σ} {records : List Document}
    {sofar imported : OrderedMap Document} (h : model.importFrom sofar records = .ok imported)
    {entry : String × Document} (hentry : entry ∈ imported) :
    entry ∈ sofar ∨ ∃ record ∈ records, model.handle.schema.importRecord record = .ok entry.2 := by
  induction records generalizing sofar with
  | nil =>
    cases h
    exact .inl hentry
  | cons record records ih =>
    obtain ⟨doc, id, hread, -, -, -, hrest⟩ := importFrom_cons_eq_ok h
    rcases ih hrest with hmem | ⟨other, hother, hfound⟩
    · rcases OrderedMap.mem_insert hmem with rfl | hold
      · exact .inr ⟨record, List.mem_cons_self, hread⟩
      · exact .inl hold
    · exact .inr ⟨other, List.mem_cons_of_mem _ hother, hfound⟩

/-- What an import reads fits behind the stored documents. -/
theorem importFrom_keyedById {model : Model σ} {records : List Document}
    {sofar imported : OrderedMap Document} (h : model.importFrom sofar records = .ok imported)
    (hsofar : KeyedById (model.records ++ sofar)) : KeyedById (model.records ++ imported) := by
  induction records generalizing sofar with
  | nil =>
    cases h
    exact hsofar
  | cons record rest ih =>
    obtain ⟨doc, id, -, hid, hstored, hnew, hrest⟩ := importFrom_cons_eq_ok h
    refine ih hrest ?_
    rw [OrderedMap.insert_of_not_mem doc hnew, ← List.append_assoc]
    refine hsofar.concat hid ?_
    rw [OrderedMap.keys, List.map_append, List.mem_append, not_or]
    exact ⟨hstored, hnew⟩

/-- Calls keep documents under their ids. -/
theorem keyedById_after_of_keyedById {s : ModelState σ} (h : KeyedById s.model.records)
    (calls : List Call) : KeyedById (after calls s).model.records := by
  refine after_preserves (P := fun model => KeyedById model.records) ?_ ?_ ?_ calls h
  · intro model h id stored session hid _
    exact h.insert hid
  · intro model h id
    exact h.erase id
  · intro model h records imported himport
    refine importFrom_keyedById himport ?_
    rw [List.append_nil]
    exact h

/-- **Every state of a run that begins with a new model keeps documents under their ids.** -/
theorem keyedById_after (handle : ModelHandle σ) (session : Session σ) (calls : List Call) :
    KeyedById (after calls ⟨Model.empty handle, session⟩).model.records :=
  keyedById_after_of_keyedById KeyedById.nil calls

/-- **Ids are intact in every state that a new model reaches**, by calls that succeed or fail: the
document under a key holds that key as its id, no two documents hold the same id, and what later
calls leave under a key still holds the id that was there. -/
theorem reachable_ids (handle : ModelHandle σ) (session : Session σ) (calls : List Call) :
    let state := after calls ⟨Model.empty handle, session⟩
    (∀ entry ∈ state.model.records, entry.2.id? = some entry.1) ∧
      (state.model.records.values.map Document.id?).Nodup ∧
      ∀ later id before now, state.model.records.get? id = some before →
        (after later state).model.records.get? id = some now → now.id? = before.id? := by
  intro state
  have hkeyed : KeyedById state.model.records := keyedById_after handle session calls
  refine ⟨hkeyed.id_eq, hkeyed.nodup_ids, ?_⟩
  intro later id before now hbefore hnow
  have hlater : KeyedById (after later state).model.records := by
    have h := keyedById_after handle session (calls ++ later)
    rwa [after_append] at h
  rw [hlater.id?_of_get? hnow, hkeyed.id?_of_get? hbefore]

end Model

end DocStore
