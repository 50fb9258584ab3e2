import DocStore.Proofs.OrderedMap
import DocStore.Proofs.Schema.Declared
import DocStore.Proofs.Store.Run
import DocStore.Schema.Callable
/-!
# Stored documents are valid

A document enters the store right after it passed the checks of the schema, and nothing changes it
there. So every run of writes keeps all paths of all stored documents settled
(`settledRecords_afterWrites`), and a stored document passes the checks again as it is
(`Model.stored_documents_accepted`), whatever the hooks did on the way.
-/

namespace DocStore

variable {σ : Type}

/-- Whether the checks of a schema give back a document as it is. -/
def Schema.Accepts (schema : Schema σ) (doc : Document) : Prop :=
  ∀ session, (schema.applySetters doc).run session = (.ok doc, session)

namespace Model

/-- Whether all paths are settled in all stored documents. -/
def SettledRecords (model : Model σ) : Prop :=
  ∀ entry ∈ model.records, ∀ step ∈ model.handle.schema.pipeline,
    Schema.Settled step.1 step.2 entry.2

theorem settledRecords_empty (handle : ModelHandle σ) : SettledRecords (Model.empty handle) :=
  fun _ hentry => absurd hentry List.not_mem_nil

variable {model : Model σ}

/-- Storing a document that passed the checks keeps the documents settled. -/
theorem SettledRecords.insert (h : SettledRecords model)
    (hfree : Schema.SetterFree model.handle.schema.pipeline)
    (hlayered : Schema.Layered model.handle.schema.pipeline) (id : String) {stored : Document}
    {session : Session σ} (hchecked : ChecksTo model.handle.schema stored session) :
    SettledRecords (model.withRecords (model.records.insert id stored)) := by
  obtain ⟨data, before, hrun⟩ := hchecked
  intro entry hentry
  rcases OrderedMap.mem_insert hentry with rfl | hold
  · exact Schema.settled_of_applySetters hfree hlayered hrun
  · exact h entry hold

theorem SettledRecords.erase (h : SettledRecords model) (id : String) :
    SettledRecords (model.withRecords (model.records.erase id)) :=
  fun entry hentry => h entry (List.mem_filter.mp hentry).1

/-- Writes keep all stored documents settled. -/
theorem settledRecords_afterWrites {handle : ModelHandle σ}
    (hfree : Schema.SetterFree handle.schema.pipeline)
    (hlayered : Schema.Layered handle.schema.pipeline) (writes : List Write) {s : ModelState σ}
    (hhandle : s.model.handle = handle) (h : SettledRecords s.model) :
    (afterWrites writes s).model.handle = handle ∧
      SettledRecords (afterWrites writes s).model := by
  refine afterWrites_preserves (P := fun model => model.handle = handle ∧ SettledRecords model)
    ?_ ?_ writes ⟨hhandle, h⟩
  · rintro model ⟨rfl, hsettled⟩ id stored session - hchecked
    exact ⟨rfl, hsettled.insert hfree hlayered id hchecked⟩
  · rintro model ⟨rfl, hsettled⟩ id
    exact ⟨rfl, hsettled.erase id⟩

/-- **Every stored document is valid.** Where the paths of a model are nested declarations under
distinct names without dots, and none of them has a setter, the checks give back every document
that writes have stored. The hooks of the model are arbitrary. -/
theorem stored_documents_accepted {fields : List (String × Definition σ)} {declared : Schema σ}
    {handle : ModelHandle σ} (hnamed : Definition.AllNamed fields)
    (hdeclared : (Schema.declareAll "" fields).run Schema.empty = (.ok (), declared))
    (hfree : Schema.SetterFree declared.pipeline)
    (hpipeline : handle.schema.pipeline = declared.ensureId.pipeline) (writes : List Write)
    (session : Session σ) :
    ∀ entry ∈ (afterWrites writes ⟨Model.empty handle, session⟩).model.records,
      handle.schema.Accepts entry.2 := by
  have hfree' : Schema.SetterFree handle.schema.pipeline := by
    rw [hpipeline]
    exact Schema.setterFree_ensureId hfree
  have hlayered : Schema.Layered handle.schema.pipeline := by
    rw [hpipeline]
    exact Schema.layered_ensureId hnamed hdeclared
  obtain ⟨hhandle, hsettled⟩ := settledRecords_afterWrites hfree' hlayered writes
    (s := ⟨Model.empty handle, session⟩) rfl (settledRecords_empty handle)
  intro entry hentry s
  refine Schema.applySetters_of_settled hfree' (fun step hstep => ?_) s
  rw [← hhandle] at hstep
  exact hsettled entry hentry step hstep

/-! ## A model of people -/

/-- A required name, an address as a group, and a list of lists of numbers. -/
def personFields : List (String × Definition Unit) :=
  [("name", .typed .string { FieldOptions.none with required := true } none),
   ("address", .nested [("city", .type .string), ("floor", .type .integer)]),
   ("scores", .list [.list [.type .number]])]

def personSchema : Schema Unit := ((Schema.declareAll "" personFields).run Schema.empty).2

/-- A model whose hook before saves takes the city away. -/
def personHandle : ModelHandle Unit :=
  ⟨0, "Person", personSchema.ensureId.attach .pre .save (Hook.ofEdits [.unset "address.city"])⟩

/-- A person with a floor that is an integral double and a missing score. -/
def personData : Document :=
  [("_id", .string "c000000000000000000000000"), ("name", .string "Ada"),
   ("address", .document [("city", .string "Zug"), ("floor", .double (Double.ofInt 3))]),
   ("scores", .array [.array [.int32 3, .undefined]])]

theorem allNamed_personFields : Definition.AllNamed personFields := by
  simp [personFields, Definition.AllNamed, Definition.WellNamed]

theorem setterFree_personSchema : Schema.SetterFree personSchema.pipeline := by
  unfold Schema.SetterFree
  decide

theorem stored_documents_accepted_person :
    (afterWrites [.insert personData] ⟨Model.empty personHandle, Session.idle⟩).model.records.length
        = 1 ∧
      ∀ entry ∈ (afterWrites [.insert personData]
          ⟨Model.empty personHandle, Session.idle⟩).model.records,
        personHandle.schema.Accepts entry.2 :=
  ⟨by decide +kernel, stored_documents_accepted allNamed_personFields rfl setterFree_personSchema
    rfl [.insert personData] Session.idle⟩

end Model

end DocStore
