import DocStore.Proofs.Schema.Projection
import DocStore.Proofs.Script
import DocStore.Proofs.Store.Identity
import DocStore.Schema.Callable
/-!
# Reading a document and saving it back

Where the pipeline of a model is steady and the hooks before saves leave the data as they find it,
every write stores what was read and checked (`Model.Write.perform_keeps`), which is a normal
document. So in every state that a new model reaches, a stored document is normal unless an import
read it (`Model.normalOrImported_after`), and reading a normal document and saving it back leaves
the model as it is (`Model.resaves_of_readForm`): reading gives what was read again, and the checks
turn it back.

Imports are the exception because they store what the importing pipeline gives, and hooks that
change the data because they change it again (`Model.exists_resave_that_changes`).
-/

namespace DocStore

variable {σ : Type}

/-! ## Hooks that leave the data -/

/-- Whether a hook leaves the data of every document as it finds it. -/
def Hook.LeavesData (hook : Hook σ) : Prop :=
  ∀ (doc : LiveDocument σ) (host : σ), (LiveDocument.edit hook.script doc host).1.2.data = doc.data

theorem LiveDocument.edit_bind {α β : Type} (first : Editing σ α) (next : α → Editing σ β)
    (doc : LiveDocument σ) (host : σ) :
    LiveDocument.edit (first.bind next) doc host =
      LiveDocument.edit (next (LiveDocument.edit first doc host).1.1)
        (LiveDocument.edit first doc host).1.2 (LiveDocument.edit first doc host).2 := by
  simp only [LiveDocument.edit, Script.run_bind]

theorem Hook.data_runAll {hooks : List (Hook σ)} (h : ∀ hook ∈ hooks, hook.LeavesData)
    (doc : LiveDocument σ) (host : σ) :
    (LiveDocument.edit (Hook.runAll hooks) doc host).1.2.data = doc.data := by
  induction hooks generalizing doc host with
  | nil => rfl
  | cons hook hooks ih =>
    have hfirst := h hook List.mem_cons_self doc host
    rw [Hook.runAll, LiveDocument.edit_bind]
    rcases (LiveDocument.edit hook.script doc host).1.1 with e | _
    · exact hfirst
    · exact (ih (fun other hother => h other (List.mem_cons_of_mem hook hother)) _ _).trans hfirst

/-- Hooks that leave the data end with the data, or with an error. -/
theorem ModelHandle.data_of_runHooks {hooks : List (Hook σ)} (h : ∀ hook ∈ hooks, hook.LeavesData)
    {doc after : LiveDocument σ} {s s' : Session σ}
    (hrun : (ModelHandle.runHooks hooks doc).run s = (.ok after, s')) : after.data = doc.data := by
  have hdata := Hook.data_runAll h doc s.host
  obtain ⟨⟨result, left⟩, t, hedit, hrest⟩ := ActOn.bind_eq_ok hrun
  cases hedit
  obtain ⟨⟨⟩, t', -, hdone⟩ := ActOn.bind_eq_ok hrest
  cases hdone
  exact hdata

namespace Model

/-! ## Writes of what was read -/

/-- **Where hooks leave the data, writes keep what removing and storing what was read and checked
keep.** -/
theorem Write.perform_keeps {P : Model σ → Prop}
    (hhooks : ∀ model : Model σ, P model →
      ∀ hook ∈ model.handle.schema.hooks .pre .save, hook.LeavesData)
    (hstored : ∀ model : Model σ, P model → ∀ id read stored s t t',
      WasRead model.handle.schema read s →
      (model.handle.schema.applySetters read).run t = (.ok stored, t') →
      P (model.withRecords (model.records.insert id stored)))
    (hremoved : ∀ model : Model σ, P model → ∀ id, P (model.withRecords (model.records.erase id)))
    (w : Write) {s : ModelState σ} (h : P s.model) : P (w.perform.run s).2.model := by
  rw [w.perform_model]
  refine w.enter_cases (Q := fun out => P out.2.model) (fun _ _ => h) s.session
    (fun _ id read after hread _ => ?_) fun _ id _ _ _ _ => hremoved s.model h id
  refine commit_cases (Q := fun out => P out.2.model) (fun _ _ => h) after id read
    fun doc stored between later hrun hcheck _ => ?_
  have hdata : doc.data = read := ModelHandle.data_of_runHooks (hhooks s.model h) hrun
  exact hstored s.model h id read stored after between later hread (hdata ▸ hcheck)

/-! ## What stands in the store -/

/-- Whether an import of a run read a document. -/
def Imported (schema : Schema σ) (calls : List Call) (doc : Document) : Prop :=
  ∃ records record, Call.importing records ∈ calls ∧ record ∈ records ∧
    schema.importRecord record = .ok doc

/-- Whether every document of a model is normal, unless an import of a run read it. -/
structure NormalOrImported (handle : ModelHandle σ) (calls : List Call) (model : Model σ) :
    Prop where
  handle_eq : model.handle = handle
  entries : ∀ entry ∈ model.records,
    handle.schema.Normal entry.2 ∨ Imported handle.schema calls entry.2

/-- **A stored document is normal unless an import read it**, where the pipeline is steady and the
hooks before saves leave the data. -/
theorem normalOrImported_after {handle : ModelHandle σ}
    (hsteady : Schema.Steady handle.schema.pipeline)
    (hhooks : ∀ hook ∈ handle.schema.hooks .pre .save, hook.LeavesData) (calls : List Call)
    (session : Session σ) :
    NormalOrImported handle calls (after calls ⟨Model.empty handle, session⟩).model := by
  have hwrite : ∀ (w : Write) {s : ModelState σ}, NormalOrImported handle calls s.model →
      NormalOrImported handle calls (w.perform.run s).2.model := by
    refine fun w s hmodel => w.perform_keeps ?hooks ?stored ?removed hmodel
    case hooks =>
      rintro model ⟨rfl, -⟩
      exact hhooks
    case stored =>
      rintro model ⟨rfl, hentries⟩ id read stored s t t' ⟨data, before, hread⟩ hcheck
      refine ⟨rfl, fun entry hentry => ?_⟩
      rcases OrderedMap.mem_insert hentry with rfl | hold
      · exact .inl (Schema.normal_of_applySetters hsteady hread hcheck)
      · exact hentries entry hold
    case removed =>
      rintro model ⟨rfl, hentries⟩ id
      exact ⟨rfl, fun entry hentry => hentries entry (List.mem_filter.mp hentry).1⟩
  refine after_preserves_of_writes hwrite calls ?_
    ⟨rfl, fun _ hentry => absurd hentry List.not_mem_nil⟩
  rintro records hmem model ⟨rfl, hentries⟩ imported himport
  refine ⟨rfl, fun entry hentry => ?_⟩
  rcases List.mem_append.mp hentry with hold | hnew
  · exact hentries entry hold
  · obtain ⟨record, hrecord, hread⟩ :=
      (exists_record_of_mem_importFrom himport hnew).resolve_left List.not_mem_nil
    exact .inr ⟨records, record, hmem, hrecord, hread⟩

/-! ## Reading and saving back -/

/-- Whether the document under an id can be read, and leaves the model as it is when it is saved
back, in all sessions. Where no hooks run on saves, saving it back changes nothing else either, and
succeeds. -/
def Resaves (model : Model σ) (id : String) : Prop :=
  ∃ doc : LiveDocument σ, (∀ s, (findById id).run ⟨model, s⟩ = (.ok doc, ⟨model, s⟩)) ∧
    (∀ s, ((save doc.depopulated).run ⟨model, s⟩).2.model = model) ∧
    ((∀ phase, model.handle.schema.hooks phase .save = []) →
      ∀ s, (save doc.depopulated).run ⟨model, s⟩ = (.ok doc, ⟨model, s⟩))

section Resave

variable {model : Model σ} {id : String} {doc read : Document}
  (hform : model.handle.schema.ReadForm doc read)

include hform

theorem run_newDocument_of_readForm (s : Session σ) :
    (newDocument doc).run ⟨model, s⟩ =
      (.ok (LiveDocument.ofData model.handle read), ⟨model, s⟩) := by
  rw [run_newDocument, ModelHandle.materialize, ActOn.run_bind_of_ok (hform.reads s)]
  rfl

variable (hget : model.records.get? id = some doc)

include hget

theorem run_findById_of_readForm (s : Session σ) :
    (findById id).run ⟨model, s⟩ = (.ok (LiveDocument.ofData model.handle read), ⟨model, s⟩) := by
  have hfind : (find? id).run ⟨model, s⟩ =
      (.ok (some (LiveDocument.ofData model.handle read)), ⟨model, s⟩) := by
    rw [find?, ActOn.run_get_bind]
    simp only [hget]
    rw [ActOn.run_bind_of_ok (run_newDocument_of_readForm hform s)]
    rfl
  rw [findById, ActOn.run_bind_of_ok hfind]
  rfl

/-- What was read is checked back to the stored document, once the hooks have run. -/
theorem commit_of_readForm (hdoc : doc.id? = some id) {left : LiveDocument σ} {s t : Session σ}
    (hhooks : (ModelHandle.runHooks (model.handle.schema.hooks .pre .save)
      (LiveDocument.ofData model.handle read)).run s = (.ok left, t)) (hleft : left.data = read) :
    (commit id read).run ⟨model, s⟩ =
      (.ok (LiveDocument.ofData model.handle read), ⟨model, t⟩) := by
  have hcheck : (model.handle.schema.applySetters left.data).run t = (.ok doc, t) := by
    rw [hleft]
    exact hform.checks t
  have hsame : model.withRecords (model.records.insert id doc) = model := by
    rw [OrderedMap.insert_of_get? hget]
    rfl
  rw [commit, run_currentHandle_bind, ActOn.run_bind_of_ok (run_inSession_of_run hhooks model),
    ActOn.run_bind_of_ok (run_inSession_of_run hcheck model), if_neg (fun changed => changed hdoc),
    run_store_bind, hsame]
  exact run_newDocument_of_readForm hform t

/-- Saving what was read is a commit of it. -/
theorem enter_save_of_readForm (hread : read.id? = some id) (s : Session σ) :
    (Write.save read).enter.run ⟨model, s⟩ = (commit id read).run ⟨model, s⟩ := by
  have hhas : model.has id = true := has_of_get? hget
  have hsame : OrderedMap.insert read "_id" (.string id) = read := by
    rw [Document.id?_eq_some_iff] at hread
    exact OrderedMap.insert_of_get? hread
  rw [Write.enter, hread]
  simp only [ActOn.run_get_bind, hhas, if_true]
  rw [replaceStored, run_currentHandle_bind, ActOn.run_get_bind]
  simp only [hhas, Bool.not_true, Bool.false_eq_true, if_false]
  rw [hsame, ActOn.run_bind_of_ok (run_inSession_of_run (hform.again s) model)]

/-- **What was read, saved back, leaves the model as it is.** -/
theorem resaves_of_readForm (hdoc : doc.id? = some id) (hread : read.id? = some id)
    (hhooks : ∀ hook ∈ model.handle.schema.hooks .pre .save, hook.LeavesData) :
    model.Resaves id := by
  refine ⟨LiveDocument.ofData model.handle read, run_findById_of_readForm hform hget, fun s => ?_,
    fun hnone s => ?_⟩
  · have hmodel := (Write.save read).perform_model ⟨model, s⟩
    rw [enter_save_of_readForm hform hget hread] at hmodel
    refine hmodel.trans ?_
    rcases hrun : (ModelHandle.runHooks (model.handle.schema.hooks .pre .save)
      (LiveDocument.ofData model.handle read)).run s with ⟨e | left, t⟩
    · rw [commit, run_currentHandle_bind, ActOn.run_bind_of_error (run_inSession_of_run hrun model)]
    · rw [commit_of_readForm hform hget hdoc hrun (ModelHandle.data_of_runHooks hhooks hrun)]
  · have hrun : (ModelHandle.runHooks (model.handle.schema.hooks .pre .save)
        (LiveDocument.ofData model.handle read)).run s =
          (.ok (LiveDocument.ofData model.handle read), s) := by
      rw [hnone]
      rfl
    have henter := enter_save_of_readForm hform hget hread s
    rw [commit_of_readForm hform hget hdoc hrun rfl] at henter
    have hperform : (save read : ModelAct σ (LiveDocument σ)) =
        (Write.save read).enter >>= finish .save := (Write.save read).perform_eq
    show (save read).run _ = _
    rw [hperform, ActOn.run_bind_of_ok henter, finish, run_currentHandle_bind,
      ModelHandle.runPost, hnone]
    rfl

end Resave

/-- **Writing is a projection, and so is reading a document and saving it back.** Take nested
declarations under distinct names without dots, with constant defaults and without setters. When
reading some data and checking what was read gives a document, this document is read and checked to
itself, in every session, which stays as it is. In every state that a new model of these paths
reaches, by calls that succeed or fail, reading a document and saving it back leaves the model as it
is, unless an import read the document. The hooks before saves leave the data as they find it, and
all other hooks are arbitrary. -/
theorem writing_is_projection {fields : List (String × Definition σ)} {declared : Schema σ}
    (hnamed : Definition.AllNamed fields)
    (hdeclared : (Schema.declareAll "" fields).run Schema.empty = (.ok (), declared))
    (hfree : Schema.SetterFree declared.pipeline)
    (hconstant : Schema.ConstantDefaults declared.pipeline) :
    (∀ schema : Schema σ, schema.pipeline = declared.pipeline ∨
        schema.pipeline = declared.ensureId.pipeline →
      ∀ data doc s s', (schema.normalize data).run s = (.ok doc, s') →
        ∀ t, (schema.normalize doc).run t = (.ok doc, t)) ∧
    ∀ handle : ModelHandle σ, handle.schema.pipeline = declared.ensureId.pipeline →
      (∀ hook ∈ handle.schema.hooks .pre .save, hook.LeavesData) →
      ∀ calls session, let state := after calls ⟨Model.empty handle, session⟩
        ∀ entry ∈ state.model.records,
          state.model.Resaves entry.1 ∨ Imported handle.schema calls entry.2 := by
  refine ⟨fun schema hpipeline data doc s s' h t => ?_,
    fun handle hpipeline hhooks calls session => ?_⟩
  · have hsteady : Schema.Steady schema.pipeline := by
      rcases hpipeline with hsame | hsame
      · rw [hsame]
        exact Schema.steady_declared hnamed hdeclared hfree hconstant
      · rw [hsame]
        exact Schema.steady_ensureId hnamed hdeclared hfree hconstant
    exact (Schema.normal_of_normalize hsteady h).normalize hsteady t
  · have hsteady : Schema.Steady handle.schema.pipeline := by
      rw [hpipeline]
      exact Schema.steady_ensureId hnamed hdeclared hfree hconstant
    intro state entry hentry
    have hkeyed : KeyedById state.model.records := keyedById_after handle session calls
    obtain ⟨hhandle, hentries⟩ : NormalOrImported handle calls state.model :=
      normalOrImported_after hsteady hhooks calls session
    refine (hentries entry hentry).imp_left fun hnormal => ?_
    rw [← hhandle] at hnormal hsteady hhooks
    obtain ⟨read, hform⟩ := hnormal.exists_readForm hsteady session
    have hid := hkeyed.id_eq entry hentry
    exact resaves_of_readForm hform (OrderedMap.get?_of_mem hkeyed.nodup hentry) hid
      (hform.id? hnormal hid session) hhooks

/-! ## A model of loans -/

/-- A required title, a flag and a shelf with defaults, a place as a group, and a list. -/
def loanFields : List (String × Definition Unit) :=
  [("title", .typed .string { FieldOptions.none with required := true } none),
   ("returned", .typed .boolean (FieldOptions.none.withDefault (.bool false)) none),
   ("place", .nested [("room", .type .string),
     ("shelf", .typed .integer (FieldOptions.none.withDefault (.int32 1)) none)]),
   ("tags", .list [.type .string])]

def loanSchema : Schema Unit := ((Schema.declareAll "" loanFields).run Schema.empty).2

def loanHandle : ModelHandle Unit := ⟨0, "Loan", loanSchema.ensureId⟩

/-- A model whose hook before saves notes whether the loan was returned, and returns it. -/
def returningHandle : ModelHandle Unit :=
  { loanHandle with
    schema := loanHandle.schema.attach .pre .save
      (Hook.ofEdits [.copy "returned" "before", .set "returned" (.bool true)]) }

def loanId : String := "c000000000000000000000000"

/-- A loan without a shelf, with a number as a title and a missing tag. -/
def loanData : Document :=
  [("_id", .string loanId), ("title", .int32 1984), ("place", .document [("room", .string "B")]),
   ("tags", .array [.string "novel", .undefined])]

theorem allNamed_loanFields : Definition.AllNamed loanFields := by
  simp [loanFields, Definition.AllNamed, Definition.WellNamed]

theorem setterFree_loanSchema : Schema.SetterFree loanSchema.pipeline := by
  unfold Schema.SetterFree
  decide

theorem declared_loanSchema :
    (Schema.declareAll "" loanFields).run Schema.empty = (.ok (), loanSchema) := rfl

theorem constantDefaults_loanSchema : Schema.ConstantDefaults loanSchema.pipeline := by
  have hsteps : loanSchema.pipeline = Definition.stepsAll "" loanFields :=
    congrArg Schema.pipeline (Schema.run_declareAll "" declared_loanSchema)
  rw [hsteps]
  simp [Schema.ConstantDefaults, loanFields, Definition.stepsAll, Definition.steps,
    Definition.field, Field.ofKind, Field.list, Field.object, Field.Constant,
    FieldOptions.Constant, FieldOptions.none,
    FieldOptions.withDefault, FieldOptions.orDefault]

/-- A run that stores the loan. -/
def loanCalls : List Call := [.write (.insert loanData)]

theorem hooks_loanHandle : loanHandle.schema.hooks .pre .save = [] := by
  rw [← List.length_eq_zero_iff]
  decide +kernel

theorem writing_is_projection_loan :
    (∃ doc s, (loanHandle.schema.normalize loanData).run Session.idle = (.ok doc, s) ∧
      ∀ t, (loanHandle.schema.normalize doc).run t = (.ok doc, t)) ∧
    (after loanCalls ⟨Model.empty loanHandle, Session.idle⟩).model.records.length = 1 ∧
    ∀ entry ∈ (after loanCalls ⟨Model.empty loanHandle, Session.idle⟩).model.records,
      (after loanCalls ⟨Model.empty loanHandle, Session.idle⟩).model.Resaves entry.1 ∨
        Imported loanHandle.schema loanCalls entry.2 := by
  obtain ⟨hagain, hresaves⟩ := writing_is_projection allNamed_loanFields declared_loanSchema
    setterFree_loanSchema constantDefaults_loanSchema
  refine ⟨?_, by decide +kernel, hresaves loanHandle rfl (fun _ hhook => ?_) loanCalls .idle⟩
  · have hok : ((loanHandle.schema.normalize loanData).run Session.idle).1.isOk = true := by
      decide +kernel
    rcases hrun : (loanHandle.schema.normalize loanData).run Session.idle with ⟨e | doc, s⟩
    · rw [hrun] at hok
      cases hok
    · exact ⟨doc, s, rfl, hagain loanHandle.schema (.inr rfl) loanData doc _ s hrun⟩
  · rw [hooks_loanHandle] at hhook
    cases hhook

/-- What stands under the id of the loan after it was read and saved back. -/
def resavedLoan (s : ModelState Unit) : Option Document :=
  match (findById loanId).run s with
  | (.ok doc, s) => ((save doc.depopulated).run s).2.model.records.get? loanId
  | (.error _, _) => none

/-- A loan that was imported without a flag. -/
def importedLoans : ModelState Unit :=
  after [.importing [[("_id", .string loanId), ("title", .string "Emma")]]]
    ⟨Model.empty loanHandle, Session.idle⟩

/-- A loan that a hook wrote when it was inserted. -/
def returnedLoans : ModelState Unit := after loanCalls ⟨Model.empty returningHandle, Session.idle⟩

/-- **Imports and hooks may make saving back a change.** A loan that was imported without a flag is
saved back with the default, and a loan that a hook wrote when it was inserted is written by the
hook again. -/
theorem exists_resave_that_changes :
    ((importedLoans.model.records.get? loanId).any (fun doc => (doc.get? "returned").isNone) ∧
      (resavedLoan importedLoans).any fun doc => (doc.get? "returned").isSome) ∧
    ((returnedLoans.model.records.get? loanId).any
        (fun doc => (doc.get? "before").any fun flag => !flag.isTruthy) ∧
      (resavedLoan returnedLoans).any fun doc => (doc.get? "before").any Value.isTruthy) := by
  decide +kernel

end Model

end DocStore
