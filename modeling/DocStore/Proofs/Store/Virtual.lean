import DocStore.Proofs.Schema.Setter
import DocStore.Proofs.Schema.Virtual
import DocStore.Proofs.Store.Identity
/-!
# Virtual paths in the store

Writes store what passed the checks, which has no value at a virtual path. Imports store what the
importing pipeline gives, and that leaves the values of virtual paths in the records. So a stored
document has a value at a virtual path only if it was imported with one
(`Model.virtual_values_are_imported`), and it keeps that value until the next write stores it
(`exists_import_that_stores_virtual`).
-/

namespace DocStore.Model

variable {σ : Type}

/-- Whether an import of a run read a document from a record that has a value at a path. -/
def ImportedWith (schema : Schema σ) (calls : List Call) (path : String) (doc : Document) : Prop :=
  ∃ records record, Call.importing records ∈ calls ∧ record ∈ records ∧
    schema.importRecord record = .ok doc ∧ record.get? path ≠ none

/-- Whether every document with a value at a path was imported with one. -/
def OnlyImported (schema : Schema σ) (calls : List Call) (path : String)
    (records : OrderedMap Document) : Prop :=
  ∀ entry ∈ records, entry.2.get? path ≠ none → ImportedWith schema calls path entry.2

/-- The calls of a run bring no other values to virtual paths than their imports do. -/
theorem onlyImported_after {handle : ModelHandle σ} (hspares : handle.schema.SparesVirtuals)
    (hoff : handle.schema.VirtualsOffLists) {path : String}
    (hvirtual : handle.schema.RegistersVirtual path) (calls : List Call) (session : Session σ) :
    OnlyImported handle.schema calls path
      (after calls ⟨Model.empty handle, session⟩).model.records := by
  have hrun := after_preserves_of_mem
    (P := fun model : Model σ => model.handle = handle ∧
      OnlyImported handle.schema calls path model.records)
    (s := ⟨Model.empty handle, session⟩) ?stored ?removed calls ?imported
    ⟨rfl, fun _ hentry => absurd hentry List.not_mem_nil⟩
  · exact hrun.2
  case stored =>
    rintro model ⟨rfl, honly⟩ id stored session - ⟨data, before, hchecked⟩
    refine ⟨rfl, fun entry hentry hvalue => ?_⟩
    rcases OrderedMap.mem_insert hentry with rfl | hold
    · exact absurd (Schema.get?_of_applySetters hspares hoff hvirtual hchecked) hvalue
    · exact honly entry hold hvalue
  case removed =>
    rintro model ⟨rfl, honly⟩ id
    exact ⟨rfl, fun entry hentry => honly entry (List.mem_filter.mp hentry).1⟩
  case imported =>
    rintro records hmem model ⟨rfl, honly⟩ imported himport
    refine ⟨rfl, fun entry hentry hvalue => ?_⟩
    rcases List.mem_append.mp hentry with hold | hnew
    · exact honly entry hold hvalue
    · rcases exists_record_of_mem_importFrom himport hnew with hnone | ⟨record, hrecord, hread⟩
      · exact absurd hnone List.not_mem_nil
      · refine ⟨records, record, hmem, hrecord, hread, fun hnone => hvalue ?_⟩
        exact Schema.get?_of_importRecord hoff hvirtual hnone hread

/-- **Only imports bring values to virtual paths.** Where setters bring no values to virtual paths,
and these lead to no places in lists, every stored document that has a value at a virtual path was
read by an import of the run from a record with a value there, and no exported record has one. So in
a run without such records no document has one. -/
theorem virtual_values_are_imported {handle : ModelHandle σ}
    (hspares : handle.schema.SparesVirtuals) (hoff : handle.schema.VirtualsOffLists) {path : String}
    (hvirtual : handle.schema.RegistersVirtual path) (calls : List Call) (session : Session σ) :
    let state := after calls ⟨Model.empty handle, session⟩
    (∀ entry ∈ state.model.records, entry.2.get? path ≠ none →
        ImportedWith handle.schema calls path entry.2) ∧
      ∀ record ∈ state.model.exportRecords, record.get? path = none := by
  intro state
  refine ⟨onlyImported_after hspares hoff hvirtual calls session, fun record hrecord => ?_⟩
  have hhandle : state.model.handle = handle :=
    after_preserves (P := fun model => model.handle = handle) (fun _ h _ _ _ _ _ => h)
      (fun _ h _ => h) (fun _ h _ _ _ => h) calls rfl
  obtain ⟨doc, -, rfl⟩ := List.mem_map.mp hrecord
  rw [hhandle]
  exact Schema.get?_exportRecord hoff hvirtual doc

/-! ## A model of people with full names -/

/-- A name in two parts, which a virtual path joins and its setter takes apart. -/
def nameSchema : Schema Unit :=
  (((Schema.empty.register "first" (.scalar "first" .string .none)).register "last"
    (.scalar "last" .string .none)).declareVirtual "full" (Getter.joined " " ["first", "last"])
      (some fun value doc => return Document.insertParts " " "first" "last" value doc)).ensureId

def nameHandle : ModelHandle Unit := ⟨0, "Person", nameSchema⟩

/-- A person given by the full name. -/
def insertedName : Document :=
  [("_id", .string "c000000000000000000000000"), ("full", .string "Ada Lovelace")]

/-- A record of a time when the full name was stored. -/
def importedName : Document :=
  [("_id", .string "c111111111111111111111111"), ("first", .string "Ann"),
   ("full", .string "Ann Lee")]

def nameCalls : List Call := [.write (.insert insertedName), .importing [importedName]]

theorem registersVirtual_nameHandle (path : String) :
    nameHandle.schema.RegistersVirtual path ↔ path = "full" := by
  constructor
  · rintro ⟨field, hmem, hkind⟩
    have hpipeline : nameSchema.pipeline.map (fun step => (step.1, step.2.kind)) =
        [("first", .string), ("last", .string), ("full", .virtual), ("_id", .cuid)] := rfl
    have hkinds : (path, FieldKind.virtual) ∈
        nameSchema.pipeline.map (fun step => (step.1, step.2.kind)) :=
      List.mem_map.mpr ⟨(path, field), hmem, by rw [hkind]⟩
    rw [hpipeline] at hkinds
    simpa using hkinds
  · rintro rfl
    exact ⟨_, List.mem_cons_of_mem _ (List.mem_cons_of_mem _ List.mem_cons_self), rfl⟩

theorem sparesVirtuals_nameHandle : nameHandle.schema.SparesVirtuals := by
  intro path hvirtual step hstep
  rw [registersVirtual_nameHandle] at hvirtual
  subst hvirtual
  rcases hstep with _ | ⟨_, _ | ⟨_, _ | ⟨_, _ | ⟨_, hstep⟩⟩⟩⟩
  · trivial
  · trivial
  · rintro set ⟨⟩ value doc host hnone
    have hkey : Path.segments "full" = ["full"] := rfl
    rw [Document.get?, hkey, Document.descend_cons] at hnone ⊢
    show (OrderedMap.get? (Document.insertParts " " "first" "last" value doc) "full").bind _ = _
    rw [Document.get?_insertParts (by decide) (by decide)]
    exact hnone
  · trivial
  · cases hstep

theorem virtualsOffLists_nameHandle : nameHandle.schema.VirtualsOffLists := by
  intro path hvirtual
  rw [registersVirtual_nameHandle] at hvirtual
  subst hvirtual
  exact fun segment hmem => absurd hmem List.not_mem_nil

/-- The model after these calls. -/
def nameModel : Model Unit := (after nameCalls ⟨Model.empty nameHandle, .idle⟩).model

theorem virtual_values_are_imported_name :
    nameModel.records.map (fun entry => (entry.1, entry.2.get? "full")) =
        [("c000000000000000000000000", none),
         ("c111111111111111111111111", some (.string "Ann Lee"))] ∧
      (∀ entry ∈ nameModel.records, entry.2.get? "full" ≠ none →
        ImportedWith nameHandle.schema nameCalls "full" entry.2) ∧
      ∀ record ∈ nameModel.exportRecords, record.get? "full" = none :=
  ⟨rfl, virtual_values_are_imported sparesVirtuals_nameHandle virtualsOffLists_nameHandle
    ((registersVirtual_nameHandle "full").mpr rfl) nameCalls .idle⟩

/-- A run may store a value at a virtual path. -/
theorem exists_import_that_stores_virtual :
    ¬ ∀ (handle : ModelHandle Unit) (session : Session Unit) (calls : List Call) (path : String),
      handle.schema.SparesVirtuals → handle.schema.RegistersVirtual path →
      ∀ entry ∈ (after calls ⟨Model.empty handle, session⟩).model.records,
        entry.2.get? path = none := by
  intro hnever
  have hnone := hnever nameHandle .idle [.importing [importedName]] "full"
    sparesVirtuals_nameHandle ((registersVirtual_nameHandle "full").mpr rfl)
    ("c111111111111111111111111", importedName) List.mem_cons_self
  cases hnone

end DocStore.Model
