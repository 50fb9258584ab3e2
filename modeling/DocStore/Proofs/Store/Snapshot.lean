import DocStore.Proofs.Schema.Snapshot
import DocStore.Proofs.Store.Events
import DocStore.Proofs.Store.Import
import DocStore.Store.Snapshot
import Mathlib
/-!
# Snapshots of databases

A fresh database with the same declarations reads the snapshot of a database back: it succeeds, and
then every model has the same documents under the same ids in the same order
(`Database.restore_snapshot`). This is so for stored documents that go through a snapshot one by one
(`Schema.Exportable`). Others need not: JSON has no form of an infinite double
(`Database.exists_snapshot_that_loses`).
-/

namespace DocStore

variable {σ : Type}

/-! ## One model -/

theorem Snapshot.records_cons {name : String} {item : Json} {items : List Json}
    {document : Document} {documents : List Document}
    (hitem : Value.ofJson item = .document document)
    (hitems : records name (.array items) = .ok documents) :
    records name (.array (item :: items)) = .ok (document :: documents) := by
  rw [records] at hitems ⊢
  rw [List.mapM_cons, hitem]
  dsimp only
  rw [hitems]
  rfl

namespace Model

/-- The snapshot records of documents that go through a snapshot are read as documents that enter a
model as what was stored. -/
theorem exists_records (handle : ModelHandle σ) (name : String) :
    ∀ {entries : List (String × Document)},
      (∀ entry ∈ entries, ∃ record,
        (Value.document (handle.schema.exportRecord entry.2)).throughJson = .document record ∧
          handle.ReadsAs record entry) →
      ∃ documents,
        Snapshot.records name (.array (entries.map fun entry =>
          (Value.document (handle.schema.exportRecord entry.2)).toJson)) = .ok documents ∧
        List.Forall₂ handle.ReadsAs documents entries
  | [], _ => ⟨[], rfl, .nil⟩
  | entry :: entries, h => by
    obtain ⟨record, hjson, hread⟩ := h entry List.mem_cons_self
    obtain ⟨documents, hrecords, hback⟩ := exists_records handle name fun entry hentry =>
      h entry (List.mem_cons_of_mem _ hentry)
    exact ⟨record :: documents, Snapshot.records_cons hjson hrecords, .cons hread hback⟩

/-- **A model is read back from its snapshot records.** -/
theorem Sound.import_exported {model : Model σ} (h : model.Sound)
    (hexport : ∀ entry ∈ model.records, model.handle.schema.Exportable entry.2) (name : String) :
    ∃ documents, Snapshot.records name (Database.exportModel model) = .ok documents ∧
      (Model.empty model.handle).importFrom [] documents = .ok model.records := by
  have hback : ∀ entry ∈ model.records, ∃ record,
      (Value.document (model.handle.schema.exportRecord entry.2)).throughJson = .document record ∧
        model.handle.ReadsAs record entry := by
    intro entry hentry
    obtain ⟨record, hjson, himport⟩ :=
      Schema.importRecord_exportRecord h.layered (h.settled entry hentry) (hexport entry hentry)
    exact ⟨record, hjson, himport, h.keyed.id_eq entry hentry⟩
  obtain ⟨documents, hrecords, hread⟩ := exists_records model.handle name hback
  have hadmits : model.handle.Admits [] documents model.records :=
    ⟨hread, h.keyed.nodup, by simp⟩
  refine ⟨documents, ?_, importFrom_of_admits hadmits⟩
  rw [Database.exportModel, exportRecords, OrderedMap.values, List.map_map, List.map_map]
  exact hrecords

end Model

namespace Database

/-! ## All models -/

/-- The snapshot of a database has the records of every model, in order. -/
theorem Listed.snapshot_models {db : Database σ} (h : db.Listed) :
    db.snapshot.models = db.models.map fun model => (model.handle.name, exportModel model) := by
  have hentry : ∀ model ∈ db.models,
      (db.registered? model.handle.name).map (fun found => (model.handle.name, exportModel found)) =
        some (model.handle.name, exportModel model) := fun model hmodel => by
    obtain ⟨number, hnumber⟩ := List.mem_iff_getElem?.mp hmodel
    rw [h.registered?_name hnumber, Option.map_some]
  show db.names.filterMap _ = _
  rw [Database.names, h.keys, handles, List.map_map, List.filterMap_map, ← List.filterMap_eq_map]
  exact List.filterMap_congr hentry

/-- A model that has the documents read back. -/
theorem run_importModel {model : Model σ} {s : DatabaseState σ} (hlisted : s.database.Listed)
    (hname : s.database.registered? model.handle.name = some (Model.empty model.handle))
    (h : model.Sound)
    (hexport : ∀ entry ∈ model.records, model.handle.schema.Exportable entry.2) :
    (importModel model.handle.name (exportModel model)).run s =
      (.ok (), ⟨s.database.withModels (s.database.models.set model.handle.number model),
        s.session⟩) := by
  obtain ⟨documents, hrecords, himport⟩ := h.import_exported hexport model.handle.name
  have hread : (ofExcept (Snapshot.records model.handle.name (exportModel model)) :
      DatabaseAct σ _).run s = (.ok documents, s) := by
    rw [hrecords]
    rfl
  have hmodel : s.database.model? model.handle.number = some (Model.empty model.handle) :=
    hlisted.model?_of_registered? hname
  have himported : (onModel model.handle (Model.importRecords documents)).run s =
      (.ok model.records.length,
        ⟨s.database.withModels (s.database.models.set model.handle.number model), s.session⟩) := by
    rw [run_onModel hmodel, Model.importRecords_run, himport]
    rfl
  rw [importModel, ActOn.run_get_bind, hname]
  dsimp only
  rw [ActOn.run_bind_of_ok hread]
  exact ActOn.run_bind_of_ok himported

/-- The first of the models that have no documents yet, and the models once it has them. -/
theorem Listed.next_model {db : Database σ} (h : db.Listed) {model : Model σ}
    {done rest : List (Model σ)} (hmodels : db.models = done ++ Model.empty model.handle :: rest) :
    db.registered? model.handle.name = some (Model.empty model.handle) ∧
      db.models.set model.handle.number model = done ++ [model] ++ rest ∧
      (db.models.set model.handle.number model).map Model.handle = db.handles := by
  have hat : db.models[done.length]? = some (Model.empty model.handle) := by
    rw [hmodels, List.getElem?_append_right (Nat.le_refl _), Nat.sub_self, List.getElem?_cons_zero]
  have hnumber : model.handle.number = done.length := by
    have hfound := h.number_of_getElem? hat
    exact hfound
  refine ⟨?_, ?_, ?_⟩
  · have hfound := h.registered?_name hat
    exact hfound
  · rw [hnumber, hmodels, List.set_append_right _ _ (Nat.le_refl _), Nat.sub_self,
      List.set_cons_zero, List.append_assoc, List.singleton_append]
  · rw [hnumber]
    exact handles_set hat rfl

/-- The models of a snapshot are read back in turn. -/
theorem run_importModels :
    ∀ {rest done : List (Model σ)} {s : DatabaseState σ}, s.database.Listed →
      s.database.models = done ++ rest.map (fun model => Model.empty model.handle) →
      (∀ model ∈ rest, model.Sound) →
      (∀ model ∈ rest, ∀ entry ∈ model.records, model.handle.schema.Exportable entry.2) →
      ((rest.map fun model => (model.handle.name, exportModel model)).forM fun entry =>
        importModel entry.1 entry.2).run s =
          (.ok (), ⟨s.database.withModels (done ++ rest), s.session⟩)
  | [], done, s, _, hmodels, _, _ => by
    rw [List.map_nil, List.append_nil] at hmodels
    rw [List.append_nil, ← hmodels]
    rfl
  | model :: rest, done, s, hlisted, hmodels, hsound, hexport => by
    obtain ⟨hname, hset, hhandles⟩ := hlisted.next_model hmodels
    have hfirst := run_importModel hlisted hname (hsound model List.mem_cons_self)
      (hexport model List.mem_cons_self)
    have hlisted' : (s.database.withModels
        (s.database.models.set model.handle.number model)).Listed := hlisted.withModels hhandles
    have hrest := run_importModels (s := ⟨_, s.session⟩) hlisted' hset
      (fun model hmodel => hsound model (List.mem_cons_of_mem _ hmodel))
      (fun model hmodel => hexport model (List.mem_cons_of_mem _ hmodel))
    rw [List.append_assoc, List.singleton_append] at hrest
    rw [List.map_cons, List.forM, ActOn.run_bind_of_ok hfirst]
    exact hrest

/-- Nothing is announced for a snapshot of the same version. -/
theorem run_announceVersion {old : Int} {s : DatabaseState σ}
    (h : s.database.options.version = old) :
    (announceVersion old : DatabaseAct σ Unit).run s = (.ok (), s) := by
  subst h
  rw [announceVersion, ActOn.run_get_bind]
  dsimp only
  rw [if_neg (Int.lt_irrefl _), if_neg (Int.lt_irrefl _)]
  rfl

/-- **A database reads its own snapshot back.** Take any declarations of nested paths and writes, in
any order, after which all stored documents go through a snapshot. A fresh database of the same
version with the same declarations imports the snapshot, and then it has the same models with the
same documents under the same ids in the same order; nothing else of it changes. -/
theorem restore_snapshot {options options' : DatabaseOptions σ} {place place' : SnapshotPlace}
    {session session' : Session σ} {events : List (Event σ)} {state fresh : DatabaseState σ}
    (hversion : options'.version = options.version)
    (hnested : ∀ name schema, .declare name schema ∈ events → schema.IsNested)
    (hstate : after events ⟨empty options place, session⟩ = state)
    (hfresh : after (declarations events) ⟨empty options' place', session'⟩ = fresh)
    (hexport : ∀ model ∈ state.database.models, ∀ entry ∈ model.records,
      model.handle.schema.Exportable entry.2) :
    (restore state.database.snapshot).run fresh =
      (.ok (), ⟨fresh.database.withModels state.database.models, fresh.session⟩) := by
  have hempty : ∀ options place, (empty options place : Database σ).Listed := listed_empty
  have hsound : state.database.Sound := by
    rw [← hstate]
    exact sound_after hnested ⟨hempty options place, fun _ hmodel => absurd hmodel List.not_mem_nil⟩
  have hcleared : Cleared fresh.database state.database := by
    rw [← hstate, ← hfresh]
    exact cleared_after_declarations events (hempty options place) ⟨rfl, rfl⟩
  have hoptions : fresh.database.options.version = state.database.snapshot.version := by
    show fresh.database.options.version = state.database.options.version
    rw [← hstate, ← hfresh, after_options _ (hempty options' place'),
      after_options _ (hempty options place)]
    exact hversion
  have hmodels : fresh.database.models =
      [] ++ state.database.models.map fun model => Model.empty model.handle := by
    rw [hcleared.models, handles, List.map_map]
    rfl
  have hrun := run_importModels (hcleared.listed hsound.listed) hmodels hsound.models hexport
  rw [← hsound.listed.snapshot_models, List.nil_append] at hrun
  rw [restore, ActOn.run_bind_of_ok hrun]
  exact run_announceVersion hoptions

/-! ## Databases of one document -/

/-- Options of a first version without callbacks. -/
def plainOptions : DatabaseOptions Unit := ⟨1, none, none⟩

/-- A model is declared and a document is inserted. -/
def oneDocument (name : String) (schema : Schema Unit) (data : Document) : List (Event Unit) :=
  [.declare name schema, .write name (.insert data)]

theorem nested_oneDocument {name : String} {schema : Schema Unit} {data : Document}
    (h : schema.IsNested) :
    ∀ name' schema', .declare name' schema' ∈ oneDocument name schema data → schema'.IsNested := by
  intro name' schema' hmem
  rcases List.mem_cons.mp hmem with heq | hmem
  · cases heq
    exact h
  · cases List.mem_singleton.mp hmem

/-- What holds of the only document of the only model. -/
theorem forall_of_models_eq {P : Schema Unit → Document → Prop} {models : List (Model Unit)}
    {handle : ModelHandle Unit} {id : String} {doc : Document}
    (hmodels : models = [⟨handle, [(id, doc)]⟩]) (h : P handle.schema doc) :
    ∀ model ∈ models, ∀ entry ∈ model.records, P model.handle.schema entry.2 := by
  subst hmodels
  intro model hmodel entry hentry
  cases List.mem_singleton.mp hmodel
  cases List.mem_singleton.mp hentry
  exact h

/-! ## A photo that comes back -/

/-- A date, a place as a group, and bytes. -/
def photoFields : List (String × Definition Unit) :=
  [("taken", .type .date), ("place", .nested [("name", .type .string)]), ("pixels", .type .buffer)]

def photoSchema : Schema Unit := ((Schema.declareAll "" photoFields).run Schema.empty).2

/-- A photo of the first day of 1970. -/
def photoData : Document :=
  [("_id", .string "c000000000000000000000000"), ("taken", .dateTime 0),
   ("place", .document [("name", .string "Zug")]), ("pixels", .binary 0 [0, 255])]

def photoState : DatabaseState Unit :=
  after (oneDocument "Photo" photoSchema photoData) ⟨empty plainOptions .unset, Session.idle⟩

def photoFresh : DatabaseState Unit :=
  after (declarations (oneDocument "Photo" photoSchema photoData))
    ⟨empty plainOptions .unset, Session.idle⟩

theorem isNested_photoSchema : photoSchema.IsNested := by
  refine ⟨photoFields, photoSchema, ?_, by cbv, ?_, rfl⟩
  · simp [photoFields, Definition.AllNamed, Definition.WellNamed]
  · unfold Schema.SetterFree
    decide

theorem pipeline_photoSchema :
    photoSchema.ensureId.pipeline =
      [("taken", .scalar "taken" .date .none), ("place", .object "place" .none),
       ("place.name", .scalar "place.name" .string .none),
       ("pixels", .scalar "pixels" .buffer .none),
       ("_id", .scalar "_id" .cuid { FieldOptions.none with required := true })] := by cbv

theorem covers_photoData : photoSchema.ensureId.Covers photoData := by
  have hleaves : Value.leavesEntries photoData =
      [(["_id"], .string "c000000000000000000000000"), (["taken"], .dateTime 0),
       (["place", "name"], .string "Zug"), (["pixels"], .binary 0 [0, 255])] := rfl
  rw [Schema.Covers, pipeline_photoSchema, hleaves]
  decide +kernel

theorem exportable_photoData : photoSchema.ensureId.Exportable photoData where
  keyed := by simp [photoData, Value.KeyedOnce, Value.KeyedOnceEntries]
  direct := by
    rw [pipeline_photoSchema]
    simp only [List.forall_mem_cons]
    exact ⟨by cbv, by cbv, by cbv, by cbv, by cbv, by simp⟩
  declared := by
    have htaken : photoData.removed? "taken" = some (.dateTime 0) := by cbv
    have hplace : photoData.removed? "place" = some (.document [("name", .string "Zug")]) := by cbv
    have hpixels : photoData.removed? "pixels" = some (.binary 0 [0, 255]) := by cbv
    rw [pipeline_photoSchema]
    simp only [List.forall_mem_cons]
    refine ⟨?_, ?_, fun _ _ _ => trivial, ?_, fun _ _ _ => trivial, by simp⟩
    · rintro value hvalue - millis rfl
      rw [htaken] at hvalue
      cases hvalue
      unfold Date.HasPlainYear
      decide +kernel
    · intro value hvalue hleaf
      rw [hplace] at hvalue
      cases hvalue
      cases hleaf
    · rintro value hvalue - subtype content rfl
      rw [hpixels] at hvalue
      cases hvalue
      exact ⟨rfl, fun hutf8 => by cases hutf8⟩
  undeclared := covers_photoData.undeclared

theorem models_photoState :
    photoState.database.models =
      [⟨⟨0, "Photo", photoSchema.ensureId⟩, [("c000000000000000000000000", photoData)]⟩] := by
  cbv

/-- The photo is stored, and a new database gets it from the snapshot. -/
theorem restore_snapshot_photo :
    (∃ model ∈ photoState.database.models, model.records ≠ []) ∧
      (restore photoState.database.snapshot).run photoFresh =
        (.ok (), ⟨photoFresh.database.withModels photoState.database.models,
          photoFresh.session⟩) := by
  constructor
  · rw [models_photoState]
    exact ⟨_, List.mem_singleton_self _, List.cons_ne_nil _ _⟩
  · have hversion : plainOptions.version = plainOptions.version := rfl
    have hexport := forall_of_models_eq (P := Schema.Exportable) models_photoState
      exportable_photoData
    exact restore_snapshot hversion (nested_oneDocument isNested_photoSchema) photoState.eq_def.symm
      photoFresh.eq_def.symm hexport

/-! ## A number that is lost -/

def measureSchema : Schema Unit :=
  ((Schema.declareAll "" [("x", .type .number)]).run Schema.empty).2

/-- An infinite number. -/
def measureData : Document :=
  [("_id", .string "c000000000000000000000000"), ("x", .double (.infinity false))]

def measureState : DatabaseState Unit :=
  after (oneDocument "Measure" measureSchema measureData)
    ⟨empty plainOptions .unset, Session.idle⟩

def measureFresh : DatabaseState Unit :=
  after (declarations (oneDocument "Measure" measureSchema measureData))
    ⟨empty plainOptions .unset, Session.idle⟩

theorem isNested_measureSchema : measureSchema.IsNested := by
  refine ⟨[("x", .type .number)], measureSchema, ?_, by cbv, ?_, rfl⟩
  · simp [Definition.AllNamed, Definition.WellNamed]
  · unfold Schema.SetterFree
    decide

theorem covers_measureData : measureSchema.ensureId.Covers measureData := by
  have hpipeline : measureSchema.ensureId.pipeline =
      [("x", .scalar "x" .number .none),
       ("_id", .scalar "_id" .cuid { FieldOptions.none with required := true })] := by cbv
  have hleaves : Value.leavesEntries measureData =
      [(["_id"], .string "c000000000000000000000000"), (["x"], .double (.infinity false))] := rfl
  rw [Schema.Covers, hpipeline, hleaves]
  decide +kernel

theorem models_measureState :
    measureState.database.models =
      [⟨⟨0, "Measure", measureSchema.ensureId⟩, [("c000000000000000000000000", measureData)]⟩] := by
  cbv

/-- The snapshot gives `null` for the infinite number. -/
theorem restore_measure :
    ((restore measureState.database.snapshot).run measureFresh).2.database.models =
      [⟨⟨0, "Measure", measureSchema.ensureId⟩,
        [("c000000000000000000000000",
          [("_id", .string "c000000000000000000000000"), ("x", .null)])]⟩] := by
  cbv

/-- Declared paths alone do not make a database read its snapshot back. -/
theorem exists_snapshot_that_loses :
    ¬ ∀ (events : List (Event Unit)) (state fresh : DatabaseState Unit),
      (∀ name schema, .declare name schema ∈ events → schema.IsNested) →
      after events ⟨empty plainOptions .unset, Session.idle⟩ = state →
      after (declarations events) ⟨empty plainOptions .unset, Session.idle⟩ = fresh →
      (∀ model ∈ state.database.models, ∀ entry ∈ model.records,
        model.handle.schema.Covers entry.2) →
      ((restore state.database.snapshot).run fresh).2.database.models = state.database.models := by
  intro hrestores
  have hcovers := forall_of_models_eq (P := Schema.Covers) models_measureState covers_measureData
  have hsame := hrestores _ measureState measureFresh (nested_oneDocument isNested_measureSchema)
    measureState.eq_def.symm measureFresh.eq_def.symm hcovers
  rw [restore_measure, models_measureState] at hsame
  cases hsame

end Database

end DocStore
