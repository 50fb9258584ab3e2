import DocStore.Proofs.Store.Identity
import DocStore.Proofs.Store.Validity
import DocStore.Store.Database
/-!
# Runs of a database

An `Event` declares a model under a name, writes a document of the model of a name or changes the
session, and `after` is the state in which a list of events leaves a database. A write of several
documents is a list of events: one that finds them, and a write of each. `Event.perform_effect` says
all that an event can do.

The registry of a database that events have made lists the models in order (`Listed`). Where the
paths of all models are nested declarations, their documents are stored under their ids and valid
(`Model.Sound`), after any events (`sound_after`). The declarations alone lead to the same models
without documents (`cleared_after_declarations`).
-/

namespace DocStore

variable {σ : Type}

/-- Whether the paths of a schema are nested declarations under distinct names without dots, and
none has a setter. The other parts of the schema, such as its hooks, are arbitrary. -/
def Schema.IsNested (schema : Schema σ) : Prop :=
  ∃ fields declared, Definition.AllNamed fields ∧
    (Schema.declareAll "" fields).run Schema.empty = (.ok (), declared) ∧
    Schema.SetterFree declared.pipeline ∧
    schema.ensureId.pipeline = declared.ensureId.pipeline

/-- Whether the documents of a model are stored under their ids and valid, and remain so. -/
structure Model.Sound (model : Model σ) : Prop where
  layered : Schema.Layered model.handle.schema.pipeline
  setterFree : Schema.SetterFree model.handle.schema.pipeline
  keyed : KeyedById model.records
  settled : model.SettledRecords

/-- A new model of nested declarations is sound. -/
theorem Model.sound_empty {schema : Schema σ} (h : schema.IsNested) (number : Nat) (name : String) :
    (Model.empty ⟨number, name, schema.ensureId⟩).Sound := by
  obtain ⟨fields, declared, hnamed, hdeclared, hfree, hpipeline⟩ := h
  have hlayered := Schema.layered_ensureId hnamed hdeclared
  have hfree' := Schema.setterFree_ensureId hfree
  rw [← hpipeline] at hlayered hfree'
  exact ⟨hlayered, hfree', KeyedById.nil, Model.settledRecords_empty _⟩

/-- Writes keep a model sound. -/
theorem Model.Sound.perform {model : Model σ} (h : model.Sound) (w : Model.Write)
    (session : Session σ) : (w.perform.run ⟨model, session⟩).2.model.Sound := by
  refine w.perform_preserves (P := Model.Sound) ?_ ?_ h
  · intro before hsound id stored after hid hchecked
    exact ⟨hsound.layered, hsound.setterFree, hsound.keyed.insert hid,
      hsound.settled.insert hsound.setterFree hsound.layered id hchecked⟩
  · intro before hsound id
    exact ⟨hsound.layered, hsound.setterFree, hsound.keyed.erase id, hsound.settled.erase id⟩

/-- Writes keep the fixed parts of a model. -/
theorem Model.Write.perform_handle (w : Model.Write) (s : ModelState σ) :
    (w.perform.run s).2.model.handle = s.model.handle :=
  w.perform_preserves (P := fun model => model.handle = s.model.handle)
    (fun _ h _ _ _ _ _ => h) (fun _ h _ => h) rfl

namespace Database

variable {α β : Type}

/-! ## Steps of actions on a database -/

/-- The database with other models. -/
def withModels (db : Database σ) (models : List (Model σ)) : Database σ := { db with models }

theorem run_model (name : String) (schema : Schema σ) (s : DatabaseState σ) :
    (model name schema).run s =
      match s.database.registered? name with
      | some found => (.ok found.handle, s)
      | none =>
        (.ok (s.database.register name schema).1,
          ⟨(s.database.register name schema).2, s.session⟩) := by
  rw [model, ActOn.run_get_bind]
  dsimp only
  cases s.database.registered? name <;> rfl

/-- An action on a model that is there. -/
theorem run_onModel {handle : ModelHandle σ} {model : Model σ} {s : DatabaseState σ}
    (h : s.database.model? handle.number = some model) (act : ModelAct σ α) :
    (onModel handle act).run s =
      ((act.run ⟨model, s.session⟩).1,
        ⟨s.database.withModels
            (s.database.models.set handle.number (act.run ⟨model, s.session⟩).2.model),
          (act.run ⟨model, s.session⟩).2.session⟩) := by
  show onModel handle act s = _
  simp only [onModel, h, Option.getD_some]
  rfl

/-! ## Registries -/

/-- The fixed parts of the models. -/
def handles (db : Database σ) : List (ModelHandle σ) := db.models.map Model.handle

/-- Whether the registry lists the models in order, each under its own name. -/
structure Listed (db : Database σ) : Prop where
  registry : db.registry = db.handles.map fun handle => (handle.name, handle.number)
  numbers : db.handles.map ModelHandle.number = List.range db.models.length
  names : (db.handles.map ModelHandle.name).Nodup

theorem listed_empty (options : DatabaseOptions σ) (place : SnapshotPlace) :
    (empty options place).Listed := ⟨rfl, rfl, List.nodup_nil⟩

variable {db : Database σ}

theorem Listed.keys (h : db.Listed) : db.registry.keys = db.handles.map ModelHandle.name := by
  rw [h.registry, OrderedMap.keys, List.map_map]
  rfl

/-- Models are found by their numbers. -/
theorem Listed.number_of_getElem? (h : db.Listed) {number : Nat} {model : Model σ}
    (hmodel : db.models[number]? = some model) : model.handle.number = number := by
  have hnumber := congrArg (·[number]?) h.numbers
  simp only [handles, List.map_map, List.getElem?_map, hmodel, Option.map_some] at hnumber
  obtain ⟨hlt, -⟩ := List.getElem?_eq_some_iff.mp hmodel
  rw [List.getElem?_range hlt, Option.some.injEq] at hnumber
  exact hnumber

/-- A registered model is found by its number. -/
theorem Listed.model?_of_registered? (h : db.Listed) {name : String} {model : Model σ}
    (hmodel : db.registered? name = some model) : db.model? model.handle.number = some model := by
  rw [registered?, Option.bind_eq_some_iff] at hmodel
  obtain ⟨number, -, hfound⟩ := hmodel
  rw [h.number_of_getElem? hfound]
  exact hfound

/-- Every model is registered under its name. -/
theorem Listed.registered?_name (h : db.Listed) {number : Nat} {model : Model σ}
    (hmodel : db.models[number]? = some model) : db.registered? model.handle.name = some model := by
  have hnodup : db.registry.keys.Nodup := by
    rw [h.keys]
    exact h.names
  have hmem : (model.handle.name, number) ∈ db.registry := by
    rw [h.registry, ← h.number_of_getElem? hmodel]
    exact List.mem_map.mpr
      ⟨model.handle, List.mem_map_of_mem (List.mem_of_getElem? hmodel), rfl⟩
  rw [registered?, OrderedMap.get?_of_mem hnodup hmem]
  exact hmodel

/-- A name without a model is not in the registry. -/
theorem Listed.not_mem_of_registered? (h : db.Listed) {name : String}
    (hname : db.registered? name = none) : name ∉ db.registry.keys := by
  rw [h.keys, handles, List.map_map]
  rintro hmem
  obtain ⟨model, hmodel, rfl⟩ := List.mem_map.mp hmem
  obtain ⟨number, hnumber⟩ := List.mem_iff_getElem?.mp hmodel
  have hfound := h.registered?_name hnumber
  rw [Function.comp_apply, hfound] at hname
  cases hname

/-- A new model comes last. -/
theorem Listed.register (h : db.Listed) {name : String} (hname : db.registered? name = none)
    (schema : Schema σ) : (db.register name schema).2.Listed := by
  have hfresh := h.not_mem_of_registered? hname
  have hhandles : (db.register name schema).2.handles =
      db.handles ++ [⟨db.models.length, name, schema.ensureId⟩] := List.map_append
  refine ⟨?_, ?_, ?_⟩
  · rw [hhandles, List.map_append, ← h.registry]
    exact OrderedMap.insert_of_not_mem _ hfresh
  · rw [hhandles, List.map_append, h.numbers]
    show _ = List.range (db.models ++ [_]).length
    rw [List.length_append, List.length_singleton, List.range_succ]
    rfl
  · rw [hhandles, List.map_append, ← h.keys]
    refine List.nodup_append.mpr ⟨h.keys ▸ h.names, List.nodup_singleton name, ?_⟩
    rintro a ha b hb rfl
    cases List.mem_singleton.mp hb
    exact hfresh ha

/-- The registry of models with the same handles. -/
theorem Listed.withModels (h : db.Listed) {models : List (Model σ)}
    (hhandles : models.map Model.handle = db.handles) : (db.withModels models).Listed := by
  have hlength : models.length = db.models.length := by
    rw [← List.length_map (f := Model.handle), hhandles, handles, List.length_map]
  refine ⟨?_, ?_, ?_⟩
  · show db.registry = (models.map Model.handle).map _
    rw [hhandles]
    exact h.registry
  · show (models.map Model.handle).map _ = List.range models.length
    rw [hhandles, hlength]
    exact h.numbers
  · show ((models.map Model.handle).map _).Nodup
    rw [hhandles]
    exact h.names

/-! ## Events -/

/-- What happens to a database: a model is declared under a name, a document of the model of a name
is written, or the session changes meanwhile, as it does when documents are read. -/
inductive Event (σ : Type) where
  | declare (name : String) (schema : Schema σ)
  | write (name : String) (w : Model.Write)
  | meanwhile (change : Session σ → Session σ)

namespace Event

/-- An event from beginning to end. Without a model of the name, nothing is written. -/
def perform : Event σ → DatabaseAct σ Unit
  | declare name schema => do
    let _ ← model name schema
  | write name w => do
    match (← get).database.registered? name with
    | none => return ()
    | some model =>
      let _ ← onModel model.handle w.perform
  | meanwhile change => modify fun state => { state with session := change state.session }

def isDeclaration : Event σ → Bool
  | declare _ _ => true
  | _ => false

/-- What an event may do to a database: nothing, a new model, or a write of a model. -/
inductive Effect (db : Database σ) : Event σ → Database σ → Prop
  | known (name : String) (schema : Schema σ) (model : Model σ)
      (found : db.registered? name = some model) : Effect db (declare name schema) db
  | declared (name : String) (schema : Schema σ) (free : db.registered? name = none) :
      Effect db (declare name schema) (db.register name schema).2
  | unknown (name : String) (w : Model.Write) (free : db.registered? name = none) :
      Effect db (write name w) db
  | written (name : String) (w : Model.Write) (model : Model σ) (session : Session σ)
      (found : db.registered? name = some model) :
      Effect db (write name w) (db.withModels
        (db.models.set model.handle.number (w.perform.run ⟨model, session⟩).2.model))
  | meanwhile (change : Session σ → Session σ) : Effect db (.meanwhile change) db

/-- **An event has one of these effects.** -/
theorem perform_effect (e : Event σ) {s : DatabaseState σ} (h : s.database.Listed) :
    Effect s.database e (e.perform.run s).2.database := by
  cases e with
  | declare name schema =>
    rw [perform, ActOn.run_discard_state, run_model]
    rcases hname : s.database.registered? name with _ | found
    · exact .declared name schema hname
    · exact .known name schema found hname
  | write name w =>
    rw [perform, ActOn.run_get_bind]
    rcases hname : s.database.registered? name with _ | found
    · exact .unknown name w hname
    · dsimp only
      rw [ActOn.run_discard_state, run_onModel (h.model?_of_registered? hname)]
      exact .written name w found s.session hname
  | meanwhile change => exact .meanwhile change

end Event

/-! ## What events keep -/

/-- A write of a model keeps the fixed parts of all models. -/
theorem handles_set {model after : Model σ} {number : Nat}
    (hmodel : db.models[number]? = some model) (hhandle : after.handle = model.handle) :
    (db.models.set number after).map Model.handle = db.handles := by
  obtain ⟨hlt, rfl⟩ := List.getElem?_eq_some_iff.mp hmodel
  have hlt' : number < db.handles.length := by
    rw [handles, List.length_map]
    exact hlt
  have hat : db.models[number].handle = db.handles[number] := by
    simp only [handles, List.getElem_map]
  rw [List.map_set, hhandle, hat]
  exact List.set_getElem_self _

namespace Event

variable {e : Event σ} {db' : Database σ}

theorem Effect.options (effect : Effect db e db') : db'.options = db.options := by
  cases effect <;> rfl

theorem Effect.listed (effect : Effect db e db') (h : db.Listed) : db'.Listed := by
  cases effect with
  | known name schema model found => exact h
  | declared name schema free => exact h.register free schema
  | unknown name w free => exact h
  | written name w model session found =>
    exact h.withModels (handles_set (h.model?_of_registered? found) (w.perform_handle _))
  | meanwhile change => exact h

end Event

/-- Whether the registry lists the models, and all models are sound. -/
structure Sound (db : Database σ) : Prop where
  listed : db.Listed
  models : ∀ model ∈ db.models, model.Sound

/-- An event keeps a database sound. -/
theorem Event.Effect.sound {e : Event σ} {db' : Database σ} (effect : Effect db e db')
    (h : db.Sound) (hnested : ∀ name schema, e = declare name schema → schema.IsNested) :
    db'.Sound := by
  refine ⟨effect.listed h.listed, ?_⟩
  cases effect with
  | known name schema model found => exact h.models
  | declared name schema free =>
    intro model hmodel
    rcases List.mem_append.mp hmodel with hold | hnew
    · exact h.models model hold
    · cases List.mem_singleton.mp hnew
      exact Model.sound_empty (hnested name schema rfl) _ name
  | unknown name w free => exact h.models
  | written name w model session found =>
    intro other hother
    rcases List.mem_or_eq_of_mem_set hother with hold | rfl
    · exact h.models other hold
    · have hmodel := List.mem_of_getElem? (h.listed.model?_of_registered? found)
      exact (h.models model hmodel).perform w session
  | meanwhile change => exact h.models

/-- Whether a database has the models of another one, without their documents. -/
structure Cleared (cleared db : Database σ) : Prop where
  registry : cleared.registry = db.registry
  models : cleared.models = db.handles.map Model.empty

theorem Cleared.handles {cleared : Database σ} (h : Cleared cleared db) :
    cleared.handles = db.handles := by
  rw [Database.handles, h.models, List.map_map]
  exact List.map_id _

theorem Cleared.registered? {cleared : Database σ} (h : Cleared cleared db) (name : String) :
    cleared.registered? name = (db.registered? name).map fun model => Model.empty model.handle := by
  rw [Database.registered?, Database.registered?, h.registry]
  rcases db.registry.get? name with _ | number
  · rfl
  · rw [Option.bind_some, Option.bind_some, model?, model?, h.models, Database.handles,
      List.getElem?_map, List.getElem?_map, Option.map_map]
    rfl

theorem Cleared.listed {cleared : Database σ} (h : Cleared cleared db) (hlisted : db.Listed) :
    cleared.Listed := by
  refine ⟨?_, ?_, ?_⟩
  · rw [h.handles, h.registry]
    exact hlisted.registry
  · rw [h.handles, h.models, List.length_map, Database.handles, List.length_map]
    exact hlisted.numbers
  · rw [h.handles]
    exact hlisted.names

/-- A declaration keeps two databases alike but for documents. -/
theorem Cleared.declare {cleared cleared' db' : Database σ} {name : String} {schema : Schema σ}
    (h : Cleared cleared db) (effect : Event.Effect db (.declare name schema) db')
    (effect' : Event.Effect cleared (.declare name schema) cleared') : Cleared cleared' db' := by
  have hname := h.registered? name
  cases effect with
  | known _ _ model found =>
    cases effect' with
    | known _ _ model' found' => exact h
    | declared _ _ free' =>
      rw [found, free'] at hname
      cases hname
  | declared _ _ free =>
    cases effect' with
    | known _ _ model' found' =>
      rw [free, found'] at hname
      cases hname
    | declared _ _ free' =>
      have hlength : cleared.models.length = db.models.length := by
        rw [h.models, List.length_map, Database.handles, List.length_map]
      constructor
      · show cleared.registry.insert name cleared.models.length = _
        rw [h.registry, hlength]
        rfl
      · show cleared.models ++ [Model.empty ⟨cleared.models.length, name, schema.ensureId⟩] = _
        rw [hlength, h.models, register, Database.handles, Database.handles, List.map_append,
          List.map_append]
        rfl

/-- A write changes nothing but documents. -/
theorem Cleared.write {cleared db' : Database σ} {name : String} {w : Model.Write}
    (h : Cleared cleared db) (hlisted : db.Listed)
    (effect : Event.Effect db (.write name w) db') : Cleared cleared db' := by
  cases effect with
  | unknown _ _ free => exact h
  | written _ _ model session found =>
    refine ⟨h.registry, ?_⟩
    rw [h.models]
    exact congrArg (List.map Model.empty)
      (handles_set (hlisted.model?_of_registered? found) (w.perform_handle _)).symm

/-! ## Runs -/

/-- The state after events, whether they succeed or fail. -/
def after (events : List (Event σ)) (s : DatabaseState σ) : DatabaseState σ :=
  events.foldl (fun s e => (e.perform.run s).2) s

/-- The declarations among events. -/
def declarations (events : List (Event σ)) : List (Event σ) := events.filter Event.isDeclaration

theorem after_options (events : List (Event σ)) {s : DatabaseState σ} (h : s.database.Listed) :
    (after events s).database.options = s.database.options := by
  induction events generalizing s with
  | nil => rfl
  | cons e events ih =>
    have effect := e.perform_effect h
    exact (ih (effect.listed h)).trans effect.options

/-- **Events keep a database sound, where all declarations are nested.** -/
theorem sound_after {events : List (Event σ)} {s : DatabaseState σ}
    (hnested : ∀ name schema, .declare name schema ∈ events → schema.IsNested)
    (h : s.database.Sound) : (after events s).database.Sound := by
  induction events generalizing s with
  | nil => exact h
  | cons e events ih =>
    have effect := e.perform_effect h.listed
    refine ih (fun name schema hmem => hnested name schema (List.mem_cons_of_mem _ hmem))
      (effect.sound h ?_)
    rintro name schema rfl
    exact hnested name schema List.mem_cons_self

/-- **The declarations alone lead to the same models without documents.** -/
theorem cleared_after_declarations (events : List (Event σ)) {s t : DatabaseState σ}
    (hlisted : s.database.Listed) (h : Cleared t.database s.database) :
    Cleared (after (declarations events) t).database (after events s).database := by
  induction events generalizing s t with
  | nil => exact h
  | cons e events ih =>
    have effect := e.perform_effect hlisted
    cases e with
    | declare name schema =>
      exact ih (effect.listed hlisted)
        (h.declare effect (Event.perform_effect _ (h.listed hlisted)))
    | write name w => exact ih (effect.listed hlisted) (h.write hlisted effect)
    | meanwhile change => exact ih hlisted h

end Database

end DocStore
