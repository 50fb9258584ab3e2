import DocStore.Proofs.Store.Sort
import DocStore.Proofs.Store.Write
import DocStore.Proofs.Value.Path
import DocStore.Store.Database
import Mathlib.Data.List.Induction
/-!
# How populations run

Looking up documents leaves a model as it is (`Model.Looks`), so a population changes a copy of one
document and the session, and nothing that is stored. `Database.resolution` is what a population
finds for the value under its path, in the model that is registered under a name
(`Database.target?`); `Database.run_populateStep` runs one population and
`Database.populateStep_eq_ok_iff` takes it apart.
-/

namespace DocStore

variable {σ α β : Type}

/-! ## Actions that only look -/

namespace Model

/-- Whether an action leaves the model as it is. -/
def Looks (act : ModelAct σ α) : Prop := ∀ s, (act.run s).2.model = s.model

namespace Looks

theorem pure (a : α) : Looks (Pure.pure a : ModelAct σ α) := fun _ => rfl

theorem inSession (act : Act σ α) : Looks (Model.inSession act) := fun _ => rfl

theorem onHost (f : StateM σ α) : Looks (Model.onHost f) := fun _ => rfl

theorem currentHandle : Looks (Model.currentHandle : ModelAct σ (ModelHandle σ)) := fun _ => rfl

theorem bind {act : ModelAct σ α} {next : α → ModelAct σ β} (h : Looks act)
    (hnext : ∀ a, Looks (next a)) : Looks (act >>= next) := by
  intro s
  rw [ActOn.run_bind]
  have hact := h s
  rcases hrun : act.run s with ⟨e | a, t⟩
  · rw [hrun] at hact
    exact hact
  · rw [hrun] at hact
    exact (hnext a t).trans hact

theorem mapM {f : α → ModelAct σ β} (h : ∀ a, Looks (f a)) (items : List α) :
    Looks (items.mapM f) := by
  intro s
  refine ActOn.mapM_preserves (P := fun t : ModelState σ => t.model = s.model) (fun a t ht => ?_)
    items rfl
  exact (h a t).trans ht

end Looks

theorem run_find?_of_none {id : String} {s : ModelState σ} (h : s.model.records.get? id = none) :
    (find? id).run s = (.ok none, s) := by
  rw [find?, ActOn.run_get_bind, h]
  rfl

/-- Nothing is found only where nothing is stored. -/
theorem get?_of_find?_eq_none {id : String} {s t : ModelState σ}
    (h : (find? id).run s = (.ok none, t)) : s.model.records.get? id = none := by
  rw [find?, ActOn.run_get_bind] at h
  rcases hget : s.model.records.get? id with _ | data
  · rfl
  · rw [hget] at h
    obtain ⟨found, u, -, hfound⟩ := ActOn.bind_eq_ok h
    cases hfound

theorem looks_find? (id : String) : Looks (find? id : ModelAct σ (Option (LiveDocument σ))) := by
  intro s
  rw [find?, ActOn.run_get_bind]
  split
  · exact Looks.bind (fun _ => rfl) (fun doc => .pure _) s
  · rfl

/-- Whether the document of an id is found in a model, in every session in which it can be read, and
has this id. -/
def Held (model : Model σ) (id : String) : Prop :=
  ∀ session found t, (find? id).run ⟨model, session⟩ = (.ok found, t) →
    ∃ doc, found = some doc ∧ doc.id? = some id

end Model

namespace Database

theorem looks_findAll (ids : List Value) :
    Model.Looks (findAll ids : ModelAct σ (List (LiveDocument σ))) :=
  .bind (.mapM Model.looks_find? _) fun _ => .pure _

theorem looks_keepMatching (handle : ModelHandle σ) (matching : Option Document)
    (documents : List (LiveDocument σ)) :
    Model.Looks (keepMatching handle matching documents) := by
  cases matching with
  | none => exact .pure documents
  | some query => exact .bind (.inSession _) fun _ => .bind (.onHost _) fun _ => .pure _

theorem looks_sortFound (handle : ModelHandle σ) (keys : List SortKey)
    (documents : List (LiveDocument σ)) : Model.Looks (sortFound handle keys documents) := by
  unfold sortFound
  split
  · exact .pure documents
  · exact .onHost _

theorem looks_resolveMany (ids : List Value) (selection : Selection) :
    Model.Looks (resolveMany ids selection : ModelAct σ (List (ResolvedDocument σ))) :=
  .bind .currentHandle fun _ => .bind (looks_findAll ids) fun _ =>
    .bind (looks_keepMatching _ _ _) fun _ => .bind (looks_sortFound _ _ _) fun _ => .pure _

theorem looks_resolveOne (id : String) (selection : Selection) :
    Model.Looks (resolveOne id selection : ModelAct σ (Option (ResolvedDocument σ))) := by
  refine .bind (Model.looks_find? id) fun found => ?_
  cases found with
  | none => exact .pure none
  | some doc =>
    exact .bind .currentHandle fun _ => .bind (looks_keepMatching _ _ _) fun _ => .pure _

/-! ## One population -/

/-- The model of a name, in which a population looks. -/
def target? (db : Database σ) (name : String) : Except StoreError (Model σ) :=
  if db.dropped then .error (.persistence .databaseDropped)
  else match db.registered? name with
    | some found => .ok ((db.model? found.handle.number).getD (Model.empty found.handle))
    | none => .error (.population (.unregisteredModel name))

/-- What a population finds for the value under its path: documents, and the value that stands for
them. -/
def resolution (value : Option Value) (selection : Selection) :
    ModelAct σ (Option (List (ResolvedDocument σ) × Value)) :=
  match value with
  | some (.array ids) => do
    let found ← resolveMany ids selection
    return some (found, .array (found.map fun d => .document d.data))
  | some (.string id) => do
    let found ← resolveOne id selection
    return found.map fun d => ([d], .document d.data)
  | _ => return none

theorem looks_resolution (value : Option Value) (selection : Selection) :
    Model.Looks (resolution value selection :
      ModelAct σ (Option (List (ResolvedDocument σ) × Value))) := by
  unfold resolution
  split
  · exact .bind (looks_resolveMany _ _) fun _ => .pure _
  · exact .bind (looks_resolveOne _ _) fun _ => .pure _
  · exact .pure none

end Database

namespace LiveDocument

/-- A document with what a population found for a path. -/
def hold (doc : LiveDocument σ) (path : String) :
    Option (List (ResolvedDocument σ) × Value) → LiveDocument σ
  | some (found, value) => doc.populate path found value
  | none => doc

variable (doc : LiveDocument σ) (path : String) (found : List (ResolvedDocument σ)) (value : Value)

@[simp] theorem hold_none : doc.hold path none = doc := rfl

@[simp] theorem data_hold_some :
    (doc.hold path (some (found, value))).data = doc.data.set path value := rfl

@[simp] theorem resolved_hold_some :
    (doc.hold path (some (found, value))).resolved = doc.resolved.insert path found := rfl

@[simp] theorem model_hold (result : Option (List (ResolvedDocument σ) × Value)) :
    (doc.hold path result).model = doc.model := by
  rcases result with _ | ⟨found, value⟩ <;> rfl

/-- Populations keep a document that remembers no virtual values as it is in this. -/
theorem copy_hold (result : Option (List (ResolvedDocument σ) × Value)) :
    (doc.hold path result).copy = doc.copy.hold path result := by
  rcases result with _ | ⟨found, value⟩ <;> rfl

end LiveDocument

namespace Database

/-- Putting a model back where it is changes nothing. -/
theorem models_set_self (db : Database σ) (handle : ModelHandle σ) :
    db.models.set handle.number ((db.model? handle.number).getD (Model.empty handle)) =
      db.models := by
  rw [model?]
  rcases hmodel : db.models[handle.number]? with _ | model
  · exact List.set_eq_of_length_le (List.getElem?_eq_none_iff.mp hmodel)
  · obtain ⟨hlt, hget⟩ := List.getElem?_eq_some_iff.mp hmodel
    simp [← hget]

/-- An action that looks into a model leaves the database as it is. -/
theorem run_onModel_of_looks {act : ModelAct σ α} (h : Model.Looks act) (handle : ModelHandle σ)
    {model : Model σ} {s : DatabaseState σ}
    (hmodel : (s.database.model? handle.number).getD (Model.empty handle) = model) :
    (onModel handle act).run s =
      ((act.run ⟨model, s.session⟩).1, ⟨s.database, (act.run ⟨model, s.session⟩).2.session⟩) := by
  have hkeeps : (act.run ⟨model, s.session⟩).2.model = model := h ⟨model, s.session⟩
  have hdatabase : s.database.models.set handle.number model = s.database.models := by
    rw [← hmodel]
    exact models_set_self s.database handle
  have hrun : (onModel handle act).run s =
      ((act.run ⟨model, s.session⟩).1,
        ⟨{ s.database with
            models := s.database.models.set handle.number (act.run ⟨model, s.session⟩).2.model },
          (act.run ⟨model, s.session⟩).2.session⟩) := by
    rw [← hmodel]
    rfl
  rw [hrun, hkeeps, hdatabase]

theorem run_requireOpen (s : DatabaseState σ) : (requireOpen : DatabaseAct σ Unit).run s =
    if s.database.dropped then (.error (.persistence .databaseDropped), s) else (.ok (), s) := by
  rw [requireOpen, ActOn.run_get_bind]
  split <;> rfl

/-- A name is looked up: an open database knows its model, or there is an error. -/
theorem run_lookup (name : String) (s : DatabaseState σ) :
    (lookup name).run s =
      if s.database.dropped then (.error (.persistence .databaseDropped), s)
      else match s.database.registered? name with
        | some found => (.ok found.handle, s)
        | none => (.error (.population (.unregisteredModel name)), s) := by
  rw [lookup, ActOn.run_bind, run_requireOpen]
  by_cases hdropped : s.database.dropped = true
  · rw [if_pos hdropped, if_pos hdropped]
  · rw [if_neg hdropped, if_neg hdropped]
    dsimp only
    rw [ActOn.run_get_bind]
    cases s.database.registered? name <;> rfl

theorem run_onHost (f : StateM σ α) (s : DatabaseState σ) :
    (onHost f).run s =
      (.ok (f s.session.host).1,
        ⟨s.database, { s.session with host := (f s.session.host).2 }⟩) := rfl

/-- A path without a getter is read from the data. -/
theorem run_get_of_plain {doc : LiveDocument σ} {path : String}
    (hplain : doc.model.schema.getter? path = none) (s : DatabaseState σ) :
    (onHost (LiveDocument.get path doc)).run s = (.ok (doc.data.get? path, doc), s) := by
  have hknown : doc.known? path = some (doc.data.get? path) := by
    simp only [LiveDocument.known?, hplain]
  have hread : LiveDocument.read path (doc, s.session.host) =
      (doc.data.get? path, doc, s.session.host) :=
    LiveDocument.readWithin_of_known hknown _
  have hget : LiveDocument.get path doc s.session.host =
      ((doc.data.get? path, doc), s.session.host) := by
    rw [LiveDocument.get, hread]
  rw [run_onHost, hget]

/-- One population: the target is looked up, and what is found there for the value under the path is
put under the path. -/
theorem run_populateStep {doc : LiveDocument σ} {population : Population}
    (hplain : doc.model.schema.getter? population.path = none) (s : DatabaseState σ) :
    (populateStep doc population).run s =
      match s.database.target? population.model with
      | .error e => (.error e, s)
      | .ok model =>
        match (resolution (doc.data.get? population.path) population.selection).run
            ⟨model, s.session⟩ with
        | (.ok found, after) => (.ok (doc.hold population.path found), ⟨s.database, after.session⟩)
        | (.error e, after) => (.error e, ⟨s.database, after.session⟩) := by
  rw [populateStep, ActOn.run_bind, run_lookup, target?]
  by_cases hdropped : s.database.dropped = true
  · rw [if_pos hdropped, if_pos hdropped]
  rw [if_neg hdropped, if_neg hdropped]
  cases hregistered : s.database.registered? population.model with
  | none => rfl
  | some found =>
    dsimp only
    rw [ActOn.run_bind, run_get_of_plain hplain]
    dsimp only
    cases hvalue : doc.data.get? population.path with
    | none => rfl
    | some value =>
      cases value with
      | array ids =>
        dsimp only [resolution]
        rw [ActOn.run_bind, run_onModel_of_looks (looks_resolveMany ids _) _ rfl, ActOn.run_bind]
        generalize (s.database.model? found.handle.number).getD _ = model
        rcases (resolveMany ids population.selection).run ⟨model, s.session⟩ with
          ⟨_ | documents, after⟩ <;> rfl
      | string id =>
        dsimp only [resolution]
        rw [ActOn.run_bind, run_onModel_of_looks (looks_resolveOne id _) _ rfl, ActOn.run_bind]
        generalize (s.database.model? found.handle.number).getD _ = model
        rcases (resolveOne id population.selection).run ⟨model, s.session⟩ with
          ⟨_ | _ | document, after⟩ <;> rfl
      | _ => rfl

/-- A population that succeeds has put under its path what is found in its model, and changed
nothing that is stored. -/
theorem populateStep_eq_ok {doc doc' : LiveDocument σ} {population : Population}
    (hplain : doc.model.schema.getter? population.path = none) {s t : DatabaseState σ}
    (h : (populateStep doc population).run s = (.ok doc', t)) :
    t.database = s.database ∧ ∃ model found, s.database.target? population.model = .ok model ∧
      (resolution (doc.data.get? population.path) population.selection).run ⟨model, s.session⟩ =
        (.ok found, ⟨model, t.session⟩) ∧
      doc' = doc.hold population.path found := by
  rw [run_populateStep hplain] at h
  rcases htarget : s.database.target? population.model with e | model
  · rw [htarget] at h
    cases h
  · rw [htarget] at h
    dsimp only at h
    have hlooks := looks_resolution (doc.data.get? population.path) population.selection
      ⟨model, s.session⟩
    rcases hrun : (resolution (doc.data.get? population.path) population.selection).run
        ⟨model, s.session⟩ with ⟨_ | found, after⟩
    · rw [hrun] at h
      cases h
    · rw [hrun] at h hlooks
      cases h
      have hafter : after = ⟨model, after.session⟩ :=
        congrArg (ModelState.mk · after.session) hlooks
      refine ⟨rfl, model, found, rfl, ?_, rfl⟩
      rw [hrun]
      exact congrArg (Prod.mk _) hafter

/-! ## Populations in turn -/

/-- Whether no population has a path with a getter. -/
def Plain (schema : Schema σ) (populations : List Population) : Prop :=
  ∀ population ∈ populations, schema.getter? population.path = none

/-- What every population keeps, behind those that were run before it, a run of populations keeps;
it changes nothing that is stored. -/
theorem run_populations {P : List Population → LiveDocument σ → Prop}
    {populations : List Population} {doc once : LiveDocument σ} {s t : DatabaseState σ}
    (hplain : Plain doc.model.schema populations) (hstart : P [] doc)
    (hstep : ∀ before population after d u model found session,
      populations = before ++ population :: after →
      (before.foldlM populateStep doc).run s = (.ok d, u) → P before d →
      s.database.target? population.model = .ok model →
      (resolution (d.data.get? population.path) population.selection).run ⟨model, u.session⟩ =
        (.ok found, ⟨model, session⟩) →
      P (before ++ [population]) (d.hold population.path found))
    (h : (populations.foldlM populateStep doc).run s = (.ok once, t)) :
    t.database = s.database ∧ once.model = doc.model ∧ (doc.copy = doc → once.copy = once) ∧
      P populations once := by
  induction populations using List.reverseRecOn generalizing once t with
  | nil =>
    cases h
    exact ⟨rfl, rfl, id, hstart⟩
  | append_singleton before population ih =>
    rw [List.foldlM_append] at h
    obtain ⟨d, u, hbefore, hlast⟩ := ActOn.bind_eq_ok h
    have hplainBefore : Plain doc.model.schema before := fun other hother =>
      hplain other (List.mem_append_left _ hother)
    have hkept : u.database = s.database ∧ d.model = doc.model ∧
        (doc.copy = doc → d.copy = d) ∧ P before d := by
      refine ih hplainBefore (fun earlier other later d u model found session hsplit => ?_) hbefore
      refine hstep earlier other (later ++ [population]) d u model found session ?_
      rw [hsplit]
      simp
    obtain ⟨hdatabase, hmodel, hcopy, hprefix⟩ := hkept
    have hpopulation : d.model.schema.getter? population.path = none := by
      rw [hmodel]
      exact hplain population (List.mem_append_right _ List.mem_cons_self)
    rw [List.foldlM_cons] at hlast
    obtain ⟨d', u', hrun, hend⟩ := ActOn.bind_eq_ok hlast
    cases hend
    obtain ⟨hdatabase', model, found, htarget, hfound, rfl⟩ := populateStep_eq_ok hpopulation hrun
    rw [hdatabase] at htarget
    refine ⟨hdatabase'.trans hdatabase, by rw [LiveDocument.model_hold, hmodel],
      fun hsame => ?_, ?_⟩
    · rw [LiveDocument.copy_hold, hcopy hsame]
    · exact hstep before population [] d u model found t.session rfl hbefore hprefix htarget hfound

end Database

end DocStore
