import DocStore.Proofs.Store.Arrival
import DocStore.Proofs.Store.Events
import DocStore.Proofs.Store.Population
import DocStore.Proofs.Store.Sound
/-!
# Updates of many documents

An update by id looks at the document under the id and at nothing else that is stored
(`Model.LocalTo`), and it changes nothing else. So updates of different documents in turn do what
each of them does alone: `Model.UpdatesEach` runs every one of them on the model as it is before the
first, and they only pass the session on.

`Database.updateWhere_updates_each` is this for the documents that match a query. They are found
before the first update, and an update that makes another document match or not match has no part in
it.
-/

namespace DocStore

variable {σ α β : Type}

namespace Model

/-! ## Actions on the document of one id -/

/-- Whether two states of a model agree but for documents under other ids. -/
structure AgreeAt (id : String) (s t : ModelState σ) : Prop where
  handle : s.model.handle = t.model.handle
  record : s.model.records.get? id = t.model.records.get? id
  session : s.session = t.session

/-- Whether an action does the same on models that agree on the document of an id. -/
def LocalTo (id : String) (act : ModelAct σ α) : Prop :=
  ∀ s t, AgreeAt id s t → (act.run s).1 = (act.run t).1 ∧ AgreeAt id (act.run s).2 (act.run t).2

namespace LocalTo

variable {id : String}

theorem pure (a : α) : LocalTo id (Pure.pure a : ModelAct σ α) := fun _ _ h => ⟨rfl, h⟩

theorem throw (e : StoreError) : LocalTo id (MonadExcept.throw e : ModelAct σ α) :=
  fun _ _ h => ⟨rfl, h⟩

theorem bind {act : ModelAct σ α} {next : α → ModelAct σ β} (h : LocalTo id act)
    (hnext : ∀ a, LocalTo id (next a)) : LocalTo id (act >>= next) := by
  intro s t hst
  obtain ⟨hresult, hafter⟩ := h s t hst
  rw [ActOn.run_bind, ActOn.run_bind]
  rcases hs : act.run s with ⟨e | a, s'⟩ <;> rcases ht : act.run t with ⟨e' | a', t'⟩ <;>
    rw [hs, ht] at hresult hafter <;> cases hresult
  · exact ⟨rfl, hafter⟩
  · exact hnext a s' t' hafter

theorem inSession (act : Act σ α) : LocalTo id (Model.inSession act) := by
  intro s t h
  rw [run_inSession, run_inSession, h.session]
  exact ⟨rfl, h.handle, h.record, rfl⟩

theorem currentHandle : LocalTo id (Model.currentHandle : ModelAct σ (ModelHandle σ)) :=
  fun _ _ h => ⟨congrArg Except.ok h.handle, h⟩

theorem newDocument (data : Document) : LocalTo id (Model.newDocument data : ModelAct σ _) :=
  .bind .currentHandle fun _ => .inSession _

/-- Storing a document under the id. -/
theorem store (data : Document) :
    LocalTo id (Model.store fun records => records.insert id data : ModelAct σ Unit) := by
  intro s t h
  refine ⟨rfl, h.handle, ?_, h.session⟩
  show (s.model.records.insert id data).get? id = (t.model.records.insert id data).get? id
  rw [OrderedMap.get?_insert, OrderedMap.get?_insert, if_pos rfl, if_pos rfl]

end LocalTo

theorem localTo_commit (id : String) (data : Document) :
    LocalTo id (commit id data : ModelAct σ (LiveDocument σ)) := by
  refine .bind .currentHandle fun handle => .bind (.inSession _) fun doc => ?_
  refine .bind (.inSession _) fun stored => ?_
  dsimp only
  split
  · exact .throw _
  · exact .bind (.store stored) fun _ => .newDocument stored

theorem localTo_updateStored (id : String) (update : CompiledUpdate σ) :
    LocalTo id (updateStored id update) := by
  refine .bind .currentHandle fun handle s t hst => ?_
  rw [ActOn.run_get_bind, ActOn.run_get_bind, hst.record]
  cases t.model.records.get? id with
  | none => exact LocalTo.throw _ s t hst
  | some data =>
    refine LocalTo.bind (.inSession _) (fun updated => ?_) s t hst
    exact .bind (.inSession _) fun read => localTo_commit id read

/-- **An update by id sees only the document of the id.** -/
theorem localTo_updateById (id : String) (spec : UpdateSpec) :
    LocalTo id (updateById id spec : ModelAct σ (LiveDocument σ)) := by
  refine .bind .currentHandle fun handle => .bind (.inSession _) fun update => ?_
  refine .bind (localTo_updateStored id update) fun doc => ?_
  exact .bind .currentHandle fun handle => .bind (.inSession _) fun _ => .pure doc

/-- An update by id leaves the other documents and the order of all of them. -/
theorem updateById_frame (id : String) (spec : UpdateSpec) (s : ModelState σ) :
    let after := ((updateById id spec).run s).2.model
    after.handle = s.model.handle ∧ after.records.keys = s.model.records.keys ∧
      ∀ other, other ≠ id → after.records.get? other = s.model.records.get? other := by
  have halters := (Write.update id spec).perform_alters s
  refine ⟨(Write.update id spec).perform_handle s, halters.keys_eq.1, fun other hother => ?_⟩
  refine halters.get?_eq fun hmem => hother ?_
  exact (storedId?_eq_some_iff.mp (Option.mem_toList.mp hmem)).2

/-! ## Updates in turn -/

/-- Updates of documents in turn, each on the model as it is before the first: what they answer,
what they leave under their ids, and the session that the last one leaves. -/
inductive UpdatesEach (model : Model σ) (spec : UpdateSpec) (after : OrderedMap Document) :
    List String → Session σ → List (LiveDocument σ) → Session σ → Prop
  | nil (session : Session σ) : UpdatesEach model spec after [] session [] session
  | cons {id : String} {ids : List String} {session between last : Session σ} {alone : Model σ}
      {doc : LiveDocument σ} {docs : List (LiveDocument σ)}
      (own : (updateById id spec).run ⟨model, session⟩ = (.ok doc, ⟨alone, between⟩))
      (holds : after.get? id = alone.records.get? id)
      (rest : UpdatesEach model spec after ids between docs last) :
      UpdatesEach model spec after (id :: ids) session (doc :: docs) last

/-- How updates of documents in turn end: all of them are made, or one of them fails, those before
it are made, and the documents behind it stay. -/
def UpdateEnds (model : Model σ) (spec : UpdateSpec) (after : OrderedMap Document)
    (ids : List String) (session : Session σ) :
    Except StoreError (List (LiveDocument σ)) → Session σ → Prop
  | .ok docs, last => UpdatesEach model spec after ids session docs last
  | .error e, last => ∃ before id behind docs between alone, ids = before ++ id :: behind ∧
      UpdatesEach model spec after before session docs between ∧
      (updateById id spec).run ⟨model, between⟩ = (.error e, ⟨alone, last⟩) ∧
      after.get? id = alone.records.get? id ∧
      ∀ other ∈ behind, after.get? other = model.records.get? other

/-- **Updates of different documents in turn do what each of them does alone.** -/
theorem run_updates (spec : UpdateSpec) {model now : Model σ} {ids : List String}
    (hhandle : now.handle = model.handle) (hnodup : ids.Nodup)
    (hsame : ∀ id ∈ ids, now.records.get? id = model.records.get? id) (session : Session σ) :
    let out := (ids.mapM fun id => updateById id spec).run ⟨now, session⟩
    out.2.model.handle = model.handle ∧ out.2.model.records.keys = now.records.keys ∧
      (∀ id, id ∉ ids → out.2.model.records.get? id = now.records.get? id) ∧
      UpdateEnds model spec out.2.model.records ids session out.1 out.2.session := by
  induction ids generalizing now session with
  | nil => exact ⟨hhandle, rfl, fun _ _ => rfl, .nil session⟩
  | cons id ids ih =>
    obtain ⟨hfresh, hids⟩ := List.nodup_cons.mp hnodup
    have hagree : AgreeAt id ⟨now, session⟩ ⟨model, session⟩ :=
      ⟨hhandle, hsame id List.mem_cons_self, rfl⟩
    obtain ⟨hresult, hafter⟩ := localTo_updateById id spec _ _ hagree
    obtain ⟨hhandle', hkeys, hothers⟩ := updateById_frame id spec ⟨now, session⟩
    rw [List.mapM_cons, ActOn.run_bind]
    rcases hown : (updateById id spec).run ⟨model, session⟩ with ⟨result, ⟨alone, between⟩⟩
    rcases hrun : (updateById id spec).run ⟨now, session⟩ with ⟨result', ⟨passed, between'⟩⟩
    rw [hown, hrun] at hresult hafter
    rw [hrun] at hhandle' hkeys hothers
    obtain rfl : between' = between := hafter.session
    cases result' with
    | error e =>
      obtain rfl : result = .error e := hresult.symm
      refine ⟨hhandle'.trans hhandle, hkeys, fun other hother => ?_, ?_⟩
      · exact hothers other (List.ne_of_not_mem_cons hother)
      · refine ⟨[], id, ids, [], session, alone, rfl, .nil session, hown, hafter.record, ?_⟩
        intro other hother
        have hne : other ≠ id := ne_of_mem_of_not_mem hother hfresh
        exact (hothers other hne).trans (hsame other (List.mem_cons_of_mem id hother))
    | ok doc =>
      obtain rfl : result = .ok doc := hresult.symm
      have hrest := ih (hhandle'.trans hhandle) hids (fun other hother => by
        have hne : other ≠ id := ne_of_mem_of_not_mem hother hfresh
        exact (hothers other hne).trans (hsame other (List.mem_cons_of_mem id hother))) between'
      dsimp only at hrest ⊢
      rw [ActOn.run_bind]
      rcases hlater : (ids.mapM fun id => updateById id spec).run ⟨passed, between'⟩ with
        ⟨rest, ⟨final, last⟩⟩
      rw [hlater] at hrest
      obtain ⟨hfinal, hfinalKeys, hfinalOthers, hends⟩ := hrest
      have hholds : final.records.get? id = alone.records.get? id :=
        (hfinalOthers id hfresh).trans hafter.record
      have houtside (other : String) (hother : other ∉ id :: ids) :
          final.records.get? other = now.records.get? other := by
        obtain ⟨hne, hnot⟩ := List.ne_and_not_mem_of_not_mem_cons hother
        exact (hfinalOthers other hnot).trans (hothers other hne)
      cases rest with
      | ok docs => exact ⟨hfinal, hfinalKeys.trans hkeys, houtside, .cons hown hholds hends⟩
      | error e =>
        obtain ⟨before, failed, behind, docs, session', alone', rfl, hbefore, hfails⟩ := hends
        refine ⟨hfinal, hfinalKeys.trans hkeys, houtside, ?_⟩
        exact ⟨id :: before, failed, behind, doc :: docs, session', alone', rfl,
          .cons hown hholds hbefore, hfails⟩

/-! ## Documents that are found -/

theorem materialize_eq_ok {handle : ModelHandle σ} {data : Document} {session after : Session σ}
    {doc : LiveDocument σ} (h : (handle.materialize data).run session = (.ok doc, after)) :
    ∃ read, (handle.schema.applyGetters data).run session = (.ok read, after) ∧
      doc = LiveDocument.ofData handle read := by
  obtain ⟨read, between, hread, hdoc⟩ := ActOn.bind_eq_ok h
  cases hdoc
  exact ⟨read, hread, rfl⟩

/-- What is read of a stored document. -/
theorem newDocument_eq_ok {data : Document} {model : Model σ} {session : Session σ}
    {doc : LiveDocument σ} {t : ModelState σ}
    (h : (newDocument data).run ⟨model, session⟩ = (.ok doc, t)) :
    ∃ after, t = ⟨model, after⟩ ∧
      (model.handle.materialize data).run session = (.ok doc, after) := by
  rw [run_newDocument] at h
  obtain ⟨hresult, hafter⟩ := Prod.mk.inj h
  exact ⟨_, hafter.symm, Prod.ext hresult rfl⟩

/-- With the default path of ids, every stored id is held. -/
theorem held_of_defaultId {model : Model σ} (hdefault : model.handle.schema.DefaultId)
    (hkeyed : KeyedById model.records) {id : String} (hid : id ∈ model.records.keys) :
    model.Held id := by
  obtain ⟨data, hget⟩ := OrderedMap.exists_get?_iff.mpr hid
  intro session found t h
  rw [find?, ActOn.run_get_bind, hget] at h
  obtain ⟨doc, u, hdoc, hfound⟩ := ActOn.bind_eq_ok h
  cases hfound
  obtain ⟨after, -, hmaterialize⟩ := newDocument_eq_ok hdoc
  obtain ⟨read, hread, rfl⟩ := materialize_eq_ok hmaterialize
  exact ⟨_, rfl, hdefault.keeps_id (hkeyed.id?_of_get? hget) hread⟩

/-- A document that is read of what is stored under an id that is held has this id. -/
theorem id?_of_newDocument {model : Model σ} {id : String} {data : Document} {session : Session σ}
    {doc : LiveDocument σ} {t : ModelState σ} (hheld : model.Held id)
    (hget : model.records.get? id = some data)
    (h : (newDocument data).run ⟨model, session⟩ = (.ok doc, t)) : doc.id? = some id := by
  have hfind : (find? id).run ⟨model, session⟩ = (.ok (some doc), t) := by
    rw [find?, ActOn.run_get_bind, hget]
    dsimp only
    rw [ActOn.run_bind_of_ok h]
    rfl
  obtain ⟨found, hfound, hid⟩ := hheld session (some doc) t hfind
  cases hfound
  exact hid

/-- Reading stored documents in turn gives the documents of their ids. -/
theorem mapM_newDocument {model : Model σ} (hnodup : model.records.keys.Nodup)
    (hheld : ∀ id ∈ model.records.keys, model.Held id) {entries : List (String × Document)}
    (hentries : ∀ entry ∈ entries, entry ∈ model.records) {session : Session σ}
    {docs : List (LiveDocument σ)} {t : ModelState σ}
    (h : (entries.mapM fun entry => newDocument entry.2).run ⟨model, session⟩ = (.ok docs, t)) :
    docs.map LiveDocument.id? = (entries.map Prod.fst).map some ∧
      ∀ doc ∈ docs, doc.model = model.handle := by
  induction entries generalizing session docs with
  | nil =>
    cases h
    exact ⟨rfl, fun doc hdoc => absurd hdoc List.not_mem_nil⟩
  | cons entry entries ih =>
    obtain ⟨hentry, hentries⟩ := List.forall_mem_cons.mp hentries
    rw [List.mapM_cons] at h
    obtain ⟨doc, u, hdoc, h⟩ := ActOn.bind_eq_ok h
    obtain ⟨rest, v, hrest, h⟩ := ActOn.bind_eq_ok h
    cases h
    have hid : doc.id? = some entry.1 :=
      id?_of_newDocument (hheld entry.1 (List.mem_map_of_mem hentry))
        (OrderedMap.get?_of_mem hnodup hentry) hdoc
    obtain ⟨after, rfl, hmaterialize⟩ := newDocument_eq_ok hdoc
    obtain ⟨read, -, rfl⟩ := materialize_eq_ok hmaterialize
    obtain ⟨hids, hmodels⟩ := ih hentries hrest
    refine ⟨?_, List.forall_mem_cons.mpr ⟨rfl, hmodels⟩⟩
    rw [List.map_cons, List.map_cons, List.map_cons, hid, hids]

theorem looks_snapshot : Looks (snapshot : ModelAct σ (Cursor σ)) := by
  refine .bind .currentHandle fun handle => .bind ?_ fun documents => .pure _
  exact .bind (fun _ => rfl) fun state =>
    .mapM (fun entry => .bind .currentHandle fun _ => .inSession _) _

theorem looks_find (query : QuerySpec σ) (options : FindOptions) :
    Looks (find query options : ModelAct σ (Cursor σ)) :=
  .bind looks_snapshot fun _ => .bind (.onHost _) fun _ => .inSession _

end Model

namespace LiveDocument

/-- Looking at a document with a reading keeps it. -/
theorem keeps_run (reading : Reading σ α) (doc : LiveDocument σ) (host : σ) :
    Keeps doc (run reading doc host).1.2 :=
  run_keeps (fun path state => readWithin_keeps _ path state) reading (doc, host)

/-- Documents that are selected stand in their order. -/
theorem copies_select_sublist {test : Visit σ Bool}
    (htest : ∀ doc host, Keeps doc (test doc host).1.2) (docs : List (LiveDocument σ)) (host : σ) :
    (copies (select test 0 none docs host).1.1).Sublist (copies docs) := by
  induction docs generalizing host with
  | nil => exact .refl _
  | cons doc docs ih =>
    rcases hrun : test doc host with ⟨⟨holds, seen⟩, host'⟩
    have hcopy : seen.copy = doc.copy := by
      have hkeeps := htest doc host
      rw [hrun] at hkeeps
      exact hkeeps.copy
    rw [select_cons hrun]
    cases holds with
    | false => exact (ih host').cons _
    | true =>
      rw [if_pos rfl, copies, copies, List.map_cons, List.map_cons, hcopy]
      exact (ih host').cons_cons _

end LiveDocument

/-- The documents of a cursor that match a query are copies of its documents, in their order. -/
theorem Cursor.find_sublist {cursor found : Cursor σ} {query : QuerySpec σ} {host : σ}
    (h : (cursor.find query FindOptions.all host).1.1 = .ok found) :
    found.documents.Sublist (LiveDocument.copies cursor.documents) := by
  rw [Cursor.find] at h
  rcases hcompile : cursor.schema.compileQuery query with e | predicate
  · rw [hcompile] at h
    cases h
  · rw [hcompile] at h
    cases h
    exact LiveDocument.copies_select_sublist (LiveDocument.keeps_run predicate)
      cursor.documents host

namespace Model

/-- The documents that match a query are stored ones, in their order. -/
theorem find_eq_ok {model : Model σ} (hnodup : model.records.keys.Nodup)
    (hheld : ∀ id ∈ model.records.keys, model.Held id) {query : QuerySpec σ} {session : Session σ}
    {found : Cursor σ} {t : ModelState σ}
    (h : (find query FindOptions.all).run ⟨model, session⟩ = (.ok found, t)) :
    ∃ ids : List String, ids.Sublist model.records.keys ∧
      found.documents.map LiveDocument.id? = ids.map some ∧
      ∀ doc ∈ found.documents, doc.model = model.handle := by
  obtain ⟨all, u, hsnapshot, h⟩ := ActOn.bind_eq_ok h
  obtain ⟨handle, w, hhandle, hall⟩ := ActOn.bind_eq_ok hsnapshot
  cases hhandle
  obtain ⟨documents, x, hdocuments, hcursor⟩ := ActOn.bind_eq_ok hall
  cases hcursor
  obtain ⟨hids, hmodels⟩ := mapM_newDocument hnodup hheld (fun _ hentry => hentry) hdocuments
  obtain ⟨⟨result, visited⟩, v, hselect, hresult⟩ := ActOn.bind_eq_ok h
  obtain rfl : result = .ok found := congrArg Prod.fst hresult
  have hfind : (Cursor.find ⟨model.handle.schema, documents⟩ query FindOptions.all
      u.session.host).1 = (.ok found, visited) := Except.ok.inj (congrArg Prod.fst hselect)
  have hsublist := Cursor.find_sublist (congrArg Prod.fst hfind)
  have hfoundIds : (found.documents.map LiveDocument.id?).Sublist
      (model.records.keys.map some) := by
    have hcopies := hsublist.map LiveDocument.id?
    rw [LiveDocument.copies, List.map_map] at hcopies
    exact hids ▸ hcopies
  obtain ⟨ids, hstored, hfoundIds⟩ := List.sublist_map_iff.mp hfoundIds
  refine ⟨ids, hstored, hfoundIds, fun doc hdoc => ?_⟩
  obtain ⟨origin, horigin, rfl⟩ := List.mem_map.mp (hsublist.subset hdoc)
  exact hmodels origin horigin

end Model

namespace Database

/-! ## Updates of what a query finds -/

/-- Updates of documents of a model are updates of this model by their ids. -/
theorem run_updateDocuments (spec : UpdateSpec) {handle : ModelHandle σ}
    {docs : List (LiveDocument σ)} {ids : List String} (hmodels : ∀ doc ∈ docs, doc.model = handle)
    (hids : docs.map LiveDocument.id? = ids.map some) {model : Model σ} {s : DatabaseState σ}
    (hmodel : s.database.model? handle.number = some model) :
    (docs.mapM (updateDocument spec)).run s =
      (onModel handle (ids.mapM fun id => Model.updateById id spec)).run s := by
  induction docs generalizing ids model s with
  | nil =>
    obtain rfl : ids = [] := List.map_eq_nil_iff.mp hids.symm
    exact (run_onModel_of_looks (.pure []) handle rfl).symm
  | cons doc docs ih =>
    obtain ⟨hdoc, hdocs⟩ := List.forall_mem_cons.mp hmodels
    cases ids with
    | nil => cases hids
    | cons id ids =>
      obtain ⟨hid, hrest⟩ := List.cons.inj hids
      have hupdate : (updateDocument spec doc).run s =
          (onModel handle (Model.updateById id spec)).run s := by
        rw [updateDocument, LiveDocument.requireId, hid, hdoc]
        rfl
      rw [List.mapM_cons, ActOn.run_bind, hupdate, run_onModel hmodel, run_onModel hmodel,
        List.mapM_cons, ActOn.run_bind]
      rcases (Model.updateById id spec).run ⟨model, s.session⟩ with ⟨e | updated, ⟨now, between⟩⟩
      · rfl
      · have hthere : (s.database.withModels (s.database.models.set handle.number now)).model?
            handle.number = some now :=
          List.getElem?_set_self (List.getElem?_eq_some_iff.mp hmodel).1
        have hset (last : Model σ) :
            (s.database.withModels (s.database.models.set handle.number now)).withModels
                ((s.database.models.set handle.number now).set handle.number last) =
              s.database.withModels (s.database.models.set handle.number last) :=
          congrArg s.database.withModels (List.set_set now)
        dsimp only
        rw [ActOn.run_bind, ih hdocs hrest hthere, run_onModel hthere, ActOn.run_bind]
        rcases (ids.mapM fun id => Model.updateById id spec).run ⟨now, between⟩ with
          ⟨e | rest, ⟨last, after⟩⟩
        · exact congrArg (fun db => (_, DatabaseState.mk db after)) (hset last)
        · exact congrArg (fun db => (_, DatabaseState.mk db after)) (hset last)

/-- **An update of the documents that match a query updates each of them by its id, on its own.**
The documents are those that the query finds before the first update, in the order in which they are
stored. Every update has the result, and leaves the document, that it has and leaves when it is the
only one: the updates before it only pass the session on. If all succeed, the stored documents are
the old ones except for those that matched, which hold what their own updates leave. If one fails,
those before it hold what their updates leave, and those behind it and those that did not match are
the old ones. If the query fails, nothing changes. -/
theorem updateWhere_updates_each {s : DatabaseState σ} {model : Model σ}
    (hmodel : s.database.model? model.handle.number = some model)
    (hnodup : model.records.keys.Nodup) (hheld : ∀ id ∈ model.records.keys, model.Held id)
    (query : QuerySpec σ) (spec : UpdateSpec) :
    let out := (updateWhere model.handle query spec).run s
    match (Model.find query FindOptions.all).run ⟨model, s.session⟩ with
    | (.error e, ⟨_, session⟩) => out = (.error e, ⟨s.database, session⟩)
    | (.ok found, ⟨_, session⟩) =>
      ∃ (ids : List String) (after : OrderedMap Document),
        ids.Sublist model.records.keys ∧
        found.documents.map LiveDocument.id? = ids.map some ∧
        out.2.database = s.database.withModels
          (s.database.models.set model.handle.number (model.withRecords after)) ∧
        after.keys = model.records.keys ∧
        (∀ id, id ∉ ids → after.get? id = model.records.get? id) ∧
        model.UpdateEnds spec after ids session out.1 out.2.session := by
  intro out
  have hfind : (onModel model.handle (Model.find query FindOptions.all)).run s = _ :=
    run_onModel_of_looks (Model.looks_find query FindOptions.all) model.handle
      (by rw [hmodel]; rfl : _ = model)
  have hout : out = (updateWhere model.handle query spec).run s := rfl
  rw [updateWhere, ActOn.run_bind, hfind] at hout
  rcases hrun : (Model.find query FindOptions.all).run ⟨model, s.session⟩ with
    ⟨e | found, ⟨looked, session⟩⟩
  · rw [hrun] at hout
    exact hout
  · rw [hrun] at hout
    obtain ⟨ids, hstored, hids, hmodels⟩ := Model.find_eq_ok hnodup hheld hrun
    have hupdates : out = (onModel model.handle (ids.mapM fun id => Model.updateById id spec)).run
        ⟨s.database, session⟩ := hout.trans (run_updateDocuments spec hmodels hids hmodel)
    have hthere : (DatabaseState.mk s.database session).database.model? model.handle.number =
        some model := hmodel
    rw [run_onModel hthere] at hupdates
    have hinTurn := Model.run_updates spec (rfl : model.handle = model.handle)
      (hstored.nodup hnodup) (fun _ _ => rfl) session
    rcases hlast : (ids.mapM fun id => Model.updateById id spec).run ⟨model, session⟩ with
      ⟨result, ⟨⟨handle, after⟩, last⟩⟩
    rw [hlast] at hupdates hinTurn
    obtain ⟨hhandle, hkeys, hothers, hends⟩ := hinTurn
    obtain rfl : handle = model.handle := hhandle
    rw [hupdates]
    exact ⟨ids, after, hstored, hids, rfl, hkeys, hothers, hends⟩

/-! ## Tickets -/

/-- Tickets with a state. -/
def ticketHandle : ModelHandle Unit :=
  ⟨0, "Ticket", (Schema.empty.register "state" (.scalar "state" .string .none)).ensureId⟩

def ticket (id state : String) : String × Document :=
  (id, [("_id", .string id), ("state", .string state)])

/-- Three tickets, of which the first and the last are open. -/
def tickets : Model Unit :=
  ⟨ticketHandle,
    [ticket "c000000000000000000000000" "open", ticket "c000000000000000000000001" "done",
      ticket "c000000000000000000000002" "open"]⟩

/-- A database of one model with its documents. -/
def databaseOf (model : Model Unit) : DatabaseState Unit :=
  ⟨⟨⟨0, none, none⟩, .unset, [model], [(model.handle.name, 0)], false⟩, Session.idle⟩

theorem keyedById_tickets : KeyedById tickets.records := by decide

theorem defaultId_tickets : tickets.handle.schema.DefaultId :=
  Schema.defaultId_register_ensureId "state" (Path.apart_of_head_ne (by decide) [] []) _

theorem held_tickets : ∀ id ∈ tickets.records.keys, tickets.Held id := fun _ hid =>
  Model.held_of_defaultId defaultId_tickets keyedById_tickets hid

/-- Closing the open tickets. -/
def openTickets : QuerySpec Unit := .expr (.equals "state" (.string "open"))

def closing : UpdateSpec := .mutations [.set "state" (.string "done")]

theorem find_openTickets : (Model.find openTickets FindOptions.all).run ⟨tickets, Session.idle⟩ =
    (.ok ⟨ticketHandle.schema,
      [.ofData ticketHandle (ticket "c000000000000000000000000" "open").2,
        .ofData ticketHandle (ticket "c000000000000000000000002" "open").2]⟩,
      ⟨tickets, Session.idle⟩) := rfl

/-- The first and the last ticket are closed, each by its own update. -/
theorem updateWhere_updates_each_tickets :
    let out := (updateWhere tickets.handle openTickets closing).run (databaseOf tickets)
    out.1.isOk = true ∧ ∃ after : OrderedMap Document,
      out.2.database = (databaseOf tickets).database.withModels
        ((databaseOf tickets).database.models.set tickets.handle.number
          (tickets.withRecords after)) ∧
      after.get? "c000000000000000000000001" = some (ticket "c000000000000000000000001" "done").2 ∧
      tickets.UpdateEnds closing after ["c000000000000000000000000", "c000000000000000000000002"]
        Session.idle out.1 out.2.session := by
  have hok : ((updateWhere tickets.handle openTickets closing).run
      (databaseOf tickets)).1.isOk = true := by
    decide +kernel
  have hthere : (databaseOf tickets).database.model? tickets.handle.number = some tickets := rfl
  have hall := updateWhere_updates_each hthere (by decide) held_tickets openTickets closing
  have hfind : (Model.find openTickets FindOptions.all).run
      ⟨tickets, (databaseOf tickets).session⟩ = _ :=
    find_openTickets
  rw [hfind] at hall
  generalize (updateWhere tickets.handle openTickets closing).run (databaseOf tickets) = out
    at hok hall ⊢
  obtain ⟨ids, after, -, hids, hdatabase, -, hothers, hends⟩ := hall
  obtain rfl : ids = ["c000000000000000000000000", "c000000000000000000000002"] :=
    (List.map_injective_iff.mpr fun _ _ => Option.some.inj) hids.symm
  have hdone : after.get? "c000000000000000000000001" = _ := hothers _ (by decide)
  exact ⟨hok, after, hdatabase, hdone, hends⟩

/-! ## A document that matches and is left out -/

/-- A model of notes, all of which are read with one id. -/
def noteHandle : ModelHandle Unit :=
  ⟨0, "Note", (Schema.empty.register "_id.x" (.scalar "_id.x" .string
      { (FieldOptions.none : FieldOptions Unit) with
        default? := some (pure (.string "v")) })).register
    "_id" (.scalar "_id" .string .none)⟩

/-- A note that was inserted and one that was imported. -/
def notes : Model Unit :=
  ⟨noteHandle, [("\x7b\"x\":\"v\"\x7d", [("_id", .string "\x7b\"x\":\"v\"\x7d")]),
    ("b", [("_id", .string "b")])]⟩

/-- A change of every note. -/
def marking : UpdateSpec := .mutations [.set "marked" (.bool true)]

theorem keyedById_notes : KeyedById notes.records := by decide

/-- An update of all documents succeeds and leaves one out, whose own update fails: it is read with
the id of another one, which is updated twice. -/
theorem exists_match_left_out :
    ¬ ∀ (s : DatabaseState Unit) (model : Model Unit) (query : QuerySpec Unit) (spec : UpdateSpec),
        s.database.model? model.handle.number = some model → KeyedById model.records →
        (∀ session, ∃ found t,
          (Model.find query FindOptions.all).run ⟨model, session⟩ = (.ok found, t) ∧
          found.size = model.count) →
        ((updateWhere model.handle query spec).run s).1.isOk = true →
        ∀ id ∈ model.records.keys, ∃ session,
          ((Model.updateById id spec).run ⟨model, session⟩).1.isOk = true := by
  intro hupdates
  have hfind (session : Session Unit) : ∃ found t,
      (Model.find (.expr (.and [])) FindOptions.all).run ⟨notes, session⟩ = (.ok found, t) ∧
        found.size = notes.count := ⟨_, _, rfl, rfl⟩
  obtain ⟨session, halone⟩ := hupdates (databaseOf notes) notes (.expr (.and [])) marking rfl
    keyedById_notes hfind (by decide +kernel) "b" (by decide)
  have hfails : ((Model.updateById "b" marking).run ⟨notes, session⟩).1.isOk = false := rfl
  rw [hfails] at halone
  cases halone

end Database

end DocStore
