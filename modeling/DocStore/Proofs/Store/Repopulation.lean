import DocStore.Proofs.Store.Population
/-!
# Populating again

After a population a list holds documents, which are no ids, so the same population finds nothing
for it any more; a single reference holds a document, which is left alone, or an id that was
refused. `Database.Settled` says this of a path, for every session to come, and populating other
paths keeps it.

So a second run of the same populations empties the lists (`Database.emptied`) and changes nothing
else; `Database.populate_again` says when a second run changes nothing at all: if and only if no
list has brought a document.
-/

namespace DocStore

variable {σ : Type}

namespace Database

/-! ## What documents are found for documents -/

/-- Documents are no ids. -/
theorem run_findAll_documents (found : List (ResolvedDocument σ)) (s : ModelState σ) :
    (findAll (found.map fun d => .document d.data) : ModelAct σ _).run s = (.ok [], s) := by
  have hids : (found.map fun d => Value.document d.data).filterMap Value.asString? = [] := by
    simp [List.filterMap_eq_nil_iff, Value.asString?]
  rw [findAll, hids]
  rfl

/-- A query that was compiled once keeps nothing of no documents. -/
theorem run_keepMatching_nil {handle : ModelHandle σ} {matching : Option Document}
    {documents kept : List (LiveDocument σ)} {s t : ModelState σ}
    (h : (keepMatching handle matching documents).run s = (.ok kept, t)) (u : ModelState σ) :
    (keepMatching handle matching []).run u = (.ok [], u) := by
  cases matching with
  | none => rfl
  | some query =>
    obtain ⟨predicate, v, hcompile, -⟩ := ActOn.bind_eq_ok h
    have hpredicate : handle.schema.compileQuery (.document query) = .ok predicate :=
      congrArg Prod.fst hcompile
    rw [keepMatching, hpredicate]
    rfl

theorem run_sortFound_nil (handle : ModelHandle σ) (keys : List SortKey) (s : ModelState σ) :
    (sortFound handle keys []).run s = (.ok [], s) := by
  unfold sortFound
  split
  · rfl
  · rfl

theorem cut_nil {α : Type} (selection : Selection) : selection.cut ([] : List α) = [] := by
  rw [Selection.cut, List.drop_nil]
  cases selection.limit with
  | none => rfl
  | some n => exact List.take_nil

/-- Where a list was resolved, a list of documents is resolved to nothing. -/
theorem run_resolveMany_documents {ids : List Value} {selection : Selection}
    {found : List (ResolvedDocument σ)} {model : Model σ} {session : Session σ} {t : ModelState σ}
    (h : (resolveMany ids selection).run ⟨model, session⟩ = (.ok found, t))
    (documents : List (ResolvedDocument σ)) (session' : Session σ) :
    (resolveMany (documents.map fun d => .document d.data) selection).run ⟨model, session'⟩ =
      (.ok [], ⟨model, session'⟩) := by
  obtain ⟨handle, u, hhandle, h⟩ := ActOn.bind_eq_ok h
  obtain ⟨stored, v, -, h⟩ := ActOn.bind_eq_ok h
  obtain ⟨kept, w, hkeep, -⟩ := ActOn.bind_eq_ok h
  have hmodel : handle = model.handle := by
    cases hhandle
    rfl
  rw [resolveMany, Model.run_currentHandle_bind, ActOn.run_bind_of_ok (run_findAll_documents _ _)]
  rw [hmodel] at hkeep
  rw [ActOn.run_bind_of_ok (run_keepMatching_nil hkeep _),
    ActOn.run_bind_of_ok (run_sortFound_nil _ _ _), cut_nil]
  rfl

/-- Whether a selection refuses the document of an id in every session, if it does so in one. -/
def Steady (model : Model σ) (selection : Selection) : Prop :=
  ∀ {id : String} {session : Session σ} {t : ModelState σ},
    (resolveOne id selection).run ⟨model, session⟩ = (.ok none, t) →
      ∀ session', ((resolveOne id selection).run ⟨model, session'⟩).1 = .ok none

/-- Without a query only an id that is not stored is refused. -/
theorem steady_of_all (model : Model σ) {selection : Selection} (h : selection.matching = none) :
    Steady model selection := by
  intro id session t hnone session'
  obtain ⟨found, u, hfind, hrest⟩ := ActOn.bind_eq_ok hnone
  cases found with
  | none =>
    have hget : model.records.get? id = none := Model.get?_of_find?_eq_none hfind
    rw [resolveOne, ActOn.run_bind_of_ok (Model.run_find?_of_none hget)]
    rfl
  | some doc =>
    simp only [keepMatching, h] at hrest
    cases hrest

/-! ## Paths that are populated -/

/-- What populating a path again does to a document: a list is emptied. -/
def emptied (doc : LiveDocument σ) (path : String) : LiveDocument σ :=
  match doc.data.get? path with
  | some (.array _) => doc.populate path [] (.array [])
  | _ => doc

/-- Whether populating a path again finds nothing, in any session: the path holds the list of the
documents that were found for it, or no list and nothing that is found. -/
inductive Settled (db : Database σ) (doc : LiveDocument σ) (population : Population) : Prop
  | list (model : Model σ) (found : List (ResolvedDocument σ))
      (target : db.target? population.model = .ok model)
      (data : doc.data.removed? population.path =
        some (.array (found.map fun d => .document d.data)))
      (resolved : doc.resolved.get? population.path = some found)
      (again : ∀ session, (resolveMany (found.map fun d => .document d.data)
        population.selection).run ⟨model, session⟩ = (.ok [], ⟨model, session⟩))
  | other (model : Model σ) (target : db.target? population.model = .ok model)
      (noList : ∀ items, doc.data.get? population.path ≠ some (.array items))
      (again : ∀ session, ((resolution (doc.data.get? population.path)
        population.selection).run ⟨model, session⟩).1 = .ok none)

section Settled

variable {db : Database σ} {doc : LiveDocument σ} {population : Population}

theorem resolution_of_other {value : Option Value} {selection : Selection}
    (hlist : ∀ ids, value ≠ some (.array ids)) (hid : ∀ id, value ≠ some (.string id)) :
    (resolution value selection :
      ModelAct σ (Option (List (ResolvedDocument σ) × Value))) = pure none := by
  unfold resolution
  split
  · exact absurd rfl (hlist _)
  · exact absurd rfl (hid _)
  · rfl

/-- A population that was run is settled. -/
theorem settled_of_resolution {model : Model σ} {session session' : Session σ}
    {found : Option (List (ResolvedDocument σ) × Value)}
    (htarget : db.target? population.model = .ok model)
    (hsteady : Steady model population.selection)
    (hrun : (resolution (doc.data.get? population.path) population.selection).run
      ⟨model, session⟩ = (.ok found, ⟨model, session'⟩)) :
    Settled db (doc.hold population.path found) population := by
  have hwritten (value : Value) :
      (doc.data.set population.path value).removed? population.path = some value :=
    Document.removedSegments_setSegments value doc.data (Path.segments_ne_nil _)
  have hother (hlist : ∀ ids, doc.data.get? population.path ≠ some (.array ids))
      (hid : ∀ id, doc.data.get? population.path ≠ some (.string id)) :
      Settled db (doc.hold population.path found) population := by
    rw [resolution_of_other hlist hid, ActOn.run_pure, Prod.mk.injEq, Except.ok.injEq] at hrun
    obtain rfl := hrun.1
    refine .other model htarget hlist fun session => ?_
    rw [LiveDocument.hold_none, resolution_of_other hlist hid]
    rfl
  rcases hvalue : doc.data.get? population.path with _ | value
  · exact hother (by simp [hvalue]) (by simp [hvalue])
  cases value with
  | array ids =>
    rw [hvalue] at hrun
    obtain ⟨documents, u, hmany, hfound⟩ := ActOn.bind_eq_ok hrun
    cases hfound
    exact .list model documents htarget (hwritten _)
      (by simp [OrderedMap.get?_insert])
      (run_resolveMany_documents hmany documents)
  | string id =>
    rw [hvalue] at hrun
    obtain ⟨document, u, hone, hfound⟩ := ActOn.bind_eq_ok hrun
    cases document with
    | none =>
      cases hfound
      refine .other model htarget (by simp [hvalue]) fun session'' => ?_
      have hagain := hsteady hone session''
      rcases hrun' : (resolveOne id population.selection).run ⟨model, session''⟩
        with ⟨result, after⟩
      rw [hrun'] at hagain
      obtain rfl : result = .ok none := hagain
      rw [Option.map_none, LiveDocument.hold_none, hvalue, resolution,
        ActOn.run_bind_of_ok hrun']
      rfl
    | some document =>
      cases hfound
      have hdocument : (doc.data.set population.path (.document document.data)).get?
          population.path = some (.document document.data) :=
        Document.descend_of_removedSegments (hwritten _)
      refine .other model htarget ?_ fun session => ?_
      · simp [hdocument]
      · rw [Option.map_some, LiveDocument.data_hold_some, hdocument]
        rfl
  | _ => exact hother (by simp [hvalue]) (by simp [hvalue])

/-- What is put under one path leaves the paths apart from it settled. -/
theorem Settled.hold {path : String}
    (hapart : Path.Apart (Path.segments path) (Path.segments population.path))
    (h : Settled db doc population) (result : Option (List (ResolvedDocument σ) × Value)) :
    Settled db (doc.hold path result) population := by
  rcases result with _ | ⟨documents, value⟩
  · exact h
  have hne : population.path ≠ path := by
    rintro heq
    rw [heq] at hapart
    exact hapart.1 (List.prefix_refl _)
  cases h with
  | list model found target data resolved again =>
    refine .list model found target ?_ ?_ again
    · exact (Document.removedSegments_setSegments_of_apart value doc.data hapart).trans data
    · rw [LiveDocument.resolved_hold_some, OrderedMap.get?_insert, if_neg hne]
      exact resolved
  | other model target noList again =>
    have hread : (doc.data.set path value).get? population.path = doc.data.get? population.path ∨
        (doc.data.set path value).get? population.path = none :=
      Document.descend_setSegments_of_apart value doc.data hapart
    refine .other model target ?_ ?_
    · rcases hread with hsame | hgone
      · simpa [hsame] using noList
      · simp [hgone]
    · rcases hread with hsame | hgone
      · simpa [hsame] using again
      · intro session
        rw [LiveDocument.data_hold_some, hgone]
        rfl

/-- Emptying a path puts an empty list there, or nothing. -/
theorem emptied_eq_hold (doc : LiveDocument σ) (path : String) :
    ∃ result, emptied doc path = doc.hold path result := by
  unfold emptied
  split
  · exact ⟨some ([], .array []), rfl⟩
  · exact ⟨none, rfl⟩

/-- Populating a settled path again empties it. -/
theorem run_populateStep_of_settled (h : Settled db doc population)
    (hplain : doc.model.schema.getter? population.path = none) (session : Session σ) :
    ∃ session', (populateStep doc population).run ⟨db, session⟩ =
      (.ok (emptied doc population.path), ⟨db, session'⟩) := by
  rw [run_populateStep hplain]
  cases h with
  | list model found target data resolved again =>
    have hget : doc.data.get? population.path =
        some (.array (found.map fun d => .document d.data)) :=
      Document.descend_of_removedSegments data
    refine ⟨session, ?_⟩
    simp only [target, hget, resolution, emptied]
    rw [ActOn.run_bind_of_ok (again session)]
    rfl
  | other model target noList again =>
    have hemptied : emptied doc population.path = doc := by
      unfold emptied
      split
      · exact absurd ‹_› (noList _)
      · rfl
    rcases hrun : (resolution (doc.data.get? population.path) population.selection).run
        ⟨model, session⟩ with ⟨result, after⟩
    have hresult := again session
    rw [hrun] at hresult
    obtain rfl : result = .ok none := hresult
    refine ⟨after.session, ?_⟩
    simp only [target, hrun, hemptied, LiveDocument.hold_none]

/-! ## Runs of populations -/

/-- Whether the paths of populations diverge. -/
def Diverging (populations : List Population) : Prop :=
  populations.Pairwise fun p q => Path.Apart (Path.segments p.path) (Path.segments q.path)

/-- After a run of populations all their paths are settled. -/
theorem settled_of_run {populations : List Population} {once : LiveDocument σ}
    {s t : DatabaseState σ} (hplain : Plain doc.model.schema populations)
    (hdiverging : Diverging populations)
    (hsteady : ∀ population ∈ populations, ∀ model,
      s.database.target? population.model = .ok model → Steady model population.selection)
    (h : (populations.foldlM populateStep doc).run s = (.ok once, t)) :
    t.database = s.database ∧ once.model = doc.model ∧ (doc.copy = doc → once.copy = once) ∧
      ∀ population ∈ populations, Settled s.database once population := by
  refine run_populations
    (P := fun before d => ∀ population ∈ before, Settled s.database d population) hplain
    (by simp) ?_ h
  intro before population after d u model found session hsplit _ hbefore htarget hrun other hother
  subst hsplit
  rcases List.mem_append.mp hother with hmem | hmem
  · have hapart := (List.pairwise_append.mp hdiverging).2.2 other hmem population List.mem_cons_self
    exact (hbefore other hmem).hold hapart.symm found
  · rw [List.mem_singleton.mp hmem]
    have hpopulation : population ∈ before ++ population :: after := by simp
    exact settled_of_resolution htarget (hsteady population hpopulation model htarget) hrun

/-- Running settled populations again empties their paths. -/
theorem run_populations_of_settled {populations : List Population} {doc : LiveDocument σ}
    (hplain : Plain doc.model.schema populations) (hdiverging : Diverging populations)
    (hsettled : ∀ population ∈ populations, Settled db doc population) (session : Session σ) :
    ∃ session', (populations.foldlM populateStep doc).run ⟨db, session⟩ =
      (.ok (populations.foldl (fun doc population => emptied doc population.path) doc),
        ⟨db, session'⟩) := by
  induction populations generalizing doc session with
  | nil => exact ⟨session, rfl⟩
  | cons first rest ih =>
    obtain ⟨hfirst, hdiverging⟩ := List.pairwise_cons.mp hdiverging
    obtain ⟨session', hstep⟩ := run_populateStep_of_settled (hsettled first List.mem_cons_self)
      (hplain first List.mem_cons_self) session
    obtain ⟨result, hemptied⟩ := emptied_eq_hold doc first.path
    have hplainRest : Plain (emptied doc first.path).model.schema rest := by
      rw [hemptied, LiveDocument.model_hold]
      exact fun population hmem => hplain population (List.mem_cons_of_mem _ hmem)
    have hsettledRest : ∀ population ∈ rest, Settled db (emptied doc first.path) population := by
      intro population hmem
      rw [hemptied]
      exact (hsettled population (List.mem_cons_of_mem _ hmem)).hold (hfirst population hmem) result
    obtain ⟨session'', hrest⟩ := ih hplainRest hdiverging hsettledRest session'
    refine ⟨session'', ?_⟩
    rw [List.foldlM_cons, ActOn.run_bind_of_ok hstep]
    exact hrest

/-- Emptying other paths leaves what a path leads to. -/
theorem removed?_emptied_of_apart {path other : String} (doc : LiveDocument σ)
    (h : Path.Apart (Path.segments other) (Path.segments path)) :
    (emptied doc other).data.removed? path = doc.data.removed? path := by
  unfold emptied
  split
  · exact Document.removedSegments_setSegments_of_apart _ doc.data h
  · rfl

theorem removed?_foldl_emptied_of_apart {path : String} {populations : List Population}
    (h : ∀ population ∈ populations,
      Path.Apart (Path.segments population.path) (Path.segments path)) (doc : LiveDocument σ) :
    (populations.foldl (fun doc population => emptied doc population.path) doc).data.removed? path =
      doc.data.removed? path := by
  induction populations generalizing doc with
  | nil => rfl
  | cons first rest ih =>
    rw [List.foldl_cons, ih fun population hmem => h population (List.mem_cons_of_mem _ hmem),
      removed?_emptied_of_apart doc (h first List.mem_cons_self)]

/-- A list is empty afterwards, whatever is emptied before and behind it. -/
theorem removed?_foldl_emptied {populations : List Population} (hdiverging : Diverging populations)
    {items : List Value} (hmem : population ∈ populations)
    (h : doc.data.removed? population.path = some (.array items)) :
    (populations.foldl (fun doc population => emptied doc population.path) doc).data.removed?
      population.path = some (.array []) := by
  induction populations generalizing doc with
  | nil => exact absurd hmem List.not_mem_nil
  | cons first rest ih =>
    obtain ⟨hfirst, hdiverging⟩ := List.pairwise_cons.mp hdiverging
    rw [List.foldl_cons]
    rcases List.mem_cons.mp hmem with rfl | hmem
    · rw [removed?_foldl_emptied_of_apart fun other hother => (hfirst other hother).symm]
      have hget : doc.data.get? population.path = some (.array items) :=
        Document.descend_of_removedSegments h
      simp only [emptied, hget]
      exact Document.removedSegments_setSegments _ doc.data (Path.segments_ne_nil _)
    · refine ih hdiverging hmem ?_
      rw [removed?_emptied_of_apart doc (hfirst population hmem)]
      exact h

/-- Emptying a list that brought no document changes nothing. -/
theorem emptied_of_settled (h : Settled db doc population)
    (hempty : ∀ items, doc.data.get? population.path = some (.array items) → items = []) :
    emptied doc population.path = doc := by
  cases h with
  | list model found target data resolved again =>
    have hget : doc.data.get? population.path =
        some (.array (found.map fun d => .document d.data)) :=
      Document.descend_of_removedSegments data
    have hnone : found = [] := List.map_eq_nil_iff.mp (hempty _ hget)
    subst hnone
    have hdata : doc.data.set population.path (.array []) = doc.data :=
      Document.setSegments_of_removedSegments data
    have hresolved : doc.resolved.insert population.path [] = doc.resolved :=
      OrderedMap.insert_of_get? resolved
    simp only [emptied, hget, LiveDocument.populate, LiveDocument.set, hdata, hresolved]
  | other model target noList again =>
    unfold emptied
    split
    · exact absurd ‹_› (noList _)
    · rfl

theorem foldl_emptied_of_settled {populations : List Population}
    (hsettled : ∀ population ∈ populations, Settled db doc population)
    (hempty : ∀ population ∈ populations, ∀ items,
      doc.data.get? population.path = some (.array items) → items = []) :
    populations.foldl (fun doc population => emptied doc population.path) doc = doc := by
  induction populations with
  | nil => rfl
  | cons first rest ih =>
    rw [List.foldl_cons, emptied_of_settled (hsettled first List.mem_cons_self)
      (hempty first List.mem_cons_self)]
    exact ih (fun population hmem => hsettled population (List.mem_cons_of_mem _ hmem))
      fun population hmem => hempty population (List.mem_cons_of_mem _ hmem)

/-- **Populating again** with the same populations, whose paths diverge, succeeds in every session
and empties the lists. So it changes nothing if and only if no list has brought a document: single
references stay as they are, and the documents of a list are gone, with the ids that saving would
put back. -/
theorem populate_again {populations : List Population} {once : LiveDocument σ}
    {s t : DatabaseState σ} (hplain : Plain doc.model.schema populations)
    (hdiverging : Diverging populations)
    (hsteady : ∀ population ∈ populations, population.selection.matching ≠ none → ∀ model,
      s.database.target? population.model = .ok model → Steady model population.selection)
    (h : (populateAll doc populations).run s = (.ok once, t)) (session : Session σ) :
    ∃ twice session', (populateAll once populations).run ⟨t.database, session⟩ =
        (.ok twice, ⟨t.database, session'⟩) ∧
      twice = populations.foldl (fun doc population => emptied doc population.path) once ∧
      ((twice.data = once.data ∧ twice.resolved = once.resolved) ↔
        ∀ population ∈ populations, ∀ items,
          once.data.get? population.path = some (.array items) → items = []) := by
  have hsteadyAll : ∀ population ∈ populations, ∀ model,
      s.database.target? population.model = .ok model → Steady model population.selection := by
    intro population hmem model htarget
    by_cases hmatching : population.selection.matching = none
    · exact steady_of_all model hmatching
    · exact hsteady population hmem hmatching model htarget
  have hplainCopy : Plain doc.copy.model.schema populations := hplain
  have hfirst : (populations.foldlM populateStep doc.copy).run s = (.ok once, t) := h
  obtain ⟨hdatabase, hmodel, hcopy, hall⟩ :=
    settled_of_run hplainCopy hdiverging hsteadyAll hfirst
  have hsettled : ∀ population ∈ populations, Settled t.database once population := by
    rw [hdatabase]
    exact hall
  have hplainOnce : Plain once.model.schema populations := by
    rw [hmodel]
    exact hplain
  obtain ⟨session', hrun⟩ :=
    run_populations_of_settled hplainOnce hdiverging hsettled session
  refine ⟨_, session', ?_, rfl,
    ⟨fun ⟨hdata, _⟩ population hmem items hitems => ?_, fun hempty => ?_⟩⟩
  · rw [populateAll, hcopy rfl]
    exact hrun
  · have hremoved : once.data.removed? population.path = some (.array items) := by
      cases hsettled population hmem with
      | list model found target data resolved again =>
        have hget : once.data.get? population.path =
            some (.array (found.map fun d => .document d.data)) :=
          Document.descend_of_removedSegments data
        rw [← hget, hitems] at data
        exact data
      | other model target noList again => exact absurd hitems (noList items)
    have hgone := removed?_foldl_emptied hdiverging hmem hremoved
    rw [hdata, hremoved] at hgone
    cases hgone
    rfl
  · rw [foldl_emptied_of_settled hsettled hempty]
    exact ⟨rfl, rfl⟩

end Settled

/-! ## A list that is lost -/

/-- Posts with a list of references to tags. -/
def postHandle : ModelHandle Unit :=
  ⟨1, "Post", (Schema.empty.register "tags" (.array "tags" .none
    (.scalar "tags" .cuid { FieldOptions.none with reference := some "Tag" }))).ensureId⟩

/-- A tag. -/
def rustTag : Document := [("_id", .string "c000000000000000000000000")]

def tagHandle : ModelHandle Unit := ⟨0, "Tag", Schema.empty.ensureId⟩

/-- A database with this tag. -/
def blog : DatabaseState Unit :=
  ⟨⟨⟨0, none, none⟩, .unset,
      [⟨tagHandle, [("c000000000000000000000000", rustTag)]⟩, Model.empty postHandle],
      [("Tag", 0), ("Post", 1)], false⟩,
    Session.idle⟩

/-- A post of this tag. -/
def taggedPost : LiveDocument Unit :=
  .ofData postHandle
    [("tags", .array [.string "c000000000000000000000000"]),
      ("_id", .string "c000000000000000000000001")]

/-- The tags of a post. -/
def tagsOfPost : Population := ⟨"tags", "Tag", Selection.all⟩

/-- The post with its tag. -/
def populatedPost : LiveDocument Unit :=
  taggedPost.populate "tags" [⟨tagHandle, rustTag⟩] (.array [.document rustTag])

theorem populate_taggedPost :
    (populateAll taggedPost [tagsOfPost]).run blog = (.ok populatedPost, blog) := rfl

theorem populate_again_taggedPost :
    (populateAll taggedPost [tagsOfPost]).run blog = (.ok populatedPost, blog) ∧
      ∃ twice session, (populateAll populatedPost [tagsOfPost]).run blog =
          (.ok twice, ⟨blog.database, session⟩) ∧
        twice = emptied populatedPost "tags" ∧
        ((twice.data = populatedPost.data ∧ twice.resolved = populatedPost.resolved) ↔
          ∀ population ∈ [tagsOfPost], ∀ items,
            populatedPost.data.get? population.path = some (.array items) → items = []) := by
  refine ⟨populate_taggedPost, populate_again ?_ ?_ ?_ populate_taggedPost Session.idle⟩
  · simp only [Plain, List.mem_singleton, forall_eq]
    rfl
  · exact List.pairwise_singleton _ _
  · intro population hmem hmatching
    rw [List.mem_singleton.mp hmem] at hmatching
    exact absurd rfl hmatching

/-- A second population of a list loses it, and saving would store no ids. -/
theorem exists_population_that_loses :
    ¬ ∀ (populations : List Population) (doc once twice : LiveDocument Unit)
        (s t u : DatabaseState Unit), Diverging populations →
        (populateAll doc populations).run s = (.ok once, t) →
        (populateAll once populations).run t = (.ok twice, u) →
        twice.data = once.data ∧ twice.resolved = once.resolved ∧
          twice.depopulated = once.depopulated := by
  intro hidempotent
  have hagain : (populateAll populatedPost [tagsOfPost]).run blog =
      (.ok (populatedPost.populate "tags" [] (.array [])), blog) := rfl
  obtain ⟨-, -, hsaved⟩ := hidempotent [tagsOfPost] _ _ _ _ _ _ (List.pairwise_singleton _ _)
    populate_taggedPost hagain
  have hlost : (populatedPost.populate "tags" [] (.array [])).depopulated =
      [("tags", .array []), ("_id", .string "c000000000000000000000001")] := rfl
  have hkept : populatedPost.depopulated =
      [("tags", .array [.string "c000000000000000000000000"]),
        ("_id", .string "c000000000000000000000001")] := rfl
  rw [hlost, hkept] at hsaved
  cases hsaved

end Database

end DocStore
