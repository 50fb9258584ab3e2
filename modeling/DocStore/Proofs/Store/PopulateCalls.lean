import DocStore.Proofs.Store.Depopulation
/-!
# Calls that populate, undone

Calls that populate are run in turn, each on the document that the call before it returned, so a
later one may name a path inside a document that an earlier one brought.

`Database.Resolves` says that a population finds a document for every id under its path. Where this
holds of each population when it is its turn, and no path is populated twice, the document stays
populated in the sense of `LiveDocument.Populated` (`Database.populated_of_run`), and saving it puts
back what the document held before if and only if inner paths are visited first
(`Database.depopulate_restores_iff`).
-/

namespace DocStore

variable {σ : Type}

namespace Database

open LiveDocument (idsOf Stands Populated)
open Document (Rooted)

/-! ## Ids that are found -/

/-- Ids that are held are found, each with its document. -/
theorem mapM_find?_of_held {ids : List String} {model : Model σ} {session : Session σ}
    {found : List (Option (LiveDocument σ))} {t : ModelState σ} (hheld : ∀ id ∈ ids, model.Held id)
    (h : (ids.mapM Model.find?).run ⟨model, session⟩ = (.ok found, t)) :
    (found.filterMap id).map LiveDocument.id? = ids.map some := by
  induction ids generalizing session found with
  | nil =>
    cases h
    rfl
  | cons first rest ih =>
    rw [List.mapM_cons] at h
    obtain ⟨head, u, hfirst, h⟩ := ActOn.bind_eq_ok h
    obtain ⟨tail, v, hrest, h⟩ := ActOn.bind_eq_ok h
    cases h
    obtain ⟨doc, rfl, hid⟩ := hheld first List.mem_cons_self session head u hfirst
    have hmodel : u.model = model := by
      have hlooks := Model.looks_find? first ⟨model, session⟩
      rwa [hfirst] at hlooks
    have hstate : u = ⟨model, u.session⟩ := congrArg (ModelState.mk · u.session) hmodel
    rw [hstate] at hrest
    have htail := ih (fun id hid => hheld id (List.mem_cons_of_mem _ hid)) hrest
    simpa [hid] using htail

/-- All documents of a list of ids that are held are found, in the order of the ids. -/
theorem idsOf_resolveMany {ids : List String} {model : Model σ} {session : Session σ}
    {found : List (ResolvedDocument σ)} {t : ModelState σ} (hheld : ∀ id ∈ ids, model.Held id)
    (h : (resolveMany (ids.map .string) Selection.all).run ⟨model, session⟩ = (.ok found, t)) :
    found.map (fun d => d.data.id?) = ids.map some := by
  have hids : (ids.map Value.string).filterMap Value.asString? = ids := by
    rw [List.filterMap_map]
    exact List.filterMap_some
  obtain ⟨handle, u, hhandle, h⟩ := ActOn.bind_eq_ok h
  cases hhandle
  obtain ⟨stored, v, hfind, h⟩ := ActOn.bind_eq_ok h
  obtain ⟨results, w, hmap, hstored⟩ := ActOn.bind_eq_ok hfind
  cases hstored
  rw [hids] at hmap
  obtain ⟨kept, x, hkeep, h⟩ := ActOn.bind_eq_ok h
  cases hkeep
  obtain ⟨sorted, y, hsort, h⟩ := ActOn.bind_eq_ok h
  cases hsort
  cases h
  have hfound : (results.filterMap id).map (fun doc => doc.data.id?) = ids.map some :=
    mapM_find?_of_held hheld hmap
  simpa [Selection.cut, Selection.all, List.map_map, Function.comp_def] using hfound

theorem idsOf_resolveOne {text : String} {model : Model σ} {session : Session σ}
    {found : Option (ResolvedDocument σ)} {t : ModelState σ} (hheld : model.Held text)
    (h : (resolveOne text Selection.all).run ⟨model, session⟩ = (.ok found, t)) :
    ∃ d, found = some d ∧ d.data.id? = some text := by
  obtain ⟨result, u, hfind, hrest⟩ := ActOn.bind_eq_ok h
  obtain ⟨doc, rfl, hid⟩ := hheld session result u hfind
  cases hrest
  exact ⟨_, rfl, hid⟩

/-- Whether a population finds a document for every id under its path, which does not lead through a
list. -/
structure Resolves (db : Database σ) (doc : LiveDocument σ) (population : Population) : Prop where
  offLists : doc.data.removed? population.path = doc.data.get? population.path
  one {id : String} {model : Model σ} : doc.data.get? population.path = some (.string id) →
    db.target? population.model = .ok model → model.Held id
  many {items : List Value} {model : Model σ} :
    doc.data.get? population.path = some (.array items) →
    db.target? population.model = .ok model →
    ∃ ids : List String, items = ids.map .string ∧ ∀ id ∈ ids, model.Held id

/-- Where every id is found, a population finds nothing for its path, or what stands for the ids. -/
theorem found_of_resolves {db : Database σ} {doc : LiveDocument σ} {population : Population}
    {model : Model σ} {session session' : Session σ}
    {found : Option (List (ResolvedDocument σ) × Value)} (h : Resolves db doc population)
    (hall : population.selection = Selection.all)
    (htarget : db.target? population.model = .ok model)
    (hrun : (resolution (doc.data.get? population.path) population.selection).run
      ⟨model, session⟩ = (.ok found, ⟨model, session'⟩)) :
    found = none ∨ ∃ documents now before, found = some (documents, now) ∧
      doc.data.removed? population.path = some before ∧ Stands before documents now ∧
      (idsOf documents = [] → documents = []) := by
  rw [h.offLists]
  rw [hall] at hrun
  rcases hvalue : doc.data.get? population.path with _ | value
  · rw [hvalue] at hrun
    cases hrun
    exact .inl rfl
  rw [hvalue] at hrun
  cases value with
  | array items =>
    obtain ⟨ids, rfl, hheld⟩ := h.many hvalue htarget
    obtain ⟨documents, u, hmany, hfound⟩ := ActOn.bind_eq_ok hrun
    cases hfound
    have hdocuments := idsOf_resolveMany hheld hmany
    have hids : idsOf documents = ids := by
      have hfilter : idsOf documents = (documents.map fun d => d.data.id?).filterMap id := by
        rw [List.filterMap_map]
        rfl
      rw [hfilter, hdocuments, List.filterMap_map]
      exact List.filterMap_some
    refine .inr ⟨documents, _, _, rfl, rfl, ?_, fun hnone => ?_⟩
    · rw [← hids]
      exact .many
    · rw [hids] at hnone
      rw [hnone] at hdocuments
      exact List.map_eq_nil_iff.mp hdocuments
  | string text =>
    obtain ⟨document, u, hone, hfound⟩ := ActOn.bind_eq_ok hrun
    obtain ⟨d, rfl, hid⟩ := idsOf_resolveOne (h.one hvalue htarget) hone
    cases hfound
    have hids : idsOf [d] = [text] := by simp [idsOf, hid]
    refine .inr ⟨[d], _, _, rfl, rfl, .one hids, fun hnone => ?_⟩
    rw [hids] at hnone
    cases hnone
  | _ =>
    cases hrun
    exact .inl rfl

/-- Where every id is found, populations of paths that were not populated keep a document
populated. -/
theorem populated_of_run {populations : List Population} {doc once : LiveDocument σ}
    {s t : DatabaseState σ}
    (hplain : Plain doc.model.schema populations)
    (hall : ∀ population ∈ populations, population.selection = Selection.all)
    (honce : (populations.map Population.path).Nodup)
    (hresolves : ∀ before population after d u, populations = before ++ population :: after →
      (before.foldlM populateStep doc).run s = (.ok d, u) → Resolves s.database d population)
    (hfresh : doc.resolved = [])
    (h : (populations.foldlM populateStep doc).run s = (.ok once, t)) :
    ∃ roots, Populated doc.data roots once := by
  have hstep : ∀ before population after d u model found session,
      populations = before ++ population :: after →
      (before.foldlM populateStep doc).run s = (.ok d, u) →
      (∃ roots, Populated doc.data roots d ∧ d.resolved.keys ⊆ before.map Population.path) →
      s.database.target? population.model = .ok model →
      (resolution (d.data.get? population.path) population.selection).run ⟨model, u.session⟩ =
        (.ok found, ⟨model, session⟩) →
      ∃ roots, Populated doc.data roots (d.hold population.path found) ∧
        (d.hold population.path found).resolved.keys ⊆
          (before ++ [population]).map Population.path := by
    rintro before population after d u model found session hsplit hrun ⟨roots, hd, hkeys⟩ htarget
      hfound
    have hmem : population ∈ populations := by simp [hsplit]
    have hnew : population.path ∉ d.resolved.keys := by
      intro hkey
      rw [hsplit, List.map_append, List.map_cons] at honce
      exact List.disjoint_of_nodup_append honce (hkeys hkey) List.mem_cons_self
    rcases found_of_resolves (hresolves before population after d u hsplit hrun)
        (hall population hmem) htarget hfound with
      rfl | ⟨documents, now, held, rfl, hheld, hstands, hnamed⟩
    · refine ⟨roots, hd, fun key hkey => ?_⟩
      rw [List.map_append]
      exact List.mem_append_left _ (hkeys hkey)
    · obtain ⟨roots', hroots'⟩ := hd.populate hnew hheld hstands hnamed
      refine ⟨roots', hroots', fun key hkey => ?_⟩
      rw [LiveDocument.resolved_hold_some, OrderedMap.insert_of_not_mem documents hnew,
        OrderedMap.keys, List.map_append, List.mem_append] at hkey
      rw [List.map_append, List.mem_append]
      exact hkey.imp (fun hold => hkeys hold) id
  have hkeysStart : doc.resolved.keys ⊆ [].map Population.path := by
    simp [hfresh, OrderedMap.keys]
  obtain ⟨-, -, -, roots, hroots, -⟩ :=
    run_populations hplain ⟨[], .start hfresh, hkeysStart⟩ hstep h
  exact ⟨roots, hroots⟩

/-! ## Calls in turn -/

/-- Calls with populations that are read run these. -/
theorem run_populate_calls {handle : ModelHandle σ} {specs : List PopulateSpec}
    {calls : List (List Population)}
    (h : List.Forall₂ (fun spec populations =>
      handle.schema.preparePopulation spec = .ok populations) specs calls)
    (doc : LiveDocument σ) (s : DatabaseState σ) :
    (specs.foldlM (populate handle) doc).run s = (calls.foldlM populateAll doc).run s := by
  induction h generalizing doc s with
  | nil => rfl
  | @cons spec populations specs calls hspec _ ih =>
    have hcall (s : DatabaseState σ) : (populate handle doc spec).run s =
        (populateAll doc populations).run s := by
      rw [populate, hspec]
      rfl
    rw [List.foldlM_cons, List.foldlM_cons, ActOn.run_bind, ActOn.run_bind, hcall]
    split
    · exact ih _ _
    · rfl

/-- Calls in turn run their populations in turn, on a copy. -/
theorem run_calls {calls : List (List Population)} {doc populated : LiveDocument σ}
    {s t : DatabaseState σ} (hplain : Plain doc.model.schema calls.flatten)
    (h : (calls.foldlM populateAll doc).run s = (.ok populated, t)) :
    (calls.flatten.foldlM populateStep doc.copy).run s = (.ok populated.copy, t) := by
  induction calls generalizing doc s with
  | nil =>
    cases h
    rfl
  | cons first rest ih =>
    rw [List.foldlM_cons] at h
    obtain ⟨doc', u, hfirst, hrest⟩ := ActOn.bind_eq_ok h
    have hplainFirst : Plain doc.copy.model.schema first := fun population hmem =>
      hplain population (List.mem_append_left _ hmem)
    obtain ⟨-, hmodel, hcopy, -⟩ :=
      run_populations (P := fun _ _ => True) hplainFirst trivial (fun _ _ _ _ _ _ _ _ _ _ _ _ _ =>
        trivial) hfirst
    have hplainRest : Plain doc'.model.schema rest.flatten := by
      rw [hmodel]
      exact fun population hmem => hplain population (List.mem_append_right _ hmem)
    have hsteps := ih hplainRest hrest
    rw [hcopy rfl] at hsteps
    have hrun : (first.foldlM populateStep doc.copy).run s = (.ok doc', u) := hfirst
    rw [List.flatten_cons, List.foldlM_append, ActOn.run_bind_of_ok hrun]
    exact hsteps

/-- **Putting ids back undoes populating**, in every order that visits inner paths first, and in no
other. For calls that populate each path at most once and without a selection, where every id is
found when its path is populated, visiting the populated paths in an order gives the data before the
calls if and only if no path below an outermost populated path is visited behind it, unless it
brought no documents. In any other order some path does not hold any more what it held. The order in
which the paths were populated, turned round, is always one that gives the data before. -/
theorem depopulate_restores_iff {doc populated : LiveDocument σ} {specs : List PopulateSpec}
    {calls : List (List Population)} {s t : DatabaseState σ} (hfresh : doc.resolved = [])
    (hprepared : List.Forall₂ (fun spec populations =>
      doc.model.schema.preparePopulation spec = .ok populations) specs calls)
    (hplain : Plain doc.model.schema calls.flatten)
    (hall : ∀ population ∈ calls.flatten, population.selection = Selection.all)
    (honce : (calls.flatten.map Population.path).Nodup)
    (hresolves : ∀ before population after d u, calls.flatten = before ++ population :: after →
      (before.foldlM populateStep doc.copy).run s = (.ok d, u) →
      Resolves s.database d population)
    (h : (specs.foldlM (populate doc.model) doc).run s = (.ok populated, t)) :
    (∀ order : OrderedMap (List (ResolvedDocument σ)), order.Perm populated.resolved →
      ((∀ path value, doc.data.get? path = some value →
          (LiveDocument.depopulatedIn order populated.data).get? path = some value) ↔
        LiveDocument.InnerFirst order) ∧
      (LiveDocument.InnerFirst order →
        LiveDocument.depopulatedIn order populated.data = doc.data)) ∧
    LiveDocument.depopulatedIn populated.resolved.reverse populated.data = doc.data := by
  rw [run_populate_calls hprepared] at h
  have hplainCopy : Plain doc.copy.model.schema calls.flatten := hplain
  obtain ⟨roots, hroots⟩ :=
    populated_of_run hplainCopy hall honce hresolves hfresh (run_calls hplain h)
  constructor
  · intro order horder
    have hequal := hroots.depopulatedIn_eq_iff horder
    refine ⟨⟨hroots.innerFirst_of_get? horder, fun hfirst path value hvalue => ?_⟩, hequal.mpr⟩
    have hdata : LiveDocument.depopulatedIn order populated.data = doc.data := hequal.mpr hfirst
    rw [hdata]
    exact hvalue
  · exact (hroots.depopulatedIn_eq_iff (List.reverse_perm _)).mpr hroots.nested.innerFirst_reverse

/-! ## An id that is written over -/

/-- A database of teams, authors, who are in a team, and articles, which have an author. -/
def teamHandle : ModelHandle Unit := ⟨0, "Team", Schema.empty.ensureId⟩

def authorHandle : ModelHandle Unit :=
  ⟨1, "Author", (Schema.empty.register "team"
    (.scalar "team" .cuid { FieldOptions.none with reference := some "Team" })).ensureId⟩

def articleHandle : ModelHandle Unit :=
  ⟨2, "Article", (Schema.empty.register "author"
    (.scalar "author" .cuid { FieldOptions.none with reference := some "Author" })).ensureId⟩

def coreTeam : Document := [("_id", .string "c000000000000000000000000")]

def coreAuthor : Document :=
  [("_id", .string "c000000000000000000000001"), ("team", .string "c000000000000000000000000")]

def newsroom : DatabaseState Unit :=
  ⟨⟨⟨0, none, none⟩, .unset,
      [⟨teamHandle, [("c000000000000000000000000", coreTeam)]⟩,
        ⟨authorHandle, [("c000000000000000000000001", coreAuthor)]⟩, Model.empty articleHandle],
      [("Team", 0), ("Author", 1), ("Article", 2)], false⟩,
    Session.idle⟩

/-- An article of this author. -/
def article : LiveDocument Unit :=
  .ofData articleHandle
    [("author", .string "c000000000000000000000001"), ("_id", .string "c000000000000000000000002")]

/-- Two calls: for the author of an article, and for the team of the author. -/
def articleCalls : List PopulateSpec :=
  [.requests [PopulationRequest.ofPath "author"],
    .requests [⟨"author.team", some "Team", Selection.all⟩]]

def authorOfArticle : Population := ⟨"author", "Author", Selection.all⟩

def teamOfAuthor : Population := ⟨"author.team", "Team", Selection.all⟩

/-- The article with its author. -/
def articleWithAuthor : LiveDocument Unit :=
  article.populate "author" [⟨authorHandle, coreAuthor⟩] (.document coreAuthor)

/-- The article with its author, who has a team. -/
def articleWithTeam : LiveDocument Unit :=
  articleWithAuthor.populate "author.team" [⟨teamHandle, coreTeam⟩] (.document coreTeam)

theorem populate_article : (articleCalls.foldlM (populate article.model) article).run newsroom =
    (.ok articleWithTeam, newsroom) := rfl

theorem prepared_articleCalls : List.Forall₂ (fun spec populations =>
    article.model.schema.preparePopulation spec = .ok populations) articleCalls
    [[authorOfArticle], [teamOfAuthor]] := .cons rfl (.cons rfl .nil)

theorem plain_article : Plain article.model.schema [authorOfArticle, teamOfAuthor] := by
  simp only [Plain, List.mem_cons, List.not_mem_nil, or_false, forall_eq_or_imp, forall_eq]
  exact ⟨rfl, rfl⟩

theorem all_article : ∀ population ∈ [authorOfArticle, teamOfAuthor],
    population.selection = Selection.all := by
  simp [authorOfArticle, teamOfAuthor]

theorem once_article : ([authorOfArticle, teamOfAuthor].map Population.path).Nodup := by
  decide

/-- The author and the team of the author are found. -/
theorem resolves_article {before after : List Population} {population : Population}
    {d : LiveDocument Unit} {u : DatabaseState Unit}
    (hsplit : [authorOfArticle, teamOfAuthor] = before ++ population :: after)
    (h : (before.foldlM populateStep article.copy).run newsroom = (.ok d, u)) :
    Resolves newsroom.database d population := by
  match before, hsplit with
  | [], hsplit =>
    cases hsplit
    cases h
    refine ⟨rfl, fun hid htarget => ?_, fun hids _ => by cases hids⟩
    cases hid
    cases htarget
    intro session found t hfind
    cases hfind
    exact ⟨_, rfl, rfl⟩
  | [_], hsplit =>
    cases hsplit
    have hauthor : ([authorOfArticle].foldlM populateStep article.copy).run newsroom =
        (.ok articleWithAuthor, newsroom) := rfl
    rw [hauthor] at h
    cases h
    refine ⟨rfl, fun hid htarget => ?_, fun hids _ => by cases hids⟩
    cases hid
    cases htarget
    intro session found t hfind
    cases hfind
    exact ⟨_, rfl, rfl⟩
  | _ :: _ :: [], hsplit => cases hsplit
  | _ :: _ :: _ :: _, hsplit => cases hsplit

theorem depopulate_restores_article :
    (articleCalls.foldlM (populate article.model) article).run newsroom =
        (.ok articleWithTeam, newsroom) ∧
      (∀ order : OrderedMap (List (ResolvedDocument Unit)),
        order.Perm articleWithTeam.resolved →
        ((∀ path value, article.data.get? path = some value →
            (LiveDocument.depopulatedIn order articleWithTeam.data).get? path = some value) ↔
          LiveDocument.InnerFirst order) ∧
        (LiveDocument.InnerFirst order →
          LiveDocument.depopulatedIn order articleWithTeam.data = article.data)) ∧
      LiveDocument.depopulatedIn articleWithTeam.resolved.reverse articleWithTeam.data =
        article.data :=
  ⟨populate_article, depopulate_restores_iff rfl prepared_articleCalls plain_article
    all_article once_article (fun _ _ _ _ _ => resolves_article) populate_article⟩

/-- Visiting the author before the team of the author writes a document over the id of the
author. -/
theorem exists_order_that_loses :
    ¬ ∀ (doc populated : LiveDocument Unit) (specs : List PopulateSpec)
        (calls : List (List Population)) (s t : DatabaseState Unit)
        (order : OrderedMap (List (ResolvedDocument Unit))),
        doc.resolved = [] →
        List.Forall₂ (fun spec populations =>
          doc.model.schema.preparePopulation spec = .ok populations) specs calls →
        (∀ population ∈ calls.flatten, population.selection = Selection.all) →
        (calls.flatten.map Population.path).Nodup →
        (∀ before population after d u, calls.flatten = before ++ population :: after →
          (before.foldlM populateStep doc.copy).run s = (.ok d, u) →
          Resolves s.database d population) →
        (specs.foldlM (populate doc.model) doc).run s = (.ok populated, t) →
        order.Perm populated.resolved →
        ∀ path value, doc.data.get? path = some value →
          (LiveDocument.depopulatedIn order populated.data).get? path = some value := by
  intro hundoes
  have hauthor := hundoes article articleWithTeam articleCalls _ newsroom newsroom
    articleWithTeam.resolved rfl prepared_articleCalls all_article once_article
    (fun _ _ _ _ _ => resolves_article) populate_article (List.Perm.refl _) "author"
    (.string "c000000000000000000000001") rfl
  have hlost : articleWithTeam.depopulated.get? "author" =
      some (.document [("team", .string "c000000000000000000000000")]) := rfl
  rw [← LiveDocument.depopulated_eq, hlost] at hauthor
  cases hauthor

end Database

end DocStore
