import DocStore.Proofs.Query.Parse
import DocStore.Proofs.Store.BulkUpdate
import DocStore.Proofs.Value.Equality
/-!
# Populating a list, and asking for its ids

A population of a list goes through the ids and looks each of them up among the stored keys; a query
for the ids goes through the stored documents and asks each for its id.
`Database.resolveMany_agrees_with_find` says that both find the same documents, and in which order
the population has them.

The two ways meet in `Model.Reads`, which ties a document that was read to the id under which it is
stored. It has this id if the path of ids is the default one (`Schema.DefaultId`).
-/

namespace DocStore

variable {σ α β : Type}

/-! ## Stored documents as they are read -/

namespace Model

/-- Whether a document is what is read, in some session, of what is stored under an id. -/
def Reads (model : Model σ) (id : String) (doc : LiveDocument σ) : Prop :=
  ∃ data session after, model.records.get? id = some data ∧
    (model.handle.materialize data).run session = (.ok doc, after)

/-- Whether every stored document can be read in every session. -/
def Materializes (model : Model σ) : Prop :=
  ∀ entry ∈ model.records, ∀ session, ∃ doc after,
    (model.handle.materialize entry.2).run session = (.ok doc, after)

/-- Whether every stored document is read as the same document in all sessions. -/
def ReadsAlike (model : Model σ) : Prop :=
  ∀ id doc doc', model.Reads id doc → model.Reads id doc' → doc = doc'

theorem Reads.copy {model : Model σ} {id : String} {doc : LiveDocument σ} (h : model.Reads id doc) :
    doc.copy = doc := by
  obtain ⟨data, session, after, -, hread⟩ := h
  obtain ⟨read, -, rfl⟩ := materialize_eq_ok hread
  rfl

theorem Reads.model {model : Model σ} {id : String} {doc : LiveDocument σ}
    (h : model.Reads id doc) :
    doc.model = model.handle := by
  obtain ⟨data, session, after, -, hread⟩ := h
  obtain ⟨read, -, rfl⟩ := materialize_eq_ok hread
  rfl

/-- Documents are read with the ids under which they are stored. -/
theorem Reads.id? {model : Model σ} (hdefault : model.handle.schema.DefaultId)
    (hkeyed : KeyedById model.records) {id : String} {doc : LiveDocument σ}
    (h : model.Reads id doc) :
    doc.id? = some id := by
  obtain ⟨data, session, after, hget, hread⟩ := h
  obtain ⟨read, hgetters, rfl⟩ := materialize_eq_ok hread
  exact hdefault.keeps_id (hkeyed.id?_of_get? hget) hgetters

/-! ## Reading several documents -/

/-- Steps that succeed and leave the model succeed in turn. -/
theorem run_mapM_of_looks {f : α → ModelAct σ β} {R : α → β → Prop} {model : Model σ}
    {items : List α} (h : ∀ a ∈ items, ∀ session, ∃ b after,
      (f a).run ⟨model, session⟩ = (.ok b, ⟨model, after⟩) ∧ R a b) (session : Session σ) :
    ∃ bs after, (items.mapM f).run ⟨model, session⟩ = (.ok bs, ⟨model, after⟩) ∧
      List.Forall₂ R items bs := by
  induction items generalizing session with
  | nil => exact ⟨[], session, rfl, .nil⟩
  | cons a items ih =>
    obtain ⟨ha, hitems⟩ := List.forall_mem_cons.mp h
    obtain ⟨b, between, hb, hR⟩ := ha session
    obtain ⟨bs, after, hbs, hRs⟩ := ih hitems between
    refine ⟨b :: bs, after, ?_, .cons hR hRs⟩
    rw [List.mapM_cons, ActOn.run_bind_of_ok hb, ActOn.run_bind_of_ok hbs]
    rfl

/-- A stored document is read. -/
theorem Materializes.run_newDocument {model : Model σ} (h : model.Materializes) {id : String}
    {data : Document} (hget : model.records.get? id = some data) (session : Session σ) :
    ∃ doc after, (newDocument data).run ⟨model, session⟩ = (.ok doc, ⟨model, after⟩) ∧
      model.Reads id doc := by
  obtain ⟨doc, after, hread⟩ := h (id, data) (OrderedMap.mem_of_get? hget) session
  refine ⟨doc, after, ?_, data, session, after, hget, hread⟩
  rw [Model.run_newDocument, hread]

/-- All documents are read, in the order of their ids. -/
theorem Materializes.run_documents {model : Model σ} (h : model.Materializes)
    (hnodup : model.records.keys.Nodup) (session : Session σ) :
    ∃ docs after, (documents : ModelAct σ _).run ⟨model, session⟩ = (.ok docs, ⟨model, after⟩) ∧
      List.Forall₂ model.Reads model.records.keys docs := by
  obtain ⟨docs, after, hrun, hreads⟩ := run_mapM_of_looks
    (R := fun entry doc => model.Reads entry.1 doc) (fun entry hentry session =>
      h.run_newDocument (OrderedMap.get?_of_mem hnodup hentry) session) session
  exact ⟨docs, after, hrun, List.forall₂_map_left_iff.mpr hreads⟩

/-- What looking up an id finds: the document under it, if it is stored. -/
def Finds (model : Model σ) (id : String) : Option (LiveDocument σ) → Prop
  | some doc => model.has id = true ∧ model.Reads id doc
  | none => model.has id = false

theorem Materializes.run_find? {model : Model σ} (h : model.Materializes) (id : String)
    (session : Session σ) :
    ∃ found after, (find? id).run ⟨model, session⟩ = (.ok found, ⟨model, after⟩) ∧
      model.Finds id found := by
  rcases hget : model.records.get? id with _ | data
  · have hfree : model.has id = false := by rw [has, OrderedMap.contains, hget]; rfl
    exact ⟨none, session, run_find?_of_none hget, hfree⟩
  · obtain ⟨doc, after, hdoc, hreads⟩ := h.run_newDocument hget session
    refine ⟨some doc, after, ?_, has_of_get? hget, hreads⟩
    rw [find?, ActOn.run_get_bind, hget]
    dsimp only
    rw [ActOn.run_bind_of_ok hdoc]
    rfl

theorem forall₂_reads_of_finds {model : Model σ} {ids : List String}
    {found : List (Option (LiveDocument σ))} (h : List.Forall₂ model.Finds ids found) :
    List.Forall₂ model.Reads (ids.filter model.has) (found.filterMap id) := by
  induction h with
  | nil => exact .nil
  | @cons first result ids found hfirst _ ih =>
    cases result with
    | none =>
      have hfree : model.has first = false := hfirst
      rw [List.filter_cons_of_neg (by simp [hfree])]
      exact ih
    | some doc =>
      rw [List.filter_cons_of_pos hfirst.1]
      exact .cons hfirst.2 ih

end Model

namespace Database

open Model (Reads Materializes)

/-- The ids among values. -/
def idsAmong (values : List Value) : List String := values.filterMap Value.asString?

/-- Looking up ids finds the documents of those that are stored, in the order of the ids. -/
theorem run_findAll {model : Model σ} (h : model.Materializes) (values : List Value)
    (session : Session σ) :
    ∃ docs after, (findAll values).run ⟨model, session⟩ = (.ok docs, ⟨model, after⟩) ∧
      List.Forall₂ model.Reads ((idsAmong values).filter model.has) docs := by
  obtain ⟨found, after, hrun, hfound⟩ :=
    Model.run_mapM_of_looks (fun id _ => h.run_find? id) session
  exact ⟨found.filterMap id, after, ActOn.run_bind_of_ok hrun, Model.forall₂_reads_of_finds hfound⟩

end Database

namespace LiveDocument

/-- A test that says of documents what a table says of their ids selects them by this table. -/
theorem forall₂_select {test : Visit σ Bool} {R : String → LiveDocument σ → Prop}
    {truth : String → Bool} (htest : ∀ id doc, R id doc → ∀ host,
      (test doc host).1.1 = truth id ∧ R id (test doc host).1.2.copy)
    {ids : List String} {docs : List (LiveDocument σ)} (h : List.Forall₂ R ids docs) (host : σ) :
    List.Forall₂ (fun id doc => R id doc.copy) (ids.filter truth)
      (select test 0 none docs host).1.1 := by
  induction h generalizing host with
  | nil => exact .nil
  | @cons id doc ids docs hdoc _ ih =>
    obtain ⟨hanswer, hcopy⟩ := htest id doc hdoc host
    rcases hrun : test doc host with ⟨⟨holds, seen⟩, host'⟩
    rw [hrun] at hanswer hcopy
    rw [select_cons hrun, List.filter_cons, ← hanswer]
    cases holds with
    | true => exact .cons hcopy (ih host')
    | false => exact ih host'

end LiveDocument

namespace Model

theorem run_onHost (f : StateM σ α) (s : ModelState σ) :
    (onHost f).run s = (.ok (f s.session.host).1,
      ⟨s.model, { s.session with host := (f s.session.host).2 }⟩) := rfl

/-! ## Queries that say the same of a document whenever they are asked -/

/-- Whether a query compiles and says of every stored document what a table says of its id, however
the document is read and whenever the query is asked. -/
def Answers (model : Model σ) (query : Document) (truth : String → Bool) : Prop :=
  ∃ predicate, model.handle.schema.compileQuery (.document query) = .ok predicate ∧
    ∀ id doc, model.Reads id doc → ∀ host, (LiveDocument.run predicate doc host).1.1 = truth id

/-- The same of a query that may be missing; then all documents match. -/
def Matches (model : Model σ) (matching : Option Document) (truth : String → Bool) : Prop :=
  match matching with
  | some query => model.Answers query truth
  | none => ∀ id, truth id = true

/-- Selecting documents that were read gives documents that were read. -/
theorem forall₂_reads_select {model : Model σ} {predicate : Predicate σ} {truth : String → Bool}
    (hanswers : ∀ id doc, model.Reads id doc → ∀ host,
      (LiveDocument.run predicate doc host).1.1 = truth id)
    {ids : List String} {docs : List (LiveDocument σ)}
    (h : List.Forall₂ model.Reads ids docs) (host : σ) :
    List.Forall₂ (fun id doc => model.Reads id doc.copy) (ids.filter truth)
      (LiveDocument.select (LiveDocument.run predicate) 0 none docs host).1.1 := by
  refine LiveDocument.forall₂_select
    (fun id doc hreads host => ⟨hanswers id doc hreads host, ?_⟩) h host
  rw [(LiveDocument.keeps_run predicate doc host).copy, hreads.copy]
  exact hreads

/-- Finding in a cursor, as an action on a model. -/
def findIn (cursor : Cursor σ) (query : Document) : ModelAct σ (Cursor σ) := do
  let (found, _) ← onHost (cursor.find (.document query) FindOptions.all)
  inSession (Act.ofExcept found)

theorem run_findIn_of_error {cursor : Cursor σ} {query : Document} {e : StoreError}
    (hcompile : cursor.schema.compileQuery (.document query) = .error e) (s : ModelState σ) :
    (findIn cursor query).run s = (.error e, s) := by
  rw [findIn, ActOn.run_bind_of_ok (run_onHost _ _), Cursor.find, hcompile]
  rfl

/-- In a cursor over documents that were read, a query finds those of which it is true. -/
theorem Answers.run_findIn {model : Model σ} {query : Document} {truth : String → Bool}
    (h : model.Answers query truth) {cursor : Cursor σ}
    (hschema : cursor.schema = model.handle.schema) {ids : List String}
    (hreads : List.Forall₂ model.Reads ids cursor.documents) (session : Session σ) :
    ∃ found after, (findIn cursor query).run ⟨model, session⟩ = (.ok found, ⟨model, after⟩) ∧
      found.schema = model.handle.schema ∧
      List.Forall₂ model.Reads (ids.filter truth) found.documents := by
  obtain ⟨predicate, hcompile, hanswers⟩ := h
  have hfound := forall₂_reads_select hanswers hreads session.host
  rcases hselect : LiveDocument.select (LiveDocument.run predicate) 0 none cursor.documents
      session.host with ⟨⟨found, visited⟩, host⟩
  rw [hselect] at hfound
  have hfind : cursor.find (.document query) FindOptions.all session.host =
      ((.ok (cursor.derive (found.map LiveDocument.copy)), cursor.derive visited), host) := by
    rw [Cursor.find, hschema, hcompile]
    exact congrArg (fun out : (List (LiveDocument σ) × List (LiveDocument σ)) × σ =>
      ((Except.ok (cursor.derive (out.1.1.map LiveDocument.copy)), cursor.derive out.1.2), out.2))
      hselect
  refine ⟨cursor.derive (found.map LiveDocument.copy), { session with host }, ?_, hschema,
    List.forall₂_map_right_iff.mpr hfound⟩
  rw [findIn, ActOn.run_bind_of_ok (run_onHost _ _), hfind]
  rfl

/-- A query finds the stored documents of which it is true, in the order in which they are
stored. -/
theorem Answers.run_find {model : Model σ} (hmaterializes : model.Materializes)
    (hnodup : model.records.keys.Nodup) {query : Document} {truth : String → Bool}
    (h : model.Answers query truth) (session : Session σ) :
    ∃ found after, (find (.document query) FindOptions.all).run ⟨model, session⟩ =
        (.ok found, ⟨model, after⟩) ∧
      found.schema = model.handle.schema ∧
      List.Forall₂ model.Reads (model.records.keys.filter truth) found.documents := by
  obtain ⟨docs, between, hdocs, hreads⟩ := hmaterializes.run_documents hnodup session
  have hsnapshot : (snapshot : ModelAct σ (Cursor σ)).run ⟨model, session⟩ =
      (.ok ⟨model.handle.schema, docs⟩, ⟨model, between⟩) := by
    rw [snapshot, run_currentHandle_bind, ActOn.run_bind_of_ok hdocs]
    rfl
  obtain ⟨found, after, hfind, hfound⟩ :=
    h.run_findIn (rfl : (⟨model.handle.schema, docs⟩ : Cursor σ).schema = _) hreads between
  refine ⟨found, after, ?_, hfound⟩
  rw [find, ActOn.run_bind_of_ok hsnapshot]
  exact hfind

end Model

/-! ## Asking for ids -/

theorem Value.looseEq_string_iff {text : String} {value : Value} :
    (Value.string text).looseEq value = true ↔ value = .string text := by
  rw [Value.looseEq_of_isScalar (a := .string text) trivial]
  cases value with
  | string other =>
    show (text == other) = true ↔ _
    rw [beq_iff_eq, Value.string.injEq, eq_comm]
  | _ => simp [Value.scalarLooseEq, Value.scalarEq, Number.ofValue?]

/-- A field of ids takes a text for one of some values if it is among them. -/
theorem Field.query_idField_iff {id : String} {values : List Value} :
    (Schema.idField : Field σ).query .oneOf (some (.string id)) (.array values) = true ↔
      id ∈ Database.idsAmong values := by
  have hkind : (Schema.idField : Field σ).kind ≠ .array := (nofun : FieldKind.cuid ≠ .array)
  rw [Field.query_oneOf _ _ _ hkind, Database.idsAmong, List.mem_filterMap]
  show values.any (fun item => (Value.string id).looseEq item) = true ↔ _
  rw [List.any_eq_true]
  refine exists_congr fun value => and_congr_right fun _ => ?_
  rw [Value.looseEq_string_iff]
  cases value <;> simp [Value.asString?]

namespace Model

/-- The query for the documents with one of some ids. -/
def idsQuery (values : List Value) : Document := [("_id", .document [("$in", .array values)])]

theorem parse_idsQuery (values : List Value) : (Expr.parse (idsQuery values) : Except _ (Expr σ)) =
    .ok (.and [.operator "_id" .oneOf (.array values)]) :=
  Expr.parse_operator rfl rfl rfl (.array values)

theorem compileQuery_idsQuery {schema : Schema σ} (h : schema.field? "_id" = some Schema.idField)
    (values : List Value) :
    schema.compileQuery (.document (idsQuery values)) = .ok (Script.all
      [(Script.value "_id").bind fun value =>
        .done ((Schema.idField : Field σ).query .oneOf value (.array values))]) := by
  have hfield : schema.fieldOrMixed "_id" = Schema.idField := by
    rw [Schema.fieldOrMixed, h]
    rfl
  have hoperator : Expr.compileOperator schema "_id" .oneOf (.array values) =
      .ok ((Script.value "_id").bind fun value =>
        .done ((Schema.idField : Field σ).query .oneOf value (.array values))) := by
    rw [Expr.compileOperator, hfield]
    rfl
  rw [Schema.compileQuery_of_parse (parse_idsQuery values), Expr.compile, Expr.compileAll,
    Expr.compile, hoperator]
  rfl

theorem answers_idsQuery {model : Model σ} (hdefault : model.handle.schema.DefaultId)
    (hkeyed : KeyedById model.records) (values : List Value) :
    model.Answers (idsQuery values) fun id => id ∈ Database.idsAmong values := by
  refine ⟨_, compileQuery_idsQuery hdefault.field values, fun id doc hreads host => ?_⟩
  have hid : doc.data.get? "_id" = some (.string id) :=
    Document.descend_of_removedSegments
      (Document.id?_eq_some_iff.mp (hreads.id? hdefault hkeyed))
  have hplain : doc.model.schema.getter? "_id" = none := by
    rw [hreads.model, Schema.getter?, hdefault.field]
    rfl
  have hknown : doc.known? "_id" = some (some (.string id)) := by
    rw [LiveDocument.known?, hplain, hid]
  have hread : LiveDocument.read "_id" (doc, host) = (some (.string id), doc, host) :=
    LiveDocument.readWithin_of_known hknown _
  have hrun : (LiveDocument.run (Script.all [(Script.value "_id").bind fun value =>
        .done ((Schema.idField : Field σ).query .oneOf value (.array values))]) doc host).1.1 =
      (Schema.idField : Field σ).query .oneOf (LiveDocument.read "_id" (doc, host)).1
        (.array values) := by
    rw [LiveDocument.run]
    show (Script.run _ (if _ then Script.all [] else Script.done false) _).1 = _
    split
    · next h => exact h.symm
    · next h => exact (Bool.eq_false_iff.mpr h).symm
  rw [hrun, hread, Bool.eq_iff_iff, Field.query_idField_iff, decide_eq_true_iff]

/-- The stored documents that a query for ids finds, and of these the ones that match another
query. -/
def findAmong (values : List Value) (matching : Option Document) :
    ModelAct σ (List (LiveDocument σ)) := do
  let found ← find (.document (idsQuery values)) FindOptions.all
  match matching with
  | some query => return (← findIn found query).documents
  | none => return found.documents

theorem Matches.run_findAmong {model : Model σ} (hdefault : model.handle.schema.DefaultId)
    (hkeyed : KeyedById model.records) (hmaterializes : model.Materializes)
    {matching : Option Document} {truth : String → Bool} (h : model.Matches matching truth)
    (values : List Value) (session : Session σ) :
    ∃ docs after, (findAmong values matching).run ⟨model, session⟩ = (.ok docs, ⟨model, after⟩) ∧
      List.Forall₂ model.Reads
        ((model.records.keys.filter fun id => id ∈ Database.idsAmong values).filter truth)
          docs := by
  obtain ⟨found, between, hfind, hschema, hfound⟩ :=
    (answers_idsQuery hdefault hkeyed values).run_find hmaterializes hkeyed.nodup session
  cases matching with
  | none =>
    refine ⟨found.documents, between, ?_, ?_⟩
    · rw [findAmong, ActOn.run_bind_of_ok hfind]
      rfl
    · rw [List.filter_eq_self.mpr fun id _ => h id]
      exact hfound
  | some query =>
    obtain ⟨chosen, after, hchoose, -, hchosen⟩ := Answers.run_findIn h hschema hfound between
    refine ⟨chosen.documents, after, ?_, hchosen⟩
    rw [findAmong, ActOn.run_bind_of_ok hfind]
    exact ActOn.run_bind_of_ok hchoose

end Model

namespace Database

/-! ## Populating -/

theorem run_keepMatching {model : Model σ} {matching : Option Document} {truth : String → Bool}
    (h : model.Matches matching truth) {ids : List String} {docs : List (LiveDocument σ)}
    (hreads : List.Forall₂ model.Reads ids docs) (session : Session σ) :
    ∃ kept after, (keepMatching model.handle matching docs).run ⟨model, session⟩ =
        (.ok kept, ⟨model, after⟩) ∧
      List.Forall₂ (fun id doc => model.Reads id doc.copy) (ids.filter truth) kept := by
  cases matching with
  | none =>
    refine ⟨docs, session, rfl, ?_⟩
    rw [List.filter_eq_self.mpr fun id _ => h id]
    exact hreads.imp fun id doc hdoc => hdoc.copy.symm ▸ hdoc
  | some query =>
    obtain ⟨predicate, hcompile, hanswers⟩ := h
    have hkept := Model.forall₂_reads_select hanswers hreads session.host
    rw [keepMatching, hcompile]
    exact ⟨_, _, rfl, hkept⟩

/-- Whether a list holds documents in the order of a sort, in which those that tie stand as in
another list. Whatever the values of the sorted documents are, as far as they agree with what these
know, the documents with these values are the stable sort of what they were before. -/
def SortedFrom (sort : SortOrder σ) (given sorted : List (LiveDocument σ)) : Prop :=
  ∀ values : LiveDocument σ → String → Option Value,
    (∀ doc ∈ sorted, ∀ path found, doc.known? path = some found → values doc path = found) →
    ∃ before : List (LiveDocument σ × (String → Option Value)),
      before.map Prod.fst = LiveDocument.copies given ∧
      StableSort.StablySorted (fun v w => sort.order v.2 w.2) before
        (sorted.map fun doc => (doc.copy, values doc))

theorem SortedFrom.perm {sort : SortOrder σ} {given sorted : List (LiveDocument σ)}
    (h : SortedFrom sort given sorted) :
    (LiveDocument.copies sorted).Perm (LiveDocument.copies given) := by
  obtain ⟨before, hbefore, hsorted⟩ := h (fun doc path => (doc.known? path).getD none)
    fun doc _ path found hfound => by rw [hfound, Option.getD_some]
  have hperm := (hsorted.perm.map Prod.fst).symm
  rwa [hbefore, List.map_map] at hperm

theorem run_sortFound (model : Model σ) (keys : List SortKey) (docs : List (LiveDocument σ))
    (session : Session σ) :
    ∃ sorted after, (sortFound model.handle keys docs).run ⟨model, session⟩ =
        (.ok sorted, ⟨model, after⟩) ∧
      (keys = [] → sorted = docs) ∧
      SortedFrom (model.handle.schema.sortOrder keys) docs sorted := by
  cases keys with
  | nil =>
    refine ⟨docs, session, rfl, fun _ => rfl, fun values _ => ?_⟩
    refine ⟨docs.map fun doc => (doc.copy, values doc), by rw [List.map_map]; rfl, .refl _,
      ?_, fun _ => rfl⟩
    exact List.pairwise_of_forall fun _ _ => rfl
  | cons key keys =>
    refine ⟨_, _, rfl, nofun, fun values hvalues => ?_⟩
    have hsorts := SortOrder.sortM_sorts _
      (LiveDocument.get_learns (model.handle.schema.sortOrder (key :: keys))) docs session.host
    obtain ⟨before, hbefore, hstable⟩ := hsorts.stablySorted (Cursor.forall₂_admits hvalues)
    exact ⟨before, Cursor.map_fst_of_admits hbefore, hstable⟩

/-! ## Both ways -/

end Database

/-- A document as a population keeps it. -/
def LiveDocument.toResolved (doc : LiveDocument σ) : ResolvedDocument σ := ⟨doc.model, doc.data⟩

namespace Model

section Documents

variable {model : Model σ} {ids : List String} {docs : List (LiveDocument σ)}

theorem map_id?_of_reads (hdefault : model.handle.schema.DefaultId)
    (hkeyed : KeyedById model.records)
    (h : List.Forall₂ (fun id doc => model.Reads id doc.copy) ids docs) :
    docs.map LiveDocument.id? = ids.map some := by
  induction h with
  | nil => rfl
  | cons hdoc _ ih =>
    rw [List.map_cons, List.map_cons, ih, ← hdoc.id? hdefault hkeyed]
    rfl

/-- Where documents are read alike, a list of ids brings the documents that its ids are read as. -/
theorem mem_map_toResolved_iff (halike : model.ReadsAlike)
    (h : List.Forall₂ (fun id doc => model.Reads id doc.copy) ids docs) (d : ResolvedDocument σ) :
    d ∈ docs.map LiveDocument.toResolved ↔
      ∃ id ∈ ids, ∃ doc, model.Reads id doc ∧ doc.toResolved = d := by
  induction h with
  | nil => simp
  | @cons id doc ids docs hdoc _ ih =>
    rw [List.map_cons, List.mem_cons, ih, List.exists_mem_cons_iff]
    refine or_congr_left ⟨?_, ?_⟩
    · rintro rfl
      exact ⟨doc.copy, hdoc, rfl⟩
    · rintro ⟨other, hother, rfl⟩
      rw [halike id other doc.copy hother hdoc]
      rfl

end Documents

end Model

namespace Database

open Model (Reads Materializes)

/-- The selection without its section. -/
def wholeOf (selection : Selection) : Selection := { selection with skip := 0, limit := none }

theorem cut_eq (selection : Selection) (items : List α) :
    selection.cut items = (items.drop selection.skip).take (selection.limit.getD items.length) := by
  rw [Selection.cut]
  cases selection.limit with
  | some n => rfl
  | none => exact (List.take_of_length_le (by simp)).symm

theorem run_resolveMany {model : Model σ} (hmaterializes : model.Materializes) (values : List Value)
    (selection : Selection) {truth : String → Bool}
    (hmatches : model.Matches selection.matching truth) (session : Session σ) :
    ∃ (unsorted sorted : List (LiveDocument σ)) (after : Session σ),
      (∀ other : Selection, other.matching = selection.matching → other.sort = selection.sort →
        (resolveMany values other).run ⟨model, session⟩ =
          (.ok ((other.cut sorted).map LiveDocument.toResolved), ⟨model, after⟩)) ∧
      List.Forall₂ (fun id doc => model.Reads id doc.copy)
        (((idsAmong values).filter model.has).filter truth) unsorted ∧
      (selection.sort = [] → sorted = unsorted) ∧
      SortedFrom (model.handle.schema.sortOrder selection.sort) unsorted sorted := by
  obtain ⟨docs, s₁, hdocs, hreads⟩ := run_findAll hmaterializes values session
  obtain ⟨unsorted, s₂, hkept, hunsorted⟩ := run_keepMatching hmatches hreads s₁
  obtain ⟨sorted, s₃, hsort, hplain, hsorted⟩ := run_sortFound model selection.sort unsorted s₂
  refine ⟨unsorted, sorted, s₃, fun other hmatching hkeys => ?_, hunsorted, hplain, hsorted⟩
  rw [resolveMany, Model.run_currentHandle_bind, ActOn.run_bind_of_ok hdocs, hmatching, hkeys,
    ActOn.run_bind_of_ok hkept, ActOn.run_bind_of_ok hsort]
  rfl

/-- **A population of a list agrees with a query for its ids.** For a model with the default path of
ids, into which no other path reaches, whose stored documents can all be read, and a match that says
the same of a document whenever it is asked, a population without a section resolves exactly the
documents that a query for the ids finds and the match keeps; where documents are read alike in all
sessions, also their data is the same. Without a sort they stand in the order of the list, and
repeated ids are repeated; with a sort they are in its order, and those that tie stand as they do
without it. A section first skips documents of this sequence and then limits them. A match that does
not compile fails both ways with the same error. -/
theorem resolveMany_agrees_with_find {model : Model σ} (hdefault : model.handle.schema.DefaultId)
    (hkeyed : KeyedById model.records) (hmaterializes : model.Materializes) (values : List Value)
    (selection : Selection) (session session' : Session σ) :
    (∀ query e, selection.matching = some query →
      model.handle.schema.compileQuery (.document query) = .error e →
      ((resolveMany values selection).run ⟨model, session⟩).1 = .error e ∧
      ((Model.findAmong values selection.matching).run ⟨model, session'⟩).1 = .error e) ∧
    ∀ truth, model.Matches selection.matching truth →
      ∃ (unsorted sorted queried : List (LiveDocument σ)) (after after' : Session σ),
        (resolveMany values (wholeOf selection)).run ⟨model, session⟩ =
          (.ok (sorted.map LiveDocument.toResolved), ⟨model, after⟩) ∧
        (resolveMany values selection).run ⟨model, session⟩ =
          (.ok (((sorted.drop selection.skip).take (selection.limit.getD sorted.length)).map
            LiveDocument.toResolved), ⟨model, after⟩) ∧
        (Model.findAmong values selection.matching).run ⟨model, session'⟩ =
          (.ok queried, ⟨model, after'⟩) ∧
        (∀ id, some id ∈ sorted.map LiveDocument.id? ↔ some id ∈ queried.map LiveDocument.id?) ∧
        (model.ReadsAlike → ∀ d, d ∈ sorted.map LiveDocument.toResolved ↔
          d ∈ queried.map LiveDocument.toResolved) ∧
        unsorted.map LiveDocument.id? =
          ((idsAmong values).filter fun id => model.has id && truth id).map some ∧
        (selection.sort = [] → sorted = unsorted) ∧
        SortedFrom (model.handle.schema.sortOrder selection.sort) unsorted sorted := by
  refine ⟨fun query e hquery hcompile => ⟨?_, ?_⟩, fun truth hmatches => ?_⟩
  · obtain ⟨docs, after, hdocs, -⟩ := run_findAll hmaterializes values session
    rw [resolveMany, Model.run_currentHandle_bind, ActOn.run_bind_of_ok hdocs, hquery, keepMatching,
      hcompile]
    rfl
  · obtain ⟨found, between, hfind, hschema, -⟩ :=
      (Model.answers_idsQuery hdefault hkeyed values).run_find hmaterializes hkeyed.nodup session'
    have hchoose := Model.run_findIn_of_error (hschema ▸ hcompile) (⟨model, between⟩ : ModelState σ)
    rw [Model.findAmong, ActOn.run_bind_of_ok hfind, hquery]
    dsimp only
    rw [ActOn.run_bind_of_error hchoose]
  · obtain ⟨unsorted, sorted, after, hresolve, hunsorted, hplain, hsorted⟩ :=
      run_resolveMany hmaterializes values selection hmatches session
    obtain ⟨queried, after', hfind, hqueried⟩ :=
      hmatches.run_findAmong hdefault hkeyed hmaterializes values session'
    have hcopies := hqueried.imp fun _ _ hdoc => hdoc.copy.symm ▸ hdoc
    have hids : unsorted.map LiveDocument.id? = _ :=
      Model.map_id?_of_reads hdefault hkeyed hunsorted
    have hsame (id : String) : id ∈ ((idsAmong values).filter model.has).filter truth ↔
        id ∈ (model.records.keys.filter fun id => id ∈ idsAmong values).filter truth := by
      simp only [List.mem_filter, Model.has_iff, decide_eq_true_eq]
      exact and_congr_left fun _ => And.comm
    have hsortedIds : (sorted.map LiveDocument.id?).Perm (unsorted.map LiveDocument.id?) := by
      have hperm := hsorted.perm.map LiveDocument.id?
      rwa [LiveDocument.copies, LiveDocument.copies, List.map_map, List.map_map] at hperm
    have hsortedData :
        (sorted.map LiveDocument.toResolved).Perm (unsorted.map LiveDocument.toResolved) := by
      have hperm := hsorted.perm.map LiveDocument.toResolved
      rwa [LiveDocument.copies, LiveDocument.copies, List.map_map, List.map_map] at hperm
    refine ⟨unsorted, sorted, queried, after, after', ?_, ?_, hfind, fun id => ?_,
      fun halike d => ?_, ?_, hplain, hsorted⟩
    · rw [hresolve (wholeOf selection) rfl rfl]
      rfl
    · rw [hresolve selection rfl rfl, cut_eq]
    · rw [hsortedIds.mem_iff, hids, Model.map_id?_of_reads hdefault hkeyed hcopies,
        List.mem_map_of_injective (Option.some_injective _),
        List.mem_map_of_injective (Option.some_injective _)]
      exact hsame id
    · rw [hsortedData.mem_iff, Model.mem_map_toResolved_iff halike hunsorted,
        Model.mem_map_toResolved_iff halike hcopies]
      exact exists_congr fun id => and_congr_left fun _ => hsame id
    · rw [hids, List.filter_filter]
      exact congrArg (List.map some) (List.filter_congr fun id _ => Bool.and_comm _ _)

/-! ## Labels -/

def labelHandle : ModelHandle Unit :=
  ⟨0, "Label", (Schema.empty.register "name" (.scalar "name" .string .none)).ensureId⟩

def label (id name : String) : String × Document :=
  (id, [("_id", .string id), ("name", .string name)])

/-- Four labels, of which two have the same name. -/
def labels : Model Unit :=
  ⟨labelHandle, [label "a" "new", label "b" "old", label "c" "new", label "d" "lost"]⟩

theorem defaultId_labels : labels.handle.schema.DefaultId :=
  Schema.defaultId_register_ensureId "name" (Path.apart_of_head_ne (by decide) [] []) _

theorem keyedById_labels : KeyedById labels.records := by decide

theorem materializes_labels : labels.Materializes := by
  simp only [Model.Materializes, labels, List.mem_cons, List.not_mem_nil, or_false,
    forall_eq_or_imp, forall_eq]
  exact ⟨fun session => ⟨_, _, rfl⟩, fun session => ⟨_, _, rfl⟩, fun session => ⟨_, _, rfl⟩,
    fun session => ⟨_, _, rfl⟩⟩

/-- A list with a repeated id, a value that is no id, and an id of nothing. -/
def labelValues : List Value :=
  [.string "c", .string "b", .null, .string "c", .string "e", .string "d", .string "a"]

/-- The labels that are not lost. -/
def keptLabels : Document := [("name", .document [("$ne", .string "lost")])]

/-- Of these the second and the third by their names. -/
def labelSelection : Selection := ⟨some keptLabels, [⟨"name", .ascending⟩], 1, some 2⟩

/-- Only the last label is lost. -/
theorem answers_keptLabels : labels.Answers keptLabels fun id => id != "d" := by
  have hparse : (Expr.parse keptLabels : Except _ (Expr Unit)) =
      .ok (.and [.operator "name" .ne (.string "lost")]) :=
    Expr.parse_operator rfl rfl rfl (.string "lost")
  refine ⟨_, (Schema.compileQuery_of_parse hparse).trans rfl, fun id doc hreads host => ?_⟩
  obtain ⟨data, session, after, hget, hread⟩ := hreads
  have hmem := OrderedMap.mem_of_get? hget
  simp only [labels, label, List.mem_cons, List.not_mem_nil, or_false, Prod.mk.injEq] at hmem
  rcases hmem with ⟨rfl, rfl⟩ | ⟨rfl, rfl⟩ | ⟨rfl, rfl⟩ | ⟨rfl, rfl⟩ <;>
  · cases hread
    rfl

theorem resolveMany_agrees_with_find_labels :
    ∃ unsorted sorted queried after after',
      (resolveMany labelValues (wholeOf labelSelection)).run ⟨labels, Session.idle⟩ =
        (.ok (sorted.map LiveDocument.toResolved), ⟨labels, after⟩) ∧
      (resolveMany labelValues labelSelection).run ⟨labels, Session.idle⟩ =
        (.ok (((sorted.drop 1).take 2).map LiveDocument.toResolved), ⟨labels, after⟩) ∧
      (Model.findAmong labelValues (some keptLabels)).run ⟨labels, Session.idle⟩ =
        (.ok queried, ⟨labels, after'⟩) ∧
      (∀ id, some id ∈ sorted.map LiveDocument.id? ↔ some id ∈ queried.map LiveDocument.id?) ∧
      unsorted.map LiveDocument.id? = [some "c", some "b", some "c", some "a"] ∧
      SortedFrom (labels.handle.schema.sortOrder [⟨"name", .ascending⟩]) unsorted sorted := by
  obtain ⟨unsorted, sorted, queried, after, after', hwhole, hsection, hqueried, hids,
      -, hunsorted, -, hsorted⟩ :=
    (resolveMany_agrees_with_find defaultId_labels keyedById_labels materializes_labels labelValues
      labelSelection Session.idle Session.idle).2 _ answers_keptLabels
  exact ⟨unsorted, sorted, queried, after, after', hwhole, hsection, hqueried, hids,
    hunsorted, hsorted⟩

/-! ## Where the two ways part -/

/-- A model of which the documents are read without their ids: another path reaches into the path of
ids. -/
def markedHandle : ModelHandle Unit :=
  ⟨0, "Marked", (Schema.empty.register "_id.x" (.scalar "_id.x" .string
    { (FieldOptions.none : FieldOptions Unit) with
      default? := some (pure (.string "v")) })).ensureId⟩

def marked : Model Unit := ⟨markedHandle, [("a", [("_id", .string "a")])]⟩

/-- Counts how often a path was asked for its value. -/
def countCalls : Getter Nat :=
  .host fun n => .setHost (n + 1) (.done (some (.int64 (Int64.ofNat (n + 1)))))

def countingHandle : ModelHandle Nat :=
  ⟨0, "Counting", (Schema.empty.declareVirtual "calls" countCalls none).ensureId⟩

def counting : Model Nat :=
  ⟨countingHandle, [("a", [("_id", .string "a")]), ("b", [("_id", .string "b")])]⟩

/-- Nothing was asked yet. -/
def uncounted : Session Nat := .idleOn 0

/-- The document that is asked first. -/
def askedFirst : Selection := ⟨some [("calls", .int64 1)], [], 0, none⟩

/-- A query that is read to an expression finds what the expression finds. -/
theorem find_of_parse {query : Document} {e : Expr σ} (h : Expr.parse query = .ok e)
    (options : FindOptions) :
    (Model.find (.document query) options : ModelAct σ (Cursor σ)) =
      Model.find (.expr e) options := by
  have hfind (cursor : Cursor σ) :
      cursor.find (.document query) options = cursor.find (.expr e) options := by
    rw [Cursor.find, Cursor.find, Schema.compileQuery_of_parse h]
    rfl
  simp only [Model.find, hfind]

/-- Whether a population without a section resolves the documents that the query for its ids finds
and its match keeps. -/
def ResolvesQueried (model : Model σ) (values : List Value) (selection : Selection)
    (session : Session σ) : Prop :=
  ∀ resolved queried t t',
    (resolveMany values (wholeOf selection)).run ⟨model, session⟩ = (.ok resolved, t) →
    (Model.findAmong values selection.matching).run ⟨model, session⟩ = (.ok queried, t') →
    ∀ d, d ∈ resolved ↔ d ∈ queried.map LiveDocument.toResolved

theorem exists_run_of_map {τ : Type} {act : ActOn τ (List α)} {s : τ} {f : α → β} {images : List β}
    (h : (act.run s).1.toOption.map (List.map f) = some images) :
    ∃ items t, act.run s = (.ok items, t) ∧ items.map f = images := by
  rcases hrun : act.run s with ⟨e | items, t⟩
  · rw [hrun] at h
    cases h
  · rw [hrun] at h
    exact ⟨items, t, rfl, Option.some.inj h⟩

/-- What is resolved has the ids of what the query finds. -/
theorem ResolvesQueried.mem_ids {model : Model σ} {values : List Value} {selection : Selection}
    {session : Session σ} {ids ids' : List (Option String)}
    (h : ResolvesQueried model values selection session)
    (hresolved : ((resolveMany values (wholeOf selection)).run ⟨model, session⟩).1.toOption.map
      (List.map fun d => d.data.id?) = some ids)
    (hqueried : ((Model.findAmong values selection.matching).run ⟨model, session⟩).1.toOption.map
      (List.map LiveDocument.id?) = some ids')
    {id : Option String} (hid : id ∈ ids) : id ∈ ids' := by
  obtain ⟨resolved, t, hresolve, rfl⟩ := exists_run_of_map hresolved
  obtain ⟨queried, t', hquery, rfl⟩ := exists_run_of_map hqueried
  obtain ⟨d, hd, rfl⟩ := List.mem_map.mp hid
  obtain ⟨doc, hdoc, rfl⟩ := List.mem_map.mp ((h resolved queried t t' hresolve hquery d).mp hd)
  exact List.mem_map.mpr ⟨doc, hdoc, rfl⟩

theorem keyedById_marked : KeyedById marked.records := by decide

theorem materializes_marked : marked.Materializes := by
  simp only [Model.Materializes, marked, List.mem_cons, List.not_mem_nil, or_false, forall_eq]
  exact fun session => ⟨_, _, rfl⟩

theorem defaultId_counting : counting.handle.schema.DefaultId :=
  Schema.defaultId_register_ensureId "calls" (Path.apart_of_head_ne (by decide) [] []) _

theorem keyedById_counting : KeyedById counting.records := by decide

theorem materializes_counting : counting.Materializes := by
  simp only [Model.Materializes, counting, List.mem_cons, List.not_mem_nil, or_false,
    forall_eq_or_imp, forall_eq]
  exact ⟨fun session => ⟨_, _, rfl⟩, fun session => ⟨_, _, rfl⟩⟩

/-- A population and the query for its ids find different documents where another path reaches into
the path of ids, and where what the match says of a document depends on when it is asked. -/
theorem exists_population_against_query :
    (¬ ∀ (model : Model Unit) (values : List Value) (selection : Selection)
      (session : Session Unit),
        model.handle.schema.field? "_id" = some Schema.idField → KeyedById model.records →
        model.Materializes → ResolvesQueried model values selection session) ∧
      ¬ ∀ (model : Model Nat) (values : List Value) (selection : Selection) (session : Session Nat),
        model.handle.schema.DefaultId → KeyedById model.records →
        model.Materializes → ResolvesQueried model values selection session := by
  constructor
  · intro hagrees
    have hmarked := hagrees marked [.string "a"] Selection.all Session.idle rfl keyedById_marked
      materializes_marked
    have hqueried : ((Model.findAmong [.string "a"] Selection.all.matching).run
        ⟨marked, Session.idle⟩).1.toOption.map (List.map LiveDocument.id?) = some [] := by
      rw [Model.findAmong, find_of_parse (Model.parse_idsQuery _)]
      decide +kernel
    have hid : none ∈ [] :=
      hmarked.mem_ids (by decide +kernel) hqueried (List.mem_singleton.mpr rfl)
    cases hid
  · intro hagrees
    have hcounting := hagrees counting [.string "b", .string "a"] askedFirst uncounted
      defaultId_counting keyedById_counting materializes_counting
    have hqueried : ((Model.findAmong [.string "b", .string "a"] askedFirst.matching).run
        ⟨counting, uncounted⟩).1.toOption.map (List.map LiveDocument.id?) = some [some "a"] := by
      rw [Model.findAmong, find_of_parse (Model.parse_idsQuery _)]
      decide +kernel
    have hresolved : ((resolveMany [.string "b", .string "a"] (wholeOf askedFirst)).run
        ⟨counting, uncounted⟩).1.toOption.map (List.map fun d => d.data.id?) = some [some "b"] := by
      decide +kernel
    have hid := hcounting.mem_ids hresolved hqueried (List.mem_singleton.mpr rfl)
    exact absurd (List.mem_singleton.mp hid) (by decide)

end Database

end DocStore
