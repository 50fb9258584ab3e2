import DocStore.Proofs.Action
import DocStore.Proofs.Store.Sound
import DocStore.Store.Database
/-!
# The algebra of cursors

On a cursor of sound documents a query with pure predicates takes the documents of which its verdict
is true (`Cursor.shows_matching_of_pure`), and a sort puts them into their stable order
(`Cursor.shows_sorted`). Filters commute with each other and with stable sorts, so queries and sorts
do (`Cursor.find_sort_conj`).

A document that remembers what a getter found in other data is not sound, and population makes such
documents (`Cursor.exists_order_that_matters`).
-/

namespace DocStore

variable {σ : Type}

/-! ## Conjunctions of queries -/

/-- The conjunctions of two queries: of their expressions, of two documents under `$and`, and of two
documents with different keys in one. -/
inductive QuerySpec.Conj (q r : QuerySpec σ) : QuerySpec σ → Prop
  | expressions {e f : Expr σ} : q.read = .ok e → r.read = .ok f → Conj q r (.expr (e.conj f))
  | documents {d d' : Document} : q = .document d → r = .document d' →
    Conj q r (.document (QueryDocument.connective "$and" [d, d']))
  | siblings {d d' : Document} :
      q = .document d → r = .document d' → (OrderedMap.keys (d ++ d')).Nodup →
    Conj q r (.document (OrderedMap.ofEntries (d ++ d')))

theorem Schema.asks_expr_of_read {schema : Schema σ} {query : QuerySpec σ} {e : Expr σ}
    (hread : query.read = .ok e) {a : Question σ} (h : schema.Asks query a) :
    schema.Asks (.expr e) a := by
  obtain ⟨predicate, hcompile, hquestion⟩ := h
  rw [compileQuery_eq, hread] at hcompile
  exact ⟨predicate, hcompile, hquestion⟩

/-- A conjunction asks both queries in turn. -/
theorem Schema.asks_of_conj {schema : Schema σ} {q r both : QuerySpec σ} (h : q.Conj r both)
    {a b : Question σ} (hq : schema.Asks q a) (hr : schema.Asks r b) :
    schema.Asks both (a.and b) := by
  have hboth : Question.all [a, b] = a.and b := by rw [Question.all_cons, Question.all_singleton]
  cases h with
  | expressions hread hread' =>
    exact asks_conj (asks_expr_of_read hread hq) (asks_expr_of_read hread' hr)
  | documents hd hd' =>
    subst hd hd'
    rw [← hboth]
    exact asks_and (.cons hq (.cons hr .nil))
  | @siblings d d' hd hd' hkeys =>
    subst hd hd'
    have hflatten : [d, d'].flatten = d ++ d' := by simp
    rw [← hflatten] at hkeys
    rw [← hboth, ← hflatten]
    exact asks_siblings (.cons hq (.cons hr .nil)) hkeys

/-! ## Computations with cursors -/

namespace Cursor

open LiveDocument

/-- The documents that match a query. What this cursor remembers afterwards is left aside. -/
def matching (cursor : Cursor σ) (query : QuerySpec σ) : ActOn σ (Cursor σ) :=
  .mk do
    let (found, _) ← cursor.find query FindOptions.all
    return found

/-- The documents in the order of a sort. -/
def sorted (cursor : Cursor σ) (spec : SortSpec) : ActOn σ (Cursor σ) := .mk (cursor.sort spec)

/-- Whatever the states of the host are, both computations succeed with the same documents in the
same order, but for the virtual values that these remember. -/
def SameDocuments (act act' : ActOn σ (Cursor σ)) : Prop :=
  ∀ host host', ∃ found found', (act.run host).1 = .ok found ∧ (act'.run host').1 = .ok found' ∧
    found.documents.map LiveDocument.copy = found'.documents.map LiveDocument.copy

/-- Whatever the state of the host is, the computation succeeds with sound documents of which this
holds. -/
def Shows (act : ActOn σ (Cursor σ)) (schema : Schema σ) (P : List (LiveDocument σ) → Prop) :
    Prop :=
  ∀ host, ∃ found host', act.run host = (.ok found, host') ∧ found.schema = schema ∧
    (∀ doc ∈ found.documents, doc.Sound) ∧ P (copies found.documents)

theorem Shows.bind {act : ActOn σ (Cursor σ)} {next : Cursor σ → ActOn σ (Cursor σ)}
    {schema : Schema σ} {P Q : List (LiveDocument σ) → Prop} (h : Shows act schema P)
    (hnext : ∀ found : Cursor σ, found.schema = schema → (∀ doc ∈ found.documents, doc.Sound) →
      P (copies found.documents) → Shows (next found) schema Q) :
    Shows (act >>= next) schema Q := by
  intro host
  obtain ⟨found, host', hrun, hschema, hsound, hP⟩ := h host
  obtain ⟨found', host'', hrun', hrest⟩ := hnext found hschema hsound hP host'
  exact ⟨found', host'', (ActOn.run_bind_of_ok hrun).trans hrun', hrest⟩

theorem Shows.sameDocuments {act act' : ActOn σ (Cursor σ)} {schema schema' : Schema σ}
    {P Q : List (LiveDocument σ) → Prop} (h : Shows act schema P) (h' : Shows act' schema' Q)
    (hPQ : ∀ docs docs', P docs → Q docs' → docs = docs') : SameDocuments act act' := by
  intro host host'
  obtain ⟨found, _, hrun, -, -, hP⟩ := h host
  obtain ⟨found', _, hrun', -, -, hQ⟩ := h' host'
  exact ⟨found, found', congrArg Prod.fst hrun, congrArg Prod.fst hrun', hPQ _ _ hP hQ⟩

theorem Shows.mono {act : ActOn σ (Cursor σ)} {schema : Schema σ}
    {P Q : List (LiveDocument σ) → Prop} (h : Shows act schema P) (hPQ : ∀ docs, P docs → Q docs) :
    Shows act schema Q := by
  intro host
  obtain ⟨found, host', hrun, hschema, hsound, hP⟩ := h host
  exact ⟨found, host', hrun, hschema, hsound, hPQ _ hP⟩

section

variable {cursor : Cursor σ} {schema : Schema σ} {q r : QuerySpec σ} {predicate other : Predicate σ}
  {spec : SortSpec} {order : SortOrder σ}

/-- A query takes the documents of which its predicate is true. -/
theorem shows_matching (hschema : cursor.schema = schema)
    (hsound : ∀ doc ∈ cursor.documents, doc.Sound)
    (hcompile : schema.compileQuery q = .ok predicate) {truth : LiveDocument σ → Bool}
    (hanswers : Answers (.ofPredicate predicate) truth)
    (hcopy : ∀ doc : LiveDocument σ, truth doc.copy = truth doc) :
    Shows (cursor.matching q) schema fun docs => docs = (copies cursor.documents).filter truth := by
  intro host
  obtain rfl := hschema
  have hselect := select_of_sound hanswers hsound host
  have hrun : (cursor.matching q).run host =
      (.ok (cursor.derive (copies (LiveDocument.select (LiveDocument.run predicate) 0 none
        cursor.documents host).1.1)),
        (LiveDocument.select (LiveDocument.run predicate) 0 none cursor.documents host).2) := by
    show ((do let (found, _) ← cursor.find q FindOptions.all; return found : StateM σ _) host) = _
    rw [find, hcompile]
    rfl
  refine ⟨_, _, hrun, rfl, ?_, ?_⟩
  · rw [hselect]
    exact sound_of_mem_copies fun doc hdoc => hsound doc (List.mem_filter.mp hdoc).1
  · show copies (copies _) = _
    rw [hselect, copies_copies, copies_filter hcopy]

/-- A query with pure predicates takes the documents of which its verdict is true. -/
theorem shows_matching_of_pure (hschema : cursor.schema = schema)
    (hsound : ∀ doc ∈ cursor.documents, doc.Sound)
    (hcompile : schema.compileQuery q = .ok predicate) (hpure : predicate.Pure) :
    Shows (cursor.matching q) schema fun docs =>
      docs = (copies cursor.documents).filter (verdict predicate) :=
  shows_matching hschema hsound hcompile (answers_verdict hpure) (verdict_copy predicate)

/-- A sort puts the documents into their stable order. -/
theorem shows_sorted (hschema : cursor.schema = schema)
    (hsound : ∀ doc ∈ cursor.documents, doc.Sound)
    (hprepare : schema.prepareSort spec = .ok order) :
    Shows (cursor.sorted spec) schema
      (StableSort.StablySorted (orderOwn order) (copies cursor.documents)) := by
  intro host
  obtain rfl := hschema
  obtain ⟨hstays, hstable⟩ := sortM_of_sound order (sound_of_mem_copies hsound) host
  have hrun : (cursor.sorted spec).run host =
      (.ok (cursor.derive (order.sortM LiveDocument.get (copies cursor.documents) host).1),
        (order.sortM LiveDocument.get (copies cursor.documents) host).2) := by
    show cursor.sort spec host = _
    rw [sort, hprepare]
    rfl
  rw [copies_copies] at hstable
  exact ⟨_, _, hrun, rfl, hstays, hstable⟩

/-- Queries in turn are filters in turn. -/
theorem shows_matching_matching (hschema : cursor.schema = schema)
    (hsound : ∀ doc ∈ cursor.documents, doc.Sound) (hq : schema.compileQuery q = .ok predicate)
    (hr : schema.compileQuery r = .ok other) (hpure : predicate.Pure) (hpure' : other.Pure) :
    Shows (cursor.matching q >>= (·.matching r)) schema fun docs =>
      docs = ((copies cursor.documents).filter (verdict predicate)).filter (verdict other) := by
  refine (shows_matching_of_pure hschema hsound hq hpure).bind fun found hfound hstays hdocs => ?_
  rw [← hdocs]
  exact shows_matching_of_pure hfound hstays hr hpure'

/-- Where the documents are sound and the predicates pure, it makes no difference whether a cursor
is filtered before it is sorted or afterwards. -/
theorem matching_sorted (hschema : cursor.schema = schema)
    (hsound : ∀ doc ∈ cursor.documents, doc.Sound) (hq : schema.compileQuery q = .ok predicate)
    (hpure : predicate.Pure) (hprepare : schema.prepareSort spec = .ok order) :
    SameDocuments (cursor.matching q >>= (·.sorted spec))
      (cursor.sorted spec >>= (·.matching q)) := by
  have hfirst : Shows (cursor.matching q >>= (·.sorted spec)) schema (StableSort.StablySorted
      (orderOwn order) ((copies cursor.documents).filter (verdict predicate))) := by
    refine (shows_matching_of_pure hschema hsound hq hpure).bind fun found hfound hstays hdocs => ?_
    rw [← hdocs]
    exact shows_sorted hfound hstays hprepare
  have hlast : Shows (cursor.sorted spec >>= (·.matching q)) schema fun docs =>
      ∃ sorted, StableSort.StablySorted (orderOwn order) (copies cursor.documents) sorted ∧
        docs = sorted.filter (verdict predicate) := by
    refine (shows_sorted hschema hsound hprepare).bind fun found hfound hstays hstable => ?_
    exact (shows_matching_of_pure hfound hstays hq hpure).mono fun docs hdocs => ⟨_, hstable, hdocs⟩
  refine hfirst.sameDocuments hlast ?_
  rintro docs _ hdocs ⟨sorted, hsorted, rfl⟩
  exact hdocs.unique (hsorted.filter _)

end

/-- **Filters, sorts and conjunctions commute** on a cursor with pure getters whose documents
remember nothing else than these find: queries with pure predicates commute with each other and with
sorts, and two queries in turn are their conjunction. -/
theorem find_sort_conj {cursor : Cursor σ} {q r : QuerySpec σ} {spec : SortSpec}
    (hgetters : ∀ doc ∈ cursor.documents, ∃ values, doc.Computes values)
    (hfresh : ∀ doc ∈ cursor.documents, ∀ values, doc.Computes values → doc.Remembers values)
    (hpure : q.IsPure cursor.schema) (hpure' : r.IsPure cursor.schema)
    (hq : ∃ predicate, cursor.schema.compileQuery q = .ok predicate)
    (hr : ∃ predicate, cursor.schema.compileQuery r = .ok predicate)
    (hspec : ∃ order, cursor.schema.prepareSort spec = .ok order) :
    SameDocuments (cursor.matching q >>= (·.sorted spec)) (cursor.sorted spec >>= (·.matching q)) ∧
      SameDocuments (cursor.matching q >>= (·.matching r)) (cursor.matching r >>= (·.matching q)) ∧
      ∀ both, q.Conj r both →
        SameDocuments (cursor.matching q >>= (·.matching r)) (cursor.matching both) := by
  obtain ⟨first, hfirst⟩ := hq
  obtain ⟨second, hsecond⟩ := hr
  obtain ⟨order, hprepare⟩ := hspec
  have hfirstPure := Schema.pure_of_compileQuery hpure hfirst
  have hsecondPure := Schema.pure_of_compileQuery hpure' hsecond
  have hsound : ∀ doc ∈ cursor.documents, doc.Sound := fun doc hdoc =>
    have hcomputes := computes_values (hgetters doc hdoc)
    ⟨hcomputes, hfresh doc hdoc _ hcomputes⟩
  have hinTurn := shows_matching_matching rfl hsound hfirst hsecond hfirstPure hsecondPure
  refine ⟨matching_sorted rfl hsound hfirst hfirstPure hprepare, ?_, fun both hboth => ?_⟩
  · have hswapped := shows_matching_matching rfl hsound hsecond hfirst hsecondPure hfirstPure
    refine hinTurn.sameDocuments hswapped ?_
    rintro _ _ rfl rfl
    exact List.filter_comm _ _ _
  · obtain ⟨predicate, hcompile, hquestion⟩ :=
      Schema.asks_of_conj hboth ⟨first, hfirst, rfl⟩ ⟨second, hsecond, rfl⟩
    have hanswers :=
      (answers_verdict hfirstPure).and (answers_verdict hsecondPure) (verdict_copy second)
    rw [← hquestion] at hanswers
    refine hinTurn.sameDocuments (shows_matching rfl hsound hcompile hanswers fun doc => rfl) ?_
    rintro _ _ rfl rfl
    rw [List.filter_filter]
    exact List.filter_congr fun doc _ => Bool.and_comm _ _

/-! ## Letters and their writers -/

/-- Letters with a reference to their author, and the virtual path of their writer, who is the
author. -/
def letterHandle : ModelHandle Unit :=
  ⟨1, "Letter", ((Schema.empty.register "author"
      (.scalar "author" .cuid { FieldOptions.none with reference := some "User" })).register
        "writer" (.virtual "writer" (Script.value "author") none)).ensureId⟩

theorem getter?_letterHandle {path : String} {getter : Getter Unit}
    (h : letterHandle.schema.getter? path = some getter) :
    path = "writer" ∧ getter = Script.value "author" := by
  obtain rfl : path = "writer" := List.mem_singleton.mp (Schema.mem_virtualPaths h)
  exact ⟨rfl, (Option.some.inj h).symm⟩

/-- The getter is pure, whatever the data is. -/
theorem exists_computes_letter {doc : LiveDocument Unit} (hmodel : doc.model = letterHandle) :
    ∃ values, doc.Computes values := by
  obtain ⟨model, data, computed, resolved⟩ := doc
  obtain rfl : model = letterHandle := hmodel
  refine ⟨fun path => if path = "writer" then data.get? "author" else data.get? path, ?_,
    fun _ => 0, ?_⟩
  · rintro path hgetter
    have hpath : path ≠ "writer" := by
      rintro rfl
      cases hgetter
    exact if_neg hpath
  · rintro path getter hgetter
    obtain ⟨rfl, rfl⟩ := getter?_letterHandle hgetter
    exact .read (.inl rfl) (.done _)

/-- A letter that remembers its author as its writer remembers what its getter finds. -/
theorem remembers_letter {doc : LiveDocument Unit} (hmodel : doc.model = letterHandle)
    (hwriter : ∀ found, doc.computed.get? "writer" = some found → doc.data.get? "author" = found)
    {values : String → Option Value} (h : doc.Computes values) : doc.Remembers values := by
  obtain ⟨model, data, computed, resolved⟩ := doc
  obtain rfl : model = letterHandle := hmodel
  intro path found hfound
  rw [known?] at hfound
  split at hfound
  · next getter hgetter =>
    obtain ⟨rfl, rfl⟩ := getter?_letterHandle hgetter
    obtain ⟨rank, hvirtual⟩ := h.virtual
    rw [← hwriter found hfound, ← h.plain "author" rfl]
    have hread := hvirtual "writer" _ rfl
    generalize values "writer" = writer at hread
    cases hread with
    | read _ hdone =>
      cases hdone
      rfl
  · next hgetter =>
    rw [← Option.some.inj hfound]
    exact h.plain path hgetter

/-- A letter of an author. -/
def letter (id author : String) : LiveDocument Unit :=
  .ofData letterHandle [("author", .string author), ("_id", .string id)]

/-- Two letters, of which one remembers its writer. -/
def letters : Cursor Unit :=
  ⟨letterHandle.schema,
    [(letter "c000000000000000000000002" "c000000000000000000000000").remember "writer"
        (some (.string "c000000000000000000000000")),
      letter "c000000000000000000000003" "c000000000000000000000001"]⟩

/-- The letters of a writer. -/
def writtenBy (writer : String) : QuerySpec Unit := .expr (.equals "writer" (.string writer))

theorem isPure_writtenBy (schema : Schema Unit) (writer : String) :
    (writtenBy writer).IsPure schema := by
  intro e hread clause hclause predicate hpredicate
  cases hread
  rw [List.mem_singleton.mp hclause] at hpredicate
  cases hpredicate

/-- The documents with an author. -/
def hasAuthor : Predicate Unit :=
  (Script.value "author").bind fun found => .done found.isSome

theorem isPure_hasAuthor (schema : Schema Unit) :
    (QuerySpec.expr (.whereHolds hasAuthor)).IsPure schema := by
  intro e hread clause hclause predicate hpredicate
  cases hread
  rw [List.mem_singleton.mp hclause] at hpredicate
  cases hpredicate
  exact (Script.pure_value "author").bind fun found => Script.pure_done found.isSome

theorem find_sort_conj_letters :
    SameDocuments
        (letters.matching (writtenBy "c000000000000000000000000") >>= (·.sorted (.text "-writer")))
        (letters.sorted (.text "-writer") >>=
          (·.matching (writtenBy "c000000000000000000000000"))) ∧
      SameDocuments
        (letters.matching (writtenBy "c000000000000000000000000") >>=
          (·.matching (.expr (.whereHolds hasAuthor))))
        (letters.matching (.expr (.and [.equals "writer" (.string "c000000000000000000000000"),
          .whereHolds hasAuthor]))) := by
  have hmodel : ∀ doc ∈ letters.documents, doc.model = letterHandle := by
    simp only [letters, List.mem_cons, List.not_mem_nil, or_false, forall_eq_or_imp, forall_eq]
    exact ⟨rfl, rfl⟩
  have hwriter : ∀ doc ∈ letters.documents, ∀ found, doc.computed.get? "writer" = some found →
      doc.data.get? "author" = found := by
    simp only [letters, List.mem_cons, List.not_mem_nil, or_false, forall_eq_or_imp, forall_eq]
    exact ⟨fun found h => Option.some.inj h, fun found h => by cases h⟩
  have hall := find_sort_conj (fun doc hdoc => exists_computes_letter (hmodel doc hdoc))
    (fun doc hdoc values => remembers_letter (hmodel doc hdoc) (hwriter doc hdoc))
    (isPure_writtenBy letters.schema "c000000000000000000000000") (isPure_hasAuthor letters.schema)
    ⟨_, rfl⟩ ⟨_, rfl⟩ (⟨_, rfl⟩ : ∃ order, letters.schema.prepareSort (.text "-writer") = .ok order)
  have hconj : (writtenBy "c000000000000000000000000").Conj (.expr (.whereHolds hasAuthor))
      (.expr ((Expr.equals "writer" (.string "c000000000000000000000000")).conj
        (.whereHolds hasAuthor))) :=
    .expressions rfl rfl
  exact ⟨hall.1, hall.2.2 _ hconj⟩

/-! ## An order that matters -/

def userHandle : ModelHandle Unit := ⟨0, "User", Schema.empty.ensureId⟩

/-- A user. -/
def ann : Document := [("_id", .string "c000000000000000000000000")]

/-- A database with this user. -/
def library : DatabaseState Unit :=
  ⟨⟨⟨0, none, none⟩, .unset,
      [⟨userHandle, [("c000000000000000000000000", ann)]⟩, Model.empty letterHandle],
      [("User", 0), ("Letter", 1)], false⟩,
    Session.idle⟩

/-- A cursor of one letter of this user. -/
def letterOfAnn : Cursor Unit :=
  ⟨letterHandle.schema, [letter "c000000000000000000000001" "c000000000000000000000000"]⟩

/-- The writer, and then the author. -/
def writerThenAuthor : PopulateSpec :=
  .requests [⟨"writer", some "User", Selection.all⟩, PopulationRequest.ofPath "author"]

/-- The letter with its author, which remembers the id of the author as that of the writer. -/
def populatedLetter : LiveDocument Unit :=
  (((letter "c000000000000000000000001" "c000000000000000000000000").remember "writer"
    (some (.string "c000000000000000000000000"))).populate "writer" [⟨userHandle, ann⟩]
      (.document ann)).populate "author" [⟨userHandle, ann⟩] (.document ann)

theorem populate_letterOfAnn : (Database.populateCursor letterOfAnn writerThenAuthor).run library =
    (.ok ⟨letterHandle.schema, [populatedLetter]⟩, library) := rfl

/-- Population changes data from which a virtual value was computed. A query that comes first finds
the value that is remembered; a sort makes copies, which compute it again. -/
theorem exists_order_that_matters :
    ¬ ∀ (cursor populated : Cursor Unit) (populations : PopulateSpec) (s t : DatabaseState Unit)
        (q : QuerySpec Unit) (spec : SortSpec),
        (Database.populateCursor cursor populations).run s = (.ok populated, t) →
        (∀ doc ∈ populated.documents, ∃ values, doc.Computes values) →
        q.IsPure populated.schema →
        (∃ predicate, populated.schema.compileQuery q = .ok predicate) →
        (∃ order, populated.schema.prepareSort spec = .ok order) →
        SameDocuments (populated.matching q >>= (·.sorted spec))
          (populated.sorted spec >>= (·.matching q)) := by
  intro hcommute
  have hgetters : ∀ doc ∈ [populatedLetter], ∃ values, doc.Computes values := by
    simp only [List.mem_singleton, forall_eq]
    exact exists_computes_letter rfl
  obtain ⟨found, found', hfirst, hlast, hsame⟩ := hcommute _ _ _ _ _
    (writtenBy "c000000000000000000000000") (.text "_id") populate_letterOfAnn hgetters
    (isPure_writtenBy _ _) ⟨_, rfl⟩ ⟨_, rfl⟩ () ()
  have hone : found.documents.length = 1 := by
    cases hfirst
    rfl
  have hnone : found'.documents = [] := by
    cases hlast
    rfl
  rw [hnone, List.map_nil, List.map_eq_nil_iff] at hsame
  rw [hsame] at hone
  cases hone

end Cursor

end DocStore
