import DocStore.Proofs.OrderedMap
import DocStore.Proofs.Query.Parse
import DocStore.Proofs.Query.Question
import DocStore.Proofs.Store.Sort
/-!
# The algebra of queries

A query document compiles if its clauses do, and asks them all (`Schema.asks_document_iff`), so
documents compile one by one, and the connectives of query documents are the operations on their
questions.

A membership test reads its path once, and a disjunction of equalities once for every alternative.
They have the same answer on records that answer a second reading like the first (`Access.Steady`),
which plain documents and live documents do.

`Schema.queryAlgebra` puts the laws together.
-/

namespace DocStore

variable {σ : Type}

/-! ## Fields -/

namespace Field

variable (field : Field σ) (found : Option Value) (argument : Value)

theorem query_ne : field.query .ne found argument = !field.accepts found argument := by
  unfold query
  split <;> rfl

/-- Lists answer membership by their items, and other fields by equality; in both the test that no
value is a member is the contrary. -/
theorem query_noneOf : field.query .noneOf found argument = !field.query .oneOf found argument := by
  unfold query
  split
  · rfl
  · rfl
  · simp only [queryList]
    cases storedItems found <;> rfl
  · rfl

theorem query_oneOf (h : field.kind ≠ .array) : field.query .oneOf found argument =
    argument.argumentList.any fun item => field.accepts found item := by
  unfold query
  split
  · rfl
  · rfl
  · exact absurd ‹_› h
  · rfl

end Field

/-! ## Query documents -/

namespace Schema

variable {schema : Schema σ}

/-- A document compiles if its clauses do, and asks them all. -/
theorem asks_document_iff {query : Document} {q : Question σ} :
    schema.Asks (.document query) q ↔ ∃ exprs questions, Expr.parseClauses query = .ok exprs ∧
      schema.AskEach exprs questions ∧ q = .all questions := by
  have hquery : schema.compileQuery (.document query) =
      (Expr.parseClauses query).map Expr.and >>= Expr.compile schema := rfl
  rcases hparse : (Expr.parseClauses query : Except StoreError (List (Expr σ))) with error | exprs
  · rw [Asks, hquery, hparse]
    constructor
    · rintro ⟨predicate, hpredicate, -⟩
      cases hpredicate
    · rintro ⟨exprs, questions, hexprs, -⟩
      cases hexprs
  · have hasks : schema.Asks (.document query) q ↔ schema.Asks (.expr (.and exprs)) q := by
      rw [Asks, hquery, hparse]
      rfl
    rw [hasks, asks_and_iff]
    constructor
    · rintro ⟨questions, heach, rfl⟩
      exact ⟨exprs, questions, rfl, heach, rfl⟩
    · rintro ⟨others, questions, hothers, heach, rfl⟩
      rw [← Except.ok.inj hothers] at heach
      exact ⟨questions, heach, rfl⟩

/-- A document with one clause asks this clause. -/
theorem asks_document_of_parses {query : Document} {e : Expr σ}
    (h : Expr.parseClauses query = .ok [e]) {q : Question σ} :
    schema.Asks (.document query) q ↔ schema.Asks (.expr e) q := by
  rw [asks_document_iff]
  constructor
  · rintro ⟨exprs, questions, hexprs, heach, rfl⟩
    rw [h, Except.ok.injEq] at hexprs
    subst hexprs
    obtain ⟨q, hq, rfl⟩ := askEach_singleton_iff.mp heach
    rwa [Question.all_singleton]
  · intro hq
    exact ⟨[e], [q], h, askEach_singleton_iff.mpr ⟨q, hq, rfl⟩, (Question.all_singleton q).symm⟩

/-- Documents compile, each to its question. -/
def AskEachDocument (schema : Schema σ) : List Document → List (Question σ) → Prop :=
  List.Forall₂ fun query q => schema.Asks (.document query) q

/-- The clauses of documents that compile. -/
theorem exists_clauses_of_askEachDocument {queries : List Document} {questions : List (Question σ)}
    (h : schema.AskEachDocument queries questions) :
    ∃ (clauses : List (List (Expr σ))) (asked : List (List (Question σ))),
      List.Forall₂ (fun query exprs => Expr.parseClauses query = .ok exprs) queries clauses ∧
      List.Forall₂ schema.AskEach clauses asked ∧ questions = asked.map .all := by
  induction h with
  | nil => exact ⟨[], [], .nil, .nil, rfl⟩
  | cons hfirst _ ih =>
    obtain ⟨exprs, asked, hparse, heach, rfl⟩ := asks_document_iff.mp hfirst
    obtain ⟨clauses, rest, hparses, heachs, rfl⟩ := ih
    exact ⟨exprs :: clauses, asked :: rest, .cons hparse hparses, .cons heach heachs, rfl⟩

/-- A list of documents that compile is read as conjunctions that ask what they ask. -/
theorem exists_exprs_of_askEachDocument (key : String) {queries : List Document}
    {questions : List (Question σ)} (h : schema.AskEachDocument queries questions) :
    ∃ exprs, Expr.parseQueries key (queries.map .document) = .ok exprs ∧
      schema.AskEach exprs questions := by
  obtain ⟨clauses, asked, hparses, heach, rfl⟩ := exists_clauses_of_askEachDocument h
  refine ⟨clauses.map .and, Expr.parseQueries_of_parses key hparses, ?_⟩
  refine List.forall₂_map_left_iff.mpr (List.forall₂_map_right_iff.mpr ?_)
  exact heach.imp fun exprs asked hexprs => asks_and_iff.mpr ⟨asked, hexprs, rfl⟩

end Schema

/-! ## Records that answer again -/

/-- Reading a path again finds what was found. -/
def Access.Steady {τ : Type} (access : Access τ σ Empty) : Prop :=
  ∀ path t, (access.value path (access.value path t).2).1 = (access.value path t).1

/-- How predicates read plain data. -/
def plainReading : Access (Document × σ) σ Empty := plainAccess fun change _ => change.elim

/-- How predicates read a live document. -/
def liveReading : Access (LiveDocument σ × σ) σ Empty :=
  LiveDocument.accessBy LiveDocument.read fun change _ => change.elim

theorem plainReading_steady : (plainReading : Access (Document × σ) σ Empty).Steady :=
  fun _ _ => rfl

/-- A live document remembers what its getters computed. -/
theorem liveReading_steady : (liveReading : Access (LiveDocument σ × σ) σ Empty).Steady := by
  intro path state
  have hknown := LiveDocument.read_known path state
  show (LiveDocument.read path (LiveDocument.read path state).2).1 =
    (LiveDocument.read path state).1
  rw [LiveDocument.read, LiveDocument.readWithin_of_known hknown]

namespace Question

/-- Two questions have the same answer on every record, plain or live. -/
structure Equivalent (q r : Question σ) : Prop where
  plain (doc : Document) (host : σ) :
    (q _ plainReading (doc, host)).1 = (r _ plainReading (doc, host)).1
  live (doc : LiveDocument σ) (host : σ) :
    (q _ liveReading (doc, host)).1 = (r _ liveReading (doc, host)).1

theorem Equivalent.of_steady {q r : Question σ}
    (h : ∀ {τ : Type} {access : Access τ σ Empty}, access.Steady → ∀ t,
      (q τ access t).1 = (r τ access t).1) : Equivalent q r where
  plain doc host := h plainReading_steady (doc, host)
  live doc host := h liveReading_steady (doc, host)

/-- A membership test answers like the equalities with the members, whichever of them are asked. -/
theorem equivalent_oneOf {schema : Schema σ} {path : String} {items : List Value}
    (h : (schema.fieldOrMixed path).kind ≠ .array) :
    Equivalent (.ofClause schema (.operator path .oneOf (.array items)))
      (.any (items.map fun item => .ofClause schema (.equals path item))) := by
  refine .of_steady fun {τ access} hsteady t => ?_
  -- the states in which the path still holds what it holds now
  let kind : τ → Prop := fun t' => (access.value path t').1 = (access.value path t).1
  have hvalue : Expr.Fixed kind (access.value path) (access.value path t).1 := fun t' ht' =>
    ⟨ht', (hsteady path t').trans ht'⟩
  have hequals (item : Value) : Expr.Fixed kind
      (Expr.clauseAnswer schema access (.equals path item))
      ((schema.fieldOrMixed path).accepts (access.value path t).1 item) := fun t' ht' =>
    ⟨congrArg ((schema.fieldOrMixed path).accepts · item) ht', (hvalue t' ht').2⟩
  have hany : Expr.Fixed kind
      ((items.map fun item => Expr.clauseAnswer schema access (.equals path item)).anyM id)
      ((items.map fun item =>
        (schema.fieldOrMixed path).accepts (access.value path t).1 item).any id) := by
    refine .anyM (List.forall₂_map_left_iff.mpr (List.forall₂_map_right_iff.mpr ?_))
    exact List.forall₂_same.mpr fun item _ => hequals item
  have hanswer := (hany t rfl).1
  have hoperator : (ofClause schema (.operator path .oneOf (.array items)) τ access t).1 =
      (schema.fieldOrMixed path).query .oneOf (access.value path t).1 (.array items) := rfl
  rw [hoperator, Field.query_oneOf _ _ _ h, any, List.map_map]
  rw [List.any_map] at hanswer
  exact hanswer.symm

end Question

/-! ## The laws -/

namespace QueryDocument

/-- A list of queries under a connective. -/
def connective (name : String) (queries : List Document) : Document :=
  [(name, .array (queries.map .document))]

/-- A query under `$not`. -/
def negation (query : Document) : Document := [("$not", .document query)]

/-- An operator on a path. -/
def operation (path name : String) (argument : Value) : Document :=
  [(path, .document [(name, argument)])]

end QueryDocument

namespace Schema

variable {schema : Schema σ}

open QueryDocument

section Connectives

variable {queries : List Document} {questions : List (Question σ)}

/-- A connective whose clause is made from the clauses of its queries. -/
theorem asks_connective_of_parses {name : String} {connect : List (Expr σ) → Expr σ}
    {q : Question σ}
    (hparse : ∀ {items : List Value} {exprs : List (Expr σ)},
      Expr.parseQueries name items = .ok exprs →
        Expr.parseClauses [(name, .array items)] = .ok [connect exprs])
    (hasks : ∀ {exprs : List (Expr σ)}, schema.AskEach exprs questions →
      schema.Asks (.expr (connect exprs)) q)
    (h : schema.AskEachDocument queries questions) :
    schema.Asks (.document (connective name queries)) q := by
  obtain ⟨exprs, hexprs, heach⟩ := exists_exprs_of_askEachDocument name h
  exact (asks_document_of_parses (hparse hexprs)).mpr (hasks heach)

theorem asks_and (h : schema.AskEachDocument queries questions) :
    schema.Asks (.document (connective "$and" queries)) (.all questions) := by
  obtain ⟨exprs, hexprs, heach⟩ := exists_exprs_of_askEachDocument "$and" h
  exact asks_document_iff.mpr ⟨exprs, questions, Expr.parseClauses_and hexprs, heach, rfl⟩

/-- The keys of all queries in one document ask the same. -/
theorem asks_siblings (h : schema.AskEachDocument queries questions)
    (hkeys : (OrderedMap.keys queries.flatten).Nodup) :
    schema.Asks (.document (OrderedMap.ofEntries queries.flatten)) (.all questions) := by
  obtain ⟨clauses, asked, hparses, heach, rfl⟩ := exists_clauses_of_askEachDocument h
  rw [OrderedMap.ofEntries_of_nodup hkeys]
  exact asks_document_iff.mpr ⟨clauses.flatten, asked.flatten, Expr.parseClauses_flatten hparses,
    List.rel_flatten heach, (Question.all_flatten asked).symm⟩

theorem asks_or (h : schema.AskEachDocument queries questions) :
    schema.Asks (.document (connective "$or" queries)) (.any questions) :=
  asks_connective_of_parses Expr.parseClauses_or
    (fun heach => asks_or_iff.mpr ⟨questions, heach, rfl⟩) h

theorem asks_nor (h : schema.AskEachDocument queries questions) :
    schema.Asks (.document (connective "$nor" queries)) (Question.any questions).not :=
  asks_connective_of_parses Expr.parseClauses_nor
    (fun heach => asks_nor_iff.mpr ⟨questions, heach, rfl⟩) h

end Connectives

/-- A query under `$not` compiles if and only if the query does, and asks the contrary. -/
theorem asks_negation_iff {query : Document} {q : Question σ} :
    schema.Asks (.document (negation query)) q ↔ schema.Asks (.document query) q.not := by
  have hnot (questions : List (Question σ)) :
      q = (Question.all questions).not ↔ q.not = .all questions := by
    constructor
    · rintro rfl
      exact Question.not_not _
    · intro h
      rw [← h, Question.not_not]
  constructor
  · intro h
    obtain ⟨clauses, -, hclauses, -⟩ := asks_document_iff.mp h
    obtain ⟨exprs, hexprs, rfl⟩ := Expr.parseClauses_not_eq_ok_iff.mp hclauses
    obtain ⟨questions, heach, hq⟩ := asks_not_iff.mp ((asks_document_of_parses hclauses).mp h)
    exact asks_document_iff.mpr ⟨exprs, questions, hexprs, heach, (hnot questions).mp hq⟩
  · intro h
    obtain ⟨exprs, questions, hexprs, heach, hq⟩ := asks_document_iff.mp h
    have hparse := Expr.parseClauses_not_eq_ok_iff.mpr ⟨exprs, hexprs, rfl⟩
    exact (asks_document_of_parses hparse).mpr
      (asks_not_iff.mpr ⟨questions, heach, (hnot questions).mpr hq⟩)

theorem asks_negation {query : Document} {q : Question σ} (h : schema.Asks (.document query) q) :
    schema.Asks (.document (negation query)) q.not :=
  asks_negation_iff.mpr (by rwa [Question.not_not])

/-- An operator on a path compiles if and only if the path is none, and asks its field. -/
theorem asks_operation_iff {path name : String} {op : QueryOperator}
    (hname : isOperatorKey name = true) (hread : QueryOperator.read name = .ok op)
    (hop : op ∈ Field.genericQueryOperators) {argument : Value} {q : Question σ} :
    schema.Asks (.document (operation path name argument)) q ↔
      isOperatorKey path = false ∧ q = .ofClause schema (.operator path op argument) := by
  have hasks := asks_operator schema path hop argument
  have hparse (clauses : List (Expr σ)) :
      Expr.parseClauses (operation path name argument) = .ok clauses ↔
        isOperatorKey path = false ∧ clauses = [.operator path op argument] :=
    Expr.parseClauses_operator_eq_ok_iff hname hread argument clauses
  constructor
  · intro h
    obtain ⟨clauses, questions, hclauses, -⟩ := asks_document_iff.mp h
    obtain ⟨hpath, rfl⟩ := (hparse clauses).mp hclauses
    exact ⟨hpath, ((asks_document_of_parses hclauses).mp h).unique hasks⟩
  · rintro ⟨hpath, rfl⟩
    exact (asks_document_of_parses ((hparse _).mpr ⟨hpath, rfl⟩)).mpr hasks

theorem asks_equality {path : String} (hpath : isOperatorKey path = false) {value : Value}
    (hvalue : ∀ inner, value ≠ .document inner) :
    schema.Asks (.document [(path, value)]) (.ofClause schema (.equals path value)) :=
  (asks_document_of_parses (Expr.parseClauses_equals hpath hvalue)).mpr
    (asks_equals schema path value)

/-- An expression with another one compiles if both do; a conjunction that is extended asks the
other expression last. -/
theorem asks_conj {e other : Expr σ} {q r : Question σ} (h : schema.Asks (.expr e) q)
    (hother : schema.Asks (.expr other) r) : schema.Asks (.expr (e.conj other)) (q.and r) := by
  unfold Expr.conj
  split
  · obtain ⟨questions, heach, rfl⟩ := asks_and_iff.mp h
    refine asks_and_iff.mpr ⟨questions ++ [r], List.rel_append heach (.cons hother .nil), ?_⟩
    rw [Question.all_append, Question.all_singleton]
  · refine asks_and_iff.mpr ⟨[q, r], .cons h (.cons hother .nil), ?_⟩
    rw [Question.all_cons, Question.all_singleton]

theorem asks_disj {e other : Expr σ} {q r : Question σ} (h : schema.Asks (.expr e) q)
    (hother : schema.Asks (.expr other) r) : schema.Asks (.expr (e.disj other)) (q.or r) := by
  unfold Expr.disj
  split
  · obtain ⟨questions, heach, rfl⟩ := asks_or_iff.mp h
    refine asks_or_iff.mpr ⟨questions ++ [r], List.rel_append heach (.cons hother .nil), ?_⟩
    rw [Question.any_append, Question.any_singleton]
  · refine asks_or_iff.mpr ⟨[q, r], .cons h (.cons hother .nil), ?_⟩
    rw [Question.any_cons, Question.any_singleton]

theorem asks_neg {e : Expr σ} {q : Question σ} (h : schema.Asks (.expr e) q) :
    schema.Asks (.expr e.neg) q.not :=
  asks_not_iff.mpr ⟨[q], .cons h .nil, by rw [Question.all_singleton]⟩

theorem asks_nin_iff {path : String} {argument : Value} {q : Question σ} :
    schema.Asks (.document (operation path "$nin" argument)) q ↔
      schema.Asks (.document (operation path "$in" argument)) q.not := by
  have hfield : Question.ofClause schema (.operator path .noneOf argument) =
      (Question.ofClause schema (.operator path .oneOf argument)).not :=
    Question.ext fun τ access => by
      funext t
      show ((schema.fieldOrMixed path).query .noneOf _ argument, _) = _
      rw [Field.query_noneOf]
      rfl
  rw [asks_operation_iff rfl rfl (by simp [Field.genericQueryOperators]),
    asks_operation_iff rfl rfl (by simp [Field.genericQueryOperators]), hfield]
  refine and_congr_right fun _ => ⟨?_, fun h => ?_⟩
  · rintro rfl
    exact Question.not_not _
  · rw [← h, Question.not_not]

theorem asks_equality_of_ne {path : String} {value : Value} {q : Question σ}
    (hvalue : ∀ inner, value ≠ .document inner)
    (h : schema.Asks (.document (operation path "$ne" value)) q) :
    schema.Asks (.document [(path, value)]) q.not := by
  obtain ⟨hpath, rfl⟩ :=
    (asks_operation_iff rfl rfl (by simp [Field.genericQueryOperators])).mp h
  have hfield : Question.ofClause schema (.operator path .ne value) =
      (Question.ofClause schema (.equals path value)).not :=
    Question.ext fun τ access => by
      funext t
      show ((schema.fieldOrMixed path).query .ne _ value, _) = _
      rw [Field.query_ne]
      rfl
  rw [hfield, Question.not_not]
  exact asks_equality hpath hvalue

theorem asks_alternatives {path : String} {items : List Value} {q : Question σ}
    (hfield : (schema.fieldOrMixed path).kind ≠ .array)
    (hitems : ∀ item ∈ items, ∀ inner, item ≠ .document inner)
    (h : schema.Asks (.document (operation path "$in" (.array items))) q) :
    ∃ r, schema.Asks (.document (connective "$or" (items.map fun item => [(path, item)]))) r ∧
      q.Equivalent r := by
  obtain ⟨hpath, rfl⟩ :=
    (asks_operation_iff rfl rfl (by simp [Field.genericQueryOperators])).mp h
  refine ⟨_, asks_or ?_, Question.equivalent_oneOf hfield⟩
  refine List.forall₂_map_left_iff.mpr (List.forall₂_map_right_iff.mpr ?_)
  exact List.forall₂_same.mpr fun item hitem => asks_equality hpath (hitems item hitem)

/-- The laws of the query operators under a schema. Questions that are equal have the same answers
on all records and leave the same state. -/
structure QueryAlgebra (schema : Schema σ) : Prop where
  /-- A list under `$and` is the conjunction of its queries, also under `$not`. -/
  and {queries : List Document} {questions : List (Question σ)} :
    schema.AskEachDocument queries questions →
      schema.Asks (.document (connective "$and" queries)) (.all questions) ∧
      schema.Asks (.document (negation (connective "$and" queries))) (Question.all questions).not
  /-- So is one document with their keys, if these do not collide. -/
  siblings {queries : List Document} {questions : List (Question σ)} :
    schema.AskEachDocument queries questions → (OrderedMap.keys queries.flatten).Nodup →
      schema.Asks (.document (OrderedMap.ofEntries queries.flatten)) (.all questions) ∧
      schema.Asks (.document (negation (OrderedMap.ofEntries queries.flatten)))
        (Question.all questions).not
  /-- A query under `$not` is its contrary. -/
  not {query : Document} {q : Question σ} :
    schema.Asks (.document (negation query)) q ↔ schema.Asks (.document query) q.not
  or {queries : List Document} {questions : List (Question σ)} :
    schema.AskEachDocument queries questions →
      schema.Asks (.document (connective "$or" queries)) (.any questions)
  /-- A list under `$nor` is the contrary of the disjunction, and the conjunction of the
  contraries. -/
  nor {queries : List Document} {questions : List (Question σ)} :
    schema.AskEachDocument queries questions →
      schema.Asks (.document (connective "$nor" queries)) (Question.any questions).not ∧
      schema.Asks (.document (negation (connective "$or" queries))) (Question.any questions).not ∧
      schema.Asks (.document (connective "$and" (queries.map negation)))
        (Question.any questions).not
  /-- Expressions of all forms are joined and negated. -/
  conj {e other : Expr σ} {q r : Question σ} :
    schema.Asks (.expr e) q → schema.Asks (.expr other) r →
      schema.Asks (.expr (e.conj other)) (q.and r)
  disj {e other : Expr σ} {q r : Question σ} :
    schema.Asks (.expr e) q → schema.Asks (.expr other) r →
      schema.Asks (.expr (e.disj other)) (q.or r)
  neg {e : Expr σ} {q : Question σ} :
    schema.Asks (.expr e) q → schema.Asks (.expr e.neg) q.not
  /-- No membership is the contrary of membership, for fields of all kinds. -/
  nin {path : String} {argument : Value} {q : Question σ} :
    schema.Asks (.document (operation path "$nin" argument)) q ↔
      schema.Asks (.document (operation path "$in" argument)) q.not
  /-- Inequality to a value that is no document is the contrary of equality. -/
  ne {path : String} {value : Value} {q : Question σ} :
    (∀ inner, value ≠ .document inner) →
      schema.Asks (.document (operation path "$ne" value)) q →
      schema.Asks (.document [(path, value)]) q.not
  /-- Membership is equality with one of the members, for fields that are no lists. -/
  oneOf {path : String} {items : List Value} {q : Question σ} :
    (schema.fieldOrMixed path).kind ≠ .array →
      (∀ item ∈ items, ∀ inner, item ≠ .document inner) →
      schema.Asks (.document (operation path "$in" (.array items))) q →
      ∃ r, schema.Asks (.document (connective "$or" (items.map fun item => [(path, item)]))) r ∧
        q.Equivalent r

/-- **The query operators form one Boolean algebra**, under every schema and for queries of any
depth. -/
theorem queryAlgebra (schema : Schema σ) : QueryAlgebra schema where
  and h := ⟨asks_and h, asks_negation (asks_and h)⟩
  siblings h hkeys := ⟨asks_siblings h hkeys, asks_negation (asks_siblings h hkeys)⟩
  not := asks_negation_iff
  or := asks_or
  nor {queries questions} h := by
    have hcontraries : schema.AskEachDocument (queries.map negation)
        (questions.map Question.not) := by
      refine List.forall₂_map_left_iff.mpr (List.forall₂_map_right_iff.mpr ?_)
      exact h.imp fun query q => asks_negation
    refine ⟨asks_nor h, asks_negation (asks_or h), ?_⟩
    rw [Question.not_any]
    exact asks_and hcontraries
  conj := asks_conj
  disj := asks_disj
  neg := asks_neg
  nin := asks_nin_iff
  ne := asks_equality_of_ne
  oneOf := asks_alternatives

/-- Two queries that compile side by side, the second of them a membership test. -/
theorem queryAlgebra_of_empty :
    (∃ questions, (empty : Schema Unit).AskEachDocument
        [[("a", .string "x")], operation "b" "$in" (.array [.null, .string "y"])] questions ∧
      (empty : Schema Unit).Asks
        (.document [("a", .string "x"), ("b", .document [("$in", .array [.null, .string "y"])])])
        (.all questions)) ∧
    ∃ q r, (empty : Schema Unit).Asks
        (.document (operation "b" "$in" (.array [.null, .string "y"]))) q ∧
      (empty : Schema Unit).Asks
        (.document (connective "$or" [[("b", .null)], [("b", .string "y")]])) r ∧
      q.Equivalent r := by
  have hequality : (empty : Schema Unit).Asks (.document [("a", .string "x")]) _ :=
    asks_equality rfl nofun
  have hmembership : (empty : Schema Unit).Asks
      (.document (operation "b" "$in" (.array [.null, .string "y"]))) _ :=
    (asks_operation_iff rfl rfl (by simp [Field.genericQueryOperators])).mpr ⟨rfl, rfl⟩
  have heach : (empty : Schema Unit).AskEachDocument
      [[("a", .string "x")], operation "b" "$in" (.array [.null, .string "y"])] _ :=
    .cons hequality (.cons hmembership .nil)
  obtain ⟨r, hr, hequivalent⟩ := (queryAlgebra empty).oneOf (by decide) (by simp) hmembership
  exact ⟨⟨_, heach, ((queryAlgebra empty).siblings heach (by decide)).1⟩, _, r, hmembership, hr,
    hequivalent⟩

end Schema

end DocStore
