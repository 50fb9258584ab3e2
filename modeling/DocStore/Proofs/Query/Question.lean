import DocStore.Proofs.Query.Compile
/-!
# Questions

`Question` is what a compiled query asks of records of every kind. `Question.all`, `Question.any`
and `Question.not` are its operations; their laws hold with the states that the questions leave,
since a question that ends a list ends also the list of the contraries.

`Schema.Asks` says that a query compiles, and to which question. `Schema.asks_and_iff` and its
siblings say how the connectives of expressions compile: to the operations on the questions of their
members.
-/

namespace DocStore

variable {σ : Type}

/-! ## Questions -/

/-- A question to records of every kind. -/
def Question (σ : Type) := ∀ τ : Type, Access τ σ Empty → StateM τ Bool

namespace Question

/-- The question of a predicate. -/
def ofPredicate (predicate : Predicate σ) : Question σ := fun _ access =>
  Script.question access predicate

/-- The question of a clause. -/
def ofClause (schema : Schema σ) (clause : Expr σ) : Question σ := fun _ access =>
  clause.clauseAnswer schema access

/-- The contrary answer. -/
def not (q : Question σ) : Question σ := fun τ access => (!·) <$> q τ access

/-- Both questions in turn; a no ends it. -/
def and (q r : Question σ) : Question σ := fun τ access => do
  if ← q τ access then r τ access else return false

/-- Both questions in turn; a yes ends it. -/
def or (q r : Question σ) : Question σ := fun τ access => do
  if ← q τ access then return true else r τ access

/-- Whether all answer yes; the first no ends it. -/
def all (questions : List (Question σ)) : Question σ := fun τ access =>
  (questions.map fun q => q τ access).allM id

/-- Whether some question answers yes; the first yes ends it. -/
def any (questions : List (Question σ)) : Question σ := fun τ access =>
  (questions.map fun q => q τ access).anyM id

variable (q : Question σ) (questions rest : List (Question σ))

theorem ext {q r : Question σ} (h : ∀ τ access, q τ access = r τ access) : q = r :=
  funext fun τ => funext (h τ)

theorem not_not : q.not.not = q :=
  ext fun τ access => by
    simp only [not, Functor.map_map, Bool.not_not, id_map']

theorem all_nil : all ([] : List (Question σ)) = fun _ _ => pure true := rfl

theorem any_nil : any ([] : List (Question σ)) = fun _ _ => pure false := rfl

theorem all_cons : all (q :: questions) = q.and (all questions) :=
  ext fun τ access => by
    simp only [all, and, List.map_cons, List.allM_cons, id]

theorem any_cons : any (q :: questions) = q.or (any questions) :=
  ext fun τ access => by
    simp only [any, or, List.map_cons, List.anyM_cons, id]

/-- De Morgan's law, with the same states: what ends a disjunction ends the conjunction of the
contraries. -/
theorem not_or (r : Question σ) : (q.or r).not = q.not.and r.not := by
  refine ext fun τ access => ?_
  simp only [not, or, and, map_bind, bind_map_left]
  refine bind_congr fun b => ?_
  cases b with
  | true => simp
  | false => simp

/-- Nothing of a disjunction holds if everything in it fails. -/
theorem not_any : (any questions).not = all (questions.map not) := by
  induction questions with
  | nil =>
    refine ext fun τ access => ?_
    simp [not, any_nil, all_nil]
  | cons q questions ih => rw [any_cons, not_or, ih, List.map_cons, all_cons]

theorem all_singleton : all [q] = q := by
  rw [all_cons]
  refine ext fun τ access => ?_
  have hpure : ∀ b : Bool, (if b then pure true else pure false : StateM τ Bool) = pure b := by
    intro b
    cases b <;> rfl
  simp only [and, all_nil, hpure, bind_pure]

theorem any_singleton : any [q] = q := by
  rw [← not_not (any [q]), not_any, List.map_singleton, all_singleton, not_not]

theorem and_assoc (r s : Question σ) : (q.and r).and s = q.and (r.and s) := by
  refine ext fun τ access => ?_
  simp only [and, bind_assoc]
  refine bind_congr fun b => ?_
  cases b with
  | true => simp
  | false => simp

theorem all_append : all (questions ++ rest) = (all questions).and (all rest) := by
  induction questions with
  | nil =>
    refine ext fun τ access => ?_
    simp [and, all_nil]
  | cons q questions ih => rw [List.cons_append, all_cons, ih, all_cons, and_assoc]

theorem any_append : any (questions ++ rest) = (any questions).or (any rest) := by
  have hnot : (any (questions ++ rest)).not = ((any questions).or (any rest)).not := by
    rw [not_or, not_any, not_any, not_any, List.map_append, all_append]
  rw [← not_not (any (questions ++ rest)), hnot, not_not]

/-- Conjunctions in a conjunction are one. -/
theorem all_flatten (groups : List (List (Question σ))) :
    all groups.flatten = all (groups.map all) := by
  induction groups with
  | nil => rfl
  | cons group groups ih => rw [List.flatten_cons, all_append, ih, List.map_cons, all_cons]

end Question

/-! ## What expressions ask -/

namespace Field

theorem mem_queryOperators {op : QueryOperator} (h : op ∈ genericQueryOperators)
    (field : Field σ) : op ∈ field.queryOperators := by
  cases field with
  | scalar path kind options => cases kind <;> simp [queryOperators, h]
  | array path options child => simp [queryOperators, h]
  | «virtual» path getter setter => exact h

end Field

namespace Schema

variable {schema : Schema σ}

/-- A query compiles, and asks this question. -/
def Asks (schema : Schema σ) (query : QuerySpec σ) (q : Question σ) : Prop :=
  ∃ predicate, schema.compileQuery query = .ok predicate ∧ Question.ofPredicate predicate = q

theorem Asks.unique {query : QuerySpec σ} {q r : Question σ} (h : schema.Asks query q)
    (h' : schema.Asks query r) : q = r := by
  obtain ⟨predicate, hcompile, rfl⟩ := h
  obtain ⟨other, hother, rfl⟩ := h'
  rw [hcompile, Except.ok.injEq] at hother
  rw [hother]

/-- Expressions compile, each to its question. -/
def AskEach (schema : Schema σ) : List (Expr σ) → List (Question σ) → Prop :=
  List.Forall₂ fun e q => schema.Asks (.expr e) q

/-- Expressions compile in a list if and only if each of them compiles. -/
theorem askEach_iff {exprs : List (Expr σ)} {questions : List (Question σ)} :
    schema.AskEach exprs questions ↔
      ∃ predicates, Expr.compileAll schema exprs = .ok predicates ∧
        predicates.map Question.ofPredicate = questions := by
  induction exprs generalizing questions with
  | nil =>
    rw [AskEach, List.forall₂_nil_left_iff]
    constructor
    · rintro rfl
      exact ⟨[], rfl, rfl⟩
    · rintro ⟨predicates, hcompile, rfl⟩
      cases hcompile
      rfl
  | cons e exprs ih =>
    rw [AskEach, List.forall₂_cons_left_iff]
    constructor
    · rintro ⟨q, rest, ⟨predicate, hcompile, rfl⟩, hrest, rfl⟩
      obtain ⟨predicates, hall, rfl⟩ := ih.mp hrest
      have hfirst : e.compile schema = .ok predicate := hcompile
      exact ⟨predicate :: predicates, by rw [Expr.compileAll, hfirst, hall]; rfl, rfl⟩
    · rintro ⟨predicates, hcompile, rfl⟩
      rw [Expr.compileAll] at hcompile
      rcases hfirst : e.compile schema with error | predicate
      · rw [hfirst] at hcompile
        cases hcompile
      rcases hrest : Expr.compileAll schema exprs with error | rest
      · rw [hfirst, hrest] at hcompile
        cases hcompile
      rw [hfirst, hrest] at hcompile
      cases hcompile
      exact ⟨_, _, ⟨predicate, hfirst, rfl⟩, ih.mpr ⟨rest, hrest, rfl⟩, rfl⟩

theorem ofPredicate_all (predicates : List (Predicate σ)) :
    Question.ofPredicate (Script.all predicates) =
      .all (predicates.map Question.ofPredicate) :=
  Question.ext fun τ access => by
    simp only [Question.ofPredicate, Question.all, Script.run_all, List.map_map, Function.comp_def]

theorem ofPredicate_any (predicates : List (Predicate σ)) :
    Question.ofPredicate (Script.any predicates) =
      .any (predicates.map Question.ofPredicate) :=
  Question.ext fun τ access => by
    simp only [Question.ofPredicate, Question.any, Script.run_any, List.map_map, Function.comp_def]

theorem ofPredicate_not (predicate : Predicate σ) :
    Question.ofPredicate (predicate.bind fun b => .done !b) =
      (Question.ofPredicate predicate).not :=
  Question.ext fun _ access => Script.run_not access predicate

/-- A connective whose predicate is made from those of its members asks what these ask together. -/
theorem asks_connective_iff {connective : List (Expr σ) → Expr σ}
    {join : List (Predicate σ) → Predicate σ} (joined : List (Question σ) → Question σ)
    (hcompile : ∀ exprs, (connective exprs).compile schema =
      (do return join (← Expr.compileAll schema exprs)))
    (hjoin : ∀ predicates, Question.ofPredicate (join predicates) =
      joined (predicates.map Question.ofPredicate))
    {exprs : List (Expr σ)} {q : Question σ} :
    schema.Asks (.expr (connective exprs)) q ↔
      ∃ questions, schema.AskEach exprs questions ∧ q = joined questions := by
  have hquery : schema.compileQuery (.expr (connective exprs)) =
      (do return join (← Expr.compileAll schema exprs)) := hcompile exprs
  rw [Asks, hquery]
  constructor
  · rintro ⟨predicate, hpredicate, rfl⟩
    rcases hall : Expr.compileAll schema exprs with error | predicates
    · rw [hall] at hpredicate
      cases hpredicate
    rw [hall] at hpredicate
    cases hpredicate
    exact ⟨_, askEach_iff.mpr ⟨predicates, hall, rfl⟩, hjoin predicates⟩
  · rintro ⟨questions, heach, rfl⟩
    obtain ⟨predicates, hall, rfl⟩ := askEach_iff.mp heach
    exact ⟨join predicates, by rw [hall]; rfl, hjoin predicates⟩

variable {exprs : List (Expr σ)} {q : Question σ}

theorem asks_and_iff : schema.Asks (.expr (.and exprs)) q ↔
    ∃ questions, schema.AskEach exprs questions ∧ q = .all questions :=
  asks_connective_iff .all (fun exprs => by rw [Expr.compile]) ofPredicate_all

theorem asks_or_iff : schema.Asks (.expr (.or exprs)) q ↔
    ∃ questions, schema.AskEach exprs questions ∧ q = .any questions :=
  asks_connective_iff .any (fun exprs => by rw [Expr.compile]) ofPredicate_any

theorem asks_nor_iff : schema.Asks (.expr (.nor exprs)) q ↔
    ∃ questions, schema.AskEach exprs questions ∧ q = (Question.any questions).not :=
  asks_connective_iff (fun questions => (Question.any questions).not)
    (fun exprs => by rw [Expr.compile]) fun predicates => by
      rw [ofPredicate_not, ofPredicate_any]

theorem asks_not_iff : schema.Asks (.expr (.not exprs)) q ↔
    ∃ questions, schema.AskEach exprs questions ∧ q = (Question.all questions).not :=
  asks_connective_iff (fun questions => (Question.all questions).not)
    (fun exprs => by rw [Expr.compile]) fun predicates => by
      rw [ofPredicate_not, ofPredicate_all]

theorem askEach_singleton_iff {e : Expr σ} {questions : List (Question σ)} :
    schema.AskEach [e] questions ↔ ∃ q, schema.Asks (.expr e) q ∧ questions = [q] := by
  rw [AskEach, List.forall₂_cons_left_iff]
  constructor
  · rintro ⟨q, rest, hq, hrest, rfl⟩
    rw [List.forall₂_nil_left_iff.mp hrest]
    exact ⟨q, hq, rfl⟩
  · rintro ⟨q, hq, rfl⟩
    exact ⟨q, [], hq, .nil, rfl⟩

/-- An equality compiles, and asks its field. -/
theorem asks_equals (schema : Schema σ) (path : String) (value : Value) :
    schema.Asks (.expr (.equals path value)) (.ofClause schema (.equals path value)) :=
  ⟨_, rfl, rfl⟩

/-- An operator that every field takes compiles, and asks the field of its path. -/
theorem asks_operator (schema : Schema σ) (path : String) {op : QueryOperator}
    (hop : op ∈ Field.genericQueryOperators) (argument : Value) :
    schema.Asks (.expr (.operator path op argument))
      (.ofClause schema (.operator path op argument)) := by
  have hregex : op ≠ .regex := by
    rintro rfl
    simp [Field.genericQueryOperators] at hop
  have hresolves : (Expr.operator path op argument : Expr σ).Resolves schema :=
    ⟨Field.mem_queryOperators hop _, fun heq => absurd heq hregex⟩
  obtain ⟨predicate, hcompile, hanswer⟩ := Expr.compileOperator_of_resolves hresolves
  exact ⟨predicate, hcompile, Question.ext fun τ access => hanswer access⟩

end Schema

end DocStore
