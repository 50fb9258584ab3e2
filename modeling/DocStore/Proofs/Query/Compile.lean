import DocStore.Proofs.Script
import DocStore.Store.Model
import Mathlib.Data.List.Forall2
/-!
# What a query answers

`Expr.answer` is the meaning of an expression: its connectives applied to the answers of its
clauses, in the order in which they are asked. `Expr.holds` is its truth where the answers are
fixed.

`Expr.compile_of_resolves` and `Expr.compile_of_not_resolves` go over the tree of an expression: it
compiles, to its meaning, if and only if each of its clauses resolves in the schema, wherever the
clause stands. `Schema.query_compiles_to_meaning` puts them together.
-/

namespace DocStore

namespace Expr

variable {σ τ : Type}

/-! ## Clauses and their answers -/

mutual

/-- The clauses of an expression, which are its leaves. -/
def clauses : Expr σ → List (Expr σ)
  | .and exprs | .or exprs | .nor exprs | .not exprs => clausesAll exprs
  | clause => [clause]

def clausesAll : List (Expr σ) → List (Expr σ)
  | [] => []
  | e :: es => clauses e ++ clausesAll es

end

/-- What a clause needs of a schema: the field of its path takes its operator, its pattern can be
read, the predicate that it names is registered. -/
def Resolves (schema : Schema σ) : Expr σ → Prop
  | .operator path op argument =>
    op ∈ (schema.fieldOrMixed path).queryOperators ∧
      (op = .regex → ∃ pattern, compilePattern argument = .ok pattern)
  | .whereNamed name => ∃ predicate, schema.predicates.get? name = some predicate
  | _ => True

/-- The predicate that a clause names or carries. -/
def predicate? (schema : Schema σ) : Expr σ → Option (Predicate σ)
  | .whereNamed name => schema.predicates.get? name
  | .whereHolds predicate => some predicate
  | _ => none

/-- What a record answers to a clause: the field of the path compares the value of the record. -/
def clauseAnswer (schema : Schema σ) (access : Access τ σ Empty) : Expr σ → StateM τ Bool
  | .equals path value => do
    let found ← access.value path
    return (schema.fieldOrMixed path).accepts found value
  | .operator path op argument => do
    let found ← access.value path
    return (schema.fieldOrMixed path).query op found argument
  | clause =>
    match clause.predicate? schema with
    | some predicate => Script.question access predicate
    | none => return false

/-- The truth of a clause by the values of a record and what the predicates say of it. -/
def clauseTruth (schema : Schema σ) (values : String → Option Value)
    (verdict : Predicate σ → Bool) : Expr σ → Bool
  | .equals path value => (schema.fieldOrMixed path).accepts (values path) value
  | .operator path op argument => (schema.fieldOrMixed path).query op (values path) argument
  | clause => (clause.predicate? schema).any verdict

section

variable {m : Type → Type} [Monad m] (clause : Expr σ → m Bool)

mutual

/-- The answer of an expression by the answers of its clauses. -/
def answer : Expr σ → m Bool
  | .and exprs => (answers exprs).allM id
  | .or exprs => (answers exprs).anyM id
  | .nor exprs => (!·) <$> (answers exprs).anyM id
  | .not exprs => (answers exprs).anyM ((!·) <$> ·)
  | leaf => clause leaf

def answers : List (Expr σ) → List (m Bool)
  | [] => []
  | e :: es => answer e :: answers es

end

end

mutual

/-- The truth of an expression by the truth of its clauses. -/
def holds (truth : Expr σ → Bool) : Expr σ → Bool
  | .and exprs => (holdsEach truth exprs).all id
  | .or exprs => (holdsEach truth exprs).any id
  | .nor exprs => !(holdsEach truth exprs).any id
  | .not exprs => (holdsEach truth exprs).any (!·)
  | leaf => truth leaf

def holdsEach (truth : Expr σ → Bool) : List (Expr σ) → List Bool
  | [] => []
  | e :: es => holds truth e :: holdsEach truth es

end

/-- A question that has the same answer in every state of a kind, and does not lead out of the
kind. -/
def Fixed {α : Type} (kind : τ → Prop) (question : StateM τ α) (answer : α) : Prop :=
  ∀ t, kind t → (question t).1 = answer ∧ kind (question t).2

namespace Fixed

variable {kind : τ → Prop} {α β : Type} {ask : α → StateM τ Bool} {fact : β → Bool}
  {questions : List α} {facts : List β}

theorem map_not {question : StateM τ Bool} {answer : Bool} (h : Fixed kind question answer) :
    Fixed kind ((!·) <$> question) !answer :=
  fun t ht => ⟨congrArg (!·) (h t ht).1, (h t ht).2⟩

theorem allM (h : List.Forall₂ (fun a b => Fixed kind (ask a) (fact b)) questions facts) :
    Fixed kind (questions.allM ask) (facts.all fact) := by
  induction h with
  | nil => exact fun t ht => ⟨rfl, ht⟩
  | @cons a b questions facts hfirst _ ih =>
    intro t ht
    obtain ⟨hanswer, hkind⟩ := hfirst t ht
    have hstep : (a :: questions).allM ask t =
        (if fact b then questions.allM ask else pure false) (ask a t).2 := by
      rw [List.allM_cons, ← hanswer]
      rfl
    rw [hstep, List.all_cons]
    cases fact b with
    | true => exact ih _ hkind
    | false => exact ⟨rfl, hkind⟩

theorem anyM (h : List.Forall₂ (fun a b => Fixed kind (ask a) (fact b)) questions facts) :
    Fixed kind (questions.anyM ask) (facts.any fact) := by
  induction h with
  | nil => exact fun t ht => ⟨rfl, ht⟩
  | @cons a b questions facts hfirst _ ih =>
    intro t ht
    obtain ⟨hanswer, hkind⟩ := hfirst t ht
    have hstep : (a :: questions).anyM ask t =
        (if fact b then pure true else questions.anyM ask) (ask a t).2 := by
      rw [List.anyM_cons, ← hanswer]
      rfl
    rw [hstep, List.any_cons]
    cases fact b with
    | true => exact ⟨rfl, hkind⟩
    | false => exact ih _ hkind

end Fixed

mutual

/-- The answer of an expression is its truth where every clause answers with its truth. -/
theorem fixed_answer {kind : τ → Prop} {clause : Expr σ → StateM τ Bool} {truth : Expr σ → Bool} :
    (e : Expr σ) → (∀ leaf ∈ e.clauses, Fixed kind (clause leaf) (truth leaf)) →
      Fixed kind (e.answer clause) (e.holds truth)
  | .and exprs, h => .allM (fixed_answers exprs h)
  | .or exprs, h => .anyM (fixed_answers exprs h)
  | .nor exprs, h => .map_not (.anyM (fixed_answers exprs h))
  | .not exprs, h => .anyM ((fixed_answers exprs h).imp fun _ _ => Fixed.map_not)
  | .whereNamed _, h | .whereHolds _, h | .equals _ _, h | .operator _ _ _, h =>
    h _ List.mem_cons_self

theorem fixed_answers {kind : τ → Prop} {clause : Expr σ → StateM τ Bool}
    {truth : Expr σ → Bool} :
    (es : List (Expr σ)) → (∀ leaf ∈ clausesAll es, Fixed kind (clause leaf) (truth leaf)) →
      List.Forall₂ (Fixed kind) (answers clause es) (holdsEach truth es)
  | [], _ => .nil
  | e :: es, h =>
    .cons (fixed_answer e fun leaf hleaf => h leaf (List.mem_append_left _ hleaf))
      (fixed_answers es fun leaf hleaf => h leaf (List.mem_append_right _ hleaf))

end

/-- Where the paths hold fixed values and the predicates have fixed answers, a clause answers with
its truth. -/
theorem fixed_clauseAnswer {schema : Schema σ} {access : Access τ σ Empty} {kind : τ → Prop}
    {values : String → Option Value} {verdict : Predicate σ → Bool}
    (hvalues : ∀ path, Fixed kind (access.value path) (values path)) (clause : Expr σ)
    (hverdict : ∀ predicate, clause.predicate? schema = some predicate →
      Fixed kind (Script.question access predicate) (verdict predicate)) :
    Fixed kind (clauseAnswer schema access clause) (clauseTruth schema values verdict clause) := by
  cases clause with
  | equals path value =>
    intro t ht
    obtain ⟨hvalue, hkind⟩ := hvalues path t ht
    exact ⟨congrArg ((schema.fieldOrMixed path).accepts · value) hvalue, hkind⟩
  | operator path op argument =>
    intro t ht
    obtain ⟨hvalue, hkind⟩ := hvalues path t ht
    exact ⟨congrArg ((schema.fieldOrMixed path).query op · argument) hvalue, hkind⟩
  | whereNamed name =>
    simp only [clauseAnswer, clauseTruth]
    cases h : predicate? schema (.whereNamed name) with
    | some predicate => exact hverdict predicate h
    | none => exact fun t ht => ⟨rfl, ht⟩
  | whereHolds predicate => exact hverdict predicate rfl
  | _ => exact fun t ht => ⟨rfl, ht⟩

/-! ## Patterns are read once -/

/-- Only texts are matched with patterns. -/
theorem kind_of_regex {field : Field σ} (h : .regex ∈ field.queryOperators) :
    field.kind = .string := by
  cases field with
  | scalar path kind options =>
    cases kind with
    | string => rfl
    | _ => simp [Field.queryOperators, Field.genericQueryOperators] at h
  | array path options child => simp [Field.queryOperators, Field.genericQueryOperators] at h
  | «virtual» path getter setter => simp [Field.queryOperators, Field.genericQueryOperators] at h

/-- A pattern that was read before answers as the field does. -/
theorem query_regex {field : Field σ} (h : .regex ∈ field.queryOperators) {argument : Value}
    {pattern : Regex.Pattern} (hpattern : compilePattern argument = .ok pattern)
    (found : Option Value) :
    field.query .regex found argument = (found.bind Value.asString?).any pattern.isMatch := by
  rw [Field.query, kind_of_regex h]
  dsimp only
  rw [Field.queryString, hpattern]
  cases found.bind Value.asString? <;> rfl

/-! ## One clause -/

variable {schema : Schema σ}

/-- A text that is no pattern, and an argument that is none, make an invalid query. -/
theorem compilePattern_eq_error {argument : Value} {error : StoreError}
    (h : compilePattern argument = .error error) : ∃ fault, error = .invalidQuery fault := by
  cases argument with
  | string pattern =>
    simp only [compilePattern, bind, Except.bind] at h
    split at h <;> cases h <;> exact ⟨_, rfl⟩
  | document spec =>
    rcases hpattern : (OrderedMap.get? spec "pattern").bind Value.asString? with _ | pattern
    · simp only [compilePattern, hpattern] at h
      cases h
      exact ⟨_, rfl⟩
    · simp only [compilePattern, hpattern, bind, Except.bind] at h
      split at h <;> cases h <;> exact ⟨_, rfl⟩
  | _ =>
    cases h
    exact ⟨_, rfl⟩

/-- A clause with an operator compiles if it resolves, to what the field answers. -/
theorem compileOperator_of_resolves {path : String} {op : QueryOperator} {argument : Value}
    (h : Resolves schema (.operator path op argument)) :
    ∃ predicate, compileOperator schema path op argument = .ok predicate ∧
      ∀ {τ : Type} (access : Access τ σ Empty), Script.question access predicate =
        clauseAnswer schema access (.operator path op argument) := by
  obtain ⟨hlisted, hpattern⟩ := h
  rw [compileOperator]
  simp only [List.contains_iff_mem.mpr hlisted, Bool.not_true, Bool.false_eq_true, if_false]
  by_cases hregex : op = .regex
  · subst hregex
    obtain ⟨pattern, hpattern⟩ := hpattern rfl
    rw [if_pos rfl, hpattern]
    refine ⟨_, rfl, fun access => ?_⟩
    funext t
    rw [Script.question, Script.run_value]
    show _ = ((schema.fieldOrMixed path).query .regex (access.value path t).1 argument, _)
    rw [query_regex hlisted hpattern]
    rfl
  · rw [if_neg hregex]
    exact ⟨_, rfl, fun access => rfl⟩

theorem compileOperator_of_not_resolves {path : String} {op : QueryOperator} {argument : Value}
    (h : ¬ Resolves schema (.operator path op argument)) :
    ∃ fault, compileOperator schema path op argument = .error (.invalidQuery fault) := by
  rw [compileOperator]
  by_cases hlisted : op ∈ (schema.fieldOrMixed path).queryOperators
  · have hregex : op = .regex := Decidable.byContradiction fun hne =>
      h ⟨hlisted, fun heq => absurd heq hne⟩
    subst hregex
    simp only [List.contains_iff_mem.mpr hlisted, Bool.not_true, Bool.false_eq_true, if_false,
      if_true]
    cases hpattern : compilePattern argument with
    | error error =>
      obtain ⟨fault, rfl⟩ := compilePattern_eq_error hpattern
      exact ⟨fault, rfl⟩
    | ok pattern => exact absurd ⟨hlisted, fun _ => ⟨pattern, hpattern⟩⟩ h
  · rw [← List.contains_iff_mem, Bool.not_eq_true] at hlisted
    simp only [hlisted, Bool.not_false, if_true]
    exact ⟨_, rfl⟩

/-! ## Expressions -/

mutual

/-- **An expression whose clauses resolve compiles to its meaning.** -/
theorem compile_of_resolves (schema : Schema σ) : (e : Expr σ) →
    (∀ clause ∈ e.clauses, clause.Resolves schema) →
    ∃ predicate, e.compile schema = .ok predicate ∧
      ∀ {τ : Type} (access : Access τ σ Empty),
        Script.question access predicate = e.answer (clauseAnswer schema access)
  | .and exprs, h => by
    obtain ⟨predicates, hcompile, hanswer⟩ := compileAll_of_resolves schema exprs h
    refine ⟨Script.all predicates, by rw [compile, hcompile]; rfl, fun access => ?_⟩
    rw [Script.run_all, hanswer, answer]
  | .or exprs, h => by
    obtain ⟨predicates, hcompile, hanswer⟩ := compileAll_of_resolves schema exprs h
    refine ⟨Script.any predicates, by rw [compile, hcompile]; rfl, fun access => ?_⟩
    rw [Script.run_any, hanswer, answer]
  | .nor exprs, h => by
    obtain ⟨predicates, hcompile, hanswer⟩ := compileAll_of_resolves schema exprs h
    refine ⟨_, by rw [compile, hcompile]; rfl, fun access => ?_⟩
    rw [Script.run_not, Script.run_any, hanswer, answer]
  | .not exprs, h => by
    obtain ⟨predicates, hcompile, hanswer⟩ := compileAll_of_resolves schema exprs h
    refine ⟨_, by rw [compile, hcompile]; rfl, fun access => ?_⟩
    rw [Script.run_not, Script.run_all, hanswer, answer, List.allM_eq_not_anyM_not]
    simp only [id, Functor.map_map, Bool.not_not, id_map']
  | .whereNamed name, h => by
    obtain ⟨predicate, hpredicate⟩ := h _ List.mem_cons_self
    refine ⟨predicate, by rw [compile, hpredicate], fun access => ?_⟩
    simp only [answer, clauseAnswer, predicate?, hpredicate]
  | .whereHolds predicate, _ => ⟨predicate, rfl, fun access => rfl⟩
  | .equals path value, _ => ⟨_, rfl, fun access => rfl⟩
  | .operator path op argument, h => compileOperator_of_resolves (h _ List.mem_cons_self)

theorem compileAll_of_resolves (schema : Schema σ) : (es : List (Expr σ)) →
    (∀ clause ∈ clausesAll es, clause.Resolves schema) →
    ∃ predicates, compileAll schema es = .ok predicates ∧
      ∀ {τ : Type} (access : Access τ σ Empty),
        predicates.map (Script.question access) = answers (clauseAnswer schema access) es
  | [], _ => ⟨[], rfl, fun access => rfl⟩
  | e :: es, h => by
    obtain ⟨first, hfirst, hanswer⟩ := compile_of_resolves schema e
      fun clause hclause => h clause (List.mem_append_left _ hclause)
    obtain ⟨rest, hrest, hanswers⟩ := compileAll_of_resolves schema es
      fun clause hclause => h clause (List.mem_append_right _ hclause)
    refine ⟨first :: rest, by rw [compileAll, hfirst, hrest]; rfl, fun access => ?_⟩
    rw [List.map_cons, hanswer, hanswers, answers]

end

mutual

/-- An expression with a clause that does not resolve fails to compile. -/
theorem compile_of_not_resolves (schema : Schema σ) : (e : Expr σ) →
    (∃ clause ∈ e.clauses, ¬ clause.Resolves schema) →
    ∃ fault, e.compile schema = .error (.invalidQuery fault)
  | .and exprs, h | .or exprs, h | .nor exprs, h | .not exprs, h => by
    obtain ⟨fault, hcompile⟩ := compileAll_of_not_resolves schema exprs h
    exact ⟨fault, by rw [compile, hcompile]; rfl⟩
  | .whereNamed name, h => by
    obtain ⟨clause, hclause, hresolves⟩ := h
    rw [List.mem_singleton.mp hclause] at hresolves
    cases hpredicate : schema.predicates.get? name with
    | none => exact ⟨.unknownPredicate name, by rw [compile, hpredicate]⟩
    | some predicate => exact absurd ⟨predicate, hpredicate⟩ hresolves
  | .whereHolds predicate, h => by
    obtain ⟨clause, hclause, hresolves⟩ := h
    rw [List.mem_singleton.mp hclause] at hresolves
    exact absurd trivial hresolves
  | .equals path value, h => by
    obtain ⟨clause, hclause, hresolves⟩ := h
    rw [List.mem_singleton.mp hclause] at hresolves
    exact absurd trivial hresolves
  | .operator path op argument, h => by
    obtain ⟨clause, hclause, hresolves⟩ := h
    rw [List.mem_singleton.mp hclause] at hresolves
    exact compileOperator_of_not_resolves hresolves

theorem compileAll_of_not_resolves (schema : Schema σ) : (es : List (Expr σ)) →
    (∃ clause ∈ clausesAll es, ¬ clause.Resolves schema) →
    ∃ fault, compileAll schema es = .error (.invalidQuery fault)
  | [], h => by
    obtain ⟨clause, hclause, -⟩ := h
    exact absurd hclause List.not_mem_nil
  | e :: es, h => by
    obtain ⟨clause, hclause, hresolves⟩ := h
    by_cases hfirst : ∃ clause ∈ e.clauses, ¬ clause.Resolves schema
    · obtain ⟨fault, herror⟩ := compile_of_not_resolves schema e hfirst
      exact ⟨fault, by rw [compileAll, herror]; rfl⟩
    · obtain ⟨predicate, hcompile, -⟩ := compile_of_resolves schema e fun clause hclause =>
        Classical.byContradiction fun hresolves => hfirst ⟨clause, hclause, hresolves⟩
      have hrest : clause ∈ clausesAll es :=
        (List.mem_append.mp hclause).resolve_left fun hmem => hfirst ⟨clause, hmem, hresolves⟩
      obtain ⟨fault, herror⟩ := compileAll_of_not_resolves schema es ⟨clause, hrest, hresolves⟩
      exact ⟨fault, by rw [compileAll, hcompile, herror]; rfl⟩

end

end Expr

namespace Schema

variable {σ : Type}

/-- A document compiles as the expression that it is read to. -/
theorem compileQuery_of_parse {schema : Schema σ} {query : Document} {e : Expr σ}
    (h : Expr.parse query = .ok e) :
    schema.compileQuery (.document query) = e.compile schema := by
  rw [compileQuery, h]
  rfl

open DocStore.Expr in
/-- **A query compiles if and only if each of its clauses resolves, and then asks what it says.** A
clause does not resolve whose operator the field of its path does not take, whose pattern cannot be
read or whose predicate is not registered; it makes an invalid query wherever it stands. A compiled
query asks every record for the answers of its clauses; where these are fixed, it answers with the
truth of the expression. -/
theorem query_compiles_to_meaning (schema : Schema σ) (e : Expr σ) :
    ((∃ predicate, schema.compileQuery (.expr e) = .ok predicate) ↔
      ∀ clause ∈ e.clauses, clause.Resolves schema) ∧
    (∀ error, schema.compileQuery (.expr e) = .error error →
      ∃ fault, error = .invalidQuery fault) ∧
    ∀ predicate, schema.compileQuery (.expr e) = .ok predicate →
      ∀ {τ : Type} (access : Access τ σ Empty),
        Script.question access predicate = e.answer (clauseAnswer schema access) ∧
        ∀ (kind : τ → Prop) (values : String → Option Value) (verdict : Predicate σ → Bool),
          (∀ path, Fixed kind (access.value path) (values path)) →
          (∀ clause ∈ e.clauses, ∀ predicate, clause.predicate? schema = some predicate →
            Fixed kind (Script.question access predicate) (verdict predicate)) →
          ∀ t, kind t →
            (Script.run access predicate t).1 = e.holds (clauseTruth schema values verdict) := by
  show ((∃ predicate, e.compile schema = .ok predicate) ↔ _) ∧
    (∀ error, e.compile schema = .error error → _) ∧
      ∀ predicate, e.compile schema = .ok predicate → _
  by_cases hresolves : ∀ clause ∈ e.clauses, clause.Resolves schema
  · obtain ⟨predicate, hcompile, hanswer⟩ := compile_of_resolves schema e hresolves
    rw [hcompile]
    refine ⟨⟨fun _ => hresolves, fun _ => ⟨predicate, rfl⟩⟩, nofun, ?_⟩
    rintro _ ⟨⟩ τ access
    refine ⟨hanswer access, fun kind values verdict hvalues hverdict t ht => ?_⟩
    have hfixed : Fixed kind (e.answer (clauseAnswer schema access))
        (e.holds (clauseTruth schema values verdict)) :=
      fixed_answer e fun clause hclause =>
        fixed_clauseAnswer hvalues clause (hverdict clause hclause)
    rw [← hanswer access] at hfixed
    exact (hfixed t ht).1
  · have hclause : ∃ clause ∈ e.clauses, ¬ clause.Resolves schema := by
      simpa only [not_forall, exists_prop] using hresolves
    obtain ⟨fault, herror⟩ := compile_of_not_resolves schema e hclause
    rw [herror]
    refine ⟨⟨fun ⟨_, h⟩ => absurd h nofun, fun h => absurd h hresolves⟩, ?_, nofun⟩
    rintro _ ⟨⟩
    exact ⟨fault, rfl⟩

end Schema

end DocStore
