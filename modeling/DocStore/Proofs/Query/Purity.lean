import DocStore.Proofs.Query.Compile
/-!
# Pure scripts

A script is pure if its result is a function of the record that it runs on: of the values at its
paths and of its stored data. `Script.Yields` says what the result is, and keeps an account of the
paths that the script may read. A pure script may look at the state of the host and change it, but
nothing comes of it.

A pure script has a fixed answer wherever the paths that it may read have fixed values
(`Script.Yields.fixed`). A query whose predicates are pure compiles to a pure predicate
(`Schema.pure_of_compileQuery`).
-/

namespace DocStore

variable {σ τ : Type}

namespace Script

variable {α β : Type}

/-- On a record with these values and data, the script comes to the result, reads no other paths
than it may, and does not depend on the state of the host. -/
inductive Yields (may : String → Prop) (values : String → Option Value) (data : Document) :
    Reading σ α → α → Prop where
  | done (a : α) : Yields may values data (.done a) a
  | read {path : String} {next : Option Value → Reading σ α} {a : α} : may path →
    Yields may values data (next (values path)) a → Yields may values data (.read path next) a
  | look {next : Document → Reading σ α} {a : α} : Yields may values data (next data) a →
    Yields may values data (.look next) a
  | host {next : σ → Reading σ α} {a : α} : (∀ state, Yields may values data (next state) a) →
    Yields may values data (.host next) a
  | setHost {state : σ} {next : Reading σ α} {a : α} : Yields may values data next a →
    Yields may values data (.setHost state next) a

section

variable {may : String → Prop} {values : String → Option Value} {data : Document}

theorem Yields.bind {script : Reading σ α} {next : α → Reading σ β} {a : α} {b : β}
    (h : Yields may values data script a) (h' : Yields may values data (next a) b) :
    Yields may values data (script.bind next) b := by
  induction h with
  | done a => exact h'
  | read hmay _ ih => exact .read hmay (ih h')
  | look _ ih => exact .look (ih h')
  | host _ ih => exact .host fun state => ih state h'
  | setHost _ ih => exact .setHost (ih h')

/-- Where the paths that a script may read have fixed values, and the data is what it is, the script
has a fixed result. -/
theorem Yields.fixed {access : Access τ σ Empty} {kind : τ → Prop}
    (hread : ∀ path, may path → Expr.Fixed kind (access.value path) (values path))
    (hdata : ∀ t, kind t → access.data t = data)
    (hhost : ∀ t state, kind t → kind (access.setHost state t)) {script : Reading σ α} {a : α}
    (h : Yields may values data script a) : Expr.Fixed kind (run access script) a := by
  induction h with
  | done a => exact fun t ht => ⟨rfl, ht⟩
  | @read path next a hmay _ ih =>
    intro t ht
    obtain ⟨hvalue, hkind⟩ := hread path hmay t ht
    have hrest := ih _ hkind
    rw [← hvalue] at hrest
    exact hrest
  | @look next a _ ih =>
    intro t ht
    have hrest := ih t ht
    rw [← hdata t ht] at hrest
    exact hrest
  | host _ ih => exact fun t ht => ih _ t ht
  | setHost _ ih => exact fun t ht => ih _ (hhost t _ ht)

end

/-- The result is a function of the record. -/
def Pure (script : Reading σ α) : Prop :=
  ∀ values data, ∃ a, Yields (fun _ => True) values data script a

theorem pure_done (a : α) : Pure (.done a : Reading σ α) := fun _ _ => ⟨a, .done a⟩

theorem pure_value (path : String) : Pure (value path : Reading σ (Option Value)) :=
  fun values _ => ⟨values path, .read trivial (.done _)⟩

theorem Pure.bind {script : Reading σ α} {next : α → Reading σ β} (h : Pure script)
    (h' : ∀ a, Pure (next a)) : Pure (script.bind next) := fun values data =>
  have ⟨a, ha⟩ := h values data
  have ⟨b, hb⟩ := h' a values data
  ⟨b, ha.bind hb⟩

theorem pure_all {tests : List (Reading σ Bool)} (h : ∀ test ∈ tests, Pure test) :
    Pure (all tests) := by
  induction tests with
  | nil => exact pure_done true
  | cons test tests ih =>
    refine (h test List.mem_cons_self).bind fun b => ?_
    cases b with
    | true => exact ih fun test htest => h test (List.mem_cons_of_mem _ htest)
    | false => exact pure_done false

theorem pure_any {tests : List (Reading σ Bool)} (h : ∀ test ∈ tests, Pure test) :
    Pure (any tests) := by
  induction tests with
  | nil => exact pure_done false
  | cons test tests ih =>
    refine (h test List.mem_cons_self).bind fun b => ?_
    cases b with
    | true => exact pure_done true
    | false => exact ih fun test htest => h test (List.mem_cons_of_mem _ htest)

end Script

/-! ## Queries with pure predicates -/

namespace Expr

variable {schema : Schema σ}

/-- The predicates that a clause names or carries are pure. -/
def IsPure (schema : Schema σ) (clause : Expr σ) : Prop :=
  ∀ predicate, clause.predicate? schema = some predicate → predicate.Pure

theorem pure_of_compileOperator {path : String} {op : QueryOperator} {argument : Value}
    {predicate : Predicate σ} (h : compileOperator schema path op argument = .ok predicate) :
    predicate.Pure := by
  have hread (answer : Option Value → Bool) :
      Script.Pure ((Script.value path).bind fun found => .done (answer found) : Predicate σ) :=
    (Script.pure_value path).bind fun found => Script.pure_done (answer found)
  rw [compileOperator] at h
  split at h
  · cases h
  · split at h
    · cases hpattern : compilePattern argument with
      | error error =>
        rw [hpattern] at h
        cases h
      | ok pattern =>
        rw [hpattern] at h
        cases h
        exact hread _
    · cases h
      exact hread _

/-- A connective compiles if its members do, and joins their predicates. -/
theorem exists_of_joined {join : List (Predicate σ) → Predicate σ} {exprs : List (Expr σ)}
    {predicate : Predicate σ}
    (h : (do return join (← compileAll schema exprs) : Except StoreError (Predicate σ)) =
      .ok predicate) :
    ∃ predicates, compileAll schema exprs = .ok predicates ∧ predicate = join predicates := by
  rcases hall : compileAll schema exprs with error | predicates
  · rw [hall] at h
    cases h
  · rw [hall] at h
    cases h
    exact ⟨predicates, rfl, rfl⟩

mutual

/-- An expression with pure predicates compiles to a pure one. -/
theorem pure_of_compile : (e : Expr σ) → {predicate : Predicate σ} →
    (∀ clause ∈ e.clauses, clause.IsPure schema) → e.compile schema = .ok predicate → predicate.Pure
  | .and exprs, _, hpure, h => by
    rw [compile] at h
    obtain ⟨predicates, hall, rfl⟩ := exists_of_joined h
    exact Script.pure_all (pure_of_compileAll exprs hpure hall)
  | .or exprs, _, hpure, h => by
    rw [compile] at h
    obtain ⟨predicates, hall, rfl⟩ := exists_of_joined h
    exact Script.pure_any (pure_of_compileAll exprs hpure hall)
  | .nor exprs, _, hpure, h => by
    rw [compile] at h
    obtain ⟨predicates, hall, rfl⟩ := exists_of_joined h
    exact (Script.pure_any (pure_of_compileAll exprs hpure hall)).bind fun b => Script.pure_done !b
  | .not exprs, _, hpure, h => by
    rw [compile] at h
    obtain ⟨predicates, hall, rfl⟩ := exists_of_joined h
    exact (Script.pure_all (pure_of_compileAll exprs hpure hall)).bind fun b => Script.pure_done !b
  | .whereNamed name, predicate, hpure, h => by
    refine hpure _ List.mem_cons_self predicate ?_
    rw [compile] at h
    rw [predicate?]
    split at h
    · next found hfound =>
      cases h
      exact hfound
    · cases h
  | .whereHolds predicate, _, hpure, h => by
    cases h
    exact hpure _ List.mem_cons_self predicate rfl
  | .equals path value, _, _, h => by
    cases h
    exact (Script.pure_value path).bind fun found => Script.pure_done _
  | .operator path op argument, _, _, h => pure_of_compileOperator h

theorem pure_of_compileAll : (es : List (Expr σ)) → {predicates : List (Predicate σ)} →
    (∀ clause ∈ clausesAll es, clause.IsPure schema) → compileAll schema es = .ok predicates →
      ∀ predicate ∈ predicates, predicate.Pure
  | [], _, _, h => by
    cases h
    exact fun predicate hmem => absurd hmem List.not_mem_nil
  | e :: es, _, hpure, h => by
    rw [compileAll] at h
    rcases hfirst : e.compile schema with error | first
    · rw [hfirst] at h
      cases h
    rcases hrest : compileAll schema es with error | rest
    · rw [hfirst, hrest] at h
      cases h
    rw [hfirst, hrest] at h
    cases h
    refine List.forall_mem_cons.mpr ⟨?_, ?_⟩
    · exact pure_of_compile e
        (fun clause hclause => hpure clause (List.mem_append_left _ hclause)) hfirst
    · exact pure_of_compileAll es
        (fun clause hclause => hpure clause (List.mem_append_right _ hclause)) hrest

end

end Expr

/-- The expression of a query. -/
def QuerySpec.read : QuerySpec σ → Except StoreError (Expr σ)
  | .document query => Expr.parse query
  | .expr query => .ok query

/-- The predicates of a query are pure. -/
def QuerySpec.IsPure (schema : Schema σ) (query : QuerySpec σ) : Prop :=
  ∀ e, query.read = .ok e → ∀ clause ∈ e.clauses, clause.IsPure schema

namespace Schema

variable {schema : Schema σ}

theorem compileQuery_eq (schema : Schema σ) (query : QuerySpec σ) :
    schema.compileQuery query = query.read >>= Expr.compile schema := by
  cases query <;> rfl

/-- A query that compiles can be read. -/
theorem exists_read_of_compileQuery {query : QuerySpec σ} {predicate : Predicate σ}
    (h : schema.compileQuery query = .ok predicate) :
    ∃ e, query.read = .ok e ∧ e.compile schema = .ok predicate := by
  rw [compileQuery_eq] at h
  rcases hread : query.read with error | e
  · rw [hread] at h
    cases h
  · rw [hread] at h
    exact ⟨e, rfl, h⟩

theorem pure_of_compileQuery {query : QuerySpec σ} (hpure : query.IsPure schema)
    {predicate : Predicate σ} (h : schema.compileQuery query = .ok predicate) : predicate.Pure := by
  obtain ⟨e, hread, hcompile⟩ := exists_read_of_compileQuery h
  exact Expr.pure_of_compile e (hpure e hread) hcompile

end Schema

end DocStore
