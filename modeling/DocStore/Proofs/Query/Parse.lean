import DocStore.Query.Expr
import Mathlib.Data.List.Forall2
/-!
# Clauses of query documents

The clauses of a query document are those of its entries, in order (`Expr.parseClauses_cons`), so a
document with the keys of many has the clauses of all (`Expr.parseClauses_flatten`). One lemma says
for each form of an entry how it is read.
-/

namespace DocStore

variable {σ : Type}

namespace Expr

theorem parseClauses_nil : parseClauses ([] : Document) = .ok ([] : List (Expr σ)) := by
  rw [parseClauses]

/-- The clauses of a document are those of its first entry and those of the others. -/
theorem parseClauses_cons (entry : String × Value) (rest : Document) :
    (parseClauses (entry :: rest) : Except StoreError (List (Expr σ))) = (do
      let first ← parseClauses [entry]
      let more ← parseClauses rest
      return first ++ more) := by
  obtain ⟨key, value⟩ := entry
  have herror (e : StoreError) (next : List (Expr σ) → Except StoreError (List (Expr σ))) :
      Except.error e >>= next = .error e := rfl
  have hok (next : List (Expr σ) → Except StoreError (List (Expr σ))) :
      Except.ok [] >>= next = next [] := rfl
  conv_lhs => unfold parseClauses
  conv_rhs => enter [1]; unfold parseClauses
  split <;>
    simp only [bind_assoc, pure_bind, List.append_nil, parseClauses_nil, herror, hok]
  -- the key is a path
  split
  · rfl
  · split <;> simp only [bind_assoc, pure_bind]

theorem parseClauses_append {first second : Document} {clauses more : List (Expr σ)}
    (hfirst : parseClauses first = .ok clauses) (hsecond : parseClauses second = .ok more) :
    parseClauses (first ++ second) = .ok (clauses ++ more) := by
  induction first generalizing clauses with
  | nil =>
    rw [parseClauses_nil, Except.ok.injEq] at hfirst
    rw [← hfirst]
    exact hsecond
  | cons entry rest ih =>
    rw [parseClauses_cons] at hfirst
    rcases hentry : (parseClauses [entry] : Except StoreError (List (Expr σ))) with e | heads
    · rw [hentry] at hfirst
      cases hfirst
    rcases hrest : (parseClauses rest : Except StoreError (List (Expr σ))) with e | tails
    · rw [hentry, hrest] at hfirst
      cases hfirst
    rw [hentry, hrest] at hfirst
    cases hfirst
    rw [List.cons_append, parseClauses_cons, hentry, ih hrest]
    show Except.ok (heads ++ (tails ++ more)) = _
    rw [List.append_assoc]

/-- One document with the keys of many has the clauses of all. -/
theorem parseClauses_flatten {queries : List Document} {clauses : List (List (Expr σ))}
    (h : List.Forall₂ (fun query exprs => parseClauses query = .ok exprs) queries clauses) :
    parseClauses queries.flatten = .ok clauses.flatten := by
  induction h with
  | nil => exact parseClauses_nil
  | cons hfirst _ ih => exact parseClauses_append hfirst ih

theorem parseQueries_of_parses (key : String) {queries : List Document}
    {clauses : List (List (Expr σ))}
    (h : List.Forall₂ (fun query exprs => parseClauses query = .ok exprs) queries clauses) :
    parseQueries key (queries.map .document) = .ok (clauses.map .and) := by
  induction h with
  | nil => rw [List.map_nil, parseQueries, List.map_nil]
  | cons hfirst _ ih =>
    rw [List.map_cons, parseQueries, hfirst, ih]
    rfl

theorem parseClauses_and {items : List Value} {exprs : List (Expr σ)}
    (h : parseQueries "$and" items = .ok exprs) :
    parseClauses [("$and", .array items)] = .ok exprs := by
  simp only [parseClauses, h, bind, Except.bind, pure, Except.pure, List.append_nil]

theorem parseClauses_or {items : List Value} {exprs : List (Expr σ)}
    (h : parseQueries "$or" items = .ok exprs) :
    parseClauses [("$or", .array items)] = .ok [.or exprs] := by
  simp only [parseClauses, h, bind, Except.bind, pure, Except.pure, List.append_nil]

theorem parseClauses_nor {items : List Value} {exprs : List (Expr σ)}
    (h : parseQueries "$nor" items = .ok exprs) :
    parseClauses [("$nor", .array items)] = .ok [.nor exprs] := by
  simp only [parseClauses, h, bind, Except.bind, pure, Except.pure, List.append_nil]

theorem parseClauses_not_eq_ok_iff {query : Document} {clauses : List (Expr σ)} :
    parseClauses [("$not", .document query)] = .ok clauses ↔
      ∃ exprs, parseClauses query = .ok exprs ∧ clauses = [.not exprs] := by
  rcases h : (parseClauses query : Except StoreError (List (Expr σ))) with e | exprs
  · simp [parseClauses, h, bind, Except.bind]
  · simp [parseClauses, h, bind, Except.bind, pure, Except.pure, eq_comm]

/-- A key that is no operator is a path, and a value there that is no document is compared. -/
theorem parseClauses_equals {path : String} (hpath : isOperatorKey path = false) {value : Value}
    (hvalue : ∀ inner, value ≠ .document inner) :
    parseClauses [(path, value)] = .ok [(.equals path value : Expr σ)] := by
  unfold parseClauses
  split
  any_goals cases hpath
  rw [if_neg (by simp [hpath])]
  split
  · exact absurd rfl (hvalue _)
  · simp [parseClauses_nil]

/-- The name of an operator is no key of a query. -/
theorem parseClauses_operatorKey {key : String} {op : QueryOperator}
    (hkey : isOperatorKey key = true) (hop : QueryOperator.read key = .ok op) (value : Value)
    (clauses : List (Expr σ)) : parseClauses [(key, value)] ≠ .ok clauses := by
  intro h
  unfold parseClauses at h
  split at h
  any_goals cases hop
  rw [if_pos hkey] at h
  cases h

theorem parsePath_operator {key : String} {op : QueryOperator} (hkey : isOperatorKey key = true)
    (hop : QueryOperator.read key = .ok op) (path : String) (argument : Value) :
    parsePath path [(key, argument)] = .ok [(.operator path op argument : Expr σ)] := by
  unfold parsePath
  rw [if_pos hkey, hop, parsePath]
  rfl

/-- Operators are read below a path only. -/
theorem parseClauses_operator_eq_ok_iff {path key : String} {op : QueryOperator}
    (hkey : isOperatorKey key = true) (hop : QueryOperator.read key = .ok op) (argument : Value)
    (clauses : List (Expr σ)) :
    parseClauses [(path, .document [(key, argument)])] = .ok clauses ↔
      isOperatorKey path = false ∧ clauses = [.operator path op argument] := by
  by_cases hnot : path = "$not"
  · subst hnot
    rw [parseClauses_not_eq_ok_iff]
    constructor
    · rintro ⟨exprs, hexprs, -⟩
      exact absurd hexprs (parseClauses_operatorKey hkey hop argument exprs)
    · rintro ⟨hpath, -⟩
      cases hpath
  · cases hpath : isOperatorKey path with
    | true =>
      refine ⟨fun h => ?_, nofun⟩
      unfold parseClauses at h
      split at h
      any_goals first | contradiction | cases h
      rw [if_pos hpath] at h
      cases h
    | false =>
      unfold parseClauses
      split
      any_goals first | contradiction | cases hpath
      rw [if_neg (by simp [hpath])]
      simp only [parsePath_operator hkey hop, parseClauses_nil, true_and]
      exact ⟨fun h => (Except.ok.inj h).symm, fun h => congrArg Except.ok h.symm⟩

/-- A document with one operator at one path. -/
theorem parse_operator {path key : String} {op : QueryOperator}
    (hpath : isOperatorKey path = false) (hkey : isOperatorKey key = true)
    (hop : QueryOperator.read key = .ok op) (argument : Value) :
    parse [(path, .document [(key, argument)])] =
      .ok (.and [.operator path op argument] : Expr σ) := by
  rw [parse, (parseClauses_operator_eq_ok_iff hkey hop argument _).mpr ⟨hpath, rfl⟩]
  rfl

end Expr

end DocStore
