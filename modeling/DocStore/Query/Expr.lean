import DocStore.Error
import DocStore.Script
/-!
# Query expressions

An expression combines equality clauses, operators on paths and predicates. `Expr.parse` reads one
from a query document: keys are paths, nested documents extend the path, keys that begin with `$` in
them are operators, and the top level knows the connectives `$and`, `$or`, `$nor`, `$not` and the
predicates of `$where`. All clauses of a document must hold; `$not` holds when some clause fails.
-/

namespace DocStore

/-- A test of a record. -/
abbrev Predicate (σ : Type) := Reading σ Bool

/-- A query. -/
inductive Expr (σ : Type) where
  | and (exprs : List (Expr σ))
  | or (exprs : List (Expr σ))
  | nor (exprs : List (Expr σ))
  | not (exprs : List (Expr σ))
  | whereNamed (name : String)
  | whereHolds (predicate : Predicate σ)
  | equals (path : String) (value : Value)
  | operator (path : String) (operator : QueryOperator) (argument : Value)

/-- Reads the name of an operator by a table of names without dollar signs. -/
def readOperator {ω : Type} (ofName? : String → Option ω) (unknown : String → QueryFault)
    (name : String) : Except StoreError ω :=
  match ofName? (bareOperator name) with
  | some operator => .ok operator
  | none => .error (.invalidQuery (unknown (bareOperator name)))

/-- Reads the name of a query operator. -/
def QueryOperator.read : String → Except StoreError QueryOperator :=
  readOperator ofName? .unknownOperator

namespace Expr

variable {σ : Type}

/-- The conjunction with another expression; a conjunction is extended. -/
def conj (e other : Expr σ) : Expr σ :=
  match e with
  | .and exprs => .and (exprs ++ [other])
  | e => .and [e, other]

/-- The disjunction with another expression; a disjunction is extended. -/
def disj (e other : Expr σ) : Expr σ :=
  match e with
  | .or exprs => .or (exprs ++ [other])
  | e => .or [e, other]

def neg (e : Expr σ) : Expr σ := .not [e]

/-- The clauses of the entries below a path: operators apply to the path, other keys extend it. -/
def parsePath (path : String) : List (String × Value) → Except StoreError (List (Expr σ))
  | [] => .ok []
  | (key, value) :: rest => do
    let first ←
      if isOperatorKey key then do
        let operator ← QueryOperator.read key
        pure [Expr.operator path operator value]
      else match value with
        | .document inner => parsePath (path ++ "." ++ key) inner
        | value => pure [Expr.equals (path ++ "." ++ key) value]
    let more ← parsePath path rest
    return first ++ more

mutual

/-- The clauses of a query document. -/
def parseClauses : List (String × Value) → Except StoreError (List (Expr σ))
  | [] => .ok []
  | (key, value) :: rest => do
    let first ← match key, value with
      | "$and", .array items => parseQueries key items
      | "$or", .array items => do
        let exprs ← parseQueries key items
        pure [Expr.or exprs]
      | "$nor", .array items => do
        let exprs ← parseQueries key items
        pure [Expr.nor exprs]
      | "$not", .document inner => do
        let exprs ← parseClauses inner
        pure [Expr.not exprs]
      | "$where", .string name => pure [Expr.whereNamed name]
      | "$and", _ | "$or", _ | "$nor", _ => .error (.invalidQuery (.expectsQueries key))
      | "$not", _ => .error (.invalidQuery .expectsQuery)
      | "$where", _ => .error (.invalidQuery .expectsPredicateName)
      | key, value =>
        if isOperatorKey key then
          .error (.invalidQuery (.unknownOperator (String.ofList (key.toList.drop 1))))
        else match value with
          | .document inner => parsePath key inner
          | value => pure [Expr.equals key value]
    let more ← parseClauses rest
    return first ++ more

/-- The queries of a list, each of which is a document. -/
def parseQueries (key : String) : List Value → Except StoreError (List (Expr σ))
  | [] => .ok []
  | .document query :: rest => do
    let clauses ← parseClauses query
    let more ← parseQueries key rest
    return .and clauses :: more
  | _ :: _ => .error (.invalidQuery (.expectsQueries key))

end

/-- Reads a query document. -/
def parse (query : Document) : Except StoreError (Expr σ) := (parseClauses query).map .and

end Expr

end DocStore
