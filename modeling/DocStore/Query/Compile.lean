import DocStore.Field.Query
import DocStore.Schema.Basic
/-!
# Queries as predicates

`Expr.compile` resolves every path of an expression in a schema and gives one predicate. It fails
when an operator is not among those of its field, when a pattern is not well formed, or when a
predicate is not registered, wherever in the expression that is.
-/

namespace DocStore

namespace Expr

variable {σ : Type}

/-- The predicate of an operator on a path. A pattern is read once. -/
def compileOperator (schema : Schema σ) (path : String) (operator : QueryOperator)
    (argument : Value) : Except StoreError (Predicate σ) :=
  let field := schema.fieldOrMixed path
  if !field.queryOperators.contains operator then
    .error (.invalidQuery (.unsupported operator.name path field.kind))
  else if operator = .regex then do
    let pattern ← compilePattern argument
    return (Script.value path).bind fun value =>
      .done ((value.bind Value.asString?).any pattern.isMatch)
  else
    .ok ((Script.value path).bind fun value => .done (field.query operator value argument))

mutual

/-- The predicate of an expression. -/
def compile (schema : Schema σ) : Expr σ → Except StoreError (Predicate σ)
  | .and exprs => do
    let predicates ← compileAll schema exprs
    return Script.all predicates
  | .or exprs => do
    let predicates ← compileAll schema exprs
    return Script.any predicates
  | .nor exprs => do
    let predicates ← compileAll schema exprs
    return (Script.any predicates).bind fun b => .done !b
  | .not exprs => do
    let predicates ← compileAll schema exprs
    return (Script.all predicates).bind fun b => .done !b
  | .whereNamed name =>
    match schema.predicates.get? name with
    | some predicate => .ok predicate
    | none => .error (.invalidQuery (.unknownPredicate name))
  | .whereHolds predicate => .ok predicate
  | .equals path value =>
    let field := schema.fieldOrMixed path
    .ok ((Script.value path).bind fun found => .done (field.accepts found value))
  | .operator path op argument => compileOperator schema path op argument

def compileAll (schema : Schema σ) : List (Expr σ) → Except StoreError (List (Predicate σ))
  | [] => .ok []
  | e :: es => do
    let first ← compile schema e
    let rest ← compileAll schema es
    return first :: rest

end

end Expr

end DocStore
