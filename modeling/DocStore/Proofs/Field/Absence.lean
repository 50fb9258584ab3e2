import DocStore.Field.Query
import DocStore.Proofs.Field.Order
import DocStore.Proofs.Field.Reading
/-!
# Absence

A value that is missing, `null` or `undefined` is absent, and no operation of a field tells the
three apart: reading, validation, equality, the query operators and the order, whatever the field is
and whatever it is compared with (`Field.absent_alike`). Each operation recognises absence in its
own way: by `present`, by the rank of a value, or because the value is not of the kind that it looks
for.
-/

namespace DocStore

variable {σ : Type} {value : Option Value}

/-- There are three ways of being absent. -/
theorem absent_cases (h : present value = none) :
    value = none ∨ value = some .null ∨ value = some .undefined := by
  rcases value with _ | found
  · exact .inl rfl
  · cases found with
    | null => exact .inr (.inl rfl)
    | undefined => exact .inr (.inr rfl)
    | _ => cases h

/-- An absent value is nothing that a conversion is looking for. -/
theorem bind_of_absent {α : Type} {read : Value → Option α} (h : present value = none)
    (hnull : read .null = none) (hundefined : read .undefined = none) : value.bind read = none := by
  rcases absent_cases h with rfl | rfl | rfl
  · rfl
  · exact hnull
  · exact hundefined

theorem isAbsent_of_absent (h : present value = none) : isAbsent value = true := by
  rcases absent_cases h with rfl | rfl | rfl <;> rfl

theorem equalOrAbsent_of_absent (h : present value = none) (query : Value) :
    equalOrAbsent value query = query.isAbsentValue := by
  rw [equalOrAbsent, h]

/-- An absent value has no place in a range. -/
theorem rangeOrder?_of_absent (h : present value = none) (bound : Value) :
    rangeOrder? value bound = none := by
  rcases absent_cases h with rfl | rfl | rfl
  · rfl
  · simp [rangeOrder?, Value.rank]
  · simp [rangeOrder?, Value.rank]

theorem orderOptional_of_absent (h : present value = none) (other : Option Value) :
    orderOptional value other = orderOptional none other ∧
      orderOptional other value = orderOptional other none := by
  simp only [orderOptional, h, show present none = none from rfl, and_self]

namespace Field

/-! ## Equality and operators -/

/-- An absent value equals absence and nothing else, through every field. -/
theorem accepts_of_absent (h : present value = none) (field : Field σ) (query : Value) :
    field.accepts value query = query.isAbsentValue := by
  have hgeneric := equalOrAbsent_of_absent h query
  cases field with
  | scalar path kind options =>
    cases kind with
    | date => rw [accepts, acceptsDate, bind_of_absent h rfl rfl, hgeneric]
    | buffer => rcases absent_cases h with rfl | rfl | rfl <;> exact hgeneric
    | _ => exact hgeneric
  | array path options child => rcases absent_cases h with rfl | rfl | rfl <;> exact hgeneric
  | virtual path getter setter => exact hgeneric

theorem queryGeneric_of_absent {accepts : Option Value → Value → Bool}
    (haccepts : ∀ query, accepts value query = accepts none query) (h : present value = none)
    (operator : QueryOperator) (argument : Value) :
    queryGeneric accepts operator value argument = queryGeneric accepts operator none argument := by
  have hrange : rangeOrder? value argument = rangeOrder? none argument :=
    rangeOrder?_of_absent h argument
  have habsent : isAbsent value = isAbsent none := isAbsent_of_absent h
  cases operator <;> simp only [queryGeneric, haccepts, hrange, habsent]

theorem isDatePart_of_absent (h : present value = none) (part : Moment → Int) (argument : Value) :
    isDatePart part value argument = false := by
  rw [isDatePart, bind_of_absent h rfl rfl, Option.bind_none]

theorem query_of_absent (h : present value = none) (field : Field σ) (operator : QueryOperator)
    (argument : Value) :
    field.query operator value argument = field.query operator none argument := by
  have haccepts : ∀ query, field.accepts value query = field.accepts none query := fun query =>
    (accepts_of_absent h field query).trans (accepts_of_absent rfl field query).symm
  have hgeneric := fun operator argument => queryGeneric_of_absent haccepts h operator argument
  have htext : value.bind Value.asString? = none := bind_of_absent h rfl rfl
  have hitems : storedItems value = none := bind_of_absent h rfl rfl
  have hpart := fun part => isDatePart_of_absent h part argument
  have hpart' (part : Moment → Int) : isDatePart part none argument = false :=
    isDatePart_of_absent rfl part argument
  unfold query
  split
  · cases operator <;> simp only [queryString, hgeneric, htext, Option.bind_none]
  · cases operator <;> simp only [queryDate, hgeneric, hpart, hpart']
  · cases operator <;>
      simp only [queryList, hgeneric, hitems, show storedItems none = none from rfl]
  · exact hgeneric operator argument

/-! ## Order -/

theorem order_of_absent (h : present value = none) (field : Field σ) (other : Option Value) :
    field.order value other = field.order none other ∧
      field.order other value = field.order other none := by
  have hgeneric := orderOptional_of_absent h other
  cases field with
  | scalar path kind options =>
    cases kind with
    | date =>
      have hdate : value.bind Value.asDateTime? = none := bind_of_absent h rfl rfl
      simp only [order, orderDates, hdate, Option.bind_none, and_self]
    | buffer =>
      have hbytes : bytes? value = bytes? none := by
        rcases absent_cases h with rfl | rfl | rfl <;> rfl
      simp only [order, orderBuffers_eq, hbytes, and_self]
    | _ => exact hgeneric
  | array path options child =>
    have hemptied : orderOptional (emptied value) (emptied other) =
          orderOptional none (emptied other) ∧
        orderOptional (emptied other) (emptied value) = orderOptional (emptied other) none := by
      rcases absent_cases h with rfl | rfl | rfl <;> exact orderOptional_of_absent rfl _
    have hitems : items value = items none := by
      rcases absent_cases h with rfl | rfl | rfl <;> rfl
    simp only [order_array, hemptied, hitems, show emptied none = none from rfl, and_self]
  | virtual path getter setter => exact hgeneric

/-! ## Validation -/

theorem validate_eq_of_absent (h : present value = none) (field : Field σ) (data : Document) :
    field.validate value data = field.validate none data := by
  have hrequire (path : String) (options : FieldOptions σ) :
      options.require path value = options.require path none := by
    rw [FieldOptions.require, h]
    rfl
  cases field with
  | scalar path kind options => rw [validate, validate, hrequire]
  | array path options child => rw [validate, validate, hrequire]
  | virtual path getter setter =>
    cases setter with
    | none => rfl
    | some set =>
      simp only [validate, h]
      rfl

/-! ## All operations -/

/-- Two values that no operation of a field tells apart. Actions are alike when they do the same to
the session, which holds the source of identifiers, and give the same result in it. -/
structure Alike (field : Field σ) (v w : Option Value) : Prop where
  cast : field.cast v = field.cast w
  validate : ∀ data, field.validate v data = field.validate w data
  accepts : ∀ query, field.accepts v query = field.accepts w query
  query : ∀ operator argument, field.query operator v argument = field.query operator w argument
  before : ∀ other, field.order v other = field.order w other
  after : ∀ other, field.order other v = field.order other w

theorem alike_of_absent (h : present value = none) (field : Field σ) : field.Alike none value where
  cast := (cast_of_absent h field).symm
  validate data := (validate_eq_of_absent h field data).symm
  accepts query := (accepts_of_absent rfl field query).trans (accepts_of_absent h field query).symm
  query operator argument := (query_of_absent h field operator argument).symm
  before other := (order_of_absent h field other).1.symm
  after other := (order_of_absent h field other).2.symm

/-- **Missing, `null` and `undefined` values are indistinguishable**, through every field with any
options and any elements. -/
theorem absent_alike (field : Field σ) :
    field.Alike none (some .null) ∧ field.Alike none (some .undefined) :=
  ⟨alike_of_absent rfl field, alike_of_absent rfl field⟩

end Field

end DocStore
