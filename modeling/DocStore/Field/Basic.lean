import DocStore.Error
import DocStore.Script
/-!
# Fields

A field is the declaration of one path: a scalar of some kind, a list with a field for its elements,
or a virtual path that is computed and never stored. Options that a kind does not use are kept as
declared.
-/

namespace DocStore

/-- The kinds of fields whose values are single. -/
inductive ScalarKind where
  | mixed
  | string
  | number
  | integer
  | boolean
  | date
  | buffer
  | object
  | enum
  | cuid
  deriving DecidableEq

def ScalarKind.toKind : ScalarKind → FieldKind
  | .mixed => .mixed
  | .string => .string
  | .number => .number
  | .integer => .integer
  | .boolean => .boolean
  | .date => .date
  | .buffer => .buffer
  | .object => .object
  | .enum => .enum
  | .cuid => .cuid

/-- The options of a declaration. The default is produced anew each time. -/
structure FieldOptions (σ : Type) where
  required : Bool
  default? : Option (StateM σ Value)
  encoding : Option Encoding
  elements : List Value
  reference : Option String

namespace FieldOptions

variable {σ : Type}

def none : FieldOptions σ := ⟨false, .none, .none, [], .none⟩

instance : Inhabited (FieldOptions σ) := ⟨none⟩

def withDefault (options : FieldOptions σ) (value : Value) : FieldOptions σ :=
  { options with default? := some (pure value) }

/-- Supplies a default where none is declared. -/
def orDefault (options : FieldOptions σ) (value : Value) : FieldOptions σ :=
  match options.default? with
  | some _ => options
  | .none => options.withDefault value

end FieldOptions

/-- Computes a virtual value from the record it is read on. -/
abbrev Getter (σ : Type) := Reading σ (Option Value)

/-- Receives a value written to a virtual path, with the data that is being validated. -/
abbrev Setter (σ : Type) := Value → Document → StateM σ Document

/-- The declaration of a path. -/
inductive Field (σ : Type) where
  | scalar (path : String) (kind : ScalarKind) (options : FieldOptions σ)
  | array (path : String) (options : FieldOptions σ) (child : Field σ)
  | virtual (path : String) (getter : Getter σ) (setter : Option (Setter σ))

namespace Field

variable {σ : Type}

def path : Field σ → String
  | .scalar path _ _ | .array path _ _ | .virtual path _ _ => path

def kind : Field σ → FieldKind
  | .scalar _ kind _ => kind.toKind
  | .array _ _ _ => .array
  | .virtual _ _ _ => .virtual

def options : Field σ → FieldOptions σ
  | .scalar _ _ options | .array _ options _ => options
  | .virtual _ _ _ => .none

/-- The field of the elements of a list. -/
def child? : Field σ → Option (Field σ)
  | .array _ _ child => some child
  | _ => none

/-- The getter of a virtual path. -/
def getter? : Field σ → Option (Getter σ)
  | .virtual _ getter _ => some getter
  | _ => none

/-- A field without a declaration, which takes any value. -/
def mixed (path : String) : Field σ := .scalar path .mixed .none

/-- An object is an empty document by default. -/
def object (path : String) (options : FieldOptions σ) : Field σ :=
  .scalar path .object (options.orDefault (.document []))

/-- A list is empty by default; its elements are untyped unless declared. -/
def list (path : String) (options : FieldOptions σ) (child : Option (Field σ)) : Field σ :=
  .array path (options.orDefault (.array [])) (child.getD (mixed path))

/-- The field of a kind with options, which apply as far as the kind uses them. -/
def ofKind (kind : FieldKind) (path : String) (options : FieldOptions σ)
    (child : Option (Field σ)) : Field σ :=
  match kind with
  | .mixed => .scalar path .mixed options
  | .string => .scalar path .string options
  | .number => .scalar path .number options
  | .integer => .scalar path .integer options
  | .boolean => .scalar path .boolean options
  | .date => .scalar path .date options
  | .buffer => .scalar path .buffer options
  | .array => list path options child
  | .object => object path options
  | .enum => .scalar path .enum options
  | .cuid => .scalar path .cuid options
  | .virtual => .virtual path (.done Option.none) Option.none

/-- The encoding of byte sequences: hexadecimal unless declared. -/
def encodingOf (options : FieldOptions σ) : Encoding := options.encoding.getD .hex

end Field

end DocStore
