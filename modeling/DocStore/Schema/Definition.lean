import DocStore.Field.Basic
import DocStore.Json.Value
/-!
# Declarations of paths

A declaration is the name of a kind, a kind with options, a list, whose first item declares the
elements, or a nested group of declarations. `Definition.ofJson` reads one from JSON: an object with
a text under `type` is a kind with options, and any other object is a group.
-/

namespace DocStore

/-- A declaration of a path. A `custom` declaration gives the field itself. It may be any `Field`,
that is, one of the kinds of this library with its own path, options and elements. A kind of field
with operations of its own, implemented by a user of the library, has no place in `Field`, and the
results on schemas do not speak of one. -/
inductive Definition (σ : Type) where
  | type (kind : FieldKind)
  | typed (kind : FieldKind) (options : FieldOptions σ) (child : Option (Field σ))
  | custom (field : Field σ)
  | list (items : List (Definition σ))
  | nested (fields : List (String × Definition σ))

/-- Reads the name of a kind, without regard to the case of ASCII letters. -/
def FieldKind.read (name : String) : Except StoreError FieldKind :=
  match asciiLower name with
  | "mixed" => .ok .mixed
  | "string" => .ok .string
  | "number" => .ok .number
  | "integer" => .ok .integer
  | "boolean" => .ok .boolean
  | "date" => .ok .date
  | "buffer" => .ok .buffer
  | "array" => .ok .array
  | "object" => .ok .object
  | "enum" => .ok .enum
  | "cuid" => .ok .cuid
  | "virtual" => .ok .virtual
  | _ => .error (.invalidSchema (.unknownType name))

/-- Reads the name of an encoding, without regard to the case of ASCII letters. -/
def Encoding.read (name : String) : Except StoreError Encoding :=
  match asciiLower name with
  | "hex" => .ok .hex
  | "base64" => .ok .base64
  | "utf8" | "utf-8" => .ok .utf8
  | "latin1" | "binary" => .ok .latin1
  | _ => .error (.invalidSchema (.unknownEncoding name))

namespace Definition

variable {σ : Type}

/-- Adds one option to the options read so far. -/
def addOption (options : FieldOptions σ) (key : String) (json : Json) :
    Except StoreError (FieldOptions σ) :=
  match key, json with
  | "type", _ => .ok options
  | "required", .bool required => .ok { options with required }
  | "default", json => .ok (options.withDefault (Value.ofJson json))
  | "encoding", .string name => do
    let encoding ← Encoding.read name
    return { options with encoding := some encoding }
  | "elements", .array items => .ok { options with elements := items.map Value.ofJson }
  | "ref", .string model => .ok { options with reference := some model }
  | key, json => .error (.invalidSchema (.invalidOption key json))

/-- The options of a declaration, read in order. -/
def optionsOf (members : List (String × Json)) : Except StoreError (FieldOptions σ) :=
  members.foldlM (fun options entry => addOption options entry.1 entry.2) FieldOptions.none

/-- The text under `type`. -/
def typeName? (members : List (String × Json)) : Option String :=
  match List.lookup "type" members with
  | some (.string name) => some name
  | _ => none

mutual

/-- Reads a declaration. -/
def ofJson : Json → Except StoreError (Definition σ)
  | .string name => (FieldKind.read name).map .type
  | .array items => (ofJsonItems items).map .list
  | .object members =>
    match typeName? members with
    | some name => do
      let kind ← FieldKind.read name
      let options ← optionsOf members
      return .typed kind options none
    | none => (ofJsonMembers members).map .nested
  | other => .error (.invalidSchema (.invalidDefinition other))

def ofJsonItems : List Json → Except StoreError (List (Definition σ))
  | [] => .ok []
  | item :: items => do
    let first ← ofJson item
    let rest ← ofJsonItems items
    return first :: rest

def ofJsonMembers : List (String × Json) → Except StoreError (List (String × Definition σ))
  | [] => .ok []
  | (key, item) :: members => do
    let first ← ofJson item
    let rest ← ofJsonMembers members
    return (key, first) :: rest

end

/-- The field that a declaration gives a path. A group gives an object. -/
def field (path : String) : Definition σ → Field σ
  | .type kind => Field.ofKind kind path .none none
  | .typed kind options child => Field.ofKind kind path options child
  | .custom field => field
  | .list [] => Field.list path .none (some (Field.mixed path))
  | .list (item :: _) => Field.list path .none (some (field path item))
  | .nested _ => Field.object path .none

end Definition

end DocStore
