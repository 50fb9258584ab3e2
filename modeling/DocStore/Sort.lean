import DocStore.Field.Compare
import DocStore.Schema.Basic
import DocStore.StableSort
/-!
# Sorting

A sort is a list of keys, each a path with a direction. `SortKey.ofText` reads `-age +name title`,
and `SortKey.parse` reads a document of paths and directions. Keys are compared in order and the
first that differs decides; `SortOrder.order` is the comparison on records whose paths have fixed
values.

Reading a path of a live record may change what it remembers, so `SortOrder.orderM` reads both
sides key by key as far as needed, and `SortOrder.sortM` is the stable sort on it.
-/

namespace DocStore

/-- Smaller values first, or greater ones. -/
inductive Direction where
  | ascending
  | descending
  deriving DecidableEq

namespace Direction

/-- The direction that a value names: a number by its sign, a text by its word. -/
def ofValue? (value : Value) : Option Direction :=
  match Number.ofValue? value with
  | some n =>
    let x := n.toDouble
    match x.compare? (Double.zero false) with
    | some .gt => some .ascending
    | some .lt => some .descending
    | _ => none
  | none =>
    value.asString?.bind fun text =>
      match asciiLower text with
      | "asc" | "ascending" => some .ascending
      | "desc" | "descending" => some .descending
      | _ => none

/-- An ordering seen in a direction. -/
def apply : Direction → Ordering → Ordering
  | .ascending, o => o
  | .descending, o => o.swap

end Direction

/-- A key of a sort. -/
structure SortKey where
  path : String
  direction : Direction

namespace SortKey

/-- The key of a word: a path after an optional sign. A sign alone is no key. -/
def ofWord? (word : String) : Option SortKey :=
  match word.toList with
  | '-' :: path => if path.isEmpty then none else some ⟨String.ofList path, .descending⟩
  | '+' :: path => if path.isEmpty then none else some ⟨String.ofList path, .ascending⟩
  | _ => some ⟨word, .ascending⟩

/-- The keys of a text, one for each word. -/
def ofText (text : String) : List SortKey := (words text).filterMap ofWord?

/-- The keys of the entries of a document, whose paths begin with a prefix. -/
def parseFrom (pathPrefix : String) : List (String × Value) → Except StoreError (List SortKey)
  | [] => .ok []
  | (key, value) :: rest => do
    let path := pathPrefix ++ key
    let first ← match value with
      | .document inner => parseFrom (path ++ ".") inner
      | value =>
        match Direction.ofValue? value with
        | some direction => pure [⟨path, direction⟩]
        | none => .error (.invalidQuery (.invalidDirection path value))
    let more ← parseFrom pathPrefix rest
    return first ++ more

/-- Reads a document of paths and directions. -/
def parse (doc : Document) : Except StoreError (List SortKey) := parseFrom "" doc

end SortKey

/-- The keys of a sort with the fields of their paths. -/
structure SortOrder (σ : Type) where
  keys : List (SortKey × Field σ)

/-- Resolves the keys of a sort. -/
def Schema.sortOrder {σ : Type} (schema : Schema σ) (keys : List SortKey) : SortOrder σ :=
  ⟨keys.map fun key => (key, schema.fieldOrMixed key.path)⟩

namespace SortOrder

variable {σ τ ρ : Type}

/-- The order of two values of a key. -/
def orderKey (key : SortKey × Field σ) (a b : Option Value) : Ordering :=
  key.1.direction.apply (key.2.order a b)

/-- The order by a list of keys. -/
def orderBy :
    List (SortKey × Field σ) → (String → Option Value) → (String → Option Value) → Ordering
  | [], _, _ => .eq
  | key :: keys, a, b => (orderKey key (a key.1.path) (b key.1.path)).then (orderBy keys a b)

/-- The order of two records, given by the values of their paths. -/
def order (sort : SortOrder σ) (a b : String → Option Value) : Ordering := orderBy sort.keys a b

/-! ## Records that change when they are read -/

/-- The order by a list of keys; the left record is read before the right one, and no key after the
deciding one is read. -/
def orderByM (read : String → ρ → StateM τ (Option Value × ρ)) :
    List (SortKey × Field σ) → ρ → ρ → StateM τ (Ordering × ρ × ρ)
  | [], a, b => return (.eq, a, b)
  | key :: keys, a, b => do
    let (x, a) ← read key.1.path a
    let (y, b) ← read key.1.path b
    match orderKey key x y with
    | .eq => orderByM read keys a b
    | o => return (o, a, b)

def orderM (sort : SortOrder σ) (read : String → ρ → StateM τ (Option Value × ρ)) (a b : ρ) :
    StateM τ (Ordering × ρ × ρ) :=
  orderByM read sort.keys a b

/-- The stable sort of a list of records. -/
def sortM (sort : SortOrder σ) (read : String → ρ → StateM τ (Option Value × ρ))
    (records : List ρ) : StateM τ (List ρ) :=
  let less : Precedes (StateM τ) ρ := fun a b => do
    let (o, a, b) ← sort.orderM read a b
    return (o == .lt, a, b)
  stableSort less records

end SortOrder

end DocStore
