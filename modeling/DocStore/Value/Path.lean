import DocStore.Value.Basic
/-!
# Dotted paths

A path is a text of segments parted by dots; it always has at least one segment. Reading walks
documents by key and lists by index. Writing and removing walk documents only: writing replaces
every other level on the way by a document, and removing stops there.
-/

namespace DocStore

namespace Path

/-- The segments of a path, as characters. -/
def split : List Char → List (List Char)
  | [] => [[]]
  | c :: cs =>
    if c = '.' then [] :: split cs
    else match split cs with
      | [] => [[c]]
      | segment :: rest => (c :: segment) :: rest

/-- The segments of a path. -/
def segments (path : String) : List String := (split path.toList).map String.ofList

/-- The list index that a segment denotes: decimal digits, with an optional plus, in 64 bits. -/
def index? (segment : String) : Option Nat :=
  let digits := match segment.toList with
    | '+' :: rest => rest
    | cs => cs
  if digits.isEmpty || !digits.all Char.isDigit then none
  else
    let n := digits.foldl (fun n c => 10 * n + (c.toNat - '0'.toNat)) 0
    if n < uint64Count then some n else none

end Path

/-- The value that segments lead to from a value. -/
def Value.descend : List String → Value → Option Value
  | [], value => some value
  | segment :: rest, .document entries =>
    (OrderedMap.get? entries segment).bind fun inner => descend rest inner
  | segment :: rest, .array items =>
    (Path.index? segment).bind fun i => items[i]?.bind fun inner => descend rest inner
  | _ :: _, _ => none

namespace Document

/-- Writes a value under segments. Levels on the way that are not documents are replaced. -/
def setSegments : List String → Value → Document → Document
  | [], _, doc => doc
  | [key], value, doc => OrderedMap.insert doc key value
  | key :: rest, value, doc =>
    let inner : Document := ((OrderedMap.get? doc key).bind Value.asDocument?).getD []
    OrderedMap.insert doc key (.document (setSegments rest value inner))

/-- Removes what segments lead to through documents. -/
def removeSegments : List String → Document → Document
  | [], doc => doc
  | [key], doc => OrderedMap.erase doc key
  | key :: rest, doc =>
    match OrderedMap.get? doc key with
    | some (.document inner) => OrderedMap.insert doc key (.document (removeSegments rest inner))
    | _ => doc

/-- What `removeSegments` takes away. -/
def removedSegments : List String → Document → Option Value
  | [], _ => none
  | [key], doc => OrderedMap.get? doc key
  | key :: rest, doc =>
    match OrderedMap.get? doc key with
    | some (.document inner) => removedSegments rest inner
    | _ => none

/-- The value at a dotted path. -/
def get? (doc : Document) (path : String) : Option Value :=
  Value.descend (Path.segments path) (.document doc)

/-- The document with `value` at a dotted path. -/
def set (doc : Document) (path : String) (value : Value) : Document :=
  setSegments (Path.segments path) value doc

/-- The document with nothing at a dotted path. -/
def remove (doc : Document) (path : String) : Document :=
  removeSegments (Path.segments path) doc

/-- The value that `remove` takes away. -/
def removed? (doc : Document) (path : String) : Option Value :=
  removedSegments (Path.segments path) doc

/-- Writes a value that is there and removes the path otherwise. -/
def put (doc : Document) (path : String) : Option Value → Document
  | some value => doc.set path value
  | none => doc.remove path

end Document

end DocStore
