import DocStore.Proofs.OrderedMap
import DocStore.Value.Basic
/-!
# Places within values

A value is a scalar, a list or a document. `Value.Part a u` says that `u` stands somewhere in `a`,
and `Value.Facing a b u v` that `u` and `v` stand at the same place of `a` and `b`, where a place is
a way through indices of lists and keys of documents. A relation that goes down into lists by index
and into documents by key holds if and only if it holds level by level at every place
(`Value.Levelwise.iff_forall_facing`).
-/

namespace DocStore

namespace Value

/-- A value that holds no other values. -/
def IsScalar : Value → Prop
  | .array _ | .document _ => False
  | _ => True

instance : DecidablePred IsScalar
  | .array _ | .document _ => .isFalse id
  | .null | .undefined | .minKey | .maxKey | .bool _ | .int32 _ | .int64 _ | .double _ | .string _
  | .dateTime _ | .binary .. | .objectId _ => .isTrue trivial

/-- Values are made of scalars, lists and documents. -/
@[elab_as_elim]
theorem induction_parts {motive : Value → Prop} (scalar : ∀ a : Value, a.IsScalar → motive a)
    (array : ∀ xs : List Value, (∀ x ∈ xs, motive x) → motive (.array xs))
    (document : ∀ xs : Document, (∀ entry ∈ xs, motive entry.2) → motive (.document xs))
    (a : Value) : motive a := by
  cases a with
  | array xs => exact array xs fun x hx => induction_parts scalar array document x
  | document xs =>
    exact document xs fun entry hentry => induction_parts scalar array document entry.2
  | _ => exact scalar _ trivial
termination_by sizeOf a
decreasing_by
  · have hx := List.sizeOf_lt_of_mem hx
    rw [Value.array.sizeOf_spec]
    omega
  · have hentry := List.sizeOf_lt_of_mem hentry
    obtain ⟨key, value⟩ := entry
    rw [Prod.mk.sizeOf_spec] at hentry
    rw [Value.document.sizeOf_spec]
    show sizeOf value < _
    omega

/-- `Part a u`: somewhere in `a` stands `u`. -/
inductive Part : Value → Value → Prop where
  | here (a : Value) : Part a a
  | item {xs : List Value} {x u : Value} : x ∈ xs → Part x u → Part (.array xs) u
  | entry {xs : Document} {entry : String × Value} {u : Value} :
    entry ∈ xs → Part entry.2 u → Part (.document xs) u

/-- All that stands in the value, itself included, has the property. -/
def Throughout (P : Value → Prop) (a : Value) : Prop := ∀ u, Part a u → P u

section

variable {P : Value → Prop}

theorem throughout_of_isScalar {a : Value} (h : a.IsScalar) : Throughout P a ↔ P a := by
  refine ⟨fun hall => hall a (.here a), fun ha u hpart => ?_⟩
  cases hpart with
  | here => exact ha
  | item => cases h
  | entry => cases h

theorem throughout_array {xs : List Value} :
    Throughout P (.array xs) ↔ P (.array xs) ∧ ∀ x ∈ xs, Throughout P x := by
  refine ⟨fun hall => ⟨hall _ (.here _), fun x hx u hinner => hall u (.item hx hinner)⟩, ?_⟩
  rintro ⟨hhere, hitems⟩ u hpart
  cases hpart with
  | here => exact hhere
  | item hx hinner => exact hitems _ hx u hinner

theorem throughout_document {xs : Document} :
    Throughout P (.document xs) ↔ P (.document xs) ∧ ∀ entry ∈ xs, Throughout P entry.2 := by
  refine ⟨fun hall => ⟨hall _ (.here _), fun entry hentry u hinner =>
    hall u (.entry hentry hinner)⟩, ?_⟩
  rintro ⟨hhere, hentries⟩ u hpart
  cases hpart with
  | here => exact hhere
  | entry hentry hinner => exact hentries _ hentry u hinner

end

/-- No document within the value repeats a key. -/
def DistinctKeys : Value → Prop :=
  Throughout fun u => ∀ xs, u = .document xs → (OrderedMap.keys xs).Nodup

/-- No NaN stands within the value. -/
def NaNFree : Value → Prop := Throughout (· ≠ .double .nan)

/-- `Facing a b u v`: somewhere in `a` stands `u`, and at the same place in `b` stands `v`. A place
is a way through indices of lists and keys of documents. -/
inductive Facing : Value → Value → Value → Value → Prop where
  | here (a b : Value) : Facing a b a b
  | item {xs ys : List Value} {i : Nat} {x y u v : Value} :
    xs[i]? = some x → ys[i]? = some y → Facing x y u v → Facing (.array xs) (.array ys) u v
  | entry {xs ys : Document} {key : String} {x y u v : Value} :
    OrderedMap.get? xs key = some x → OrderedMap.get? ys key = some y → Facing x y u v →
      Facing (.document xs) (.document ys) u v

theorem Facing.symm {a b u v : Value} (h : Facing a b u v) : Facing b a v u := by
  induction h with
  | here a b => exact .here b a
  | item hx hy _ ih => exact .item hy hx ih
  | entry hx hy _ ih => exact .entry hy hx ih

theorem Facing.part {a b u v : Value} (h : Facing a b u v) : Part a u := by
  induction h with
  | here a b => exact .here a
  | item hx _ _ ih => exact .item (List.mem_of_getElem? hx) ih
  | entry hx _ _ ih => exact .entry (OrderedMap.mem_of_get? hx) ih

/-- At one place stands one value. -/
theorem Facing.eq {a b u v : Value} (h : Facing a b u v) (hab : a = b) : u = v := by
  induction h with
  | here => exact hab
  | item hx hy _ ih =>
    cases hab
    exact ih (Option.some.inj (hx.symm.trans hy))
  | entry hx hy _ ih =>
    cases hab
    exact ih (Option.some.inj (hx.symm.trans hy))

theorem DistinctKeys.item {xs : List Value} (h : DistinctKeys (.array xs)) {x : Value}
    (hx : x ∈ xs) :
    DistinctKeys x :=
  (throughout_array.mp h).2 x hx

theorem DistinctKeys.entry {xs : Document} (h : DistinctKeys (.document xs))
    {entry : String × Value} (hentry : entry ∈ xs) : DistinctKeys entry.2 :=
  (throughout_document.mp h).2 entry hentry

/-! ## Relations that are decided level by level -/

theorem Facing.of_isScalar {a b u v : Value} (hface : Facing a b u v) (h : a.IsScalar) :
    u = a ∧ v = b := by
  cases hface with
  | here => exact ⟨rfl, rfl⟩
  | item => cases h
  | entry => cases h

/-- `R` is decided by what `L` says of the values themselves and by `R` of their parts. -/
structure Levelwise (R L : Value → Value → Prop) : Prop where
  scalar : ∀ {a b : Value}, a.IsScalar → (R a b ↔ L a b)
  array : ∀ {xs : List Value} {b : Value}, R (.array xs) b ↔ ∃ ys, b = .array ys ∧
    L (.array xs) (.array ys) ∧ ∀ (i : Nat) x y, xs[i]? = some x → ys[i]? = some y → R x y
  document : ∀ {xs : Document} {b : Value}, (OrderedMap.keys xs).Nodup → (R (.document xs) b ↔
    ∃ ys, b = .document ys ∧ L (.document xs) (.document ys) ∧
      ∀ key x y, OrderedMap.get? xs key = some x → OrderedMap.get? ys key = some y → R x y)
  eq_array : ∀ {xs : List Value} {b : Value}, L (.array xs) b → ∃ ys, b = .array ys
  eq_document : ∀ {xs : Document} {b : Value}, L (.document xs) b → ∃ ys, b = .document ys

/-- What is decided level by level is decided at every place on its own. -/
theorem Levelwise.iff_forall_facing {R L : Value → Value → Prop} (hR : Levelwise R L) {a : Value}
    (hkeys : a.DistinctKeys) (b : Value) : R a b ↔ ∀ u v, Facing a b u v → L u v := by
  induction a using induction_parts generalizing b with
  | scalar a ha =>
    rw [hR.scalar ha]
    refine ⟨fun h u v hface => ?_, fun h => h a b (.here a b)⟩
    obtain ⟨rfl, rfl⟩ := hface.of_isScalar ha
    exact h
  | array xs ih =>
    rw [hR.array]
    constructor
    · rintro ⟨ys, rfl, hlevel, hitems⟩ u v hface
      cases hface with
      | here => exact hlevel
      | item hx hy hinner =>
        have hmem := List.mem_of_getElem? hx
        exact (ih _ hmem (hkeys.item hmem) _).mp (hitems _ _ _ hx hy) u v hinner
    · intro h
      obtain ⟨ys, rfl⟩ := hR.eq_array (h _ _ (.here _ b))
      refine ⟨ys, rfl, h _ _ (.here _ _), fun i x y hx hy => ?_⟩
      have hmem := List.mem_of_getElem? hx
      exact (ih x hmem (hkeys.item hmem) y).mpr fun u v hinner => h u v (.item hx hy hinner)
  | document xs ih =>
    rw [hR.document (hkeys _ (.here _) xs rfl)]
    constructor
    · rintro ⟨ys, rfl, hlevel, hvalues⟩ u v hface
      cases hface with
      | here => exact hlevel
      | entry hx hy hinner =>
        have hmem := OrderedMap.mem_of_get? hx
        exact (ih _ hmem (hkeys.entry hmem) _).mp (hvalues _ _ _ hx hy) u v hinner
    · intro h
      obtain ⟨ys, rfl⟩ := hR.eq_document (h _ _ (.here _ b))
      refine ⟨ys, rfl, h _ _ (.here _ _), fun key x y hx hy => ?_⟩
      have hmem := OrderedMap.mem_of_get? hx
      exact (ih _ hmem (hkeys.entry hmem) y).mpr fun u v hinner => h u v (.entry hx hy hinner)

end Value

end DocStore
