/-!
# Maps that remember the order of insertion

An `OrderedMap` is a list of key and value pairs. Looking up takes the first pair with the key,
inserting under a present key replaces the value where it stands, inserting under a new key appends,
and erasing keeps the order of the rest. Maps built by `insert` and `erase` hold each key once.
-/

namespace DocStore

/-- Pairs of keys and values in order of insertion. -/
abbrev OrderedMap (α : Type) := List (String × α)

namespace OrderedMap

variable {α β : Type}

def get? (map : OrderedMap α) (key : String) : Option α := List.lookup key map

def contains (map : OrderedMap α) (key : String) : Bool := (map.get? key).isSome

/-- Stores `value` under `key`, in the place of the key when it is present and last otherwise. -/
def insert : OrderedMap α → String → α → OrderedMap α
  | [], key, value => [(key, value)]
  | (k, v) :: rest, key, value =>
    if k = key then (k, value) :: rest else (k, v) :: insert rest key value

/-- Removes every entry of `key`. -/
def erase (map : OrderedMap α) (key : String) : OrderedMap α :=
  map.filter fun entry => entry.1 ≠ key

def keys (map : OrderedMap α) : List String := map.map Prod.fst

def values (map : OrderedMap α) : List α := map.map Prod.snd

/-- Inserts every pair in turn, so a repeated key keeps its first place and its last value. -/
def insertAll (map : OrderedMap α) (entries : List (String × α)) : OrderedMap α :=
  entries.foldl (fun acc entry => insert acc entry.1 entry.2) map

def ofEntries (entries : List (String × α)) : OrderedMap α := insertAll [] entries

/-! ## What the operations do to a map that is looked at by its keys -/

@[simp] theorem get?_nil (key : String) : get? ([] : OrderedMap α) key = none := rfl

theorem get?_cons (entry : String × α) (rest : OrderedMap α) (key : String) :
    get? (entry :: rest) key = if key = entry.1 then some entry.2 else get? rest key := by
  obtain ⟨k, v⟩ := entry
  by_cases h : key = k
  · simp [get?, h]
  · simp [get?, List.lookup_cons, h, beq_false_of_ne h]

/-- A map answers the value that was inserted last. -/
theorem get?_insert (map : OrderedMap α) (key key' : String) (value : α) :
    get? (insert map key value) key' = if key' = key then some value else get? map key' := by
  induction map with
  | nil => simp [insert, get?_cons]
  | cons entry rest ih =>
    by_cases h : entry.1 = key
    · by_cases h' : key' = key <;> simp [insert, get?_cons, h, h']
    · by_cases h' : key' = entry.1
      · simp [insert, get?_cons, h, h']
      · simp [insert, get?_cons, h, h', ih]

/-- Storing the value that is there changes nothing. -/
theorem insert_of_get? {map : OrderedMap α} {key : String} {value : α}
    (h : get? map key = some value) : insert map key value = map := by
  induction map with
  | nil => simp at h
  | cons entry rest ih =>
    rw [get?_cons] at h
    by_cases hk : entry.1 = key
    · rw [if_pos hk.symm, Option.some.injEq] at h
      simp [insert, ← hk, ← h]
    · rw [if_neg (Ne.symm hk)] at h
      simp [insert, hk, ih h]

/-- Nothing is found under an erased key, and other keys keep their values. -/
theorem get?_erase (map : OrderedMap α) (key key' : String) :
    get? (erase map key) key' = if key' = key then none else get? map key' := by
  unfold erase
  induction map with
  | nil => simp
  | cons entry rest ih =>
    by_cases h : entry.1 = key
    · rw [List.filter_cons_of_neg (by simp [h]), ih, get?_cons, h]
      by_cases h' : key' = key <;> simp [h']
    · rw [List.filter_cons_of_pos (by simp [h]), get?_cons, get?_cons, ih]
      by_cases h' : key' = entry.1 <;> simp [h', h]

/-- Erasing a key that is not there changes nothing. -/
theorem erase_of_get? {map : OrderedMap α} {key : String} (h : get? map key = none) :
    erase map key = map := by
  unfold erase
  induction map with
  | nil => rfl
  | cons entry rest ih =>
    rw [get?_cons] at h
    by_cases hk : key = entry.1
    · rw [if_pos hk] at h
      cases h
    · rw [if_neg hk] at h
      rw [List.filter_cons_of_pos (by simp [Ne.symm hk]), ih h]

theorem contains_iff_mem_keys (map : OrderedMap α) (key : String) :
    map.contains key = true ↔ key ∈ map.keys := by
  induction map with
  | nil => simp [contains, keys]
  | cons entry rest ih =>
    rw [contains, keys] at ih ⊢
    by_cases h : key = entry.1 <;> simp [get?_cons, h, ih]

/-- A present key keeps its place, and a new one comes last. -/
theorem keys_insert (map : OrderedMap α) (key : String) (value : α) :
    keys (insert map key value) = if key ∈ map.keys then map.keys else map.keys ++ [key] := by
  induction map with
  | nil => simp [insert, keys]
  | cons entry rest ih =>
    rw [keys, keys] at ih
    by_cases h : entry.1 = key
    · simp [insert, keys, h]
    · by_cases h' : key ∈ rest.map Prod.fst <;> simp [insert, keys, h, Ne.symm h, ih, h']

/-- The other keys stay in their order. -/
theorem keys_erase (map : OrderedMap α) (key : String) :
    keys (erase map key) = map.keys.filter (· ≠ key) := by
  simp [keys, erase, List.filter_map, Function.comp_def]

end OrderedMap

end DocStore
