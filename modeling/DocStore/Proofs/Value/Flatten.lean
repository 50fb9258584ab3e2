import DocStore.Field.Operator
import DocStore.Proofs.Value.Leaves
/-!
# Documents as lists of dotted paths

A nested document is another way to write a list of dotted paths with leaves. `Document.flatten` is
that list, in the order of the document. A leaf is a value that is no document or, in a language
with operators, an operator key with its argument: what is below an operator key is its argument and
no path.

Where there are no operators, the flattening is the list of leaves with their segments dotted
(`Value.flattenEntries_eq_leavesEntries`), and keys without dots are the segments of their dotted
path (`Path.segments_dotted`).
-/

namespace DocStore

namespace Path

/-- The path of a list of keys. -/
def dotted (keys : List String) : String := ".".intercalate keys

@[simp] theorem dotted_singleton (key : String) : dotted [key] = key :=
  String.intercalate_singleton

theorem dotted_concat {keys : List String} (h : keys ≠ []) (key : String) :
    dotted (keys ++ [key]) = dotted keys ++ "." ++ key := by
  rw [dotted, String.intercalate_append_of_ne_nil h (List.cons_ne_nil _ _), ← dotted, ← dotted,
    dotted_singleton]

theorem dotted_cons {keys : List String} (h : keys ≠ []) (key : String) :
    dotted (key :: keys) = key ++ "." ++ dotted keys :=
  String.intercalate_cons_of_ne_nil h

/-- Two keys in a row may be written as one with a dot. -/
theorem dotted_append_pair (keys : List String) (key next : String) :
    dotted (keys ++ [key, next]) = dotted (keys ++ [key ++ "." ++ next]) := by
  have hpair : dotted [key, next] = key ++ "." ++ next := by
    rw [dotted_cons (List.cons_ne_nil _ _), dotted_singleton]
  rcases eq_or_ne keys [] with rfl | hkeys
  · rw [List.nil_append, List.nil_append, hpair, dotted_singleton]
  · rw [dotted_concat hkeys, dotted,
      String.intercalate_append_of_ne_nil hkeys (List.cons_ne_nil _ _), ← dotted, ← dotted, hpair]

/-! ## Segments of a dotted path -/

theorem split_of_notMem {cs : List Char} (h : '.' ∉ cs) : split cs = [cs] := by
  induction cs with
  | nil => rfl
  | cons c cs ih =>
    rw [List.mem_cons, not_or] at h
    obtain ⟨hc, hcs⟩ := h
    rw [split, if_neg (Ne.symm hc), ih hcs]

theorem split_append_dot {segment : List Char} (h : '.' ∉ segment) (rest : List Char) :
    split (segment ++ '.' :: rest) = segment :: split rest := by
  induction segment with
  | nil => rw [List.nil_append, split, if_pos rfl]
  | cons c cs ih =>
    rw [List.mem_cons, not_or] at h
    obtain ⟨hc, hcs⟩ := h
    rw [List.cons_append, split, if_neg (Ne.symm hc), ih hcs]

theorem segments_of_notMem {key : String} (h : '.' ∉ key.toList) : segments key = [key] := by
  rw [segments, split_of_notMem h, List.map_singleton, String.ofList_toList]

/-- **Keys without dots are the segments of their path.** -/
theorem segments_dotted {keys : List String} (hne : keys ≠ [])
    (h : ∀ key ∈ keys, '.' ∉ key.toList) : segments (dotted keys) = keys := by
  induction keys with
  | nil => exact absurd rfl hne
  | cons key keys ih =>
    obtain ⟨hkey, hkeys⟩ := List.forall_mem_cons.mp h
    rcases eq_or_ne keys [] with rfl | hne
    · rw [dotted_singleton, segments_of_notMem hkey]
    · have htext : (dotted (key :: keys)).toList = key.toList ++ '.' :: (dotted keys).toList := by
        rw [dotted_cons hne, String.toList_append, String.toList_append, List.append_assoc]
        rfl
      rw [segments, htext, split_append_dot hkey, List.map_cons, String.ofList_toList,
        ← segments, ih hne hkeys]

end Path

/-- What a path of a document leads to: a value that is no document, or an operator that is applied
there. -/
inductive Leaf where
  | value (value : Value)
  | operator (key : String) (argument : Value)

namespace Value

theorem IsLeaf.ne_document {value : Value} (h : value.IsLeaf) (inner : List (String × Value)) :
    value ≠ .document inner := by
  rintro rfl
  cases h

mutual

/-- The paths below some keys with their leaves, where some keys are operators. -/
def flatten (isOperator : String → Bool) (keys : List String) : Value → List (String × Leaf)
  | .document entries => flattenEntries isOperator keys entries
  | leaf => [(Path.dotted keys, .value leaf)]

def flattenEntries (isOperator : String → Bool) (keys : List String) :
    List (String × Value) → List (String × Leaf)
  | [] => []
  | (key, value) :: entries =>
    (if isOperator key then [(Path.dotted keys, .operator key value)]
      else flatten isOperator (keys ++ [key]) value) ++ flattenEntries isOperator keys entries

end

variable {isOperator : String → Bool} {keys : List String}

theorem flatten_of_isLeaf {value : Value} (h : value.IsLeaf) :
    flatten isOperator keys value = [(Path.dotted keys, .value value)] := by
  cases value with
  | document entries => cases h
  | _ => rfl

theorem flattenEntries_cons_plain {key : String} (h : isOperator key = false) (value : Value)
    (entries : List (String × Value)) :
    flattenEntries isOperator keys ((key, value) :: entries) =
      flatten isOperator (keys ++ [key]) value ++ flattenEntries isOperator keys entries := by
  rw [flattenEntries, if_neg (by simp [h])]

theorem flattenEntries_cons_operator {key : String} (h : isOperator key = true) (value : Value)
    (entries : List (String × Value)) :
    flattenEntries isOperator keys ((key, value) :: entries) =
      (Path.dotted keys, .operator key value) :: flattenEntries isOperator keys entries := by
  rw [flattenEntries, if_pos h, List.singleton_append]

theorem flattenEntries_append (first second : List (String × Value)) :
    flattenEntries isOperator keys (first ++ second) =
      flattenEntries isOperator keys first ++ flattenEntries isOperator keys second := by
  induction first with
  | nil => rfl
  | cons entry first ih =>
    obtain ⟨key, value⟩ := entry
    rw [List.cons_append, flattenEntries, flattenEntries, ih, List.append_assoc]

/-! ## Keys with dots -/

mutual

/-- The keys above a value matter only for the path that they make. -/
theorem flatten_congr (value : Value) {first second : List String}
    (hfirst : first ≠ []) (hsecond : second ≠ [])
    (h : Path.dotted first = Path.dotted second) :
    flatten isOperator first value = flatten isOperator second value := by
  cases value with
  | document entries => exact flattenEntries_congr entries hfirst hsecond h
  | _ => simp only [flatten, h]

theorem flattenEntries_congr (entries : List (String × Value)) {first second : List String}
    (hfirst : first ≠ []) (hsecond : second ≠ [])
    (h : Path.dotted first = Path.dotted second) :
    flattenEntries isOperator first entries = flattenEntries isOperator second entries := by
  match entries with
  | [] => rfl
  | (key, value) :: entries =>
    have hbelow : Path.dotted (first ++ [key]) = Path.dotted (second ++ [key]) := by
      rw [Path.dotted_concat hfirst, Path.dotted_concat hsecond, h]
    rw [flattenEntries, flattenEntries, h, flattenEntries_congr entries hfirst hsecond h,
      flatten_congr value (by simp) (by simp) hbelow]

end

/-- A nested document is its entries with longer keys. -/
theorem flatten_document {key : String} {inner : List (String × Value)}
    (hplain : ∀ entry ∈ inner, isOperator entry.1 = false)
    (hdotted : ∀ next, isOperator (key ++ "." ++ next) = false) :
    flatten isOperator (keys ++ [key]) (.document inner) =
      flattenEntries isOperator keys
        (inner.map fun entry => (key ++ "." ++ entry.1, entry.2)) := by
  rw [flatten]
  induction inner with
  | nil => rfl
  | cons entry inner ih =>
    obtain ⟨next, value⟩ := entry
    obtain ⟨hnext, hrest⟩ := List.forall_mem_cons.mp hplain
    have hsame : flatten isOperator (keys ++ [key] ++ [next]) value =
        flatten isOperator (keys ++ [key ++ "." ++ next]) value := by
      refine flatten_congr value (by simp) (by simp) ?_
      rw [List.append_assoc]
      exact Path.dotted_append_pair keys key next
    rw [List.map_cons, flattenEntries_cons_plain hnext, flattenEntries_cons_plain (hdotted next),
      ih hrest, hsame]

/-! ## Documents without operators -/

mutual

/-- Whether every key satisfies a condition, through the documents around the leaves. -/
def KeyedBy (holds : String → Prop) : Value → Prop
  | .document entries => KeyedByEntries holds entries
  | _ => True

def KeyedByEntries (holds : String → Prop) : List (String × Value) → Prop
  | [] => True
  | (key, value) :: entries => (holds key ∧ KeyedBy holds value) ∧ KeyedByEntries holds entries

end

mutual

theorem keyedBy_mono (value : Value) {holds weaker : String → Prop}
    (hweaker : ∀ key, holds key → weaker key) (h : KeyedBy holds value) : KeyedBy weaker value := by
  cases value with
  | document entries => exact keyedByEntries_mono entries hweaker h
  | _ => trivial

theorem keyedByEntries_mono (entries : List (String × Value)) {holds weaker : String → Prop}
    (hweaker : ∀ key, holds key → weaker key) (h : KeyedByEntries holds entries) :
    KeyedByEntries weaker entries := by
  match entries with
  | [] => trivial
  | (key, value) :: entries =>
    exact ⟨⟨hweaker key h.1.1, keyedBy_mono value hweaker h.1.2⟩,
      keyedByEntries_mono entries hweaker h.2⟩

end

mutual

/-- The segments of a leaf are keys of the documents around it. -/
theorem keyedBy_of_mem_leaves (value : Value) {holds : String → Prop} (h : KeyedBy holds value)
    {leaf : List String × Value} (hleaf : leaf ∈ leaves value) : ∀ key ∈ leaf.1, holds key := by
  cases value with
  | document entries => exact keyedBy_of_mem_leavesEntries entries h hleaf
  | _ =>
    cases List.mem_singleton.mp hleaf
    exact List.forall_mem_nil _

theorem keyedBy_of_mem_leavesEntries (entries : List (String × Value)) {holds : String → Prop}
    (h : KeyedByEntries holds entries) {leaf : List String × Value}
    (hleaf : leaf ∈ leavesEntries entries) : ∀ key ∈ leaf.1, holds key := by
  match entries with
  | (key, value) :: entries =>
    rcases List.mem_append.mp hleaf with hleaf | hleaf
    · obtain ⟨inner, hinner, rfl⟩ := List.mem_map.mp hleaf
      exact List.forall_mem_cons.mpr ⟨h.1.1, keyedBy_of_mem_leaves value h.1.2 hinner⟩
    · exact keyedBy_of_mem_leavesEntries entries h.2 hleaf

end

mutual

theorem flatten_eq_leaves (value : Value) (keys : List String)
    (h : KeyedBy (fun key => isOperator key = false) value) :
    flatten isOperator keys value =
      (leaves value).map fun leaf => (Path.dotted (keys ++ leaf.1), .value leaf.2) := by
  cases value with
  | document entries => exact flattenEntries_eq_leavesEntries entries keys h
  | _ => simp only [flatten, leaves, List.map_singleton, List.append_nil]

/-- **Without operators, the flattening is the list of leaves.** -/
theorem flattenEntries_eq_leavesEntries (entries : List (String × Value)) (keys : List String)
    (h : KeyedByEntries (fun key => isOperator key = false) entries) :
    flattenEntries isOperator keys entries =
      (leavesEntries entries).map fun leaf => (Path.dotted (keys ++ leaf.1), .value leaf.2) := by
  match entries with
  | [] => rfl
  | (key, value) :: entries =>
    rw [flattenEntries_cons_plain h.1.1, leavesEntries, List.map_append, List.map_map,
      flatten_eq_leaves value (keys ++ [key]) h.1.2,
      flattenEntries_eq_leavesEntries entries keys h.2]
    simp only [List.append_assoc, List.singleton_append, Function.comp_def]

end

end Value

namespace Document

/-- The dotted paths of a document with their leaves, in order. -/
def flatten (isOperator : String → Bool) (doc : Document) : List (String × Leaf) :=
  Value.flattenEntries isOperator [] doc

/-- Whether no key at the top of a document is an operator. -/
def PlainTop (isOperator : String → Bool) (doc : Document) : Prop :=
  ∀ entry ∈ doc, isOperator entry.1 = false

theorem plainTop_of_keyedByEntries {isOperator : String → Bool} {doc : Document}
    (h : Value.KeyedByEntries (fun key => isOperator key = false) doc) :
    doc.PlainTop isOperator := by
  induction doc with
  | nil => exact List.forall_mem_nil _
  | cons entry doc ih => exact List.forall_mem_cons.mpr ⟨h.1.1, ih h.2⟩

end Document

end DocStore
