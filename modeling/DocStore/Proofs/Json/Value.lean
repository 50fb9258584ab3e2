import DocStore.Json.Value
import DocStore.Proofs.Value.Leaves
import DocStore.Proofs.Value.Place
/-!
# Values through JSON

`Value.throughJson` writes a value as JSON and reads it again. It keeps the documents around the
leaves (`throughJson_eq_mapLeaves`) and gives back the values that JSON has forms of, which are
`Native`, and no others (`throughJson_of_native`, `native_throughJson`). Documents are told from all
other values on the way (`json_lossless_iff_native`).
-/

namespace DocStore.Value

/-- A value as it comes back from its JSON form. -/
def throughJson (value : Value) : Value := ofJson (toJson value)

/-- The values that JSON has forms of: absence, flags, 64-bit integers, finite doubles, texts, and
lists and documents of these. -/
inductive Native : Value → Prop
  | null : Native .null
  | bool (flag : Bool) : Native (.bool flag)
  | int64 (n : Int64) : Native (.int64 n)
  | double (x : Double) (finite : x.isFinite = true) : Native (.double x)
  | string (text : String) : Native (.string text)
  | array (items : List Value) (native : ∀ item ∈ items, Native item) : Native (.array items)
  | document (entries : List (String × Value)) (nodup : (entries.map Prod.fst).Nodup)
      (native : ∀ entry ∈ entries, Native entry.2) : Native (.document entries)

theorem toJsonItems_eq_map (items : List Value) : toJsonItems items = items.map toJson := by
  induction items with
  | nil => rfl
  | cons item items ih => rw [toJsonItems, ih, List.map_cons]

theorem ofJsonItems_eq_map (items : List Json) : ofJsonItems items = items.map ofJson := by
  induction items with
  | nil => rfl
  | cons item items ih => rw [ofJsonItems, ih, List.map_cons]

/-- Lists come back item by item. -/
theorem throughJson_array (items : List Value) :
    throughJson (.array items) = .array (items.map throughJson) := by
  rw [throughJson, toJson, ofJson, toJsonItems_eq_map, ofJsonItems_eq_map, List.map_map]
  rfl

/-- Members are stored in turn. -/
theorem ofJsonMembers_toJsonMembers (entries : List (String × Value)) (doc : Document) :
    ofJsonMembers doc (toJsonMembers entries) =
      doc.insertAll (entries.map fun entry => (entry.1, throughJson entry.2)) := by
  induction entries generalizing doc with
  | nil => rfl
  | cons entry entries ih =>
    rw [toJsonMembers, ofJsonMembers, ih]
    rfl

/-- Documents come back as the map of their entries. -/
theorem throughJson_document_eq (entries : List (String × Value)) :
    throughJson (.document entries) =
      .document (OrderedMap.ofEntries
        (entries.map fun entry => (entry.1, throughJson entry.2))) := by
  rw [throughJson, toJson, ofJson, ofJsonMembers_toJsonMembers]
  rfl

/-- Documents whose keys are not repeated come back entry by entry. -/
theorem throughJson_document {entries : List (String × Value)}
    (h : (entries.map Prod.fst).Nodup) :
    throughJson (.document entries) =
      .document (entries.map fun entry => (entry.1, throughJson entry.2)) := by
  rw [throughJson_document_eq, OrderedMap.ofEntries_of_nodup]
  rw [OrderedMap.keys, List.map_map]
  exact h

theorem throughJson_int64 (n : Int64) : throughJson (.int64 n) = .int64 n := by
  have hrange : IsInt64 n.toInt := ⟨n.le_toInt, Int.le_of_lt_add_one n.toInt_lt⟩
  rw [throughJson, toJson, ofJson, if_pos hrange, Int64.ofInt_toInt]

theorem throughJson_int32 (n : Int32) : throughJson (.int32 n) = .int64 (Int64.ofInt n.toInt) := by
  have hrange : IsInt64 n.toInt := by
    have hle := n.le_toInt
    have hlt := n.toInt_lt
    simp only [IsInt64, int64Least, int64Greatest]
    omega
  rw [throughJson, toJson, ofJson, if_pos hrange]

/-- A leaf comes back as a leaf. -/
theorem isLeaf_throughJson {value : Value} (h : value.IsLeaf) : value.throughJson.IsLeaf := by
  cases value with
  | document entries => cases h
  | int32 n =>
    rw [throughJson_int32]
    rfl
  | int64 n =>
    rw [throughJson_int64]
    rfl
  | double x =>
    rw [throughJson, toJson]
    split <;> rfl
  | dateTime millis =>
    rw [throughJson, toJson]
    split <;> rfl
  | _ => rfl

/-- **What JSON has a form of comes back.** -/
theorem throughJson_of_native {value : Value} (h : value.Native) : throughJson value = value := by
  induction h with
  | null => rfl
  | bool flag => rfl
  | int64 n => exact throughJson_int64 n
  | double x finite => rw [throughJson, toJson, if_pos finite, ofJson]
  | string text => rfl
  | array items _ ih =>
    rw [throughJson_array, List.map_congr_left ih, List.map_id']
  | document entries nodup _ ih =>
    rw [throughJson_document nodup]
    have hsame : ∀ entry ∈ entries, (entry.1, throughJson entry.2) = entry := fun entry hentry => by
      rw [ih entry hentry]
    rw [List.map_congr_left hsame, List.map_id']

/-- What comes back is native. -/
theorem native_throughJson (value : Value) : (throughJson value).Native := by
  induction value using induction_parts with
  | scalar value hscalar =>
    cases value with
    | null | undefined => exact .null
    | bool flag => exact .bool flag
    | int32 n =>
      rw [throughJson_int32]
      exact .int64 _
    | int64 n =>
      rw [throughJson_int64]
      exact .int64 n
    | double x =>
      rw [throughJson, toJson]
      split
      · next finite => exact .double x finite
      · exact .null
    | dateTime millis =>
      rw [throughJson, toJson]
      split
      · exact .string _
      · exact .null
    | array | document => cases hscalar
    | _ => exact .string _
  | array items ih =>
    rw [throughJson_array]
    exact .array _ (List.forall_mem_map.mpr ih)
  | document entries ih =>
    rw [throughJson_document_eq]
    refine .document _ (OrderedMap.nodup_keys_ofEntries _) fun entry hentry => ?_
    obtain ⟨original, horiginal, rfl⟩ := List.mem_map.mp (OrderedMap.mem_of_mem_ofEntries hentry)
    exact ih original horiginal

/-- **The values that come back are the native ones.** -/
theorem throughJson_eq_self_iff {value : Value} : throughJson value = value ↔ value.Native :=
  ⟨fun h => h ▸ native_throughJson value, throughJson_of_native⟩

theorem ofJson?_toJson (value : Value) :
    Document.ofJson? (toJson value) = (throughJson value).asDocument? := rfl

/-- A value comes back as a document exactly if it is one. -/
theorem exists_ofJson?_toJson_iff (value : Value) :
    (∃ doc, Document.ofJson? (toJson value) = some doc) ↔ ∃ doc, value = .document doc := by
  rw [ofJson?_toJson]
  rcases isLeaf_or_document value with hleaf | ⟨entries, rfl⟩
  · have hnone : (throughJson value).asDocument? = none := isLeaf_throughJson hleaf
    constructor
    · rintro ⟨doc, hdoc⟩
      rw [hnone] at hdoc
      cases hdoc
    · rintro ⟨doc, rfl⟩
      cases hleaf
  · rw [throughJson_document_eq]
    exact iff_of_true ⟨_, rfl⟩ ⟨entries, rfl⟩

/-- **JSON loses nothing of the values it has forms of.** They come back with the kinds of their
numbers and the order of their keys, and as documents just when they are documents. No other value
comes back as it was. -/
theorem json_lossless_iff_native (value : Value) :
    (ofJson (toJson value) = value ↔ value.Native) ∧
      ((∃ doc, Document.ofJson? (toJson value) = some doc) ↔ ∃ doc, value = .document doc) ∧
      (value.Native → Document.ofJson? (toJson value) = value.asDocument?) := by
  refine ⟨throughJson_eq_self_iff, exists_ofJson?_toJson_iff value, fun h => ?_⟩
  rw [ofJson?_toJson, throughJson_of_native h]

/-- A record with numbers of both kinds: one is whole and yet a double, and one is minus zero. -/
def bothKinds : Document :=
  [("b", .int64 1), ("a", .array [.bool true, .double (Double.ofInt 1)]),
    ("c", .document [("b", .double (Double.zero true)), ("a", .null)])]

theorem native_bothKinds : Native (.document bothKinds) := by
  have hone : (Double.ofInt 1).isFinite = true := by decide +kernel
  have hzero : (Double.zero true).isFinite = true := by decide
  have hlist : Native (.array [.bool true, .double (Double.ofInt 1)]) :=
    .array _ (List.forall_mem_cons.mpr
      ⟨.bool true, List.forall_mem_singleton.mpr (.double _ hone)⟩)
  have hnested : Native (.document [("b", .double (Double.zero true)), ("a", .null)]) :=
    .document _ (by decide) (List.forall_mem_cons.mpr
      ⟨.double _ hzero, List.forall_mem_singleton.mpr .null⟩)
  exact .document _ (by decide) (List.forall_mem_cons.mpr
    ⟨.int64 1, List.forall_mem_cons.mpr ⟨hlist, List.forall_mem_singleton.mpr hnested⟩⟩)

theorem json_lossless_iff_native_bothKinds :
    ofJson (toJson (.document bothKinds)) = .document bothKinds ∧
      Document.ofJson? (toJson (.document bothKinds)) = some bothKinds := by
  obtain ⟨hsame, -, hdocument⟩ := json_lossless_iff_native (.document bothKinds)
  exact ⟨hsame.mpr native_bothKinds, hdocument native_bothKinds⟩

mutual

/-- **Documents are kept around the leaves.** -/
theorem throughJson_eq_mapLeaves (value : Value) (h : value.KeyedOnce) :
    throughJson value = mapLeaves (fun _ => throughJson) value := by
  cases value with
  | document entries =>
    rw [KeyedOnce] at h
    rw [throughJson_document h.1, mapLeaves, throughJson_eq_mapLeavesEntries entries h.2]
  | _ => rfl

theorem throughJson_eq_mapLeavesEntries (entries : List (String × Value))
    (h : KeyedOnceEntries entries) :
    (entries.map fun entry => (entry.1, throughJson entry.2)) =
      mapLeavesEntries (fun _ => throughJson) entries := by
  match entries with
  | [] => rfl
  | (key, value) :: entries =>
    rw [KeyedOnceEntries] at h
    rw [List.map_cons, mapLeavesEntries, throughJson_eq_mapLeaves value h.1,
      throughJson_eq_mapLeavesEntries entries h.2]

end

end DocStore.Value
