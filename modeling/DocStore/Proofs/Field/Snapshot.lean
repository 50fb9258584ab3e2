import DocStore.Field.Snapshot
import DocStore.Proofs.Bytes.Encoding
import DocStore.Proofs.Date.Text
import DocStore.Proofs.Field.Check
import DocStore.Proofs.Json.Value
/-!
# Values through snapshots

A value that a field stores is written in its snapshot form, goes through JSON and is parsed again.
`Field.Exportable` says which values are back then (`parse_exported`): dates of the years 0 to 9999,
bytes of the generic subtype that the encoding can write, and where a field keeps the form of
values, values that JSON has forms of.
-/

namespace DocStore

/-- Whether a date has a year of four digits. -/
def Date.HasPlainYear (millis : Int) : Prop :=
  0 ≤ (Moment.ofMillis millis).date.year ∧ (Moment.ofMillis millis).date.year ≤ 9999

namespace Field

variable {σ : Type}

/-- Whether a single value goes through a snapshot. -/
def ExportableScalar (kind : ScalarKind) (options : FieldOptions σ) (value : Value) : Prop :=
  match kind with
  | .string | .integer | .boolean | .cuid => True
  | .date => ∀ millis, value = .dateTime millis → Date.HasPlainYear millis.toInt
  | .buffer => ∀ subtype content, value = .binary subtype content →
      subtype = 0 ∧ (encodingOf options).CanWrite content
  | .number | .mixed | .object | .enum => value.Native

/-- Whether a stored value goes through a snapshot, item by item in lists. -/
def Exportable : Field σ → Value → Prop
  | .scalar _ kind options, value => ExportableScalar kind options value
  | .array _ _ child, value => ∀ items, value = .array items → ∀ item ∈ items, Exportable child item
  | .virtual _ _ _, _ => True

/-- Whether a value passes the check of a field as it is. -/
def Stores (field : Field σ) (value : Value) : Prop :=
  field.check (some value) = .ok (some value)

/-- The form in which a field writes a stored value to a snapshot. -/
def exported (field : Field σ) (value : Value) : Value := (field.serialize (some value)).getD .null

theorem serialize_none (field : Field σ) : field.serialize none = none := by
  cases field with
  | scalar path kind options => cases kind <;> rfl
  | array path options child => rfl
  | virtual path getter setter => rfl

theorem parse_none (field : Field σ) : field.parse none = .ok none := by
  cases field with
  | scalar path kind options => cases kind <;> rfl
  | array path options child => rfl
  | virtual path getter setter => rfl

/-- A stored value has a snapshot form. -/
theorem serialize_of_stores {field : Field σ} {value : Value} (h : field.Stores value) :
    field.serialize (some value) = some (field.exported value) := by
  cases field with
  | scalar path kind options =>
    obtain ⟨found, hfound, -⟩ := check_scalar_eq_some.mp h
    obtain ⟨hvalue, hpresent⟩ := eq_some_of_present hfound
    cases hvalue
    cases kind with
    | boolean | date | buffer =>
      rw [exported, serialize, present_some_of_present hpresent]
      rfl
    | _ => rfl
  | array path options child =>
    obtain ⟨items, checked, -, -, rfl⟩ := check_array_eq_some.mp h
    rfl
  | virtual path getter setter => cases h

/-! ## Single values -/

/-- What an integer field stores is an integer. -/
theorem exists_of_checkInteger {value stored : Value} (h : checkInteger value = .ok stored) :
    ∃ n, stored = .int64 n := by
  unfold checkInteger at h
  split at h
  · cases h
  · split at h
    · cases h
      exact ⟨_, rfl⟩
    · cases h
  · next number hnan hfloat hvalue =>
    cases h
    cases number with
    | int n => exact ⟨n, rfl⟩
    | float x => exact absurd rfl (hfloat x)
  · cases h

/-- A date of a plain year is back after a snapshot. -/
theorem toDate?_of_format? {millis : Int64} (h : Date.HasPlainYear millis.toInt) :
    ∃ text, Date.format? millis.toInt = some text ∧
      (Value.string text).toDate? = some millis := by
  obtain ⟨text, hformat, hread⟩ := Date.read?_format? h.1 h.2
  refine ⟨text, hformat, ?_⟩
  rw [Value.toDate?, hread, Option.map_some, Int64.ofInt_toInt]

/-- A stored single value is back after a snapshot. -/
theorem parse_exported_scalar {path : String} {kind : ScalarKind} {options : FieldOptions σ}
    {value : Value} (hcheck : checkScalar kind options value = .ok value)
    (hexport : ExportableScalar kind options value) :
    (scalar path kind options).parse
      (some ((scalar path kind options).exported value).throughJson) = .ok (some value) := by
  cases kind with
  | string =>
    cases value with
    | string text => rfl
    | _ => simp [checkScalar] at hcheck
  | integer =>
    obtain ⟨n, rfl⟩ := exists_of_checkInteger hcheck
    show (Except.ok (some (Value.int64 n).throughJson) : Except StoreError _) = _
    rw [Value.throughJson_int64]
  | cuid =>
    cases value with
    | string text => rfl
    | _ => simp [checkScalar] at hcheck
  | boolean =>
    cases value with
    | bool flag => cases flag <;> rfl
    | _ => simp [checkScalar] at hcheck
  | date =>
    cases value with
    | dateTime millis =>
      obtain ⟨text, hformat, hread⟩ := toDate?_of_format? (hexport millis rfl)
      have hexported : serializeScalar .date options (.dateTime millis) = .string text := by
        simp only [serializeScalar, hformat]
      have hparsed : parseScalar path .date options (.string text) = .ok (.dateTime millis) := by
        simp only [parseScalar, hread]
      have hwritten : (scalar path .date options).exported (.dateTime millis) = .string text :=
        hexported
      rw [hwritten]
      show (parseScalar path .date options (.string text)).map some = _
      rw [hparsed]
      rfl
    | _ => simp [checkScalar] at hcheck
  | buffer =>
    cases value with
    | binary subtype content =>
      obtain ⟨rfl, hwrite⟩ := hexport subtype content rfl
      show (decodeText path options ((encodingOf options).encode content)).map some = _
      rw [decodeText, Encoding.decode_encode hwrite]
      rfl
    | _ => simp [checkScalar] at hcheck
  | number | mixed | object | enum =>
    show (Except.ok (some value.throughJson) : Except StoreError _) = _
    rw [Value.throughJson_of_native hexport]

/-! ## Lists -/

/-- A list is read from the forms of its items, if each of these is read as its item, with `null`
for what is missing. -/
theorem parse_array_map {path : String} {options : FieldOptions σ} {child : Field σ}
    {form : Value → Value} {items : List Value}
    (h : ∀ item ∈ items,
      (child.parse (some (form item))).map (fun parsed => parsed.getD .null) = .ok item) :
    (array path options child).parse (some (.array (items.map form))) =
      .ok (some (.array items)) := by
  have hparsed : (items.map form).mapM (fun item => do
      let item ← child.parse (some item)
      pure (item.getD .null)) = Except.ok items := by
    refine mapM_eq_ok_iff.mpr (List.forall₂_map_left_iff.mpr (List.forall₂_same.mpr ?_))
    intro item hmem
    rw [← h item hmem]
    rcases child.parse (some (form item)) with e | parsed
    · rfl
    · rfl
  rw [parse, present_some_of_present rfl]
  dsimp only
  rw [hparsed]
  rfl

/-- A form of an item of a stored list is read as the item, if that holds for what the field of the
items stores and for `null`. -/
theorem parse_form_of_checkItem {child : Field σ} (form : Value → Value) {raw item : Value}
    (hitem : checkItem child.check raw = .ok item)
    (hnull : (child.parse (some (form .null))).map (fun parsed => parsed.getD .null) = .ok .null)
    (hback : child.check (some raw) = .ok (some item) →
      child.parse (some (form item)) = .ok (some item)) :
    (child.parse (some (form item))).map (fun parsed => parsed.getD .null) = .ok item := by
  rw [checkItem] at hitem
  rcases hchild : child.check (some raw) with e | _ | stored
  · rw [hchild] at hitem
    cases hitem
  · rw [hchild] at hitem
    cases hitem
    exact hnull
  · rw [hchild] at hitem
    cases hitem
    rw [hback hchild]
    rfl

/-- What is written of an item and parsed again, with `null` for what is missing. -/
def ParsesTo (field : Field σ) (item : Value) : Prop :=
  (field.parse (some (field.exported item).throughJson)).map (fun parsed => parsed.getD .null) =
    .ok item

/-- A missing item stays `null`. -/
theorem parsesTo_null (field : Field σ) : field.ParsesTo .null := by
  cases field with
  | scalar path kind options => cases kind <;> rfl
  | array path options child => rfl
  | virtual path getter setter => rfl

/-- A list whose items parse to themselves is back after a snapshot. -/
theorem parse_exported_array {path : String} {options : FieldOptions σ} {child : Field σ}
    {items : List Value} (h : ∀ item ∈ items, child.ParsesTo item) :
    (array path options child).parse
        (some ((array path options child).exported (.array items)).throughJson) =
      .ok (some (.array items)) := by
  have hwritten : (array path options child).exported (.array items) =
      .array (items.map child.exported) := rfl
  rw [hwritten, Value.throughJson_array, List.map_map]
  exact parse_array_map h

/-- **What a field stores is back after a snapshot.** -/
theorem parse_exported {field : Field σ} {value : Value}
    (hcheck : field.check (some value) = .ok (some value)) (hexport : field.Exportable value) :
    field.parse (some (field.exported value).throughJson) = .ok (some value) := by
  induction field generalizing value with
  | scalar path kind options =>
    obtain ⟨found, hfound, hscalar⟩ := check_scalar_eq_some.mp hcheck
    obtain ⟨hvalue, -⟩ := eq_some_of_present hfound
    cases hvalue
    exact parse_exported_scalar hscalar hexport
  | array path options child ih =>
    obtain ⟨items, checked, hitems, hchecked, rfl⟩ := check_array_eq_some.mp hcheck
    obtain ⟨hsame, -⟩ := eq_some_of_present hitems
    obtain rfl : checked = items := by simpa using hsame
    refine parse_exported_array fun item hmem => ?_
    have hself := mapM_eq_ok_self_iff.mp hchecked item hmem
    exact parse_form_of_checkItem (fun value => (child.exported value).throughJson) hself
      (parsesTo_null child) fun hstored => ih hstored (hexport checked rfl item hmem)
  | virtual path getter setter => cases hcheck

end Field

end DocStore
