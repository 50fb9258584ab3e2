import DocStore.Proofs.Field.Snapshot
/-!
# Fields read back what they write

`Field.serialize` and `Field.parse` are inverse on what `Field.validate` gives, also where that is
nothing, if no dates, no UTF-8 and no virtual paths are involved (`Field.parse_serialize`). Lists
need care about absence: an item that is not stored becomes `null` on each of the three ways, so a
missing item has to come back as the `null` that stands for it (`parse_exported_null`).
-/

namespace DocStore

namespace Value

/-- Whether a value stands in another one, at any depth of lists and documents. -/
inductive Within (part : Value) : Value → Prop
  | self : Within part part
  | item {items : List Value} {item : Value} (hmem : item ∈ items) (h : Within part item) :
      Within part (.array items)
  | entry {entries : List (String × Value)} {entry : String × Value} (hmem : entry ∈ entries)
      (h : Within part entry.2) : Within part (.document entries)

/-- Whether all byte sequences in a value have the generic subtype. -/
def GenericBytes (value : Value) : Prop :=
  ∀ subtype content, Within (.binary subtype content) value → subtype = 0

theorem GenericBytes.item {items : List Value} (h : (Value.array items).GenericBytes)
    {item : Value} (hmem : item ∈ items) : item.GenericBytes :=
  fun subtype content hwithin => h subtype content (.item hmem hwithin)

end Value

namespace Field

variable {σ : Type}

/-- Whether a field writes nothing that it cannot read: UTF-8 replaces bytes that are no text, and
texts of dates are read for certain years only. -/
def Restorable : Field σ → Prop
  | .scalar _ kind options => kind ≠ .date ∧ (kind = .buffer → encodingOf options ≠ .utf8)
  | .array _ _ child => child.Restorable
  | .virtual _ _ _ => False

/-! ## Single values -/

/-- A field reads back the single value that it stored. -/
theorem parse_serialize_scalar {path : String} {kind : ScalarKind} {options : FieldOptions σ}
    (hfield : (scalar path kind options).Restorable) {value stored : Value}
    (hgeneric : value.GenericBytes) (hcheck : checkScalar kind options value = .ok stored) :
    (scalar path kind options).parse ((scalar path kind options).serialize (some stored)) =
      .ok (some stored) := by
  cases kind with
  | boolean =>
    cases value with
    | bool flag =>
      cases hcheck
      cases flag <;> rfl
    | _ => cases hcheck
  | buffer =>
    cases value with
    | binary subtype content =>
      cases hcheck
      obtain rfl : subtype = 0 := hgeneric subtype content .self
      have hwrite : (encodingOf options).CanWrite content := fun hutf8 =>
        absurd hutf8 (hfield.2 rfl)
      show (decodeText path options ((encodingOf options).encode content)).map some = _
      rw [decodeText, Encoding.decode_encode hwrite]
      rfl
    | _ => cases hcheck
  | date => exact absurd rfl hfield.1
  | _ => rfl

/-! ## Lists -/

/-- A missing item is written and read back as `null`. -/
theorem parse_exported_null (field : Field σ) :
    (field.parse (some (field.exported .null))).map (fun parsed => parsed.getD .null) =
      .ok .null := by
  cases field with
  | scalar path kind options => cases kind <;> rfl
  | array path options child => rfl
  | virtual path getter setter => rfl

/-! ## All fields -/

/-- What a restorable field stores it reads back. -/
theorem parse_serialize_of_check {field : Field σ} (hfield : field.Restorable)
    {value stored : Option Value}
    (hgeneric : ∀ found, value = some found → found.GenericBytes)
    (hcheck : field.check value = .ok stored) :
    field.parse (field.serialize stored) = .ok stored := by
  induction field generalizing value stored with
  | scalar path kind options =>
    cases stored with
    | none => rw [serialize_none, parse_none]
    | some stored =>
      obtain ⟨found, hfound, hscalar⟩ := check_scalar_eq_some.mp hcheck
      obtain ⟨hvalue, -⟩ := eq_some_of_present hfound
      exact parse_serialize_scalar hfield (hgeneric found hvalue) hscalar
  | array path options child ih =>
    cases stored with
    | none => rw [serialize_none, parse_none]
    | some stored =>
      obtain ⟨items, checked, hitems, hchecked, rfl⟩ := check_array_eq_some.mp hcheck
      obtain ⟨hvalue, -⟩ := eq_some_of_present hitems
      have hwritten : (array path options child).serialize (some (.array checked)) =
          some (.array (checked.map child.exported)) := rfl
      rw [hwritten]
      refine parse_array_map fun item hmem => ?_
      obtain ⟨raw, hraw, hitem⟩ := exists_of_mem_mapM hchecked hmem
      refine parse_form_of_checkItem child.exported hitem (parse_exported_null child)
        fun hstored => ?_
      rw [← serialize_of_stores (check_stored hstored)]
      refine ih hfield (fun found hfound => ?_) hstored
      cases hfound
      exact (hgeneric _ hvalue).item hraw
  | virtual path getter setter => exact hfield.elim

theorem hasSetter_of_restorable {field : Field σ} (h : field.Restorable) :
    field.hasSetter = false := by
  induction field with
  | scalar path kind options => rfl
  | array path options child ih => exact ih h
  | virtual path getter setter => exact h.elim

/-- **What validation gives is read back from its snapshot form**, by every field without dates,
UTF-8 and virtual parts and at any depth of lists: what is not stored is not there, and what is
stored is there as it is, with the `null` items of lists. -/
theorem parse_serialize {field : Field σ} (hfield : field.Restorable) {value stored : Option Value}
    (hgeneric : ∀ found, value = some found → found.GenericBytes) {data data' : Document}
    {s s' : Session σ} (hrun : (field.validate value data).run s = (.ok (stored, data'), s')) :
    field.parse (field.serialize stored) = .ok stored := by
  rw [validate_eq_check (hasSetter_of_restorable hfield)] at hrun
  rcases hcheck : field.check value with e | result
  · rw [hcheck] at hrun
    cases hrun
  · rw [hcheck] at hrun
    cases hrun
    exact parse_serialize_of_check hfield hgeneric hcheck

/-! ## A list of lists of pictures -/

/-- Lists of byte sequences in base64. -/
def albums : Field Unit :=
  list "albums" .none (some (list "albums" .none
    (some (.scalar "albums" .buffer { FieldOptions.none with encoding := some .base64 }))))

/-- An album with a missing picture, and a missing album. -/
def givenAlbums : Value := .array [.array [.bytes [0xFF, 0xD8], .undefined], .null]

def storedAlbums : Value := .array [.array [.bytes [0xFF, 0xD8], .null], .null]

theorem genericBytes_givenAlbums : givenAlbums.GenericBytes := by
  rintro subtype content (_ | ⟨hmem, h⟩)
  rcases List.mem_pair.mp hmem with rfl | rfl
  · obtain _ | ⟨hmem, h⟩ := h
    rcases List.mem_pair.mp hmem with rfl | rfl
    · cases h
      rfl
    · cases h
  · cases h

theorem restorable_albums : albums.Restorable :=
  ⟨by decide, fun _ => by decide⟩

theorem validate_albums (s : Session Unit) :
    (albums.validate (some givenAlbums) []).run s = (.ok (some storedAlbums, []), s) := rfl

theorem parse_serialize_albums :
    albums.serialize (some storedAlbums) = some (.array [.array [.string "/9g=", .null], .null]) ∧
      albums.parse (albums.serialize (some storedAlbums)) = .ok (some storedAlbums) := by
  have hgeneric : ∀ found, some givenAlbums = some found → found.GenericBytes := by
    rintro _ ⟨⟩
    exact genericBytes_givenAlbums
  exact ⟨rfl, parse_serialize restorable_albums hgeneric
    (validate_albums .idle)⟩

end Field

end DocStore
