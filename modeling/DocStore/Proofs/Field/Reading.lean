import DocStore.Field.Cast
import DocStore.Proofs.Field.Check
/-!
# Reading again

Where defaults are constant, `Field.Constant`, what a field gives for a value hardly depends on the
session: `Field.Reads` says that it does not at all, and that nothing is drawn or changed. An
identifier that is drawn is read as it is from then on, so what a field gave it gives for that again
(`reads_image`).

A value that was read and passed the check is read to something that passes the check with the same
result (`reads_checked`). The two need not be the same: an item that is not stored stands as `null`
in a list, and is read to its default, which may be `undefined`.
-/

namespace DocStore

variable {σ : Type}

/-- Whether the default, if there is one, is the same each time. -/
def FieldOptions.Constant (options : FieldOptions σ) : Prop :=
  ∀ producer, options.default? = some producer → ∃ value, producer = pure value

namespace FieldOptions

theorem fill_of_present {value : Option Value} {found : Value} (h : present value = some found)
    (options : FieldOptions σ) : options.fill value = pure (some found) := by
  rw [fill, h]

theorem fill_of_absent {value : Option Value} (h : present value = Option.none)
    (options : FieldOptions σ) : options.fill value = options.fill Option.none := by
  rw [fill, fill, h]
  rfl

/-- A present value fills itself. -/
theorem eq_of_fill {options : FieldOptions σ} {value filled : Option Value} {found : Value}
    {s s' : Session σ} (h : (options.fill value).run s = (.ok filled, s'))
    (hpresent : present value = some found) : filled = some found := by
  rw [fill_of_present hpresent] at h
  cases h
  rfl

/-- With a constant default it does not depend on the session what fills a value. -/
theorem Constant.exists_fill {options : FieldOptions σ} (h : options.Constant)
    (value : Option Value) : ∃ filled, ∀ s, (options.fill value).run s = (.ok filled, s) := by
  rw [fill]
  rcases present value with _ | found
  · rcases hdefault : options.default? with _ | producer
    · exact ⟨Option.none, fun s => rfl⟩
    · obtain ⟨default, rfl⟩ := h producer hdefault
      exact ⟨some default, fun s => rfl⟩
  · exact ⟨some found, fun s => rfl⟩

end FieldOptions

namespace Field

/-- Whether the defaults of a field and of its elements are constant. -/
def Constant : Field σ → Prop
  | .scalar _ _ options => options.Constant
  | .array _ options child => options.Constant ∧ child.Constant
  | .virtual _ _ _ => True

/-- Whether a field gives a result for a value in every session, which it leaves as it is. -/
def Reads (field : Field σ) (value result : Option Value) : Prop :=
  ∀ s, (field.cast value).run s = (.ok result, s)

/-! ## Single values -/

theorem toNumber_cases (value : Value) :
    (∃ n, value.toNumber = .int64 n) ∨ ∃ x, value.toNumber = .double x := by
  cases value with
  | string text =>
    rw [Value.toNumber, Value.numberOfText]
    split
    · exact .inl ⟨_, rfl⟩
    · split
      · exact .inl ⟨_, rfl⟩
      · exact .inr ⟨_, rfl⟩
  | int32 | int64 | bool | dateTime => exact .inl ⟨_, rfl⟩
  | _ => exact .inr ⟨_, rfl⟩

theorem toInteger_double {x : Double} (h : x.isFinite = false) :
    (Value.double x).toInteger = .double x := by
  simp [Value.toInteger, Value.toNumber, h]

/-- A whole number is an integer, or a double that is not finite. -/
theorem toInteger_cases (value : Value) :
    (∃ n, value.toInteger = .int64 n) ∨ ∃ x, value.toInteger = .double x ∧ x.isFinite = false := by
  rw [Value.toInteger.eq_def]
  split
  · split
    · exact .inl ⟨_, rfl⟩
    · exact .inr ⟨_, rfl, rfl⟩
  · rcases toNumber_cases value with ⟨n, hn⟩ | ⟨x, hx⟩
    · rw [hn]
      exact .inl ⟨n, rfl⟩
    · rw [hx]
      dsimp only
      split
      · exact .inl ⟨_, rfl⟩
      · next hfinite => exact .inr ⟨x, rfl, Bool.eq_false_iff.mpr hfinite⟩

theorem castBuffer_eq_ok {path : String} {options : FieldOptions σ} {value result : Value}
    (h : castBuffer path options value = .ok result) :
    ∃ subtype content, result = .binary subtype content := by
  cases value with
  | binary subtype content =>
    cases h
    exact ⟨subtype, content, rfl⟩
  | string text =>
    rw [castBuffer, decodeText] at h
    split at h
    · cases h
      exact ⟨_, _, rfl⟩
    · cases h
  | array items =>
    cases h
    exact ⟨_, _, rfl⟩
  | _ => cases h

/-- What is in the form of a kind stays as it is. -/
theorem castScalar_idem {path : String} {kind : ScalarKind} {options : FieldOptions σ}
    {value result : Value} (h : castScalar path kind options value = .ok result) :
    castScalar path kind options result = .ok result := by
  cases kind with
  | string =>
    cases h
    simp only [castScalar, Value.stringify]
  | number =>
    cases h
    rcases toNumber_cases value with ⟨n, hn⟩ | ⟨x, hx⟩
    · rw [hn]
      rfl
    · rw [hx]
      rfl
  | integer =>
    cases h
    rcases toInteger_cases value with ⟨n, hn⟩ | ⟨x, hx, hfinite⟩
    · rw [hn]
      rfl
    · rw [hx, castScalar, toInteger_double hfinite]
  | boolean =>
    cases h
    rfl
  | date =>
    cases h
    rcases hdate : value.toDate? with _ | millis
    · simp only [castScalar, hdate]
    · rfl
  | buffer =>
    obtain ⟨subtype, content, rfl⟩ := castBuffer_eq_ok h
    rfl
  | mixed | object | enum | cuid => rfl

/-- A valid value of a kind is in the form of its kind. -/
theorem castScalar_of_checkScalar {path : String} {kind : ScalarKind} {options : FieldOptions σ}
    {value stored : Value} (h : checkScalar kind options value = .ok stored) :
    castScalar path kind options stored = .ok stored := by
  cases kind with
  | number =>
    simp only [checkScalar, checkNumber] at h
    split at h
    · cases h
    · next number hnan hvalue =>
      cases h
      cases number <;> rfl
    · cases h
  | integer =>
    simp only [checkScalar, checkInteger] at h
    split at h
    · cases h
    · split at h
      · cases h
        rfl
      · cases h
    · next number hnan hfloat hvalue =>
      cases h
      cases number with
      | int n => rfl
      | float x => exact absurd rfl (hfloat x)
    · cases h
  | mixed | object | enum | cuid => rfl
  | string =>
    simp only [checkScalar] at h
    split at h
    · cases h
      simp only [castScalar, Value.stringify]
    · cases h
  | boolean | date | buffer =>
    simp only [checkScalar] at h
    split at h
    · cases h
      rfl
    · cases h

/-- A present value stays present. -/
theorem present_castScalar {path : String} {kind : ScalarKind} {options : FieldOptions σ}
    {value result : Value} (hvalue : present (some value) = some value)
    (h : castScalar path kind options value = .ok result) :
    present (some result) = some result := by
  cases kind with
  | string | boolean =>
    cases h
    rfl
  | number =>
    cases h
    rcases toNumber_cases value with ⟨n, hn⟩ | ⟨x, hx⟩
    · rw [hn]
      rfl
    · rw [hx]
      rfl
  | integer =>
    cases h
    rcases toInteger_cases value with ⟨n, hn⟩ | ⟨x, hx, -⟩
    · rw [hn]
      rfl
    · rw [hx]
      rfl
  | date =>
    cases h
    rcases value.toDate? with _ | millis
    · exact hvalue
    · rfl
  | buffer =>
    obtain ⟨subtype, content, rfl⟩ := castBuffer_eq_ok h
    rfl
  | mixed | object | enum | cuid =>
    cases h
    exact hvalue

/-! ## Fields -/

/-- A value that is absent is read like one that is missing. -/
theorem cast_of_absent {value : Option Value} (h : present value = none) (field : Field σ) :
    field.cast value = field.cast none := by
  cases field with
  | scalar path kind options => rw [cast, cast, options.fill_of_absent h]
  | array path options child => rw [cast, cast, options.fill_of_absent h]
  | virtual path getter setter => rfl

theorem Reads.of_absent {field : Field σ} {value result : Option Value}
    (h : field.Reads value result) (habsent : present value = none) : field.Reads none result := by
  intro s
  rw [← cast_of_absent habsent]
  exact h s

/-- A missing value is read like `null`. -/
theorem Reads.getD {field : Field σ} {value result : Option Value} (h : field.Reads value result) :
    field.Reads (some (value.getD .null)) result := by
  cases value with
  | some found => exact h
  | none =>
    intro s
    rw [Option.getD_none, cast_of_absent (present_some_of_absent rfl)]
    exact h s

theorem reads_scalar {path : String} {kind : ScalarKind} {options : FieldOptions σ}
    {value : Option Value} {found result : Value}
    (hfill : ∀ s, (options.fill value).run s = (.ok (some found), s))
    (h : castScalar path kind options found = .ok result) :
    (scalar path kind options).Reads value (some result) := by
  intro s
  rw [cast, ActOn.run_bind_of_ok (hfill s), ActOn.run_bind, Act.run_ofExcept, h]
  rfl

/-- A valid value is read as it is. -/
theorem reads_scalar_of_present {path : String} {kind : ScalarKind} {options : FieldOptions σ}
    {value : Value} (hpresent : present (some value) = some value)
    (h : castScalar path kind options value = .ok value) :
    (scalar path kind options).Reads (some value) (some value) :=
  reads_scalar (fun s => by rw [options.fill_of_present hpresent]; rfl) h

/-- What a single field gives: the form of what fills the value, a drawn identifier, or nothing. -/
theorem cast_scalar_eq_ok {path : String} {kind : ScalarKind} {options : FieldOptions σ}
    {value filled result : Option Value} {s s' : Session σ}
    (hfill : ∀ s, (options.fill value).run s = (.ok filled, s))
    (h : ((scalar path kind options).cast value).run s = (.ok result, s')) :
    (∃ found form, filled = some found ∧ castScalar path kind options found = .ok form ∧
      result = some form) ∨
    (∃ id, kind = .cuid ∧ result = some (.string id)) ∨
    (result = none ∧ present value = none ∧ (scalar path kind options).Reads value none) := by
  rw [cast, ActOn.run_bind_of_ok (hfill s)] at h
  cases filled with
  | some found =>
    dsimp only at h
    obtain ⟨form, t, hform, hdone⟩ := ActOn.bind_eq_ok h
    rw [Act.run_ofExcept] at hform
    cases hdone
    exact .inl ⟨found, form, rfl, congrArg Prod.fst hform, rfl⟩
  | none =>
    dsimp only at h
    split at h
    · next hdraws =>
      obtain ⟨id, t, -, hdone⟩ := ActOn.bind_eq_ok h
      cases hdone
      exact .inr (.inl ⟨id, hdraws.1, rfl⟩)
    · next hdraws =>
      cases h
      have habsent : present value = none := by
        rcases hpresent : present value with _ | found
        · rfl
        · cases FieldOptions.eq_of_fill (hfill s) hpresent
      refine .inr (.inr ⟨rfl, habsent, fun t => ?_⟩)
      rw [cast, ActOn.run_bind_of_ok (hfill t)]
      dsimp only
      rw [if_neg hdraws]
      rfl

/-- The form of an item, which is `null` where there is none. -/
def castItem (child : Field σ) (item : Value) : Act σ Value := do
  let item ← cast child (some item)
  return item.getD .null

theorem Reads.castItem {child : Field σ} {item : Value} {result : Option Value}
    (h : child.Reads (some item) result) (s : Session σ) :
    (child.castItem item).run s = (.ok (result.getD .null), s) := by
  rw [Field.castItem, ActOn.run_bind_of_ok (h s)]
  rfl

/-- An item is the form that its element gave, or `null` where it gave none. -/
theorem castItem_eq_ok {child : Field σ} {item form : Value} {s s' : Session σ}
    (h : (child.castItem item).run s = (.ok form, s')) :
    ∃ result, (child.cast (some item)).run s = (.ok result, s') ∧ form = result.getD .null := by
  obtain ⟨result, t, hcast, hdone⟩ := ActOn.bind_eq_ok h
  cases hdone
  exact ⟨result, hcast, rfl⟩

/-- What a list field gives: nothing, or a list of the forms of its items. -/
theorem cast_array_eq_ok {path : String} {options : FieldOptions σ} {child : Field σ}
    {value filled result : Option Value} {s s' : Session σ}
    (hfill : ∀ s, (options.fill value).run s = (.ok filled, s))
    (h : ((array path options child).cast value).run s = (.ok result, s')) :
    (result = none ∧ present value = none ∧ (array path options child).Reads value none) ∨
    ∃ items forms : List Value, (items.mapM child.castItem).run s = (.ok forms, s') ∧
      result = some (.array forms) := by
  rw [cast, ActOn.run_bind_of_ok (hfill s)] at h
  rcases hitems : itemsOf filled with _ | items
  · rw [hitems] at h
    cases h
    have habsent : present value = none := by
      rcases hpresent : present value with _ | found
      · rfl
      · cases FieldOptions.eq_of_fill (hfill s) hpresent
        rw [itemsOf, present_idem hpresent] at hitems
        cases hitems
    refine .inl ⟨rfl, habsent, fun t => ?_⟩
    rw [cast, ActOn.run_bind_of_ok (hfill t), hitems]
    rfl
  · rw [hitems] at h
    obtain ⟨forms, t, hforms, hdone⟩ := ActOn.bind_eq_ok h
    cases hdone
    exact .inr ⟨items, forms, hforms, rfl⟩

/-- A list is read item by item. -/
theorem reads_array {path : String} (options : FieldOptions σ) {child : Field σ}
    {items forms : List Value}
    (h : List.Forall₂ (fun item form => ∀ s, (child.castItem item).run s = (.ok form, s))
        items forms) :
    (array path options child).Reads (some (.array items)) (some (.array forms)) := by
  have hmap : ∀ s, (items.mapM child.castItem).run s = (.ok forms, s) := by
    induction h with
    | nil => exact fun s => rfl
    | cons hitem _ ih =>
      intro s
      rw [List.mapM_cons, ActOn.run_bind_of_ok (hitem s), ActOn.run_bind_of_ok (ih s)]
      rfl
  intro s
  rw [cast, options.fill_of_present rfl]
  exact ActOn.run_bind_of_ok (hmap s)

/-- **What a field with constant defaults gave, it gives again.** -/
theorem reads_image {field : Field σ} (hconstant : field.Constant) {value result : Option Value}
    {s s' : Session σ} (h : (field.cast value).run s = (.ok result, s')) :
    field.Reads result result := by
  induction field generalizing value result s s' with
  | scalar path kind options =>
    obtain ⟨filled, hfill⟩ := FieldOptions.Constant.exists_fill hconstant value
    rcases cast_scalar_eq_ok hfill h with
      ⟨found, form, rfl, hform, rfl⟩ | ⟨id, rfl, rfl⟩ | ⟨rfl, habsent, hreads⟩
    · rcases hpresent : present (some form) with _ | own
      · -- a form is absent only where the value was, and the default filled it
        have habsent : present value = none := by
          rcases hvalue : present value with _ | own
          · rfl
          · cases FieldOptions.eq_of_fill (hfill s) hvalue
            rw [present_castScalar (present_idem hvalue) hform] at hpresent
            cases hpresent
        refine reads_scalar (fun t => ?_) hform
        rw [options.fill_of_absent hpresent, ← options.fill_of_absent habsent]
        exact hfill t
      · obtain ⟨⟨⟩, -⟩ := eq_some_of_present hpresent
        exact reads_scalar_of_present hpresent (castScalar_idem hform)
    · exact reads_scalar_of_present rfl rfl
    · exact hreads.of_absent habsent
  | array path options child ih =>
    obtain ⟨filled, hfill⟩ := FieldOptions.Constant.exists_fill hconstant.1 value
    rcases cast_array_eq_ok hfill h with ⟨rfl, habsent, hreads⟩ | ⟨items, forms, hforms, rfl⟩
    · exact hreads.of_absent habsent
    · refine reads_array options (List.forall₂_same.mpr fun form hform => ?_)
      obtain ⟨item, -, t, t', hitem⟩ := ActOn.exists_of_mem_mapM hforms hform
      obtain ⟨result, hcast, rfl⟩ := castItem_eq_ok hitem
      exact (ih hconstant.2 hcast).getD.castItem
  | virtual path getter setter =>
    cases h
    exact fun t => rfl

/-- Where nothing is stored of what a field gave, it gives the same for nothing. -/
theorem reads_of_check_eq_none {field : Field σ} (hconstant : field.Constant)
    {value result : Option Value} {s s' : Session σ}
    (h : (field.cast value).run s = (.ok result, s')) (hcheck : field.check result = .ok none)
    (hkind : field.kind ≠ .virtual) : field.Reads none result :=
  (reads_image hconstant h).of_absent ((present_of_check_eq_none hcheck).resolve_left hkind)

theorem check_getD (field : Field σ) (value : Option Value) :
    field.check (some (value.getD .null)) = field.check value := by
  cases value with
  | some found => rfl
  | none => exact check_of_absent (present_some_of_absent rfl) field

/-- The stored form of an item, from the form that its element gave. -/
theorem checkItem_getD (field : Field σ) (value : Option Value) :
    checkItem field.check (value.getD .null) =
      (field.check value).map fun stored => stored.getD .null := by
  rw [checkItem, check_getD]

/-- A field gives nothing for absent values only, unless it is virtual. -/
theorem skips_of_cast_eq_none {field : Field σ} {value : Option Value} {s s' : Session σ}
    (h : (field.cast value).run s = (.ok none, s')) :
    field.kind = .virtual ∨ present value = none := by
  cases field with
  | scalar path kind options =>
    right
    rcases hpresent : present value with _ | found
    · rfl
    · rw [cast, options.fill_of_present hpresent, pure_bind] at h
      obtain ⟨form, t, -, hdone⟩ := ActOn.bind_eq_ok h
      cases hdone
  | array path options child =>
    right
    rcases hpresent : present value with _ | found
    · rfl
    · rw [cast, options.fill_of_present hpresent, pure_bind, itemsOf, present_idem hpresent] at h
      obtain ⟨forms, t, -, hdone⟩ := ActOn.bind_eq_ok h
      cases hdone
  | virtual path getter setter => exact .inl rfl

/-- A field that gives nothing for a missing value gives nothing for an absent one. -/
theorem Reads.skips {field : Field σ} (h : field.Reads none none) {value : Option Value}
    (hskips : field.kind = .virtual ∨ present value = none) : field.Reads value none := by
  rcases hskips with hvirtual | habsent
  · obtain ⟨path, getter, setter, rfl⟩ := exists_of_kind_virtual hvirtual
    exact fun s => rfl
  · intro s
    rw [cast_of_absent habsent]
    exact h s

/-- What a virtual field gives is nothing. -/
theorem eq_none_of_cast_virtual {field : Field σ} (hvirtual : field.kind = .virtual)
    {value result : Option Value} {s s' : Session σ}
    (h : (field.cast value).run s = (.ok result, s')) : result = none := by
  obtain ⟨path, getter, setter, rfl⟩ := exists_of_kind_virtual hvirtual
  cases h
  rfl

theorem exists_forall₂ {α β : Type} {R : α → β → Prop} :
    ∀ {as : List α}, (∀ a ∈ as, ∃ b, R a b) → ∃ bs, List.Forall₂ R as bs
  | [], _ => ⟨[], .nil⟩
  | a :: as, h => by
    obtain ⟨b, hb⟩ := h a List.mem_cons_self
    obtain ⟨bs, hbs⟩ := exists_forall₂ fun other hother => h other (List.mem_cons_of_mem a hother)
    exact ⟨b :: bs, .cons hb hbs⟩

/-- **What a field gave and the check let through is read to something that the check lets through
with the same result.** -/
theorem reads_checked {field : Field σ} (hconstant : field.Constant)
    {value result stored : Option Value} {s s' : Session σ}
    (h : (field.cast value).run s = (.ok result, s')) (hcheck : field.check result = .ok stored) :
    ∃ again, field.Reads stored again ∧ field.check again = .ok stored := by
  induction field generalizing value result stored s s' with
  | scalar path kind options =>
    cases stored with
    | none =>
      exact ⟨result, reads_of_check_eq_none hconstant h hcheck (by cases kind <;> exact nofun),
        hcheck⟩
    | some stored =>
      obtain ⟨found, hfound, hscalar⟩ := check_scalar_eq_some.mp hcheck
      have hpresent := present_of_checkScalar (present_idem hfound) hscalar
      exact ⟨some stored, reads_scalar_of_present hpresent (castScalar_of_checkScalar hscalar),
        check_stored hcheck⟩
  | array path options child ih =>
    cases stored with
    | none => exact ⟨result, reads_of_check_eq_none hconstant h hcheck nofun, hcheck⟩
    | some stored =>
      obtain ⟨filled, hfill⟩ := FieldOptions.Constant.exists_fill hconstant.1 value
      obtain ⟨forms, checked, hresult, hchecked, rfl⟩ := check_array_eq_some.mp hcheck
      rcases cast_array_eq_ok hfill h with ⟨rfl, -, -⟩ | ⟨items, forms', hforms, rfl⟩
      · cases hresult
      · cases hresult
        have hitems : ∀ item ∈ checked, ∃ form,
            (∀ t, (child.castItem item).run t = (.ok form, t)) ∧
              checkItem child.check form = .ok item := by
          intro item hitem
          obtain ⟨form, hform, hstored⟩ := exists_of_mem_mapM hchecked hitem
          obtain ⟨source, -, t, t', hsource⟩ := ActOn.exists_of_mem_mapM hforms hform
          obtain ⟨found, hcast, rfl⟩ := castItem_eq_ok hsource
          rw [checkItem_getD] at hstored
          rcases hfound : child.check found with e | own
          · rw [hfound] at hstored
            cases hstored
          · rw [hfound] at hstored
            cases hstored
            obtain ⟨again, hagain, hown⟩ := ih hconstant.2 hcast hfound
            refine ⟨again.getD .null, hagain.getD.castItem, ?_⟩
            rw [checkItem_getD, hown]
            rfl
        obtain ⟨again, hagain⟩ := exists_forall₂ hitems
        refine ⟨some (.array again), reads_array options (hagain.imp fun _ _ h => h.1), ?_⟩
        refine check_array_eq_some.mpr ⟨again, checked, rfl, mapM_eq_ok_iff.mpr ?_, rfl⟩
        exact (hagain.imp fun _ _ h => h.2).flip
  | virtual path getter setter =>
    cases hcheck
    exact ⟨none, fun t => rfl, rfl⟩

end Field

end DocStore
