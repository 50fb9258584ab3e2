import DocStore.Proofs.Field.Check
/-!
# Checks with setters

A setter may change the data that is being validated, and nothing else: what `Field.validate` stores
is what `Field.check` gives (`check_of_validate`), and what the setters of a field keep of the data,
validation keeps (`validate_keeps`). What a check lets through as it is calls no setter when it is
validated (`validate_of_check`).
-/

namespace DocStore

namespace Field

variable {σ : Type}

/-! ## What is stored -/

/-- A virtual path stores nothing, and the data after it is what its setter made of it, if it has
one. -/
theorem validate_virtual_eq_ok {path : String} {getter : Getter σ} {setter : Option (Setter σ)}
    {value stored : Option Value} {data data' : Document} {s s' : Session σ}
    (h : ((virtual path getter setter).validate value data).run s = (.ok (stored, data'), s')) :
    stored = none ∧ (data' = data ∨
      ∃ set found, setter = some set ∧ data' = ((set found data).run s.host).1) := by
  rcases setter with _ | set
  · cases h
    exact ⟨rfl, .inl rfl⟩
  · rcases hfound : present value with _ | found
    · simp only [validate, hfound] at h
      cases h
      exact ⟨rfl, .inl rfl⟩
    · simp only [validate, hfound] at h
      obtain ⟨data₁, s₁, hset, h⟩ := ActOn.bind_eq_ok h
      cases h
      cases hset
      exact ⟨rfl, .inr ⟨set, found, rfl, rfl⟩⟩

theorem checkItems_of_validateItems {check : Value → Document → Act σ (Option Value × Document)}
    {checked : Option Value → Except StoreError (Option Value)}
    (h : ∀ {item data stored data'} {s s' : Session σ},
      (check item data).run s = (.ok (stored, data'), s') → checked (some item) = .ok stored) :
    ∀ {items results : List Value} {data data' : Document} {s s' : Session σ},
      (validateItems check items data).run s = (.ok (results, data'), s') →
      items.mapM (checkItem checked) = .ok results
  | [], results, data, data', s, s', hrun => by
    cases hrun
    rfl
  | item :: items, results, data, data', s, s', hrun => by
    rw [validateItems] at hrun
    obtain ⟨⟨stored, data₁⟩, s₁, hitem, hrun⟩ := ActOn.bind_eq_ok hrun
    obtain ⟨⟨rest, data₂⟩, s₂, hitems, hrun⟩ := ActOn.bind_eq_ok hrun
    cases hrun
    rw [List.mapM_cons, checkItem, h hitem, checkItems_of_validateItems h hitems]
    rfl

/-- **What validation stores is what the check gives**, whatever the setters do to the data. -/
theorem check_of_validate {field : Field σ} {value stored : Option Value} {data data' : Document}
    {s s' : Session σ} (h : (field.validate value data).run s = (.ok (stored, data'), s')) :
    field.check value = .ok stored := by
  induction field generalizing value stored data data' s s' with
  | scalar path kind options =>
    rw [validate_eq_check rfl] at h
    rcases hcheck : (scalar path kind options).check value with e | result
    · rw [hcheck] at h
      cases h
    · rw [hcheck] at h
      cases h
      rfl
  | array path options child ih =>
    rw [validate] at h
    obtain ⟨found, s₁, hfound, h⟩ := ActOn.bind_eq_ok h
    rw [Act.run_ofExcept, Prod.mk.injEq] at hfound
    obtain ⟨hfound, rfl⟩ := hfound
    rw [check, hfound]
    rcases found with _ | found
    · cases h
      rfl
    · cases found with
      | array items =>
        obtain ⟨⟨checked, data₁⟩, s₂, hitems, h⟩ := ActOn.bind_eq_ok h
        cases h
        have hchecked := checkItems_of_validateItems ih hitems
        dsimp only [bind, Except.bind]
        rw [hchecked]
      | _ => cases h
  | virtual path getter setter =>
    obtain ⟨rfl, -⟩ := validate_virtual_eq_ok h
    rfl

/-! ## What becomes of the data -/

/-- Whether the setters of a field, or of its elements, keep a property of the data. -/
def SettersKeep (P : Document → Prop) : Field σ → Prop
  | .scalar _ _ _ => True
  | .array _ _ child => child.SettersKeep P
  | .virtual _ _ setter =>
    ∀ set, setter = some set → ∀ value data host, P data → P ((set value data).run host).1

theorem settersKeep_of_hasSetter {field : Field σ} (h : field.hasSetter = false)
    (P : Document → Prop) : field.SettersKeep P := by
  induction field with
  | scalar path kind options => trivial
  | array path options child ih => exact ih h
  | virtual path getter setter =>
    rintro set rfl
    cases h

theorem validateItems_keeps {P : Document → Prop}
    {check : Value → Document → Act σ (Option Value × Document)}
    (h : ∀ {item data stored data'} {s s' : Session σ},
      (check item data).run s = (.ok (stored, data'), s') → P data → P data') :
    ∀ {items results : List Value} {data data' : Document} {s s' : Session σ},
      (validateItems check items data).run s = (.ok (results, data'), s') → P data → P data'
  | [], results, data, data', s, s', hrun, hP => by
    cases hrun
    exact hP
  | item :: items, results, data, data', s, s', hrun, hP => by
    rw [validateItems] at hrun
    obtain ⟨⟨stored, data₁⟩, s₁, hitem, hrun⟩ := ActOn.bind_eq_ok hrun
    obtain ⟨⟨rest, data₂⟩, s₂, hitems, hrun⟩ := ActOn.bind_eq_ok hrun
    cases hrun
    exact validateItems_keeps h hitems (h hitem hP)

/-- **What the setters of a field keep of the data, validation keeps.** -/
theorem validate_keeps {P : Document → Prop} {field : Field σ} (hkeep : field.SettersKeep P)
    {value stored : Option Value} {data data' : Document} {s s' : Session σ}
    (h : (field.validate value data).run s = (.ok (stored, data'), s')) (hP : P data) :
    P data' := by
  induction field generalizing value stored data data' s s' with
  | scalar path kind options =>
    rw [validate_eq_check rfl] at h
    rcases hcheck : (scalar path kind options).check value with e | result
    · rw [hcheck] at h
      cases h
    · rw [hcheck] at h
      cases h
      exact hP
  | array path options child ih =>
    rw [validate] at h
    obtain ⟨found, s₁, -, h⟩ := ActOn.bind_eq_ok h
    rcases found with _ | found
    · cases h
      exact hP
    · cases found with
      | array items =>
        obtain ⟨⟨checked, data₁⟩, s₂, hitems, h⟩ := ActOn.bind_eq_ok h
        cases h
        exact validateItems_keeps (ih hkeep) hitems hP
      | _ => cases h
  | virtual path getter setter =>
    obtain ⟨-, rfl | ⟨set, found, rfl, rfl⟩⟩ := validate_virtual_eq_ok h
    · exact hP
    · exact hkeep set rfl found data s.host hP

/-- Where nothing is stored, the data stays, unless the path is virtual. -/
theorem data_of_validate_eq_none {field : Field σ} (hkind : field.kind ≠ .virtual)
    {value : Option Value} {data data' : Document} {s s' : Session σ}
    (h : (field.validate value data).run s = (.ok (none, data'), s')) : data' = data := by
  cases field with
  | scalar path kind options =>
    exact validate_keeps (settersKeep_of_hasSetter rfl fun other => other = data) h rfl
  | array path options child =>
    rw [validate] at h
    obtain ⟨found, s₁, -, h⟩ := ActOn.bind_eq_ok h
    rcases found with _ | found
    · cases h
      rfl
    · cases found with
      | array items =>
        obtain ⟨⟨checked, data₁⟩, s₂, -, h⟩ := ActOn.bind_eq_ok h
        cases h
      | _ => cases h
  | virtual path getter setter => exact absurd rfl hkind

/-! ## Values that are stored already -/

/-- A missing value that need not be there calls no setter. -/
theorem validate_of_absent {field : Field σ} {value : Option Value} (habsent : present value = none)
    (h : field.check value = .ok none) (data : Document) (s : Session σ) :
    (field.validate value data).run s = (.ok (none, data), s) := by
  cases field with
  | scalar path kind options =>
    rw [validate_eq_check rfl, h]
    rfl
  | array path options child =>
    have hrequire : options.require path value = .ok none := by
      rw [FieldOptions.require, habsent]
      rw [check, FieldOptions.require, habsent] at h
      cases hrequired : options.required with
      | false => rfl
      | true =>
        rw [hrequired] at h
        cases h
    rw [validate, hrequire]
    rfl
  | virtual path getter setter =>
    cases setter with
    | none => rfl
    | some set =>
      simp only [validate, habsent]
      rfl

/-- Items that are stored already pass one after another. -/
theorem run_validateItems_of_stored {check : Value → Document → Act σ (Option Value × Document)}
    {data : Document} {s : Session σ} :
    ∀ {items : List Value},
      (∀ item ∈ items, ∃ stored : Option Value, stored.getD .null = item ∧
        (check item data).run s = (.ok (stored, data), s)) →
      (validateItems check items data).run s = (.ok (items, data), s)
  | [], _ => rfl
  | item :: items, h => by
    obtain ⟨stored, hstored, hrun⟩ := h item List.mem_cons_self
    have hrest := run_validateItems_of_stored fun item hmem => h item (List.mem_cons_of_mem _ hmem)
    rw [validateItems, ActOn.run_bind_of_ok hrun]
    dsimp only
    rw [ActOn.run_bind_of_ok hrest, hstored]
    rfl

/-- **What the check of a field gives back as it is, validation gives back as it is**, and it calls
no setter. -/
theorem validate_of_check {field : Field σ} {value : Value}
    (h : field.check (some value) = .ok (some value)) (data : Document) (s : Session σ) :
    (field.validate (some value) data).run s = (.ok (some value, data), s) := by
  induction field generalizing value with
  | scalar path kind options =>
    rw [validate_eq_check rfl, h]
    rfl
  | array path options child ih =>
    obtain ⟨items, checked, hitems, hchecked, rfl⟩ := check_array_eq_some.mp h
    obtain ⟨hsame, -⟩ := eq_some_of_present hitems
    obtain rfl : checked = items := by simpa using hsame
    have hrun :
        (validateItems (fun item data => child.validate (some item) data) checked data).run s
          = (.ok (checked, data), s) := by
      refine run_validateItems_of_stored fun item hmem => ?_
      have hself := mapM_eq_ok_self_iff.mp hchecked item hmem
      rw [checkItem] at hself
      rcases hchild : child.check (some item) with e | _ | stored
      · rw [hchild] at hself
        cases hself
      · rw [hchild] at hself
        cases hself
        exact ⟨none, rfl, validate_of_absent (present_some_of_absent rfl) hchild data s⟩
      · rw [hchild] at hself
        cases hself
        exact ⟨some stored, rfl, ih hchild⟩
    rw [validate, FieldOptions.require, hitems]
    exact ActOn.run_bind_of_ok hrun
  | virtual path getter setter => cases h

end Field

end DocStore
