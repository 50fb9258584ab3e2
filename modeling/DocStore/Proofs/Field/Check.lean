import DocStore.Field.Validate
import DocStore.Proofs.Action
import Mathlib.Data.List.Forall2
/-!
# Checks without setters

A field without setters neither reads nor changes the session and the data that is being validated:
`Field.validate` is then `Field.check`, a function of the value alone (`validate_eq_check`).

What a check lets through it lets through again, as it is: `check_stored` for a value that is stored
and `check_missing` for one that is not.
-/

namespace DocStore

/-! ## Absence -/

theorem present_some_of_absent {value : Value} (h : value.isAbsentValue = true) :
    present (some value) = none := if_pos h

theorem present_some_of_present {value : Value} (h : value.isAbsentValue = false) :
    present (some value) = some value := by
  rw [present, isAbsent, h]
  rfl

theorem eq_some_of_present {value : Option Value} {found : Value} (h : present value = some found) :
    value = some found ∧ found.isAbsentValue = false := by
  unfold present at h
  split at h
  · cases h
  · next habsent =>
    subst h
    exact ⟨rfl, Bool.eq_false_iff.mpr habsent⟩

theorem present_idem {value : Option Value} {found : Value} (h : present value = some found) :
    present (some found) = some found := by
  obtain ⟨rfl, -⟩ := eq_some_of_present h
  exact h

/-! ## Lists of steps -/

/-- A list of steps succeeds when each of them does, and gives their results in order. -/
theorem mapM_eq_ok_iff {ε α β : Type} {f : α → Except ε β} :
    ∀ {as : List α} {bs : List β},
      as.mapM f = .ok bs ↔ List.Forall₂ (fun a b => f a = .ok b) as bs
  | [], bs => by
    constructor
    · rintro ⟨⟩
      exact .nil
    · rintro ⟨⟩
      rfl
  | a :: as, bs => by
    rw [List.mapM_cons, List.forall₂_cons_left_iff]
    constructor
    · intro h
      rcases hhead : f a with e | b
      · rw [hhead] at h
        cases h
      · rcases htail : as.mapM f with e | cs
        · rw [hhead, htail] at h
          cases h
        · rw [hhead, htail] at h
          cases h
          exact ⟨b, cs, rfl, mapM_eq_ok_iff.mp htail, rfl⟩
    · rintro ⟨b, cs, hhead, htail, rfl⟩
      rw [hhead, mapM_eq_ok_iff.mpr htail]
      rfl

/-- Every result of a list of steps is the result of one of them. -/
theorem exists_of_mem_mapM {ε α β : Type} {f : α → Except ε β} {as : List α} {bs : List β}
    (h : as.mapM f = .ok bs) {b : β} (hb : b ∈ bs) : ∃ a ∈ as, f a = .ok b := by
  have hall := mapM_eq_ok_iff.mp h
  clear h
  induction hall with
  | nil => exact absurd hb List.not_mem_nil
  | cons hhead _ ih =>
    rcases List.mem_cons.mp hb with rfl | hb
    · exact ⟨_, List.mem_cons_self, hhead⟩
    · obtain ⟨other, hother, hfound⟩ := ih hb
      exact ⟨other, List.mem_cons_of_mem _ hother, hfound⟩

/-- A list of steps gives the list back when each of them gives its item back. -/
theorem mapM_eq_ok_self_iff {ε α : Type} {f : α → Except ε α} {as : List α} :
    as.mapM f = .ok as ↔ ∀ a ∈ as, f a = .ok a :=
  mapM_eq_ok_iff.trans List.forall₂_same

/-- A list of steps on images gives images of the same items when each of the steps does. -/
theorem mapM_map_eq_ok_iff {ε α β γ : Type} {f : α → β} {g : β → Except ε γ} {h : α → γ}
    {as : List α} : (as.map f).mapM g = .ok (as.map h) ↔ ∀ a ∈ as, g (f a) = .ok (h a) := by
  rw [mapM_eq_ok_iff, List.forall₂_map_left_iff, List.forall₂_map_right_iff, List.forall₂_same]

namespace Field

variable {σ : Type}

/-- Whether the values of a field, or of its elements, go to a setter. -/
def hasSetter : Field σ → Bool
  | .scalar _ _ _ => false
  | .array _ _ child => child.hasSetter
  | .virtual _ _ setter => setter.isSome

/-- The stored form of an item, which is `null` where it is not stored. -/
def checkItem (check : Option Value → Except StoreError (Option Value)) (item : Value) :
    Except StoreError Value :=
  (check (some item)).map fun stored => stored.getD .null

/-- The stored form of the value of a path, or why it is refused, where no setter is called. -/
def check : Field σ → Option Value → Except StoreError (Option Value)
  | .scalar path kind options, value => do
    match ← options.require path value with
    | none => .ok none
    | some value =>
      match checkScalar kind options value with
      | .ok value => .ok (some value)
      | .error fault => .error (.validation path fault)
  | .array path options child, value => do
    match ← options.require path value with
    | none => .ok none
    | some (.array items) =>
      let items ← items.mapM (checkItem (check child))
      .ok (some (.array items))
    | some other => .error (.validation path (.notArray other))
  | .virtual _ _ _, _ => .ok none

/-! ## Validation is a check -/

theorem run_validateItems {check : Value → Document → Act σ (Option Value × Document)}
    {stored : Option Value → Except StoreError (Option Value)} {data : Document} {s : Session σ}
    (h : ∀ item, (check item data).run s = ((stored (some item)).map (·, data), s)) :
    ∀ items, (validateItems check items data).run s =
      ((items.mapM (checkItem stored)).map (·, data), s)
  | [] => rfl
  | item :: items => by
    rw [validateItems, ActOn.run_bind, h item, List.mapM_cons, checkItem]
    rcases stored (some item) with e | value
    · rfl
    · dsimp only [Except.map]
      rw [ActOn.run_bind, run_validateItems h items]
      rcases items.mapM (checkItem stored) with e | values
      · rfl
      · rfl

/-- **Without a setter, validation is a check of the value alone.** -/
theorem validate_eq_check {field : Field σ} (h : field.hasSetter = false) (value : Option Value)
    (data : Document) (s : Session σ) :
    (field.validate value data).run s = ((field.check value).map (·, data), s) := by
  induction field generalizing value with
  | scalar path kind options =>
    rw [validate, check, ActOn.run_bind, Act.run_ofExcept]
    rcases options.require path value with e | _ | found
    · rfl
    · rfl
    · dsimp only [bind, Except.bind]
      rcases checkScalar kind options found with fault | stored
      · rfl
      · rfl
  | array path options child ih =>
    rw [validate, check, ActOn.run_bind, Act.run_ofExcept]
    rcases options.require path value with e | _ | found
    · rfl
    · rfl
    · cases found with
      | array items =>
        have hitems := run_validateItems (fun item => ih h (some item)) items
        dsimp only [bind, Except.bind]
        rcases hmap : items.mapM (checkItem child.check) with e | stored
        · rw [hmap] at hitems
          exact ActOn.run_bind_of_error hitems
        · rw [hmap] at hitems
          exact ActOn.run_bind_of_ok hitems
      | _ => rfl
  | virtual path getter setter =>
    cases setter with
    | none => rfl
    | some set => cases h

/-! ## Checking again -/

theorem ofValue?_toValue (n : Number) : Number.ofValue? n.toValue = some n := by
  cases n <;> rfl

theorem checkNumber_idem {value stored : Value} (h : checkNumber value = .ok stored) :
    checkNumber stored = .ok stored := by
  unfold checkNumber at h
  split at h
  · cases h
  · next number hnan hvalue =>
    cases h
    rw [checkNumber, ofValue?_toValue]
    split
    · next heq =>
      rw [Option.some.injEq] at heq
      exact absurd heq hnan
    · next heq =>
      rw [Option.some.injEq] at heq
      rw [heq]
    · next heq => cases heq
  · cases h

theorem checkInteger_idem {value stored : Value} (h : checkInteger value = .ok stored) :
    checkInteger stored = .ok stored := by
  unfold checkInteger at h
  split at h
  · cases h
  · split at h
    · cases h
      rfl
    · cases h
  · next number hnan hfloat hvalue =>
    cases h
    cases number with
    | int n => rfl
    | float x => exact absurd rfl (hfloat x)
  · cases h

/-- What a check of a single value gives passes the check as it is. -/
theorem checkScalar_idem {kind : ScalarKind} {options : FieldOptions σ} {value stored : Value}
    (h : checkScalar kind options value = .ok stored) :
    checkScalar kind options stored = .ok stored := by
  cases kind with
  | number => exact checkNumber_idem h
  | integer => exact checkInteger_idem h
  | enum =>
    unfold checkScalar at h ⊢
    dsimp only at h ⊢
    split at h
    · next hmem =>
      cases h
      rw [if_pos hmem]
    · cases h
  | cuid =>
    unfold checkScalar at h ⊢
    cases value with
    | string text =>
      dsimp only at h
      split at h
      · next hid =>
        cases h
        exact if_pos hid
      · cases h
    | _ => cases h
  | mixed | object => cases h; rfl
  | string | boolean | date | buffer =>
    unfold checkScalar at h
    dsimp only at h
    split at h
    · cases h
      rfl
    · cases h

/-- What a check of a present value gives is present. -/
theorem present_of_checkScalar {kind : ScalarKind} {options : FieldOptions σ} {found stored : Value}
    (hfound : present (some found) = some found) (h : checkScalar kind options found = .ok stored) :
    present (some stored) = some stored := by
  have hnumber : ∀ n : Number, present (some n.toValue) = some n.toValue := fun n => by
    cases n <;> rfl
  cases kind with
  | number =>
    simp only [checkScalar, checkNumber] at h
    split at h
    · cases h
    · cases h
      exact hnumber _
    · cases h
  | integer =>
    simp only [checkScalar, checkInteger] at h
    split at h
    · cases h
    · split at h
      · cases h
        rfl
      · cases h
    · cases h
      exact hnumber _
    · cases h
  | enum =>
    simp only [checkScalar] at h
    split at h
    · cases h
      exact hfound
    · cases h
  | cuid =>
    simp only [checkScalar] at h
    split at h
    · split at h
      · cases h
        exact hfound
      · cases h
    · cases h
  | mixed | object =>
    cases h
    exact hfound
  | string | boolean | date | buffer =>
    simp only [checkScalar] at h
    split at h
    · cases h
      rfl
    · cases h

/-! ## What a check gives -/

theorem check_scalar_eq_some {path : String} {kind : ScalarKind} {options : FieldOptions σ}
    {value : Option Value} {stored : Value} :
    (scalar path kind options).check value = .ok (some stored) ↔
      ∃ found, present value = some found ∧ checkScalar kind options found = .ok stored := by
  rw [check, FieldOptions.require]
  rcases present value with _ | found
  · cases options.required <;> simp [bind, Except.bind]
  · dsimp only [bind, Except.bind]
    constructor
    · intro h
      refine ⟨found, rfl, ?_⟩
      rcases hscalar : checkScalar kind options found with fault | result
      · rw [hscalar] at h
        cases h
      · rw [hscalar] at h
        cases h
        rfl
    · rintro ⟨_, ⟨⟩, hscalar⟩
      rw [hscalar]

theorem check_array_eq_some {path : String} {options : FieldOptions σ} {child : Field σ}
    {value : Option Value} {stored : Value} :
    (array path options child).check value = .ok (some stored) ↔
      ∃ items checked, present value = some (.array items) ∧
        items.mapM (checkItem child.check) = .ok checked ∧ stored = .array checked := by
  rw [check, FieldOptions.require]
  rcases present value with _ | found
  · cases options.required <;> simp [bind, Except.bind]
  · constructor
    · intro h
      cases found with
      | array items =>
        dsimp only [bind, Except.bind] at h
        rcases hitems : items.mapM (checkItem child.check) with e | checked
        · rw [hitems] at h
          cases h
        · rw [hitems] at h
          cases h
          exact ⟨items, checked, rfl, hitems, rfl⟩
      | _ => cases h
    · rintro ⟨items, checked, ⟨⟩, hitems, rfl⟩
      dsimp only [bind, Except.bind]
      rw [hitems]

theorem present_of_check_eq_none {field : Field σ} {value : Option Value}
    (h : field.check value = .ok none) : field.kind = .virtual ∨ present value = none := by
  cases field with
  | scalar path kind options =>
    right
    rw [check, FieldOptions.require] at h
    rcases hfound : present value with _ | found
    · rfl
    · rw [hfound] at h
      dsimp only [bind, Except.bind] at h
      split at h <;> cases h
  | array path options child =>
    right
    rw [check, FieldOptions.require] at h
    rcases hfound : present value with _ | found
    · rfl
    · rw [hfound] at h
      cases found with
      | array items =>
        dsimp only [bind, Except.bind] at h
        split at h <;> cases h
      | _ => cases h
  | virtual path getter setter => exact .inl rfl

theorem exists_of_kind_virtual {field : Field σ} (h : field.kind = .virtual) :
    ∃ path getter setter, field = .virtual path getter setter := by
  cases field with
  | virtual path getter setter => exact ⟨path, getter, setter, rfl⟩
  | scalar path kind options => cases kind <;> cases h
  | array path options child => cases h

/-- Absent values are checked alike. -/
theorem check_of_absent {value : Option Value} (h : present value = none) (field : Field σ) :
    field.check value = field.check none := by
  cases field with
  | scalar path kind options =>
    rw [check, check, FieldOptions.require, FieldOptions.require, h]
    rfl
  | array path options child =>
    rw [check, check, FieldOptions.require, FieldOptions.require, h]
    rfl
  | virtual path getter setter => rfl

/-! ## Checking again -/

/-- **Where nothing is stored, nothing is stored of a missing value.** -/
theorem check_missing {field : Field σ} {value : Option Value}
    (h : field.check value = .ok none) : field.check none = .ok none := by
  rcases present_of_check_eq_none h with hvirtual | habsent
  · obtain ⟨path, getter, setter, rfl⟩ := exists_of_kind_virtual hvirtual
    rfl
  · rw [← check_of_absent habsent]
    exact h

/-- **What is stored passes the check as it is.** -/
theorem check_stored {field : Field σ} {value : Option Value} {stored : Value}
    (h : field.check value = .ok (some stored)) :
    field.check (some stored) = .ok (some stored) := by
  induction field generalizing value stored with
  | scalar path kind options =>
    obtain ⟨found, hfound, hscalar⟩ := check_scalar_eq_some.mp h
    exact check_scalar_eq_some.mpr
      ⟨stored, present_of_checkScalar (present_idem hfound) hscalar, checkScalar_idem hscalar⟩
  | array path options child ih =>
    obtain ⟨items, checked, -, hitems, rfl⟩ := check_array_eq_some.mp h
    refine check_array_eq_some.mpr ⟨checked, checked, rfl, ?_, rfl⟩
    refine mapM_eq_ok_self_iff.mpr fun result hresult => ?_
    obtain ⟨item, -, hitem⟩ := exists_of_mem_mapM hitems hresult
    rw [checkItem] at hitem
    rcases hchild : child.check (some item) with e | _ | value
    · rw [hchild] at hitem
      cases hitem
    · rw [hchild] at hitem
      cases hitem
      dsimp only [Option.getD_none]
      rw [checkItem, check_of_absent (present_some_of_absent rfl), check_missing hchild]
      rfl
    · rw [hchild] at hitem
      cases hitem
      dsimp only [Option.getD_some]
      rw [checkItem, ih hchild]
      rfl
  | virtual path getter setter => cases h

end Field

end DocStore
