import DocStore.Field.Query
import DocStore.Proofs.Field.RoundTrip
import DocStore.Proofs.Schema.Setter
import DocStore.Proofs.Update.Membership
/-!
# Equal lists and their members

Equality through a list field compares the items of two lists through the field of the items, which
takes the text of a date or of bytes for what it denotes. Membership is loose equality, which does
not. The two differ in the forms that they compare and in nothing else: where two lists are equal
through the field, an item asked for is held if it has the form of the item at its place
(`Field.looseEq_of_accepts`), and a stored list with generic bytes holds no others
(`Field.alike_of_accepts`). That decides `$all`, `$in` and `$nin` (`Field.members_of_equal_lists`).
-/

namespace DocStore

variable {σ : Type}

/-! ## Forms -/

/-- The forms of values that loose equality tells apart: numbers have one, and bytes one for each
subtype. -/
inductive Form where
  | null
  | undefined
  | minKey
  | maxKey
  | bool
  | number
  | string
  | list
  | document
  | date
  | bytes (subtype : UInt8)
  | objectId
  deriving DecidableEq

namespace Value

def form : Value → Form
  | .null => .null
  | .undefined => .undefined
  | .minKey => .minKey
  | .maxKey => .maxKey
  | .bool _ => .bool
  | .int32 _ | .int64 _ | .double _ => .number
  | .string _ => .string
  | .array _ => .list
  | .document _ => .document
  | .dateTime _ => .date
  | .binary subtype _ => .bytes subtype
  | .objectId _ => .objectId

/-- Whether values have one form, lists item by item and documents key by key. -/
def alike (a b : Value) : Bool := eqBy (fun a b => decide (a.form = b.form)) a b

theorem form_of_ofValue? {value : Value} {number : Number}
    (h : Number.ofValue? value = some number) :
    value.form = .number := by
  cases value <;> cases h <;> rfl

theorem form_eq_of_scalarLooseEq {a b : Value} (h : scalarLooseEq a b = true) :
    a.form = b.form := by
  unfold scalarLooseEq at h
  split at h
  · next hx hy => rw [form_of_ofValue? hx, form_of_ofValue? hy]
  · unfold scalarEq at h
    split at h <;> try rfl
    · next s _ t _ =>
      simp only [Bool.and_eq_true, beq_iff_eq] at h
      rw [form, form, h.1]
    · cases h

section Wider

variable {scalar wider : Value → Value → Bool}

mutual

/-- A wider test of scalars makes more values equal. -/
theorem eqBy_mono (hwider : ∀ a b, scalar a b = true → wider a b = true) :
    ∀ {a b : Value}, eqBy scalar a b = true → eqBy wider a b = true
  | .array xs, b, h => by
    cases b with
    | array ys =>
      rw [eqBy, Bool.and_eq_true] at h ⊢
      exact ⟨h.1, eqItems_mono hwider h.2⟩
    | _ => exact hwider _ _ h
  | .document xs, b, h => by
    cases b with
    | document ys =>
      rw [eqBy, Bool.and_eq_true] at h ⊢
      exact ⟨h.1, eqEntries_mono hwider h.2⟩
    | _ => exact hwider _ _ h
  | .null, _, h | .undefined, _, h | .minKey, _, h | .maxKey, _, h | .bool _, _, h | .int32 _, _, h
  | .int64 _, _, h | .double _, _, h | .string _, _, h | .dateTime _, _, h | .binary _ _, _, h
  | .objectId _, _, h => hwider _ _ h

theorem eqItems_mono (hwider : ∀ a b, scalar a b = true → wider a b = true) :
    ∀ {xs ys : List Value}, eqItems scalar xs ys = true → eqItems wider xs ys = true
  | x :: xs, y :: ys, h => by
    rw [eqItems, Bool.and_eq_true] at h ⊢
    exact ⟨eqBy_mono hwider h.1, eqItems_mono hwider h.2⟩
  | [], _, _ => by simp [eqItems]
  | _ :: _, [], _ => by simp [eqItems]

theorem eqEntries_mono (hwider : ∀ a b, scalar a b = true → wider a b = true) :
    ∀ {xs : List (String × Value)} {ys : Document}, eqEntries scalar xs ys = true →
      eqEntries wider xs ys = true
  | [], _, _ => rfl
  | (key, x) :: xs, ys, h => by
    rw [eqEntries, Bool.and_eq_true] at h ⊢
    refine ⟨?_, eqEntries_mono hwider h.2⟩
    rcases hfound : OrderedMap.get? ys key with _ | y
    · simp [hfound] at h
    · simp only [hfound] at h ⊢
      exact eqBy_mono hwider h.1

end

end Wider

/-- Values that are loosely equal have one form. -/
theorem alike_of_looseEq {a b : Value} (h : looseEq a b = true) : alike a b = true :=
  eqBy_mono (fun _ _ h => decide_eq_true (form_eq_of_scalarLooseEq h)) h

theorem form_eq_of_alike {a b : Value} (h : alike a b = true) : a.form = b.form := by
  cases a <;> cases b <;> first | rfl | exact of_decide_eq_true h

theorem eqBy_array_iff (scalar : Value → Value → Bool) (xs ys : List Value) :
    eqBy scalar (.array xs) (.array ys) = true ↔
      List.Forall₂ (fun x y => eqBy scalar x y = true) xs ys := by
  induction xs generalizing ys with
  | nil => cases ys <;> simp [eqBy, eqItems]
  | cons x xs ih =>
    cases ys with
    | nil => simp [eqBy]
    | cons y ys =>
      rw [List.forall₂_cons, ← ih ys, eqBy, eqBy, eqItems]
      simp only [List.length_cons, Bool.and_eq_true, beq_iff_eq, Nat.add_right_cancel_iff]
      exact and_left_comm

theorem alike_array_iff (xs ys : List Value) : alike (.array xs) (.array ys) = true ↔
    List.Forall₂ (fun x y => alike x y = true) xs ys :=
  eqBy_array_iff _ xs ys

end Value

/-! ## Equality through a field -/

/-- What two relations to the same items say together. -/
theorem forall₂_of_common {α β γ : Type} {R : α → γ → Prop} {S : β → γ → Prop} {T : α → γ → Prop}
    {as : List α} {bs : List β} {cs : List γ} (hR : List.Forall₂ R as cs)
    (hS : List.Forall₂ S bs cs) (h : ∀ a ∈ as, ∀ b ∈ bs, ∀ c, R a c → S b c → T a c) :
    List.Forall₂ T as cs := by
  induction hR generalizing bs with
  | nil => exact .nil
  | @cons a c as cs hac _ ih =>
    cases hS with
    | @cons b _ bs _ hbc hS =>
      refine .cons (h a List.mem_cons_self b List.mem_cons_self c hac hbc) (ih hS ?_)
      exact fun a ha b hb => h a (List.mem_cons_of_mem _ ha) b (List.mem_cons_of_mem _ hb)

/-- Where absence meets absence, only the same absence is loosely equal. -/
theorem looseEq_of_equalOrAbsent {value query : Value} (h : equalOrAbsent (some value) query = true)
    (halike : value.alike query = true) : value.looseEq query = true := by
  cases hvalue : value.isAbsentValue with
  | false =>
    rw [equalOrAbsent, present_some_of_present hvalue] at h
    exact h
  | true =>
    have hform := Value.form_eq_of_alike halike
    rw [equalOrAbsent, present_some_of_absent hvalue] at h
    cases value <;> cases hvalue
    · cases query <;> cases h
      · rfl
      · cases hform
    · cases query <;> cases h
      · cases hform
      · rfl

namespace Field

theorem acceptsLists_iff (item : Value → Value → Bool) (xs ys : List Value) :
    acceptsLists item xs ys = true ↔ List.Forall₂ (fun x y => item x y = true) xs ys := by
  induction xs generalizing ys with
  | nil => cases ys <;> simp [acceptsLists]
  | cons x xs ih => cases ys <;> simp [acceptsLists, ih]

theorem accepts_array_iff (path : String) (options : FieldOptions σ) (child : Field σ)
    (items asked : List Value) :
    (array path options child).accepts (some (.array items)) (.array asked) = true ↔
      List.Forall₂ (fun item x => child.accepts (some item) x = true) items asked := by
  rw [accepts]
  exact acceptsLists_iff _ items asked

/-- **Values of one form are equal through a field only if they are loosely equal.** -/
theorem looseEq_of_accepts {field : Field σ} {value query : Value}
    (h : field.accepts (some value) query = true) (halike : value.alike query = true) :
    value.looseEq query = true := by
  induction field generalizing value query with
  | scalar path kind options =>
    have hform := Value.form_eq_of_alike halike
    cases kind with
    | date =>
      simp only [accepts, acceptsDate] at h
      split at h
      · next at₁ at₂ hvalue hquery =>
        cases value <;> cases hvalue
        cases query <;> cases hform
        cases hquery
        exact h
      · exact looseEq_of_equalOrAbsent h halike
    | buffer =>
      simp only [accepts, acceptsBuffer] at h
      split at h
      · next hvalue =>
        cases hvalue
        cases hform
        simpa [Value.looseEq, Value.eqBy, Value.scalarLooseEq, Number.ofValue?,
          Value.scalarEq] using h
      · next hvalue =>
        cases hvalue
        cases hform
      · exact looseEq_of_equalOrAbsent h halike
    | _ => exact looseEq_of_equalOrAbsent h halike
  | array path options child ih =>
    simp only [accepts] at h
    split at h
    · next items asked hvalue =>
      cases hvalue
      refine (Value.eqBy_array_iff _ items asked).mpr ?_
      have hitems := (acceptsLists_iff _ items asked).mp h
      have hforms := (Value.alike_array_iff items asked).mp halike
      refine List.forall₂_iff_zip.mpr ⟨hitems.length_eq, fun hpair => ?_⟩
      exact ih (List.forall₂_zip hitems hpair) (List.forall₂_zip hforms hpair)
    · exact looseEq_of_equalOrAbsent h halike
  | virtual path getter setter => exact looseEq_of_equalOrAbsent h halike

/-! ## What a stored list holds -/

/-- An item of a stored list is null, or the check of its field gives it back. -/
theorem eq_null_or_check_of_checkItem {field : Field σ} {item : Value}
    (h : checkItem field.check item = .ok item) :
    item = .null ∨ field.check (some item) = .ok (some item) := by
  rw [checkItem] at h
  rcases hcheck : field.check (some item) with e | _ | stored
  · rw [hcheck] at h
    cases h
  · rw [hcheck] at h
    cases h
    exact .inl rfl
  · rw [hcheck] at h
    cases h
    exact .inr rfl

theorem eq_null_or_checkScalar {path : String} {kind : ScalarKind} {options : FieldOptions σ}
    {item : Value} (h : checkItem (scalar path kind options).check item = .ok item) :
    item = .null ∨ checkScalar kind options item = .ok item := by
  refine (eq_null_or_check_of_checkItem h).imp_right fun hcheck => ?_
  obtain ⟨found, hfound, hscalar⟩ := check_scalar_eq_some.mp hcheck
  obtain ⟨⟨⟩, -⟩ := eq_some_of_present hfound
  exact hscalar

theorem ne_undefined_of_checkItem {field : Field σ} {item : Value}
    (h : checkItem field.check item = .ok item) : item ≠ .undefined := by
  rintro rfl
  rcases eq_null_or_check_of_checkItem h with hnull | hcheck
  · cases hnull
  · cases present_of_check_eq_some hcheck

/-- What something stored is loosely equal to has the form of what it is equal to, where absence
meets absence. -/
theorem alike_of_equalOrAbsent {value other query : Value} (hvalue : value ≠ .undefined)
    (hother : other ≠ .undefined) (h : equalOrAbsent (some value) query = true)
    (hequal : other.looseEq query = true) : value.alike query = true := by
  cases habsent : value.isAbsentValue with
  | false =>
    rw [equalOrAbsent, present_some_of_present habsent] at h
    exact Value.alike_of_looseEq h
  | true =>
    rw [equalOrAbsent, present_some_of_absent habsent] at h
    have hform := Value.form_eq_of_alike (Value.alike_of_looseEq hequal)
    cases value <;> cases habsent
    · cases query <;> cases h
      · rfl
      · cases other <;> cases hform
        exact absurd rfl hother
    · exact absurd rfl hvalue

theorem checkItem_of_check_array {path : String} {options : FieldOptions σ} {child : Field σ}
    {items : List Value}
    (h : (array path options child).check (some (.array items)) = .ok (some (.array items))) :
    ∀ item ∈ items, checkItem child.check item = .ok item := by
  obtain ⟨found, checked, hfound, hitems, hchecked⟩ := check_array_eq_some.mp h
  cases hfound
  cases hchecked
  exact mapM_eq_ok_self_iff.mp hitems

/-- **Of two stored values with generic bytes, if a query equals one through their field and is
loosely equal to the other, it has the form of the first.** -/
theorem alike_of_accepts {field : Field σ} {value other query : Value}
    (hvalue : checkItem field.check value = .ok value)
    (hother : checkItem field.check other = .ok other) (hgeneric : value.GenericBytes)
    (hgeneric' : other.GenericBytes) (h : field.accepts (some value) query = true)
    (hequal : other.looseEq query = true) : value.alike query = true := by
  have hdefined := ne_undefined_of_checkItem hvalue
  have hdefined' := ne_undefined_of_checkItem hother
  have hform := Value.form_eq_of_alike (Value.alike_of_looseEq hequal)
  induction field generalizing value other query with
  | scalar path kind options =>
    cases kind with
    | date =>
      simp only [accepts, acceptsDate] at h
      split at h
      · next at₁ at₂ hdate hquery =>
        cases value <;> cases hdate
        rcases eq_null_or_checkScalar hother with rfl | hcheck
        · cases query <;> cases hform
          cases hquery
        · cases other <;> cases hcheck
          cases query <;> cases hform
          rfl
      · exact alike_of_equalOrAbsent hdefined hdefined' h hequal
    | buffer =>
      simp only [accepts, acceptsBuffer] at h
      split at h
      · next subtype content subtype' content' hbytes =>
        cases hbytes
        rcases eq_null_or_checkScalar hother with rfl | hcheck
        · cases hform
        · cases other <;> cases hcheck
          cases hform
          cases hgeneric _ _ .self
          cases hgeneric' _ _ .self
          rfl
      · next hbytes =>
        rcases eq_null_or_checkScalar hother with rfl | hcheck
        · cases hform
        · cases other <;> cases hcheck
          cases hform
      · exact alike_of_equalOrAbsent hdefined hdefined' h hequal
    | _ => exact alike_of_equalOrAbsent hdefined hdefined' h hequal
  | array path options child ih =>
    simp only [accepts] at h
    split at h
    · next items asked hlist =>
      cases hlist
      rcases eq_null_or_check_of_checkItem hvalue with hnull | hitems
      · cases hnull
      rcases eq_null_or_check_of_checkItem hother with rfl | hothers
      · cases hform
      cases other <;> cases hform
      refine (Value.alike_array_iff items asked).mpr (forall₂_of_common
        ((acceptsLists_iff _ items asked).mp h) ((Value.eqBy_array_iff _ _ asked).mp hequal) ?_)
      intro item hitem held hheld x haccepts hequal
      have hstored := checkItem_of_check_array hitems item hitem
      have hstored' := checkItem_of_check_array hothers held hheld
      exact ih hstored hstored' (hgeneric.item hitem) (hgeneric'.item hheld) haccepts hequal
        (ne_undefined_of_checkItem hstored) (ne_undefined_of_checkItem hstored')
        (Value.form_eq_of_alike (Value.alike_of_looseEq hequal))
    · exact alike_of_equalOrAbsent hdefined hdefined' h hequal
  | virtual path getter setter => exact alike_of_equalOrAbsent hdefined hdefined' h hequal

/-! ## Operators -/

section Operators

variable {field : Field σ} (hlist : field.kind = .array) (items asked : List Value)

include hlist

theorem query_of_list (operator : QueryOperator) (value : Option Value) (argument : Value) :
    field.query operator value argument = field.queryList operator value argument := by
  rw [query, hlist]

theorem query_all_iff : field.query .all (some (.array items)) (.array asked) = true ↔
    ∀ x ∈ asked, Value.memOf items x = true := by
  rw [query_of_list hlist]
  exact List.all_eq_true

theorem query_oneOf_iff : field.query .oneOf (some (.array items)) (.array asked) = true ↔
    ∃ x ∈ asked, Value.memOf items x = true := by
  rw [query_of_list hlist]
  exact List.any_eq_true

theorem query_noneOf_list : field.query .noneOf (some (.array items)) (.array asked) =
    !field.query .oneOf (some (.array items)) (.array asked) := by
  rw [query_of_list hlist, query_of_list hlist]
  rfl

theorem query_length_list : field.query .length (some (.array items))
    (.int64 (Int64.ofInt items.length)) = true := by
  rw [query_of_list hlist]
  exact Number.equals_refl Number.noConfusion

end Operators

theorem exists_mem_zip {items asked : List Value}
    (hlength : items.length = asked.length) {x : Value} (hx : x ∈ asked) :
    ∃ item, (item, x) ∈ items.zip asked := by
  rw [← List.map_snd_zip (Nat.le_of_eq hlength.symm)] at hx
  obtain ⟨⟨item, _⟩, hpair, rfl⟩ := List.mem_map.mp hx
  exact ⟨item, hpair⟩

section Pairs

variable {child : Field σ} {items asked : List Value} {pair : Value × Value}

/-- What is asked for in the form of the item at its place is held. -/
theorem memOf_of_alike
    (heach : List.Forall₂ (fun item x => child.accepts (some item) x = true) items asked)
    (hpair : pair ∈ items.zip asked) (halike : pair.1.alike pair.2 = true) :
    Value.memOf items pair.2 = true := by
  have hequal := looseEq_of_accepts (List.forall₂_zip heach hpair) halike
  exact memOf_eq_true_iff.mpr ⟨pair.1, (List.of_mem_zip hpair).1, hequal⟩

/-- What a stored list holds, be it at another place, has the form of the item at its place. -/
theorem alike_of_memOf (hitems : ∀ item ∈ items, checkItem child.check item = .ok item)
    (hgeneric : (Value.array items).GenericBytes)
    (heach : List.Forall₂ (fun item x => child.accepts (some item) x = true) items asked)
    (hpair : pair ∈ items.zip asked) (hmem : Value.memOf items pair.2 = true) :
    pair.1.alike pair.2 = true := by
  obtain ⟨other, hother, hequal⟩ := memOf_eq_true_iff.mp hmem
  have hitem := (List.of_mem_zip hpair).1
  exact alike_of_accepts (hitems _ hitem) (hitems _ hother) (hgeneric.item hitem)
    (hgeneric.item hother) (List.forall₂_zip heach hpair) hequal

end Pairs

/-- **Lists that are equal through their field have one length, and the items asked for are held as
far as they have the forms of those at their places.** If all have, `$all` accepts; if some has,
`$in` accepts and `$nin` does not. A stored list whose bytes are generic is accepted by `$all` and
`$in` in no other case. -/
theorem members_of_equal_lists {field : Field σ} (hlist : field.kind = .array)
    {given : Option Value} {items asked : List Value} {data left : Document} {s s' : Session σ}
    (hstored : (field.validate given data).run s = (.ok (some (.array items), left), s'))
    (haccepts : field.accepts (some (.array items)) (.array asked) = true) :
    let ask := fun operator => field.query operator (some (.array items)) (.array asked)
    field.query .length (some (.array items)) (.int64 (Int64.ofInt asked.length)) = true ∧
      ((∀ pair ∈ items.zip asked, pair.1.alike pair.2 = true) → ask .all = true) ∧
      ((∃ pair ∈ items.zip asked, pair.1.alike pair.2 = true) →
        ask .oneOf = true ∧ ask .noneOf = false) ∧
      ((Value.array items).GenericBytes →
        (ask .all = true → ∀ pair ∈ items.zip asked, pair.1.alike pair.2 = true) ∧
        (ask .oneOf = true ∨ ask .noneOf = false →
          ∃ pair ∈ items.zip asked, pair.1.alike pair.2 = true)) := by
  intro ask
  have hall : ask .all = true ↔ _ := query_all_iff hlist items asked
  have hone : ask .oneOf = true ↔ _ := query_oneOf_iff hlist items asked
  have hnone : ask .noneOf = false ↔ ask .oneOf = true := by
    rw [show ask .noneOf = !ask .oneOf from query_noneOf_list hlist items asked, Bool.not_eq_false']
  cases field with
  | array path options child =>
    have hitems := checkItem_of_check_array (check_stored (check_of_validate hstored))
    have heach := (accepts_array_iff path options child items asked).mp haccepts
    rw [hnone, hall, hone, or_self, and_self]
    refine ⟨?_, fun hforms x hx => ?_, ?_, fun hgeneric => ⟨fun hmem pair hpair => ?_, ?_⟩⟩
    · rw [← heach.length_eq]
      exact query_length_list hlist items
    · obtain ⟨item, hpair⟩ := exists_mem_zip heach.length_eq hx
      exact memOf_of_alike heach hpair (hforms _ hpair)
    · rintro ⟨pair, hpair, hform⟩
      exact ⟨pair.2, (List.of_mem_zip hpair).2, memOf_of_alike heach hpair hform⟩
    · exact alike_of_memOf hitems hgeneric heach hpair (hmem _ (List.of_mem_zip hpair).2)
    · rintro ⟨x, hx, hmem⟩
      obtain ⟨item, hpair⟩ := exists_mem_zip heach.length_eq hx
      exact ⟨(item, x), hpair, alike_of_memOf hitems hgeneric heach hpair hmem⟩
  | scalar path kind options => cases kind <;> cases hlist
  | virtual path getter setter => cases hlist

/-! ### A list of dates -/

def datesField : Field Unit := list "dates" .none (some (.scalar "dates" .date .none))

/-- The beginning and the second after it. -/
def storedDates : List Value := [.dateTime 0, .dateTime 1000]

/-- The same dates, the later one by its text. -/
def askedDates : List Value := [.dateTime 0, .string "1970-01-01T00:00:01.000Z"]

theorem accepts_askedDates :
    datesField.accepts (some (.array storedDates)) (.array askedDates) = true := by
  decide +kernel

/-- The date that is asked for as a date is held, the other one is not. -/
theorem members_of_equal_lists_dates :
    datesField.query .length (some (.array storedDates)) (.int64 2) = true ∧
      datesField.query .oneOf (some (.array storedDates)) (.array askedDates) = true ∧
      datesField.query .noneOf (some (.array storedDates)) (.array askedDates) = false ∧
      datesField.query .all (some (.array storedDates)) (.array askedDates) ≠ true := by
  have hgeneric : (Value.array storedDates).GenericBytes := by
    rintro subtype content (_ | ⟨hmem, h⟩)
    rcases List.mem_pair.mp hmem with rfl | rfl <;> cases h
  have hstored : (datesField.validate (some (.array storedDates)) []).run .idle =
    (.ok (some (.array storedDates), []), .idle) := rfl
  obtain ⟨hlength, -, hsome, honly⟩ := members_of_equal_lists rfl hstored accepts_askedDates
  obtain ⟨hone, hnone⟩ := hsome ⟨(.dateTime 0, .dateTime 0), List.mem_cons_self, rfl⟩
  refine ⟨hlength, hone, hnone, fun hall => ?_⟩
  have hlast := (honly hgeneric).1 hall (.dateTime 1000, .string "1970-01-01T00:00:01.000Z")
    (List.mem_cons_of_mem _ List.mem_cons_self)
  cases hlast

/-- A stored list of a date equals the list of its text, and does not hold it. -/
theorem exists_equal_list_without_members :
    ¬ ∀ (field : Field Unit) (items asked : List Value), field.kind = .array →
      (field.validate (some (.array items)) []).run .idle =
        (.ok (some (.array items), []), .idle) →
      asked ≠ [] → (Value.array asked).NaNFree →
      field.accepts (some (.array items)) (.array asked) = true →
      field.query .all (some (.array items)) (.array asked) = true ∧
        field.query .oneOf (some (.array items)) (.array asked) = true ∧
        field.query .length (some (.array items)) (.int64 (Int64.ofInt asked.length)) = true ∧
        field.query .noneOf (some (.array items)) (.array asked) = false := by
  intro hmembers
  have hnan : (Value.array [.string "1970-01-01T00:00:01.000Z"]).NaNFree := by
    simp (disch := decide) [Value.NaNFree, Value.throughout_array, Value.throughout_of_isScalar]
  have haccepts : datesField.accepts (some (.array [.dateTime 1000]))
      (.array [.string "1970-01-01T00:00:01.000Z"]) = true := by
    decide +kernel
  obtain ⟨hall, -⟩ :=
    hmembers datesField [.dateTime 1000] [.string "1970-01-01T00:00:01.000Z"] rfl rfl
      (List.cons_ne_nil _ _) hnan haccepts
  cases hall

end Field

end DocStore
