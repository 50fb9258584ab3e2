import DocStore.Proofs.Update.Removal
import DocStore.Proofs.Value.Equality
/-!
# Lists as sets

`$addToSet` appends the values of its argument that the list does not hold yet, each looked up in
the list as it has grown so far, and `$pull` removes what equals a value of its argument. Both go by
loose equality, which is reflexive where no NaN stands; so whatever was added once is found again,
by a second insertion and by a removal (`Field.addToSet_inserts_and_pull_removes`).

An absent list takes values in, but there is nothing to pull from it and it stays absent
(`Field.exists_pull_of_nothing`).
-/

namespace DocStore

variable {σ : Type}

namespace Field

/-! ### Inserting the values that are missing -/

theorem memOf_eq_true_iff {items : List Value} {value : Value} :
    Value.memOf items value = true ↔ ∃ item ∈ items, Value.looseEq item value = true :=
  List.any_eq_true

theorem memOf_eq_false_iff {items : List Value} {value : Value} :
    Value.memOf items value = false ↔ ∀ item ∈ items, Value.looseEq item value = false := by
  rw [Value.memOf, List.any_eq_false]
  simp only [Bool.not_eq_true]

/-- `added` are values that were appended to a list one by one, each because nothing in the list so
far was equal to it. -/
def AppendedAsMissing (items added : List Value) : Prop :=
  ∀ before value after, added = before ++ value :: after →
    ∀ item ∈ items ++ before, Value.looseEq item value = false

theorem AppendedAsMissing.nil (items : List Value) : AppendedAsMissing items [] := by
  intro before value after h
  cases before <;> cases h

theorem AppendedAsMissing.cons {items added : List Value} {value : Value}
    (hvalue : ∀ item ∈ items, Value.looseEq item value = false)
    (h : AppendedAsMissing (items ++ [value]) added) :
    AppendedAsMissing items (value :: added) := by
  intro before other after hsplit
  cases before with
  | nil =>
    cases hsplit
    rwa [List.append_nil]
  | cons first before =>
    obtain ⟨rfl, htail⟩ := List.cons.inj hsplit
    have hothers := h before other after htail
    rwa [List.append_assoc] at hothers

/-- Insertion appends some of the values, in their order. -/
theorem exists_addMissing (items values : List Value) :
    ∃ added, addMissing items values = items ++ added ∧ added.Sublist values ∧
      AppendedAsMissing items added := by
  induction values generalizing items with
  | nil => exact ⟨[], (List.append_nil items).symm, .slnil, .nil items⟩
  | cons value values ih =>
    cases hmem : Value.memOf items value with
    | true =>
      obtain ⟨added, hadded, hsublist, hmissing⟩ := ih items
      refine ⟨added, ?_, hsublist.cons value, hmissing⟩
      rw [addMissing, hmem, if_pos rfl, hadded]
    | false =>
      obtain ⟨added, hadded, hsublist, hmissing⟩ := ih (items ++ [value])
      refine ⟨value :: added, ?_, hsublist.cons_cons value,
        hmissing.cons (memOf_eq_false_iff.mp hmem)⟩
      rw [addMissing, hmem, if_neg Bool.false_ne_true, hadded, List.append_assoc,
        List.singleton_append]

/-- Nothing is inserted where nothing is missing. -/
theorem addMissing_of_forall_memOf {items values : List Value}
    (h : ∀ value ∈ values, Value.memOf items value = true) : addMissing items values = items := by
  induction values with
  | nil => rfl
  | cons value values ih =>
    rw [addMissing, if_pos (h value List.mem_cons_self)]
    exact ih fun other hother => h other (List.mem_cons_of_mem _ hother)

/-- What is held stays held. -/
theorem memOf_addMissing_of_memOf {items : List Value} {value : Value}
    (h : Value.memOf items value = true) (values : List Value) :
    Value.memOf (addMissing items values) value = true := by
  obtain ⟨added, hadded, -⟩ := exists_addMissing items values
  obtain ⟨item, hitem, hequal⟩ := memOf_eq_true_iff.mp h
  rw [hadded]
  exact memOf_eq_true_iff.mpr ⟨item, List.mem_append_left added hitem, hequal⟩

/-- After an insertion each value is held that equals itself. -/
theorem memOf_addMissing {items values : List Value}
    (hrefl : ∀ value ∈ values, Value.looseEq value value = true) :
    ∀ value ∈ values, Value.memOf (addMissing items values) value = true := by
  induction values generalizing items with
  | nil => rintro value ⟨⟩
  | cons first values ih =>
    rintro value (_ | ⟨_, hvalue⟩)
    · rw [addMissing]
      apply memOf_addMissing_of_memOf
      split
      · assumption
      · exact memOf_eq_true_iff.mpr ⟨first, by simp, hrefl first List.mem_cons_self⟩
    · exact ih (fun other hother => hrefl other (List.mem_cons_of_mem _ hother)) value hvalue

/-! ### Removing values -/

/-- The items that no value equals. -/
def unequalTo (values items : List Value) : List Value :=
  items.filter fun item => values.all fun value => !Value.looseEq value item

theorem filter_not_memOf (values items : List Value) :
    (items.filter fun item => !Value.memOf values item) = unequalTo values items := by
  simp only [unequalTo, Value.memOf, List.not_any_eq_all_not]

theorem unequalTo_idem (values items : List Value) :
    unequalTo values (unequalTo values items) = unequalTo values items := by
  rw [unequalTo, unequalTo, List.filter_filter]
  simp only [Bool.and_self]

/-- Of values that equal themselves none is left. -/
theorem unequalTo_append {items added values : List Value}
    (hrefl : ∀ value ∈ values, Value.looseEq value value = true) (hadded : added ⊆ values) :
    unequalTo values (items ++ added) = unequalTo values items := by
  have hnone : unequalTo values added = [] := by
    rw [unequalTo, List.filter_eq_nil_iff]
    intro item hitem hall
    have hdiffers := List.all_eq_true.mp hall item (hadded hitem)
    rw [hrefl item (hadded hitem)] at hdiffers
    cases hdiffers
  rw [unequalTo, List.filter_append, ← unequalTo, ← unequalTo, hnone, List.append_nil]

/-! ### The operators -/

/-- Whether a value is a list of these items, or absent and there are none. -/
def HoldsItems (value : Option Value) (items : List Value) : Prop :=
  value = some (.array items) ∨ isAbsent value = true ∧ items = []

theorem asArray?_of_isAbsent {value : Option Value} (h : isAbsent value = true) :
    value.bind Value.asArray? = none := by
  cases value with
  | none => rfl
  | some value => cases value <;> first | rfl | cases h

theorem looseEq_self_of_mem_argumentList {argument : Value} (hkeys : argument.DistinctKeys)
    (hnan : argument.NaNFree) :
    ∀ value ∈ argument.argumentList, Value.looseEq value value = true := by
  intro value hvalue
  cases argument with
  | array values =>
    exact Value.looseEq_refl ((Value.throughout_array.mp hkeys).2 value hvalue)
      ((Value.throughout_array.mp hnan).2 value hvalue)
  | _ =>
    obtain rfl := List.mem_singleton.mp hvalue
    exact Value.looseEq_refl hkeys hnan

section

variable {field : Field σ} (hlist : field.kind = .array) (argument : Value) (data : Document)

include hlist

theorem update_addToSet {value : Option Value} {items : List Value} (h : HoldsItems value items) :
    field.update .addToSet value argument data =
      .ok (some (.array (addMissing items argument.argumentList)), data) := by
  rw [update_of_list hlist, updateList]
  rcases h with rfl | ⟨habsent, rfl⟩
  · rfl
  · rw [asArray?_of_isAbsent habsent]
    rfl

theorem update_pull_list (items : List Value) :
    field.update .pull (some (.array items)) argument data =
      .ok (some (.array (unequalTo argument.argumentList items)), data) := by
  rw [update_of_list hlist, ← filter_not_memOf]
  rfl

theorem update_pull_of_isAbsent {value : Option Value} (h : isAbsent value = true) :
    field.update .pull value argument data = .ok (none, data) := by
  rw [update_of_list hlist, updateList, asArray?_of_isAbsent h]
  rfl

end

/-- **`$addToSet` inserts into a set and `$pull` removes from it.** For a list or nothing and every
argument without a NaN: insertion keeps the list and appends values of the argument in their order,
none that equals something before it; then every value of the argument is held, and a second
insertion changes nothing. Removal from a list keeps the items that no value of the argument equals;
a second removal changes nothing, and after an insertion of the argument the same items are kept.
From nothing there is nothing to remove, and it stays nothing. -/
theorem addToSet_inserts_and_pull_removes {field : Field σ} (hlist : field.kind = .array)
    {value : Option Value} {items : List Value} (hitems : HoldsItems value items) {argument : Value}
    (hkeys : argument.DistinctKeys) (hnan : argument.NaNFree) (data : Document) :
    ∃ added kept,
      field.update .addToSet value argument data = .ok (some (.array (items ++ added)), data) ∧
      added.Sublist argument.argumentList ∧ AppendedAsMissing items added ∧
      (∀ x ∈ argument.argumentList, ∃ item ∈ items ++ added, Value.looseEq item x = true) ∧
      field.update .addToSet (some (.array (items ++ added))) argument data =
        .ok (some (.array (items ++ added)), data) ∧
      kept = unequalTo argument.argumentList items ∧
      field.update .pull (some (.array items)) argument data = .ok (some (.array kept), data) ∧
      field.update .pull (some (.array kept)) argument data = .ok (some (.array kept), data) ∧
      field.update .pull (some (.array (items ++ added))) argument data =
        .ok (some (.array kept), data) ∧
      (isAbsent value = true → field.update .pull value argument data = .ok (none, data)) := by
  have hrefl := looseEq_self_of_mem_argumentList hkeys hnan
  have hheld := @memOf_addMissing items _ hrefl
  obtain ⟨added, hadded, hsublist, hmissing⟩ := exists_addMissing items argument.argumentList
  rw [hadded] at hheld
  refine ⟨added, _, ?_, hsublist, hmissing, fun x hx => memOf_eq_true_iff.mp (hheld x hx), ?_, rfl,
    update_pull_list hlist argument data items, ?_, ?_, update_pull_of_isAbsent hlist argument data⟩
  · rw [update_addToSet hlist argument data hitems, hadded]
  · rw [update_addToSet hlist argument data (.inl rfl), addMissing_of_forall_memOf hheld]
  · rw [update_pull_list hlist, unequalTo_idem]
  · rw [update_pull_list hlist, unequalTo_append hrefl hsublist.subset]

/-- An argument with two equal values, of which the list holds one. -/
theorem addToSet_inserts_and_pull_removes_tags :
    let argument := Value.array [.double (Double.ofInt 1), .string "a", .string "a"]
    argument.DistinctKeys ∧ argument.NaNFree ∧ ∃ added,
      tagsField.update .addToSet (some (.array [.int64 1])) argument [] =
        .ok (some (.array ([.int64 1] ++ added)), []) ∧
      tagsField.update .pull (some (.array ([.int64 1] ++ added))) argument [] =
        .ok (some (.array []), []) := by
  intro argument
  have hkeys : argument.DistinctKeys := by
    simp (disch := decide) [Value.DistinctKeys, Value.throughout_array,
      Value.throughout_of_isScalar, argument]
  have hnan : argument.NaNFree := by
    simp (disch := decide) [Value.NaNFree, Value.throughout_array, Value.throughout_of_isScalar,
      Double.ofInt_ne_nan, argument]
  obtain ⟨added, kept, hadd, -, -, -, -, hkept, -, -, hpull, -⟩ :=
    @addToSet_inserts_and_pull_removes Unit tagsField rfl (some (.array [.int64 1])) [.int64 1]
      (.inl rfl) argument hkeys hnan []
  have hnothing : kept = [] := hkept.trans (by decide +kernel)
  rw [hnothing] at hpull
  exact ⟨hkeys, hnan, added, hadd, hpull⟩

/-- Pulling from nothing leaves nothing, while pulling a value that was added to nothing leaves a
list. -/
theorem exists_pull_of_nothing :
    ∃ argument list : Value, argument.DistinctKeys ∧ argument.NaNFree ∧
      tagsField.update .addToSet none argument [] = .ok (some list, []) ∧
      tagsField.update .pull (some list) argument [] = .ok (some (.array []), []) ∧
      tagsField.update .pull none argument [] = .ok (none, []) := by
  have hkeys : (Value.string "a").DistinctKeys := by
    simp (disch := decide) [Value.DistinctKeys, Value.throughout_of_isScalar]
  have hnan : (Value.string "a").NaNFree := by
    simp (disch := decide) [Value.NaNFree, Value.throughout_of_isScalar]
  exact ⟨.string "a", .array [.string "a"], hkeys, hnan, rfl, rfl, rfl⟩

end Field

end DocStore
