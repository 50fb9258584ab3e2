import DocStore.Proofs.Schema.Snapshot
/-!
# Virtual paths in the pipelines

What a field makes of a value `Narrows` it: nothing, the value itself, or a leaf in its place. So no
step of the writing, importing and exporting pipelines brings a value to a path that has none,
unless a setter does (`get?_put_of_narrows`).

The pipelines differ in the step of the virtual path itself. Writing and exporting remove it, so
that what passed the checks and what is exported has no value there (`get?_of_applySetters`,
`get?_exportRecord`). Importing leaves what it finds there, so that an imported document has a value
at a virtual path only if its record has one (`get?_of_importRecord`).
-/

namespace DocStore

variable {σ : Type}

/-! ## What fields make of values -/

/-- What a field may make of a value: nothing, the value itself, or a leaf in its place. -/
inductive Narrows (before : Option Value) : Option Value → Prop
  | nothing : Narrows before none
  | same : Narrows before before
  | leaf {value : Value} (hbefore : before ≠ none) (hleaf : value.IsLeaf) :
      Narrows before (some value)

/-- A leaf has nothing below it but the items of a list. -/
theorem Value.descend_of_isLeaf {value : Value} (hleaf : value.IsLeaf) {segment : String}
    {rest : List String} (h : Path.index? segment = none) :
    Value.descend (segment :: rest) value = none := by
  cases value with
  | document entries => cases hleaf
  | array items =>
    rw [Value.descend, h]
    rfl
  | _ => rfl

theorem Number.isLeaf_toValue (number : Number) : number.toValue.IsLeaf := by
  cases number <;> rfl

namespace Narrows

/-- Below a place where nothing was read nothing is read afterwards. -/
theorem descend {before after : Option Value} (h : Narrows before after) {rest : List String}
    (hoff : Path.OffLists rest) (hnone : before.bind (Value.descend rest) = none) :
    after.bind (Value.descend rest) = none := by
  cases h with
  | nothing => rfl
  | same => exact hnone
  | leaf hbefore hleaf =>
    cases rest with
    | nil =>
      obtain ⟨value, rfl⟩ := Option.ne_none_iff_exists'.mp hbefore
      cases hnone
    | cons segment rest =>
      exact Value.descend_of_isLeaf hleaf (hoff segment List.mem_cons_self)

theorem eq_none {after : Option Value} (h : Narrows none after) : after = none := by
  cases h with
  | nothing => rfl
  | same => rfl
  | leaf hbefore => exact absurd rfl hbefore

end Narrows

namespace Field

/-- A check of a single value gives the value or a number. -/
theorem checkScalar_eq_ok {kind : ScalarKind} {options : FieldOptions σ} {value stored : Value}
    (h : checkScalar kind options value = .ok stored) : stored = value ∨ stored.IsLeaf := by
  cases kind with
  | number =>
    simp only [checkScalar, checkNumber] at h
    split at h <;> cases h
    exact .inr (Number.isLeaf_toValue _)
  | integer =>
    obtain ⟨n, rfl⟩ := exists_of_checkInteger h
    exact .inr rfl
  | enum =>
    simp only [checkScalar] at h
    split at h <;> cases h
    exact .inl rfl
  | cuid =>
    cases value with
    | string text =>
      simp only [checkScalar] at h
      split at h <;> cases h
      exact .inl rfl
    | _ => cases h
  | mixed | object =>
    cases h
    exact .inl rfl
  | string | boolean | date | buffer =>
    simp only [checkScalar] at h
    split at h <;> cases h
    exact .inl rfl

theorem check_narrows {field : Field σ} {value stored : Option Value}
    (h : field.check value = .ok stored) : Narrows value stored := by
  rcases stored with _ | stored
  · exact .nothing
  · cases field with
    | scalar path kind options =>
      obtain ⟨found, hfound, hscalar⟩ := check_scalar_eq_some.mp h
      obtain ⟨rfl, -⟩ := eq_some_of_present hfound
      rcases checkScalar_eq_ok hscalar with rfl | hleaf
      · exact .same
      · exact .leaf (Option.some_ne_none found) hleaf
    | array path options child =>
      obtain ⟨items, checked, hitems, -, rfl⟩ := check_array_eq_some.mp h
      obtain ⟨rfl, -⟩ := eq_some_of_present hitems
      exact .leaf (Option.some_ne_none _) rfl
    | virtual path getter setter => cases h

/-- A snapshot form of a single value is read as a leaf or as it is. -/
theorem parseScalar_eq_ok {path : String} {kind : ScalarKind} {options : FieldOptions σ}
    {raw value : Value} (h : parseScalar path kind options raw = .ok value) :
    value = raw ∨ value.IsLeaf := by
  cases kind with
  | boolean =>
    cases h
    exact .inr rfl
  | date =>
    simp only [parseScalar] at h
    split at h <;> cases h
    exact .inr rfl
  | buffer =>
    simp only [parseScalar] at h
    split at h
    · rw [decodeText] at h
      split at h <;> cases h
      exact .inr rfl
    · cases h
      exact .inl rfl
  | _ =>
    cases h
    exact .inl rfl

theorem parsePresent_narrows {path : String} {kind : ScalarKind} {options : FieldOptions σ}
    {raw value : Option Value}
    (h : (match present raw with
      | some found => (parseScalar path kind options found).map some
      | none => .ok none) = .ok value) : Narrows raw value := by
  rcases hfound : present raw with _ | found
  · rw [hfound] at h
    cases h
    exact .nothing
  · rw [hfound] at h
    obtain ⟨rfl, -⟩ := eq_some_of_present hfound
    dsimp only at h
    rcases hparsed : parseScalar path kind options found with e | parsed
    · rw [hparsed] at h
      cases h
    · rw [hparsed] at h
      cases h
      rcases parseScalar_eq_ok hparsed with rfl | hleaf
      · exact .same
      · exact .leaf (Option.some_ne_none found) hleaf

theorem parse_narrows {field : Field σ} {raw value : Option Value}
    (h : field.parse raw = .ok value) : Narrows raw value := by
  cases field with
  | scalar path kind options =>
    cases kind with
    | boolean | date | buffer => exact parsePresent_narrows h
    | _ =>
      cases h
      exact .same
  | array path options child =>
    rw [parse] at h
    split at h
    · next items hitems =>
      obtain ⟨rfl, -⟩ := eq_some_of_present hitems
      rcases hparsed : items.mapM (fun item => do
        let item ← child.parse (some item)
        pure (item.getD .null)) with e | parsed
      · rw [hparsed] at h
        cases h
      · rw [hparsed] at h
        cases h
        exact .leaf (Option.some_ne_none _) rfl
    · cases h
      rcases hfound : present raw with _ | found
      · exact .nothing
      · obtain ⟨rfl, -⟩ := eq_some_of_present hfound
        exact .same
  | virtual path getter setter =>
    cases h
    exact .nothing

/-- The snapshot form of a single value is a leaf or the value. -/
theorem serializeScalar_eq (kind : ScalarKind) (options : FieldOptions σ) (value : Value) :
    serializeScalar kind options value = value ∨ (serializeScalar kind options value).IsLeaf := by
  rcases value.isLeaf_or_document with hleaf | ⟨entries, rfl⟩
  · exact .inr (isLeaf_serializeScalar hleaf)
  · cases kind <;> exact .inl rfl

theorem serialize_narrows (field : Field σ) (value : Option Value) :
    Narrows value (field.serialize value) := by
  cases field with
  | scalar path kind options =>
    have hpresent : Narrows value ((present value).map (serializeScalar kind options)) := by
      rcases hfound : present value with _ | found
      · exact .nothing
      · obtain ⟨rfl, -⟩ := eq_some_of_present hfound
        rw [Option.map_some]
        rcases serializeScalar_eq kind options found with hsame | hleaf
        · rw [hsame]
          exact .same
        · exact .leaf (Option.some_ne_none found) hleaf
    cases kind with
    | boolean | date | buffer => exact hpresent
    | _ => exact .same
  | array path options child =>
    rw [serialize]
    split
    · next items hitems =>
      obtain ⟨rfl, -⟩ := eq_some_of_present hitems
      exact .leaf (Option.some_ne_none _) rfl
    · rcases hfound : present value with _ | found
      · exact .nothing
      · obtain ⟨rfl, -⟩ := eq_some_of_present hfound
        exact .same
  | virtual path getter setter => exact .nothing

end Field

namespace Schema

variable {schema : Schema σ} {target : String}

/-- Whether a path is registered as virtual. -/
def RegistersVirtual (schema : Schema σ) (path : String) : Prop :=
  ∃ field, (path, field) ∈ schema.pipeline ∧ field.kind = .virtual

/-- Whether the setters of a schema bring no values to its virtual paths. -/
def SparesVirtuals (schema : Schema σ) : Prop :=
  ∀ path, schema.RegistersVirtual path → ∀ step ∈ schema.pipeline,
    step.2.SettersKeep fun doc => doc.get? path = none

/-- Whether no virtual path leads to a place in a list. -/
def VirtualsOffLists (schema : Schema σ) : Prop :=
  ∀ path, schema.RegistersVirtual path → Path.OffLists (Path.segments path).tail

/-! ## One step -/

/-- Putting what a field made of the value of a path brings no value to another path. -/
theorem get?_put_of_narrows (hoff : Path.OffLists (Path.segments target).tail)
    {doc doc' : Document} (hnone : doc.get? target = none) (hnone' : doc'.get? target = none)
    {path : String} {value : Option Value} (h : Narrows (doc.get? path) value) :
    (doc'.put path value).get? target = none := by
  cases value with
  | none => exact Document.get?_remove_eq_none hnone'
  | some value =>
    refine Document.get?_set_eq_none hnone' (fun rest hrest => ?_) ?_
    · have hoffRest : Path.OffLists rest := by
        intro segment hmem
        refine hoff segment ?_
        rw [← hrest]
        rcases hsegs : Path.segments path with _ | ⟨key, inner⟩
        · exact absurd hsegs (Path.segments_ne_nil path)
        · exact List.mem_append_right inner hmem
      refine h.descend hoffRest ?_
      rw [← Document.get?_eq_bind hrest]
      exact hnone
    · rintro ⟨rest, hrest⟩
      rw [Document.get?_eq_bind hrest, hnone] at h
      cases h.eq_none

theorem get?_of_writeStep (hoff : Path.OffLists (Path.segments target).tail) {path : String}
    {field : Field σ} (hspares : field.SettersKeep fun doc => doc.get? target = none)
    {doc stored : Document} (hnone : doc.get? target = none) {s s' : Session σ}
    (h : (writeStep path field doc).run s = (.ok stored, s')) : stored.get? target = none := by
  obtain ⟨value, left, hrun, rfl⟩ := writeStep_eq_ok h
  have hnone' : left.get? target = none := Field.validate_keeps hspares hrun hnone
  exact get?_put_of_narrows hoff hnone hnone' (Field.check_narrows (Field.check_of_validate hrun))

/-- The step of a virtual path removes it. -/
theorem get?_of_writeStep_virtual (hoff : Path.OffLists (Path.segments target).tail)
    {field : Field σ} (hvirtual : field.kind = .virtual) {doc stored : Document}
    {s s' : Session σ} (h : (writeStep target field doc).run s = (.ok stored, s')) :
    stored.get? target = none := by
  obtain ⟨path, getter, setter, rfl⟩ := Field.exists_of_kind_virtual hvirtual
  obtain ⟨value, left, hrun, rfl⟩ := writeStep_eq_ok h
  obtain ⟨rfl, -⟩ := Field.validate_virtual_eq_ok hrun
  exact Document.get?_remove_self hoff left

/-! ## Writing -/

/-- Steps bring no value to a path, if no setter of theirs does. -/
theorem get?_of_runSteps (hoff : Path.OffLists (Path.segments target).tail)
    {steps : List (String × Field σ)} {doc stored : Document} {s s' : Session σ}
    (hspares : ∀ step ∈ steps, step.2.SettersKeep fun doc => doc.get? target = none)
    (hnone : doc.get? target = none)
    (h : (runSteps writeStep steps doc).run s = (.ok stored, s')) : stored.get? target = none := by
  induction steps generalizing doc s with
  | nil =>
    cases h
    exact hnone
  | cons step steps ih =>
    rw [runSteps] at h
    obtain ⟨next, t, hstep, hrest⟩ := ActOn.bind_eq_ok h
    have hnext := get?_of_writeStep hoff (hspares step List.mem_cons_self) hnone hstep
    exact ih (fun other hmem => hspares other (List.mem_cons_of_mem step hmem)) hnext hrest

/-- **What passed the checks has no value at a virtual path.** -/
theorem get?_of_applySetters (hspares : schema.SparesVirtuals) (hoff : schema.VirtualsOffLists)
    (hvirtual : schema.RegistersVirtual target) {data stored : Document} {s s' : Session σ}
    (h : (schema.applySetters data).run s = (.ok stored, s')) : stored.get? target = none := by
  have hoffTarget := hoff target hvirtual
  have hsparesTarget := hspares target hvirtual
  obtain ⟨field, hmem, hkind⟩ := hvirtual
  obtain ⟨before, later, hsplit⟩ := List.append_of_mem hmem
  rw [applySetters, hsplit, runSteps_append] at h
  obtain ⟨reached, t, -, h⟩ := ActOn.bind_eq_ok h
  rw [runSteps] at h
  obtain ⟨removed, t', hown, hrest⟩ := ActOn.bind_eq_ok h
  have hsparesLater : ∀ step ∈ later, step.2.SettersKeep fun doc => doc.get? target = none :=
    fun step hstep => hsparesTarget step
      (hsplit ▸ List.mem_append_right before (List.mem_cons_of_mem _ hstep))
  exact get?_of_runSteps hoffTarget hsparesLater (get?_of_writeStep_virtual hoffTarget hkind hown)
    hrest

/-! ## Importing and exporting -/

theorem get?_of_importStep (hoff : Path.OffLists (Path.segments target).tail) {path : String}
    {field : Field σ} {doc doc' : Document} (hnone : doc.get? target = none)
    (h : importStep path field doc = .ok doc') : doc'.get? target = none := by
  rw [importStep] at h
  rcases hparse : field.parse (doc.get? path) with e | _ | value
  · rw [hparse] at h
    cases h
  · rw [hparse] at h
    cases h
    exact hnone
  · rw [hparse] at h
    cases h
    show (doc.put path (some value)).get? target = none
    exact get?_put_of_narrows hoff hnone hnone (Field.parse_narrows hparse)

/-- **Importing brings no value to a virtual path that has none in the record.** -/
theorem get?_of_importRecord (hoff : schema.VirtualsOffLists)
    (hvirtual : schema.RegistersVirtual target) {record doc : Document}
    (hnone : record.get? target = none) (h : schema.importRecord record = .ok doc) :
    doc.get? target = none := by
  have hoffTarget := hoff target hvirtual
  rw [importRecord] at h
  generalize schema.pipeline = steps at h
  induction steps generalizing record with
  | nil =>
    cases h
    exact hnone
  | cons step steps ih =>
    rw [List.foldlM_cons] at h
    rcases hstep : importStep step.1 step.2 record with e | next
    · rw [hstep] at h
      cases h
    · rw [hstep] at h
      exact ih (get?_of_importStep hoffTarget hnone hstep) h

theorem get?_foldl_exportStep (hoff : Path.OffLists (Path.segments target).tail)
    (steps : List (String × Field σ)) {doc : Document} (hnone : doc.get? target = none) :
    (steps.foldl (fun doc step => exportStep step.1 step.2 doc) doc).get? target = none := by
  induction steps generalizing doc with
  | nil => exact hnone
  | cons step steps ih =>
    exact ih (get?_put_of_narrows hoff hnone hnone (step.2.serialize_narrows (doc.get? step.1)))

/-- **An exported record has no value at a virtual path.** -/
theorem get?_exportRecord (hoff : schema.VirtualsOffLists)
    (hvirtual : schema.RegistersVirtual target) (doc : Document) :
    (schema.exportRecord doc).get? target = none := by
  have hoffTarget := hoff target hvirtual
  obtain ⟨field, hmem, hkind⟩ := hvirtual
  obtain ⟨before, later, hsplit⟩ := List.append_of_mem hmem
  rw [exportRecord, hsplit, List.foldl_append, List.foldl_cons]
  obtain ⟨path, getter, setter, rfl⟩ := Field.exists_of_kind_virtual hkind
  exact get?_foldl_exportStep hoffTarget later (Document.get?_remove_self hoffTarget _)

end Schema

end DocStore
