import DocStore.Proofs.Field.Snapshot
import DocStore.Proofs.Schema.Settled
/-!
# Documents through snapshots

The exporting and the importing pipeline change a document leaf by leaf: a step changes the leaf at
its path and nothing else (`Leafwise`), so a layered pipeline changes every leaf by the step of its
path, if there is one (`Leafwise.foldlM_eq_ok`). Between the two pipelines, JSON changes every leaf
by itself. A document whose leaves all come back is therefore back after a snapshot
(`importRecord_exportRecord`).
-/

namespace DocStore

variable {σ : Type}

namespace Field

/-- Whether a field keeps the form of documents, in the store and in snapshots. -/
def KeepsForm (field : Field σ) : Prop :=
  ∃ path kind options, field = .scalar path kind options ∧
    (kind = .mixed ∨ kind = .object ∨ kind = .enum)

/-- Only fields that keep the form store documents. -/
theorem keepsForm_of_stores_document {field : Field σ} {entries : List (String × Value)}
    (h : field.Stores (.document entries)) : field.KeepsForm := by
  cases field with
  | scalar path kind options =>
    obtain ⟨found, hfound, hscalar⟩ := check_scalar_eq_some.mp h
    obtain ⟨hvalue, -⟩ := eq_some_of_present hfound
    cases hvalue
    cases kind with
    | mixed => exact ⟨path, .mixed, options, rfl, .inl rfl⟩
    | object => exact ⟨path, .object, options, rfl, .inr (.inl rfl)⟩
    | enum => exact ⟨path, .enum, options, rfl, .inr (.inr rfl)⟩
    | _ => cases hscalar
  | array path options child =>
    obtain ⟨items, checked, -, -, hvalue⟩ := check_array_eq_some.mp h
    cases hvalue
  | virtual path getter setter => cases h

theorem KeepsForm.serialize {field : Field σ} (h : field.KeepsForm) (value : Option Value) :
    field.serialize value = value := by
  obtain ⟨path, kind, options, rfl, rfl | rfl | rfl⟩ := h <;> rfl

theorem KeepsForm.parse {field : Field σ} (h : field.KeepsForm) (value : Option Value) :
    field.parse value = .ok value := by
  obtain ⟨path, kind, options, rfl, rfl | rfl | rfl⟩ := h <;> rfl

theorem IsObject.keepsForm {field : Field σ} (h : field.IsObject) : field.KeepsForm := by
  obtain ⟨path, options, rfl⟩ := h
  exact ⟨path, .object, options, rfl, .inr (.inl rfl)⟩

theorem isLeaf_serializeScalar {kind : ScalarKind} {options : FieldOptions σ} {value : Value}
    (h : value.IsLeaf) : (serializeScalar kind options value).IsLeaf := by
  unfold serializeScalar
  split
  · rfl
  · split
    · rfl
    · exact h
  · rfl
  · exact h

/-- The snapshot form of a stored leaf is a leaf. -/
theorem isLeaf_exported {field : Field σ} {value : Value} (hleaf : value.IsLeaf)
    (h : field.Stores value) : (field.exported value).IsLeaf := by
  cases field with
  | scalar path kind options =>
    obtain ⟨found, hfound, -⟩ := check_scalar_eq_some.mp h
    obtain ⟨hvalue, hpresent⟩ := eq_some_of_present hfound
    cases hvalue
    cases kind with
    | boolean | date | buffer =>
      rw [exported, serialize, present_some_of_present hpresent]
      exact isLeaf_serializeScalar hleaf
    | _ => exact hleaf
  | array path options child =>
    obtain ⟨items, checked, -, -, rfl⟩ := check_array_eq_some.mp h
    rfl
  | virtual path getter setter => cases h

/-- What a field makes of a snapshot form. -/
def imported (field : Field σ) (raw : Value) : Value :=
  match field.parse (some raw) with
  | .ok (some value) => value
  | _ => raw

/-- Whether a snapshot form is the one of a leaf. -/
def Restores (field : Field σ) (raw : Value) : Prop :=
  ∃ value, value.IsLeaf ∧ field.parse (some raw) = .ok (some value)

end Field

namespace Schema

open Value (mapLeavesEntries changeAt leavesEntries KeyedOnce SameAbove)

/-! ## Pipelines that change leaves -/

/-- What a step finds at its path: nothing, also not through a list, or a leaf that it can change,
or a document that it keeps. -/
def Ready (accepts : Field σ → Value → Prop) (path : String) (field : Field σ) (doc : Document) :
    Prop :=
  (doc.removed? path = none ∧ doc.get? path = none) ∨
    ∃ value, doc.removed? path = some value ∧
      (value.IsLeaf ∧ accepts field value ∨
        (∃ entries, value = .document entries) ∧ field.KeepsForm)

/-- Steps that change the leaf at their path, by a function of the leaf, and nothing else. -/
structure Leafwise (act : String → Field σ → Document → Except StoreError Document)
    (change : Field σ → Value → Value) (accepts : Field σ → Value → Prop) : Prop where
  step : ∀ path field doc, KeyedOnce (.document doc) → Ready accepts path field doc →
    act path field doc =
      .ok (mapLeavesEntries (changeAt (Path.segments path) (change field)) doc)
  leaf : ∀ field value, value.IsLeaf → accepts field value → (change field value).IsLeaf
  object : ∀ field value, field.IsObject → change field value = value

/-- Changes a leaf by the steps of its path in turn. -/
def changeAll (change : Field σ → Value → Value) :
    List (String × Field σ) → List String → Value → Value
  | [], _, leaf => leaf
  | step :: steps, path, leaf =>
    changeAll change steps path (changeAt (Path.segments step.1) (change step.2) path leaf)

theorem changeAll_of_forall_ne {change : Field σ → Value → Value} {path : List String} :
    ∀ {steps : List (String × Field σ)}, (∀ step ∈ steps, Path.segments step.1 ≠ path) →
      ∀ leaf, changeAll change steps path leaf = leaf
  | [], _, _ => rfl
  | step :: steps, h, leaf => by
    have hne : path ≠ Path.segments step.1 := (h step List.mem_cons_self).symm
    rw [changeAll, changeAt, if_neg hne]
    exact changeAll_of_forall_ne (fun step hstep => h step (List.mem_cons_of_mem _ hstep)) leaf

/-- In a layered pipeline, the leaf at a path is changed by the one step of the path. -/
theorem changeAll_of_mem {change : Field σ → Value → Value} {step : String × Field σ} :
    ∀ {steps : List (String × Field σ)}, Layered steps → step ∈ steps →
      ∀ leaf, changeAll change steps (Path.segments step.1) leaf = change step.2 leaf
  | first :: steps, hlayered, hstep, leaf => by
    obtain ⟨hhead, htail⟩ := List.pairwise_cons.mp hlayered
    rw [changeAll, changeAt]
    rcases List.mem_cons.mp hstep with rfl | hstep
    · rw [if_pos rfl]
      exact changeAll_of_forall_ne (fun later hlater heq =>
        (hhead later hlater).1 (heq ▸ List.prefix_rfl)) _
    · have hne : Path.segments step.1 ≠ Path.segments first.1 := fun heq =>
        (hhead step hstep).1 (heq ▸ List.prefix_rfl)
      rw [if_neg hne]
      exact changeAll_of_mem htail hstep leaf

/-- What a step finds at its path, after a change of leaves. -/
theorem Ready.mapLeaves {accepts accepts' : Field σ → Value → Prop} {path : String}
    {field : Field σ} {doc : Document} {f : List String → Value → Value}
    (h : Ready accepts path field doc) (hsame : SameAbove f (Path.segments path) doc)
    (hleaf : ∀ value, doc.removed? path = some value → value.IsLeaf → accepts field value →
      (f (Path.segments path) value).IsLeaf ∧ accepts' field (f (Path.segments path) value)) :
    Ready accepts' path field (mapLeavesEntries f doc) := by
  have hsegs := Path.segments_ne_nil path
  have hremoved := Value.removedSegments_mapLeavesEntries hsegs hsame
  rcases h with ⟨hnone, hget⟩ | ⟨value, hvalue, hkind⟩
  · refine .inl ⟨?_, Value.descend_mapLeavesEntries_none hsegs hsame hget⟩
    rw [Document.removed?] at hnone
    rw [Document.removed?, hremoved, hnone, Option.map_none]
  · rw [Document.removed?] at hvalue
    rw [hvalue, Option.map_some] at hremoved
    refine .inr ⟨_, hremoved, ?_⟩
    rcases hkind with ⟨hisLeaf, haccepts⟩ | ⟨⟨entries, rfl⟩, hkeeps⟩
    · rw [Value.mapLeaves_of_isLeaf hisLeaf, List.append_nil]
      exact .inl (hleaf value hvalue hisLeaf haccepts)
    · exact .inr ⟨⟨_, rfl⟩, hkeeps⟩

section Leafwise

variable {act : String → Field σ → Document → Except StoreError Document}
  {change : Field σ → Value → Value} {accepts : Field σ → Value → Prop}

/-- A step leaves the leaves to be leaves. -/
theorem Leafwise.isLeaf_changeAt (h : Leafwise act change accepts) {path : String}
    {field : Field σ} {doc : Document} (hkeyed : KeyedOnce (.document doc))
    (hready : Ready accepts path field doc) :
    ∀ leaf ∈ leavesEntries doc,
      (changeAt (Path.segments path) (change field) leaf.1 leaf.2).IsLeaf := by
  intro leaf hleaf
  have hisLeaf := Value.isLeaf_of_mem_leavesEntries doc hleaf
  unfold changeAt
  split
  · next heq =>
    have hfound : doc.removed? path = some leaf.2 := by
      rw [Document.removed?, ← heq]
      exact Value.removedSegments_of_mem_leaves hkeyed hleaf
    rcases hready with ⟨hnone, -⟩ | ⟨value, hvalue, hkind⟩
    · rw [hnone] at hfound
      cases hfound
    · rw [hvalue] at hfound
      cases hfound
      rcases hkind with ⟨-, haccepts⟩ | ⟨⟨entries, hentries⟩, -⟩
      · exact h.leaf field _ hisLeaf haccepts
      · rw [hentries] at hisLeaf
        cases hisLeaf
  · exact hisLeaf

/-- A step leaves a later one ready: the later path leads through the path of the step only where
that is an object, which the step leaves as it is. -/
theorem Leafwise.ready_later (h : Leafwise act change accepts) {step later : String × Field σ}
    {doc : Document} (hthrough : ¬ Path.segments later.1 <+: Path.segments step.1)
    (hobject : Path.segments step.1 <+: Path.segments later.1 → step.2.IsObject)
    (hready : Ready accepts later.1 later.2 doc) :
    Ready accepts later.1 later.2
      (mapLeavesEntries (changeAt (Path.segments step.1) (change step.2)) doc) := by
  have hne : Path.segments later.1 ≠ Path.segments step.1 := fun heq =>
    hthrough (heq ▸ List.prefix_rfl)
  refine hready.mapLeaves ?_ ?_
  · intro leaf _ hpre _
    unfold changeAt
    split
    · next heq => exact h.object step.2 leaf.2 (hobject (heq ▸ hpre))
    · rfl
  · intro value _ hleaf haccepts
    rw [changeAt, if_neg hne]
    exact ⟨hleaf, haccepts⟩

/-- **A layered pipeline of such steps changes every leaf by the step of its path.** -/
theorem Leafwise.foldlM_eq_ok (h : Leafwise act change accepts) :
    ∀ {steps : List (String × Field σ)} {doc : Document}, Layered steps →
      KeyedOnce (.document doc) → (∀ step ∈ steps, Ready accepts step.1 step.2 doc) →
      steps.foldlM (fun doc step => act step.1 step.2 doc) doc =
          .ok (mapLeavesEntries (changeAll change steps) doc) ∧
        ∀ leaf ∈ leavesEntries doc, (changeAll change steps leaf.1 leaf.2).IsLeaf
  | [], doc, _, _, _ => by
    refine ⟨?_, fun leaf hleaf => Value.isLeaf_of_mem_leavesEntries doc hleaf⟩
    show Except.ok doc = _
    rw [show mapLeavesEntries (changeAll change []) doc = doc from Value.mapLeavesEntries_id doc]
  | step :: steps, doc, hlayered, hkeyed, hready => by
    obtain ⟨hhead, htail⟩ := List.pairwise_cons.mp hlayered
    have hfirst := hready step List.mem_cons_self
    have hleaves := h.isLeaf_changeAt hkeyed hfirst
    have hkeyed' := Value.keyedOnce_mapLeaves (.document doc) hleaves hkeyed
    rw [Value.mapLeaves] at hkeyed'
    have hready' : ∀ later ∈ steps, Ready accepts later.1 later.2
        (mapLeavesEntries (changeAt (Path.segments step.1) (change step.2)) doc) :=
      fun later hlater => h.ready_later (hhead later hlater).1 (hhead later hlater).2
        (hready later (List.mem_cons_of_mem _ hlater))
    obtain ⟨hrest, hlater⟩ := h.foldlM_eq_ok htail hkeyed' hready'
    rw [Value.leavesEntries_mapLeavesEntries doc hleaves] at hlater
    constructor
    · rw [List.foldlM_cons, h.step step.1 step.2 doc hkeyed hfirst]
      show steps.foldlM (fun doc step => act step.1 step.2 doc) _ = _
      rw [hrest, Value.mapLeavesEntries_mapLeavesEntries doc _ hleaves]
      rfl
    · intro leaf hleaf
      exact hlater _ (List.mem_map_of_mem hleaf)

end Leafwise

/-! ## Exporting and importing -/

/-- What a step finds and what changing the leaf at its path is. -/
theorem Ready.cases {accepts : Field σ → Value → Prop} {path : String} {field : Field σ}
    {doc : Document} (h : Ready accepts path field doc) (hkeyed : KeyedOnce (.document doc))
    (change : Value → Value) :
    (doc.get? path = none ∧ doc.remove path = doc ∧
        mapLeavesEntries (changeAt (Path.segments path) change) doc = doc) ∨
      (∃ value, doc.get? path = some value ∧ accepts field value ∧
        mapLeavesEntries (changeAt (Path.segments path) change) doc = doc.set path (change value)) ∨
      (∃ value, doc.get? path = some value ∧ field.KeepsForm ∧ doc.set path value = doc ∧
        mapLeavesEntries (changeAt (Path.segments path) change) doc = doc) := by
  rcases h with ⟨hnone, hget⟩ | ⟨value, hvalue, ⟨hleaf, haccepts⟩ | ⟨⟨entries, rfl⟩, hkeeps⟩⟩
  · refine .inl ⟨hget, Document.removeSegments_of_removedSegments hnone, ?_⟩
    refine Value.mapLeavesEntries_changeAt_of_forall_not_isLeaf change hkeyed fun value hvalue => ?_
    rw [Document.removed?, hvalue] at hnone
    cases hnone
  · exact .inr (.inl ⟨value, Document.descend_of_removedSegments hvalue, haccepts,
      (Value.setSegments_eq_mapLeaves change hkeyed hvalue hleaf).symm⟩)
  · refine .inr (.inr ⟨.document entries, Document.descend_of_removedSegments hvalue, hkeeps,
      Document.setSegments_of_removedSegments hvalue, ?_⟩)
    refine Value.mapLeavesEntries_changeAt_of_forall_not_isLeaf change hkeyed fun value hfound => ?_
    rw [Document.removed?, hfound] at hvalue
    cases hvalue
    rintro ⟨⟩

/-- Exporting changes the leaf of a path to its snapshot form. -/
theorem leafwise_export :
    Leafwise (σ := σ) (fun path field doc => .ok (exportStep path field doc)) Field.exported
      Field.Stores where
  step path field doc hkeyed hready := by
    rcases hready.cases hkeyed field.exported with ⟨hget, hsame, hmap⟩ |
      ⟨value, hget, hstores, hmap⟩ | ⟨value, hget, hkeeps, hsame, hmap⟩
    · rw [hmap, exportStep, hget, Field.serialize_none, Document.put, hsame]
    · rw [hmap, exportStep, hget, Field.serialize_of_stores hstores, Document.put]
    · rw [hmap, exportStep, hget, hkeeps.serialize, Document.put, hsame]
  leaf _ _ := Field.isLeaf_exported
  object field value h := by
    rw [Field.exported, h.keepsForm.serialize, Option.getD_some]

/-- Importing changes the leaf of a path to its stored form. -/
theorem leafwise_import : Leafwise (σ := σ) importStep Field.imported Field.Restores where
  step path field doc hkeyed hready := by
    rcases hready.cases hkeyed field.imported with ⟨hget, -, hmap⟩ |
      ⟨value, hget, ⟨stored, -, hparse⟩, hmap⟩ | ⟨value, hget, hkeeps, hsame, hmap⟩
    · rw [hmap, importStep, hget, Field.parse_none]
      rfl
    · rw [hmap, importStep, hget, Field.imported, hparse]
      rfl
    · rw [hmap, importStep, hget, hkeeps.parse]
      show Except.ok (Document.set doc path value) = _
      rw [hsame]
  leaf field raw _ h := by
    obtain ⟨value, hleaf, hparse⟩ := h
    rw [Field.imported, hparse]
    exact hleaf
  object field value h := by
    rw [Field.imported, h.keepsForm.parse]

/-! ## There and back -/

variable {schema : Schema σ}

/-- Whether a stored document goes through a snapshot: no key is repeated, no declared path leads
through a list, what a declared path holds goes through a snapshot, and JSON has a form of what lies
elsewhere. -/
structure Exportable (schema : Schema σ) (doc : Document) : Prop where
  keyed : KeyedOnce (.document doc)
  direct : ∀ step ∈ schema.pipeline, doc.get? step.1 = doc.removed? step.1
  declared : ∀ step ∈ schema.pipeline, ∀ value, doc.removed? step.1 = some value → value.IsLeaf →
    step.2.Exportable value
  undeclared : ∀ leaf ∈ leavesEntries doc,
    (∀ step ∈ schema.pipeline, Path.segments step.1 ≠ leaf.1) → leaf.2.Native

/-- Whether a document has leaves only at declared paths. -/
def Covers (schema : Schema σ) (doc : Document) : Prop :=
  ∀ leaf ∈ leavesEntries doc, ∃ step ∈ schema.pipeline, Path.segments step.1 = leaf.1

/-- In a covered document nothing is undeclared. -/
theorem Covers.undeclared {doc : Document} (h : schema.Covers doc) :
    ∀ leaf ∈ leavesEntries doc,
      (∀ step ∈ schema.pipeline, Path.segments step.1 ≠ leaf.1) → leaf.2.Native := by
  intro leaf hleaf hundeclared
  obtain ⟨step, hstep, hsegs⟩ := h leaf hleaf
  exact absurd hsegs (hundeclared step hstep)

/-- What a declared path of a settled document holds. -/
theorem ready_of_settled {path : String} {field : Field σ} {doc : Document}
    (h : Settled path field doc) (hdirect : doc.get? path = doc.removed? path) :
    Ready Field.Stores path field doc := by
  rcases h with ⟨value, hvalue, hcheck⟩ | ⟨hnone, -⟩
  · refine .inr ⟨value, hvalue, ?_⟩
    rcases Value.isLeaf_or_document value with hleaf | ⟨entries, rfl⟩
    · exact .inl ⟨hleaf, hcheck⟩
    · exact .inr ⟨⟨entries, rfl⟩, Field.keepsForm_of_stores_document hcheck⟩
  · exact .inl ⟨hnone, hdirect.trans hnone⟩

/-- Only objects are declared above a path of a layered pipeline. -/
theorem Layered.isObject_of_prefix {steps : List (String × Field σ)} (h : Layered steps)
    {above step : String × Field σ} (habove : above ∈ steps) (hstep : step ∈ steps)
    (hpre : Path.segments above.1 <+: Path.segments step.1)
    (hne : Path.segments above.1 ≠ Path.segments step.1) : above.2.IsObject := by
  induction steps with
  | nil => cases hstep
  | cons first steps ih =>
    obtain ⟨hhead, htail⟩ := List.pairwise_cons.mp h
    rcases List.mem_cons.mp habove with rfl | habove'
    · rcases List.mem_cons.mp hstep with rfl | hstep'
      · exact absurd rfl hne
      · exact (hhead step hstep').2 hpre
    · rcases List.mem_cons.mp hstep with rfl | hstep'
      · exact absurd hpre (hhead above habove').1
      · exact ih htail habove' hstep'

/-- A leaf as it stands in a snapshot record, read from JSON. -/
def recorded (schema : Schema σ) (segs : List String) (leaf : Value) : Value :=
  (changeAll Field.exported schema.pipeline segs leaf).throughJson

section Record

variable {doc : Document} (hlayered : Layered schema.pipeline)
  (hsettled : ∀ step ∈ schema.pipeline, Settled step.1 step.2 doc) (h : schema.Exportable doc)

include hlayered hsettled h

/-- A declared leaf is stored, goes through a snapshot and is recorded in its snapshot form. -/
theorem Exportable.declared_leaf {step : String × Field σ} (hstep : step ∈ schema.pipeline)
    {value : Value} (hvalue : doc.removed? step.1 = some value) (hleaf : value.IsLeaf) :
    step.2.Stores value ∧
      schema.recorded (Path.segments step.1) value = (step.2.exported value).throughJson ∧
      step.2.parse (some (schema.recorded (Path.segments step.1) value)) = .ok (some value) := by
  have hstores : step.2.Stores value := by
    rcases hsettled step hstep with ⟨found, hfound, hcheck⟩ | ⟨hnone, -⟩
    · rw [hvalue] at hfound
      cases hfound
      exact hcheck
    · rw [hvalue] at hnone
      cases hnone
  have hrecorded : schema.recorded (Path.segments step.1) value =
      (step.2.exported value).throughJson := by
    rw [recorded, changeAll_of_mem hlayered hstep]
  refine ⟨hstores, hrecorded, ?_⟩
  rw [hrecorded]
  exact Field.parse_exported hstores (h.declared step hstep value hvalue hleaf)

/-- A leaf above a declared path is recorded as it is. -/
theorem Exportable.recorded_above {step : String × Field σ} (hstep : step ∈ schema.pipeline) :
    SameAbove schema.recorded (Path.segments step.1) doc := by
  intro leaf hleaf hpre hne
  by_cases hdeclared : ∃ above ∈ schema.pipeline, Path.segments above.1 = leaf.1
  · obtain ⟨above, habove, hsegs⟩ := hdeclared
    rw [← hsegs] at hpre hne
    have hobject := hlayered.isObject_of_prefix habove hstep hpre hne
    have hvalue : doc.removed? above.1 = some leaf.2 := by
      rw [Document.removed?, hsegs]
      exact Value.removedSegments_of_mem_leaves h.keyed hleaf
    obtain ⟨-, -, hparse⟩ := h.declared_leaf hlayered hsettled habove hvalue
      (Value.isLeaf_of_mem_leavesEntries doc hleaf)
    rw [hobject.keepsForm.parse, hsegs] at hparse
    simpa using hparse
  · have hundeclared : ∀ step ∈ schema.pipeline, Path.segments step.1 ≠ leaf.1 :=
      fun step hstep heq => hdeclared ⟨step, hstep, heq⟩
    rw [recorded, changeAll_of_forall_ne hundeclared]
    exact Value.throughJson_of_native (h.undeclared leaf hleaf hundeclared)

/-- Importing gives every leaf back. -/
theorem Exportable.import_recorded {leaf : List String × Value} (hleaf : leaf ∈ leavesEntries doc) :
    changeAll Field.imported schema.pipeline leaf.1 (schema.recorded leaf.1 leaf.2) = leaf.2 := by
  by_cases hdeclared : ∃ step ∈ schema.pipeline, Path.segments step.1 = leaf.1
  · obtain ⟨step, hstep, hsegs⟩ := hdeclared
    have hvalue : doc.removed? step.1 = some leaf.2 := by
      rw [Document.removed?, hsegs]
      exact Value.removedSegments_of_mem_leaves h.keyed hleaf
    obtain ⟨-, -, hparse⟩ := h.declared_leaf hlayered hsettled hstep hvalue
      (Value.isLeaf_of_mem_leavesEntries doc hleaf)
    rw [← hsegs, changeAll_of_mem hlayered hstep, Field.imported, hparse]
  · have hundeclared : ∀ step ∈ schema.pipeline, Path.segments step.1 ≠ leaf.1 :=
      fun step hstep heq => hdeclared ⟨step, hstep, heq⟩
    rw [changeAll_of_forall_ne hundeclared, recorded, changeAll_of_forall_ne hundeclared]
    exact Value.throughJson_of_native (h.undeclared leaf hleaf hundeclared)

/-- What an exported document is, leaf by leaf. -/
theorem Exportable.exportRecord_eq :
    schema.exportRecord doc = mapLeavesEntries (changeAll Field.exported schema.pipeline) doc ∧
      ∀ leaf ∈ leavesEntries doc,
        (changeAll Field.exported schema.pipeline leaf.1 leaf.2).IsLeaf := by
  obtain ⟨hrun, hleaves⟩ := leafwise_export.foldlM_eq_ok hlayered h.keyed fun step hstep =>
    ready_of_settled (hsettled step hstep) (h.direct step hstep)
  refine ⟨?_, hleaves⟩
  have hpure : schema.pipeline.foldlM
      (fun doc step => Except.ok (exportStep step.1 step.2 doc)) doc =
      (Except.ok (schema.exportRecord doc) : Except StoreError Document) := List.foldlM_pure
  rw [hpure, Except.ok.injEq] at hrun
  exact hrun

/-- **A document comes back from its snapshot record.** -/
theorem importRecord_exportRecord :
    ∃ record, (Value.document (schema.exportRecord doc)).throughJson = .document record ∧
      schema.importRecord record = .ok doc := by
  obtain ⟨hexport, hleaves⟩ := h.exportRecord_eq hlayered hsettled
  have hrecorded : ∀ leaf ∈ leavesEntries doc, (schema.recorded leaf.1 leaf.2).IsLeaf :=
    fun leaf hleaf => Value.isLeaf_throughJson (hleaves leaf hleaf)
  have hkeyed := Value.keyedOnce_mapLeaves (.document doc) hleaves h.keyed
  have hkeyed' := Value.keyedOnce_mapLeaves (.document doc) hrecorded h.keyed
  rw [Value.mapLeaves] at hkeyed hkeyed'
  refine ⟨mapLeavesEntries schema.recorded doc, ?_, ?_⟩
  · rw [hexport, Value.throughJson_eq_mapLeaves _ hkeyed, Value.mapLeaves,
      Value.mapLeavesEntries_mapLeavesEntries doc _ hleaves]
    rfl
  · have hready : ∀ step ∈ schema.pipeline,
        Ready Field.Restores step.1 step.2 (mapLeavesEntries schema.recorded doc) := by
      intro step hstep
      refine (ready_of_settled (hsettled step hstep) (h.direct step hstep)).mapLeaves
        (h.recorded_above hlayered hsettled hstep) fun value hvalue hleaf _ => ?_
      obtain ⟨hstores, hrec, hparse⟩ := h.declared_leaf hlayered hsettled hstep hvalue hleaf
      refine ⟨?_, value, hleaf, hparse⟩
      rw [hrec]
      exact Value.isLeaf_throughJson (Field.isLeaf_exported hleaf hstores)
    obtain ⟨hrun, -⟩ := leafwise_import.foldlM_eq_ok hlayered hkeyed' hready
    rw [importRecord, hrun, Value.mapLeavesEntries_mapLeavesEntries doc _ hrecorded]
    have hback : mapLeavesEntries (fun segs leaf =>
        changeAll Field.imported schema.pipeline segs (schema.recorded segs leaf)) doc =
          mapLeavesEntries (fun _ leaf => leaf) doc :=
      Value.mapLeavesEntries_congr doc fun leaf hleaf => h.import_recorded hlayered hsettled hleaf
    rw [hback, Value.mapLeavesEntries_id]

end Record

end Schema

end DocStore
