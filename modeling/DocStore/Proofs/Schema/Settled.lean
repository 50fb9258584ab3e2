import DocStore.Proofs.Field.Setter
import DocStore.Proofs.Value.Path
import DocStore.Schema.Basic
/-!
# What the checks of a schema leave behind

A path is `Settled` in a document when checking it again would change nothing. A step of the writing
pipeline settles its own path (`settled_of_writeStep`). When the steps are `Layered`, which nested
declarations are, what a step puts at its path also keeps the paths of earlier steps settled
(`Settled.put`): a later path either lies apart from an earlier one or below it, and only objects
have paths below them. Only the setter of a later step can unsettle a path (`settled_or_unsettled`).

So a document that passed the checks of a layered schema without setters has all its paths settled
(`settled_of_applySetters`), and a document with all its paths settled passes the checks as it is
(`applySetters_of_settled`).
-/

namespace DocStore

variable {σ : Type}

/-- Whether a field is an object, which lets any present value through as it is. -/
def Field.IsObject (field : Field σ) : Prop :=
  ∃ path options, field = .scalar path .object options

theorem Field.IsObject.check_document {field : Field σ} (h : field.IsObject) (entries : Document) :
    field.check (some (.document entries)) = .ok (some (.document entries)) := by
  obtain ⟨path, options, rfl⟩ := h
  exact Field.check_scalar_eq_some.mpr ⟨.document entries, rfl, rfl⟩

namespace Schema

/-- No path leads through the path of a later step, or through the path of an earlier step that is
not an object. -/
def Layered (steps : List (String × Field σ)) : Prop :=
  steps.Pairwise fun earlier later =>
    ¬ Path.segments later.1 <+: Path.segments earlier.1 ∧
      (Path.segments earlier.1 <+: Path.segments later.1 → earlier.2.IsObject)

/-- Steps whose paths lie apart are layered. -/
theorem layered_of_apart {steps : List (String × Field σ)}
    (h : (steps.map fun step => Path.segments step.1).Pairwise Path.Apart) : Layered steps := by
  rw [List.pairwise_map] at h
  exact h.imp fun hapart => ⟨hapart.2, fun hpre => absurd hpre hapart.1⟩

/-- Whether no step calls a setter. -/
def SetterFree (steps : List (String × Field σ)) : Prop :=
  ∀ step ∈ steps, step.2.hasSetter = false

/-- Checking the value of a path again gives what is there, or nothing where `remove` takes nothing
away. -/
def Settled (path : String) (field : Field σ) (doc : Document) : Prop :=
  (∃ value, doc.removed? path = some value ∧ field.check (some value) = .ok (some value)) ∨
    (doc.removed? path = none ∧ field.check (doc.get? path) = .ok none)

/-- Without a setter, a step of the pipeline is a check and a change of the document. -/
theorem run_writeStep {field : Field σ} (h : field.hasSetter = false) (path : String)
    (doc : Document) (s : Session σ) :
    (writeStep path field doc).run s = ((field.check (doc.get? path)).map (doc.put path), s) := by
  rw [writeStep, ActOn.run_bind, Field.validate_eq_check h]
  rcases field.check (doc.get? path) with e | stored
  · rfl
  · rfl

/-- What a step does, when it succeeds: its field is validated, and the path is put to what that
gives. -/
theorem writeStep_eq_ok {path : String} {field : Field σ} {doc stored : Document}
    {s s' : Session σ} (h : (writeStep path field doc).run s = (.ok stored, s')) :
    ∃ value left, (field.validate (doc.get? path) doc).run s = (.ok (value, left), s') ∧
      stored = left.put path value := by
  rw [writeStep] at h
  obtain ⟨⟨value, left⟩, t, hrun, hput⟩ := ActOn.bind_eq_ok h
  cases hput
  exact ⟨value, left, hrun, rfl⟩

/-! ## One step -/

/-- A step settles its path. -/
theorem settled_put {path : String} {field : Field σ} {doc : Document} {stored : Option Value}
    (h : field.check (doc.get? path) = .ok stored) : Settled path field (doc.put path stored) := by
  have hsegs := Path.segments_ne_nil path
  cases stored with
  | some value =>
    exact .inl ⟨value, Document.removedSegments_setSegments value doc hsegs, Field.check_stored h⟩
  | none =>
    refine .inr ⟨Document.removedSegments_removeSegments _ doc, ?_⟩
    rcases hremoved : doc.removed? path with _ | value
    · have hsame : doc.remove path = doc := Document.removeSegments_of_removedSegments hremoved
      rw [Document.put, hsame]
      exact h
    · have hgone : (doc.remove path).get? path = none :=
        Document.descend_removeSegments_of_removedSegments hremoved
      rw [Document.put, hgone]
      exact Field.check_missing h

/-- A step settles its path, whatever its setters do to the document. -/
theorem settled_of_writeStep {path : String} {field : Field σ} {doc stored : Document}
    {s s' : Session σ} (h : (writeStep path field doc).run s = (.ok stored, s')) :
    Settled path field stored := by
  obtain ⟨value, left, hrun, rfl⟩ := writeStep_eq_ok h
  have hcheck := Field.check_of_validate hrun
  cases value with
  | some value =>
    exact .inl ⟨value,
      Document.removedSegments_setSegments value left (Path.segments_ne_nil path),
      Field.check_stored hcheck⟩
  | none =>
    by_cases hkind : field.kind = .virtual
    · obtain ⟨own, getter, setter, rfl⟩ := Field.exists_of_kind_virtual hkind
      exact .inr ⟨Document.removedSegments_removeSegments _ left, rfl⟩
    · obtain rfl : left = doc := Field.data_of_validate_eq_none hkind hrun
      exact settled_put hcheck

/-- A step on a settled path gives back the document. -/
theorem Settled.step {path : String} {field : Field σ} {doc : Document}
    (hsettled : Settled path field doc) (h : field.hasSetter = false) (s : Session σ) :
    (writeStep path field doc).run s = (.ok doc, s) := by
  rw [run_writeStep h]
  rcases hsettled with ⟨value, hremoved, hcheck⟩ | ⟨hremoved, hcheck⟩
  · have hget : doc.get? path = some value := Document.descend_of_removedSegments hremoved
    have hsame : doc.set path value = doc := Document.setSegments_of_removedSegments hremoved
    rw [hget, hcheck]
    show (Except.ok (doc.set path value), s) = _
    rw [hsame]
  · have hsame : doc.remove path = doc := Document.removeSegments_of_removedSegments hremoved
    rw [hcheck]
    show (Except.ok (doc.remove path), s) = _
    rw [hsame]

/-! ## A step after others -/

/-- A step below a settled object keeps it settled. -/
theorem Settled.put_below {path path' : String} {field : Field σ} {doc : Document}
    (hsettled : Settled path field doc) (hobject : field.IsObject) {rest : List String}
    (hrest : rest ≠ []) (hbelow : Path.segments path ++ rest = Path.segments path')
    (stored : Option Value) : Settled path field (doc.put path' stored) := by
  rcases Document.put_below_cases hrest hbelow doc stored with ⟨entries, hput⟩ | hput
  · rw [hput]
    exact .inl ⟨.document entries,
      Document.removedSegments_setSegments _ doc (Path.segments_ne_nil path),
      hobject.check_document entries⟩
  · rwa [hput]

/-- A step apart from a settled path keeps it settled. -/
theorem Settled.put_apart {path path' : String} {field : Field σ} {doc : Document}
    (hsettled : Settled path field doc)
    (hapart : Path.Apart (Path.segments path') (Path.segments path)) (stored : Option Value) :
    Settled path field (doc.put path' stored) := by
  have hremoved : (doc.put path' stored).removed? path = doc.removed? path :=
    Document.removed?_put_of_apart hapart stored
  rcases hsettled with ⟨value, hvalue, hcheck⟩ | ⟨hnone, hcheck⟩
  · exact .inl ⟨value, hremoved.trans hvalue, hcheck⟩
  · refine .inr ⟨hremoved.trans hnone, ?_⟩
    rcases Document.get?_put_apart_cases hapart doc stored with hsame | hgone
    · rw [hsame]
      exact hcheck
    · rw [hgone]
      exact Field.check_missing hcheck

/-- **A later step keeps a settled path settled.** -/
theorem Settled.put {path path' : String} {field : Field σ} {doc : Document}
    (hsettled : Settled path field doc) (hthrough : ¬ Path.segments path' <+: Path.segments path)
    (hobject : Path.segments path <+: Path.segments path' → field.IsObject)
    (stored : Option Value) : Settled path field (doc.put path' stored) := by
  by_cases hpre : Path.segments path <+: Path.segments path'
  · obtain ⟨rest, hbelow⟩ := hpre
    have hrest : rest ≠ [] := by
      rintro rfl
      rw [List.append_nil] at hbelow
      exact hthrough (hbelow ▸ List.prefix_rfl)
    exact hsettled.put_below (hobject ⟨rest, hbelow⟩) hrest hbelow stored
  · exact hsettled.put_apart ⟨hthrough, hpre⟩ stored

/-! ## Steps one after another -/

theorem runSteps_append (step : String → Field σ → Document → Act σ Document)
    (steps later : List (String × Field σ)) (doc : Document) :
    runSteps step (steps ++ later) doc = runSteps step steps doc >>= runSteps step later := by
  induction steps generalizing doc with
  | nil => exact (pure_bind doc _).symm
  | cons first steps ih => simp only [List.cons_append, runSteps, ih, bind_assoc]

/-- Whether steps on a document come to one whose setter unsettles a path: the step finds the path
settled, and its setter leaves the path unsettled. -/
def UnsettledBySetter (path : String) (field : Field σ) (steps : List (String × Field σ))
    (doc : Document) (s : Session σ) : Prop :=
  ∃ before step after found t value left t', steps = before ++ step :: after ∧
    step.2.hasSetter = true ∧ (runSteps writeStep before doc).run s = (.ok found, t) ∧
    Settled path field found ∧
    (step.2.validate (found.get? step.1) found).run t = (.ok (value, left), t') ∧
    ¬ Settled path field left

theorem UnsettledBySetter.cons {path : String} {field : Field σ} {step : String × Field σ}
    {steps : List (String × Field σ)} {doc doc' : Document} {s t : Session σ}
    (hstep : (writeStep step.1 step.2 doc).run s = (.ok doc', t))
    (h : UnsettledBySetter path field steps doc' t) :
    UnsettledBySetter path field (step :: steps) doc s := by
  obtain ⟨before, later, after, found, t₁, value, left, t₂, rfl, hsetter, hfound,
    hsettled, hleft⟩ := h
  refine ⟨step :: before, later, after, found, t₁, value, left, t₂, rfl, hsetter, ?_,
    hsettled, hleft⟩
  rw [runSteps, ActOn.run_bind_of_ok hstep]
  exact hfound

theorem not_unsettledBySetter {path : String} {field : Field σ} {steps : List (String × Field σ)}
    (hfree : SetterFree steps) (doc : Document) (s : Session σ) :
    ¬ UnsettledBySetter path field steps doc s := by
  rintro ⟨before, step, after, found, t, value, left, t', rfl, hsetter, -⟩
  rw [hfree step (List.mem_append_right before List.mem_cons_self)] at hsetter
  cases hsetter

/-- Later steps keep a settled path settled, unless a setter among them unsettles it. -/
theorem Settled.steps_or_unsettled {path : String} {field : Field σ} {stored : Document}
    {s' : Session σ} :
    ∀ {steps : List (String × Field σ)} {doc : Document} {s : Session σ},
      (∀ step ∈ steps, ¬ Path.segments step.1 <+: Path.segments path ∧
        (Path.segments path <+: Path.segments step.1 → field.IsObject)) →
      Settled path field doc → (runSteps writeStep steps doc).run s = (.ok stored, s') →
      Settled path field stored ∨ UnsettledBySetter path field steps doc s
  | [], doc, s, _, hsettled, h => by
    cases h
    exact .inl hsettled
  | step :: steps, doc, s, hlater, hsettled, h => by
    rw [runSteps] at h
    obtain ⟨doc', t, hstep, hrest⟩ := ActOn.bind_eq_ok h
    obtain ⟨value, left, hrun, rfl⟩ := writeStep_eq_ok hstep
    by_cases hleft : Settled path field left
    · obtain ⟨hthrough, hobject⟩ := hlater step List.mem_cons_self
      have hlater' := fun other hmem => hlater other (List.mem_cons_of_mem step hmem)
      have hput := hleft.put hthrough hobject value
      exact (Settled.steps_or_unsettled hlater' hput hrest).imp_right (.cons hstep)
    · -- without a setter the step would have left the document as it found it
      cases hsetter : step.2.hasSetter with
      | false =>
        have hkeep := Field.settersKeep_of_hasSetter hsetter (Settled path field)
        exact absurd (Field.validate_keeps hkeep hrun hsettled) hleft
      | true =>
        exact .inr ⟨[], step, steps, doc, s, value, left, t, rfl, hsetter, rfl,
          hsettled, hrun, hleft⟩

/-! ## The whole pipeline -/

/-- **A layered pipeline that succeeds has settled a path, unless the setter of a later step found
it settled and left it unsettled.** -/
theorem settled_or_unsettled {steps : List (String × Field σ)} (hlayered : Layered steps)
    {data stored : Document} {s s' : Session σ}
    (h : (runSteps writeStep steps data).run s = (.ok stored, s')) {path : String}
    {field : Field σ} (hstep : (path, field) ∈ steps) :
    Settled path field stored ∨
      ∃ before later checked t, steps = before ++ [(path, field)] ++ later ∧
        (runSteps writeStep (before ++ [(path, field)]) data).run s = (.ok checked, t) ∧
        UnsettledBySetter path field later checked t := by
  obtain ⟨before, later, hsplit⟩ := List.append_of_mem hstep
  rw [Layered, hsplit] at hlayered
  have hlater := (List.pairwise_cons.mp (List.pairwise_append.mp hlayered).2.1).1
  rw [← List.singleton_append, ← List.append_assoc] at hsplit
  rw [hsplit, runSteps_append] at h
  obtain ⟨checked, t, hchecked, hrest⟩ := ActOn.bind_eq_ok h
  have hsettled : Settled path field checked := by
    rw [runSteps_append] at hchecked
    obtain ⟨found, t', -, hown⟩ := ActOn.bind_eq_ok hchecked
    rw [runSteps] at hown
    obtain ⟨own, t'', hwrite, hdone⟩ := ActOn.bind_eq_ok hown
    cases hdone
    exact settled_of_writeStep hwrite
  exact (hsettled.steps_or_unsettled hlater hrest).imp_right fun hunsettled =>
    ⟨before, later, checked, t, hsplit, hchecked, hunsettled⟩

/-- A pipeline gives back a document whose paths are all settled. -/
theorem runSteps_of_settled {doc : Document} {s : Session σ} :
    ∀ {steps : List (String × Field σ)}, SetterFree steps →
      (∀ step ∈ steps, Settled step.1 step.2 doc) →
      (runSteps writeStep steps doc).run s = (.ok doc, s)
  | [], _, _ => rfl
  | step :: steps, hfree, hsettled => by
    have hstep := (hsettled step List.mem_cons_self).step (hfree step List.mem_cons_self) s
    rw [runSteps, ActOn.run_bind_of_ok hstep]
    exact runSteps_of_settled (fun step hstep => hfree step (List.mem_cons_of_mem _ hstep))
      fun step hstep => hsettled step (List.mem_cons_of_mem _ hstep)

variable {schema : Schema σ}

/-- **A document that passed the checks of a layered schema has all its paths settled.** -/
theorem settled_of_applySetters (hfree : SetterFree schema.pipeline)
    (hlayered : Layered schema.pipeline) {data stored : Document} {s s' : Session σ}
    (h : (schema.applySetters data).run s = (.ok stored, s')) :
    ∀ step ∈ schema.pipeline, Settled step.1 step.2 stored := by
  intro step hstep
  rcases settled_or_unsettled hlayered h hstep with
    hsettled | ⟨before, later, checked, t, hsplit, -, hsetter⟩
  · exact hsettled
  · have hfreeLater : SetterFree later := fun other hmem =>
      hfree other (hsplit ▸ List.mem_append_right _ hmem)
    exact absurd hsetter (not_unsettledBySetter hfreeLater checked t)

/-- **A document with all its paths settled passes the checks as it is.** -/
theorem applySetters_of_settled (hfree : SetterFree schema.pipeline) {doc : Document}
    (h : ∀ step ∈ schema.pipeline, Settled step.1 step.2 doc) (s : Session σ) :
    (schema.applySetters doc).run s = (.ok doc, s) :=
  runSteps_of_settled hfree h

end Schema

end DocStore
