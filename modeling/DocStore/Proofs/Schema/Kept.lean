import DocStore.Proofs.Field.Reading
import DocStore.Proofs.Schema.Settled
import DocStore.Proofs.Value.Parent
/-!
# What reading and checking leave behind

After a layered schema with constant defaults and without setters has read a document, what stands
at every path was given by the field of the path (`taken_of_runSteps`). After it has checked it too,
every path is `Kept` (`kept_of_runSteps`): what stands there is read to something that is checked
back to it, and where nothing stands, what is read is absent and makes no levels, so that the check
takes it back.

Both are proved by turns (`runSteps_turns`): a step does to its own path what it does, and what
steps before it and after it do to their paths changes nothing of that. Of an object the steps below
it write documents only, which every object keeps.
-/

namespace DocStore

variable {σ : Type}

namespace Schema

/-! ## Steps that keep what others left -/

/-- What every step keeps, steps in turn keep. -/
theorem runSteps_keeps {step : String → Field σ → Document → Act σ Document} {P : Document → Prop}
    {steps : List (String × Field σ)} {doc after : Document} {s s' : Session σ}
    (hkeeps : ∀ b ∈ steps, ∀ {doc after : Document} {s s' : Session σ}, P doc →
      (step b.1 b.2 doc).run s = (.ok after, s') → P after)
    (hdoc : P doc) (h : (runSteps step steps doc).run s = (.ok after, s')) : P after := by
  induction steps generalizing doc s with
  | nil =>
    cases h
    exact hdoc
  | cons b steps ih =>
    rw [runSteps] at h
    obtain ⟨between, t, hstep, hrest⟩ := ActOn.bind_eq_ok h
    exact ih (fun c hc => hkeeps c (List.mem_cons_of_mem b hc))
      (hkeeps b List.mem_cons_self hdoc hstep) hrest

section Turns

variable {step : String → Field σ → Document → Act σ Document}
  {R : String × Field σ → String × Field σ → Prop} {P Q : String × Field σ → Document → Prop}

/-- What a step makes of its path, it makes of it in a run: the steps before it keep what it starts
from, and those after it what it leaves. -/
theorem runSteps_turns
    (hbefore : ∀ {a b : String × Field σ} {doc after : Document} {s s' : Session σ}, R a b →
      P b doc → (step a.1 a.2 doc).run s = (.ok after, s') → P b after)
    (hown : ∀ {a : String × Field σ} {doc after : Document} {s s' : Session σ}, P a doc →
      (step a.1 a.2 doc).run s = (.ok after, s') → Q a after)
    (hafter : ∀ {a b : String × Field σ} {doc after : Document} {s s' : Session σ}, R a b →
      Q a doc → (step b.1 b.2 doc).run s = (.ok after, s') → Q a after)
    {steps : List (String × Field σ)} (hpairs : steps.Pairwise R) {doc after : Document}
    {s s' : Session σ} (hdoc : ∀ a ∈ steps, P a doc)
    (h : (runSteps step steps doc).run s = (.ok after, s')) : ∀ a ∈ steps, Q a after := by
  induction steps generalizing doc s with
  | nil => exact fun a ha => absurd ha List.not_mem_nil
  | cons first steps ih =>
    rw [runSteps] at h
    obtain ⟨between, t, hstep, hrest⟩ := ActOn.bind_eq_ok h
    obtain ⟨hfirst, hpairs⟩ := List.pairwise_cons.mp hpairs
    intro a ha
    rcases List.mem_cons.mp ha with rfl | ha
    · exact runSteps_keeps (fun b hb => hafter (hfirst b hb))
        (hown (hdoc a List.mem_cons_self) hstep) hrest
    · exact ih hpairs
        (fun b hb => hbefore (hfirst b hb) (hdoc b (List.mem_cons_of_mem first hb)) hstep)
        hrest a ha

end Turns

/-! ## Steps and later ones -/

/-- What layers say of a step and a later one. -/
def Over (earlier later : String × Field σ) : Prop :=
  ¬ Path.segments later.1 <+: Path.segments earlier.1 ∧
    (Path.segments earlier.1 <+: Path.segments later.1 → earlier.2.IsObject)

/-- A later path lies apart, or below an object. -/
theorem Over.cases {a b : String × Field σ} (h : Over a b) :
    Path.Apart (Path.segments b.1) (Path.segments a.1) ∨
      ∃ rest, rest ≠ [] ∧ Path.segments a.1 ++ rest = Path.segments b.1 ∧ a.2.IsObject := by
  by_cases hpre : Path.segments a.1 <+: Path.segments b.1
  · obtain ⟨rest, hrest⟩ := hpre
    refine .inr ⟨rest, ?_, hrest, h.2 ⟨rest, hrest⟩⟩
    rintro rfl
    rw [List.append_nil] at hrest
    exact h.1 (hrest ▸ List.prefix_rfl)
  · exact .inl ⟨h.1, hpre⟩

/-- What a reading step does, when it succeeds. -/
theorem readStep_eq_ok {path : String} {field : Field σ} {doc after : Document} {s s' : Session σ}
    (h : (readStep path field doc).run s = (.ok after, s')) :
    ∃ result, (field.cast (doc.get? path)).run s = (.ok result, s') ∧
      after = result.elim doc (doc.set path) := by
  obtain ⟨result, t, hcast, hdone⟩ := ActOn.bind_eq_ok h
  cases result <;> cases hdone <;> exact ⟨_, hcast, rfl⟩

theorem run_readStep {path : String} {field : Field σ} {doc : Document} {result : Option Value}
    (h : field.Reads (doc.get? path) result) (s : Session σ) :
    (readStep path field doc).run s = (.ok (result.elim doc (doc.set path)), s) := by
  rw [readStep, ActOn.run_bind_of_ok (h s)]
  cases result <;> rfl

/-- What changes of any kind keep, a reading step keeps. -/
theorem keeps_of_readStep {P : Document → Prop} {path : String} {field : Field σ}
    {doc after : Document} {s s' : Session σ} (hput : ∀ value, P (doc.put path (some value)))
    (hdoc : P doc) (h : (readStep path field doc).run s = (.ok after, s')) : P after := by
  obtain ⟨result, -, rfl⟩ := readStep_eq_ok h
  cases result with
  | none => exact hdoc
  | some value => exact hput value

/-! ## Getters leave what they give -/

/-- What a field gave: it gives the same for it again, and so it does, as far as the check can tell,
for what the check makes of it. -/
def Given (field : Field σ) (value : Option Value) : Prop :=
  field.Reads value value ∧ ∀ stored, field.check value = .ok stored →
    ∃ again, field.Reads stored again ∧ field.check again = .ok stored

theorem given_of_cast {field : Field σ} (hconstant : field.Constant) {value result : Option Value}
    {s s' : Session σ} (h : (field.cast value).run s = (.ok result, s')) : Given field result :=
  ⟨Field.reads_image hconstant h, fun _ hcheck => Field.reads_checked hconstant h hcheck⟩

theorem given_document {field : Field σ} (hobject : field.IsObject) (entries : Document) :
    Given field (some (.document entries)) := by
  have hreads : field.Reads (some (.document entries)) (some (.document entries)) := by
    obtain ⟨path, options, rfl⟩ := hobject
    exact Field.reads_scalar_of_present rfl rfl
  refine ⟨hreads, fun stored hcheck => ?_⟩
  rw [hobject.check_document] at hcheck
  cases hcheck
  exact ⟨_, hreads, hobject.check_document entries⟩

/-- Whether what stands at the path of a step was given by its field: what `remove` takes away, or
nothing that is present. -/
def Taken (step : String × Field σ) (doc : Document) : Prop :=
  (∃ value, doc.removed? step.1 = some value ∧ Given step.2 (some value)) ∨
    ((step.2.kind = .virtual ∨ present (doc.get? step.1) = none) ∧ step.2.Reads none none)

variable {a b : String × Field σ} {doc after : Document} {s s' : Session σ}

theorem taken_of_readStep (hconstant : a.2.Constant)
    (h : (readStep a.1 a.2 doc).run s = (.ok after, s')) : Taken a after := by
  obtain ⟨result, hcast, rfl⟩ := readStep_eq_ok h
  cases result with
  | some value =>
    exact .inl ⟨value, Document.removedSegments_setSegments value doc (Path.segments_ne_nil a.1),
      given_of_cast hconstant hcast⟩
  | none => exact .inr ⟨Field.skips_of_cast_eq_none hcast, Field.reads_image hconstant hcast⟩

theorem taken_document (hobject : a.2.IsObject) (doc entries : Document) :
    Taken a (doc.set a.1 (.document entries)) :=
  .inl ⟨.document entries, Document.removedSegments_setSegments _ doc (Path.segments_ne_nil a.1),
    given_document hobject entries⟩

theorem Taken.put_apart (h : Taken a doc) {other : String}
    (hapart : Path.Apart (Path.segments other) (Path.segments a.1)) (stored : Option Value) :
    Taken a (doc.put other stored) := by
  rcases h with ⟨value, hthere, hgiven⟩ | ⟨hskips, hsilent⟩
  · exact .inl ⟨value, (Document.removed?_put_of_apart hapart stored).trans hthere, hgiven⟩
  · exact .inr ⟨hskips.imp_right (Document.present_get?_put_of_apart hapart stored), hsilent⟩

/-- What is put at a later path keeps it. -/
theorem Taken.put (h : Taken a doc) (hover : Over a b) (stored : Option Value) :
    Taken a (doc.put b.1 stored) := by
  rcases hover.cases with hapart | ⟨rest, hrest, hbelow, hobject⟩
  · exact h.put_apart hapart stored
  · rcases Document.put_below_cases hrest hbelow doc stored with ⟨entries, hput⟩ | hput
    · rw [hput]
      exact taken_document hobject doc entries
    · rwa [hput]

/-- **After the getters, what stands at every path was given by its field.** -/
theorem taken_of_runSteps {steps : List (String × Field σ)} (hlayered : steps.Pairwise Over)
    (hconstant : ∀ step ∈ steps, step.2.Constant)
    (h : (runSteps readStep steps doc).run s = (.ok after, s')) :
    ∀ step ∈ steps, Taken step after := by
  refine runSteps_turns (P := fun a _ => a.2.Constant) (Q := Taken) (R := Over) ?_ ?_ ?_
    hlayered hconstant h
  · exact fun _ hb _ => hb
  · exact fun ha hstep => taken_of_readStep ha hstep
  · exact fun hover ha hstep =>
      keeps_of_readStep (fun value => ha.put hover (some value)) ha hstep

/-! ## Setters keep what was given -/

theorem eq_present_of_check {field : Field σ} (hobject : field.IsObject)
    {value stored : Option Value} (h : field.check value = .ok stored) :
    stored = present value := by
  obtain ⟨path, options, rfl⟩ := hobject
  cases stored with
  | some checked =>
    obtain ⟨found, hfound, hscalar⟩ := Field.check_scalar_eq_some.mp h
    cases hscalar
    exact hfound.symm
  | none => exact ((Field.present_of_check_eq_none h).resolve_left nofun).symm

/-- What a step without a setter does, when it succeeds. -/
theorem check_of_writeStep {path : String} {field : Field σ} (hfree : field.hasSetter = false)
    (h : (writeStep path field doc).run s = (.ok after, s')) :
    ∃ stored, field.check (doc.get? path) = .ok stored ∧ after = doc.put path stored := by
  rw [run_writeStep hfree] at h
  rcases hcheck : field.check (doc.get? path) with e | stored
  · rw [hcheck] at h
    cases h
  · rw [hcheck] at h
    cases h
    exact ⟨stored, rfl, rfl⟩

/-- Above what stands at a path there is a document, and writing it again changes nothing. -/
theorem exists_document_at_above {above below : String} {rest : List String} (hrest : rest ≠ [])
    (hbelow : Path.segments above ++ rest = Path.segments below) {value : Value}
    (hthere : doc.removed? below = some value) :
    ∃ entries, doc.get? above = some (.document entries) ∧
      doc.set above (.document entries) = doc := by
  have hprefix : Path.segments above <+: Path.segments below := ⟨rest, hbelow⟩
  have hne : Path.segments above ≠ Path.segments below := fun heq =>
    hrest (List.self_eq_append_right.mp (heq.trans hbelow.symm))
  obtain ⟨entries, habove⟩ := Document.exists_document_above hprefix hne
    (Path.segments_ne_nil above) hthere
  exact ⟨entries, Document.descend_of_removedSegments habove,
    Document.setSegments_of_removedSegments habove⟩

/-- The check of an earlier path leaves what was given: apart from it, and below an object, which it
leaves as it is. -/
theorem Taken.check_above (h : Taken b doc) (hover : Over a b) (hfree : a.2.hasSetter = false)
    (hstep : (writeStep a.1 a.2 doc).run s = (.ok after, s')) : Taken b after := by
  obtain ⟨stored, hcheck, rfl⟩ := check_of_writeStep hfree hstep
  rcases hover.cases with hapart | ⟨rest, hrest, hbelow, hobject⟩
  · exact h.put_apart hapart.symm stored
  · cases eq_present_of_check hobject hcheck
    rcases h with ⟨value, hthere, hgiven⟩ | ⟨hskips, hsilent⟩
    · obtain ⟨entries, hget, hset⟩ := exists_document_at_above hrest hbelow hthere
      have hsame : doc.put a.1 (present (doc.get? a.1)) = doc := by
        rw [hget]
        exact hset
      rw [hsame]
      exact .inl ⟨value, hthere, hgiven⟩
    · refine .inr ⟨hskips.imp_right fun habsent => ?_, hsilent⟩
      rcases hpresent : present (doc.get? a.1) with _ | found
      · have hnone : doc.get? b.1 = none := Document.get?_below_of_absent hrest hbelow hpresent
        exact congrArg present (Document.get?_remove_eq_none hnone)
      · obtain ⟨hget, -⟩ := eq_some_of_present hpresent
        have hsame : (doc.put a.1 (some found)).get? b.1 = doc.get? b.1 := by
          rw [Document.get?_eq_bind hbelow, Document.get?_eq_bind hbelow, hget]
          exact congrArg (Option.bind · _) (Document.get?_set_self doc a.1 found)
        rw [hsame]
        exact habsent

/-- Whether a path is as reading and checking leave it. What stands there is read to something that
is checked back to it; where nothing stands, what is read is absent and makes no levels. -/
inductive Kept (step : String × Field σ) (doc : Document) : Prop
  | there (value given : Value) : doc.removed? step.1 = some value →
      step.2.Reads (some value) (some given) → step.2.check (some given) = .ok (some value) →
      Kept step doc
  | missing (given : Option Value) : doc.removed? step.1 = none →
      (step.2.kind = .virtual ∨ present (doc.get? step.1) = none) →
      step.2.check none = .ok none → step.2.Reads none given → present given = none →
      (given ≠ none → Document.Parented (Path.segments step.1) doc) → Kept step doc

/-- A check that gives something is no check of a missing value. -/
theorem check_none_ne_some {field : Field σ} {value : Value} :
    field.check none ≠ .ok (some value) := by
  cases field with
  | scalar path kind options =>
    intro h
    obtain ⟨found, hfound, -⟩ := Field.check_scalar_eq_some.mp h
    cases hfound
  | array path options child =>
    intro h
    obtain ⟨items, checked, hfound, -⟩ := Field.check_array_eq_some.mp h
    cases hfound
  | virtual path getter setter => exact nofun

theorem kept_missing_of_silent {doc : Document} (hsilent : a.2.Reads none none)
    (hskips : a.2.kind = .virtual ∨ present (doc.get? a.1) = none)
    (hcheck : a.2.check none = .ok none) : Kept a (doc.remove a.1) :=
  .missing none (Document.removedSegments_removeSegments _ doc)
    (hskips.imp_right Document.present_get?_remove) hcheck hsilent rfl (absurd rfl)

/-- **The check of what was given keeps the path.** -/
theorem kept_of_writeStep (h : Taken a doc) (hfree : a.2.hasSetter = false)
    (hstep : (writeStep a.1 a.2 doc).run s = (.ok after, s')) : Kept a after := by
  obtain ⟨stored, hcheck, rfl⟩ := check_of_writeStep hfree hstep
  have hsegs := Path.segments_ne_nil a.1
  rcases h with ⟨value, hthere, hreads, hgiven⟩ | ⟨hskips, hsilent⟩
  · rw [Document.get?, Document.descend_of_removedSegments hthere] at hcheck
    obtain ⟨again, hagain, hown⟩ := hgiven stored hcheck
    cases stored with
    | some kept =>
      cases again with
      | some given =>
        exact .there kept given (Document.removedSegments_setSegments kept doc hsegs) hagain hown
      | none => exact absurd hown check_none_ne_some
    | none =>
      have hgone : (doc.remove a.1).get? a.1 = none :=
        Document.descend_removeSegments_of_removedSegments hthere
      have habsent : present again = none := by
        rcases Field.present_of_check_eq_none hown with hvirtual | habsent
        · rw [Field.eq_none_of_cast_virtual hvirtual (hagain s)]
          rfl
        · exact habsent
      refine .missing again (Document.removedSegments_removeSegments _ doc)
        (.inr (congrArg present hgone)) (Field.check_missing hcheck) hagain habsent fun _ => ?_
      have hparented : Document.Parented (Path.segments a.1) doc :=
        Document.parented_of_removedSegments hthere
      exact hparented.put (fun _ => rfl) none
  · have hnone : a.2.check (doc.get? a.1) = a.2.check none := by
      rcases hskips with hvirtual | habsent
      · obtain ⟨path, getter, setter, hfield⟩ := Field.exists_of_kind_virtual hvirtual
        rw [hfield]
        rfl
      · exact Field.check_of_absent habsent _
    rw [hnone] at hcheck
    cases stored with
    | some kept => exact absurd hcheck check_none_ne_some
    | none => exact kept_missing_of_silent hsilent hskips hcheck

theorem kept_document (hobject : a.2.IsObject) (doc entries : Document) :
    Kept a (doc.set a.1 (.document entries)) :=
  .there (.document entries) (.document entries)
    (Document.removedSegments_setSegments _ doc (Path.segments_ne_nil a.1))
    (given_document hobject entries).1 (hobject.check_document entries)

/-- What is put at a later path keeps it. -/
theorem Kept.put (h : Kept a doc) (hover : Over a b) (stored : Option Value) :
    Kept a (doc.put b.1 stored) := by
  rcases hover.cases with hapart | ⟨rest, hrest, hbelow, hobject⟩
  · have hsame : (doc.put b.1 stored).removed? a.1 = doc.removed? a.1 :=
      Document.removed?_put_of_apart hapart stored
    cases h with
    | there value given hthere hreads hcheck =>
      exact .there value given (hsame.trans hthere) hreads hcheck
    | missing given hnone hskips hcheck hreads habsent hparented =>
      refine .missing given (hsame.trans hnone)
        (hskips.imp_right (Document.present_get?_put_of_apart hapart stored)) hcheck hreads habsent
        fun hgiven => ?_
      exact (hparented hgiven).put (fun hprefix => absurd hprefix hapart.1) stored
  · rcases Document.put_below_cases hrest hbelow doc stored with ⟨entries, hput⟩ | hput
    · rw [hput]
      exact kept_document hobject doc entries
    · rwa [hput]

theorem Kept.settled (h : Kept a doc) : Settled a.1 a.2 doc := by
  cases h with
  | there value given hthere _ hcheck =>
    exact .inl ⟨value, hthere, Field.check_stored hcheck⟩
  | missing given hnone hskips hcheck =>
    refine .inr ⟨hnone, ?_⟩
    rcases hskips with hvirtual | habsent
    · obtain ⟨path, getter, setter, hfield⟩ := Field.exists_of_kind_virtual hvirtual
      rw [hfield]
      rfl
    · rw [Field.check_of_absent habsent]
      exact hcheck

/-- **Reading and checking keep every path of a layered schema.** -/
theorem kept_of_runSteps {steps : List (String × Field σ)} (hlayered : steps.Pairwise Over)
    (hfree : SetterFree steps) (htaken : ∀ step ∈ steps, Taken step doc)
    (h : (runSteps writeStep steps doc).run s = (.ok after, s')) :
    ∀ step ∈ steps, Kept step after := by
  have hpairs : steps.Pairwise fun a b =>
      Over a b ∧ a.2.hasSetter = false ∧ b.2.hasSetter = false :=
    hlayered.imp_of_mem fun ha hb hover => ⟨hover, hfree _ ha, hfree _ hb⟩
  refine runSteps_turns (P := fun a doc => Taken a doc ∧ a.2.hasSetter = false) (Q := Kept) ?_ ?_ ?_
    hpairs (fun a ha => ⟨htaken a ha, hfree a ha⟩) h
  · rintro a b doc after s s' ⟨hover, ha, -⟩ ⟨hb, hfree⟩ hstep
    exact ⟨hb.check_above hover ha hstep, hfree⟩
  · rintro a doc after s s' ⟨ha, hfree⟩ hstep
    exact kept_of_writeStep ha hfree hstep
  · rintro a b doc after s s' ⟨hover, -, hb⟩ ha hstep
    obtain ⟨stored, -, rfl⟩ := check_of_writeStep hb hstep
    exact ha.put hover stored

/-! ## Kept documents -/

/-- What reading does at a kept path: nothing, or a change that the check of the path takes back. Of
an object it changes only one that is missing. -/
theorem Kept.reads (h : Kept a doc) :
    a.2.Reads (doc.get? a.1) none ∨
      ∃ given back, a.2.Reads (doc.get? a.1) (some given) ∧ a.2.check (some given) = .ok back ∧
        (doc.set a.1 given).put a.1 back = doc ∧
        (a.2.IsObject → doc.set a.1 given = doc ∨
          present (some given) = none ∧ back = none ∧ doc.removed? a.1 = none) := by
  have hsegs := Path.segments_ne_nil a.1
  cases h with
  | there value given hthere hreads hcheck =>
    have hget : doc.get? a.1 = some value := Document.descend_of_removedSegments hthere
    have hsame : doc.set a.1 value = doc := Document.setSegments_of_removedSegments hthere
    refine .inr ⟨given, some value, hget ▸ hreads, hcheck, ?_, fun hobject => .inl ?_⟩
    · exact (Document.setSegments_setSegments given value _ doc).trans hsame
    · have hpresent := eq_present_of_check hobject hcheck
      obtain ⟨⟨⟩, -⟩ := eq_some_of_present hpresent.symm
      exact hsame
  | missing given hnone hskips hcheck hreads habsent hparented =>
    rcases hskips with hvirtual | hskips
    · obtain ⟨path, getter, setter, hfield⟩ := Field.exists_of_kind_virtual hvirtual
      rw [hfield]
      exact .inl fun t => rfl
    have hreads' : a.2.Reads (doc.get? a.1) given := fun t => by
      rw [Field.cast_of_absent hskips]
      exact hreads t
    cases given with
    | none => exact .inl hreads'
    | some given =>
      refine .inr ⟨given, none, hreads', ?_, ?_, fun _ => .inr ⟨habsent, rfl, hnone⟩⟩
      · rw [Field.check_of_absent habsent]
        exact hcheck
      · exact Document.removeSegments_setSegments given hnone
          (hparented (Option.some_ne_none given))

/-- Below a path without a document, fields give nothing for what is missing. -/
theorem Kept.silent_below (h : Kept b doc) {path : String} {rest : List String} (hrest : rest ≠ [])
    (hbelow : Path.segments path ++ rest = Path.segments b.1)
    (hmissing : ¬ ∃ entries, doc.removed? path = some (.document entries)) :
    b.2.Reads none none := by
  have hprefix : Path.segments path <+: Path.segments b.1 := ⟨rest, hbelow⟩
  have hne : Path.segments path ≠ Path.segments b.1 := fun heq =>
    hrest (List.self_eq_append_right.mp (heq.trans hbelow.symm))
  cases h with
  | there value given hthere =>
    exact absurd (Document.exists_document_above hprefix hne (Path.segments_ne_nil path) hthere)
      hmissing
  | missing given hnone' hskips hcheck hreads habsent hparented =>
    cases given with
    | none => exact hreads
    | some given =>
      exact absurd (hparented (Option.some_ne_none given) _ hprefix hne (Path.segments_ne_nil path))
        hmissing

end Schema

end DocStore
