import DocStore.Proofs.Schema.Declared
import DocStore.Proofs.Schema.Kept
/-!
# Reading and checking again

`Schema.normalize` reads a document and checks what was read, which is what a write without hooks
does to its data. Where the pipeline is `Steady`, that is layered, without setters and with constant
defaults, it is a projection: what it gives it gives back, in every session and without a draw
(`Normal.normalize`).

A document is `Normal` when all its paths are kept. It is read to one document in every session
(`Normal.exists_readForm`), which is read to itself, and which the checks turn back into it: each
path that reading changes is changed back by its own check, past the steps between them, because
those change other paths only (`ReadsThrough.before_put`).
-/

namespace DocStore

variable {σ : Type}

namespace Schema

variable {a b : String × Field σ} {doc after : Document} {s s' : Session σ}

/-! ## Reading in any session -/

/-- What reading makes of a document, step by step, in any session. -/
def ReadsThrough : List (String × Field σ) → Document → Document → Prop
  | [], doc, read => read = doc
  | step :: steps, doc, read => ∃ result, step.2.Reads (doc.get? step.1) result ∧
    ReadsThrough steps (result.elim doc (doc.set step.1)) read

theorem ReadsThrough.run {steps : List (String × Field σ)} {read : Document}
    (h : ReadsThrough steps doc read) (s : Session σ) :
    (runSteps readStep steps doc).run s = (.ok read, s) := by
  induction steps generalizing doc with
  | nil =>
    cases h
    rfl
  | cons step steps ih =>
    obtain ⟨result, hreads, hrest⟩ := h
    rw [runSteps, ActOn.run_bind_of_ok (run_readStep hreads s)]
    exact ih hrest

/-- Reading leaves what its field gave. -/
theorem Taken.reads (h : Taken a doc) :
    ∃ result, a.2.Reads (doc.get? a.1) result ∧ result.elim doc (doc.set a.1) = doc := by
  rcases h with ⟨value, hthere, hreads, -⟩ | ⟨hskips, hsilent⟩
  · have hget : doc.get? a.1 = some value := Document.descend_of_removedSegments hthere
    exact ⟨some value, hget ▸ hreads, Document.setSegments_of_removedSegments hthere⟩
  · exact ⟨none, hsilent.skips hskips, rfl⟩

/-- **A document in which every field gave what stands at its path is read to itself.** -/
theorem readsThrough_of_taken {steps : List (String × Field σ)}
    (h : ∀ step ∈ steps, Taken step doc) :
    ReadsThrough steps doc doc := by
  induction steps with
  | nil => rfl
  | cons step steps ih =>
    obtain ⟨result, hreads, hsame⟩ := (h step List.mem_cons_self).reads
    refine ⟨result, hreads, ?_⟩
    rw [hsame]
    exact ih fun other hother => h other (List.mem_cons_of_mem step hother)

/-! ## Reading past a change -/

/-- Whether a step does not notice what a path holds and what is put there: it lies apart, or its
field gives nothing for what is missing, and it lies below what is absent and put to nothing. -/
def Unnoticed (path : String) (value : Value) (back : Option Value) (step : String × Field σ) :
    Prop :=
  Path.Apart (Path.segments path) (Path.segments step.1) ∨
    ∃ rest, rest ≠ [] ∧ Path.segments path ++ rest = Path.segments step.1 ∧
      step.2.Reads none none ∧ present (some value) = none ∧ back = none

/-- **Reading commutes with putting back what a path held before.** -/
theorem ReadsThrough.before_put {path : String} {value : Value} {back : Option Value}
    {steps : List (String × Field σ)} (hsteps : ∀ step ∈ steps, Unnoticed path value back step)
    {doc read : Document} (hthere : doc.removed? path = some value)
    (h : ReadsThrough steps (doc.put path back) read) (s : Session σ) :
    ∃ changed, ReadsThrough steps doc changed ∧ changed.removed? path = some value ∧
      changed.put path back = read := by
  induction steps generalizing doc with
  | nil => exact ⟨doc, rfl, hthere, h.symm⟩
  | cons step steps ih =>
    have hlater := fun other hother => hsteps other (List.mem_cons_of_mem step hother)
    obtain ⟨result, hreads, hread⟩ := h
    rcases hsteps step List.mem_cons_self with
      hapart | ⟨rest, hrest, hbelow, hsilent, habsent, rfl⟩
    · rw [Document.get?_put_of_apart hapart hthere back] at hreads
      have hcomm : result.elim (doc.put path back) ((doc.put path back).set step.1) =
          (result.elim doc (doc.set step.1)).put path back := by
        cases result with
        | none => rfl
        | some found => exact (Document.put_set_comm hapart hthere back found).symm
      have hthere' : (result.elim doc (doc.set step.1)).removed? path = some value := by
        cases result with
        | none => exact hthere
        | some found => exact (Document.removed?_put_of_apart hapart.symm (some found)).trans hthere
      rw [hcomm] at hread
      obtain ⟨changed, hchanged, hleft, hput⟩ := ih hlater hthere' hread
      exact ⟨changed, ⟨result, hreads, hchanged⟩, hleft, hput⟩
    · have hget : doc.get? path = some value := Document.descend_of_removedSegments hthere
      have hgone : (doc.put path none).get? path = none :=
        Document.descend_removeSegments_of_removedSegments hthere
      have hbefore : doc.get? step.1 = none :=
        Document.get?_below_of_absent hrest hbelow (hget ▸ habsent)
      have hafter : (doc.put path none).get? step.1 = none :=
        Document.get?_below_of_absent hrest hbelow (congrArg present hgone)
      rw [hafter] at hreads
      cases (hreads s).symm.trans (hsilent s)
      obtain ⟨changed, hchanged, hleft, hput⟩ := ih hlater hthere hread
      exact ⟨changed, ⟨none, hbefore ▸ hsilent, hchanged⟩, hleft, hput⟩

/-- **A document whose paths are all kept is read and checked to itself.** The session at hand is
any. -/
theorem exists_readsThrough_of_kept {steps : List (String × Field σ)}
    (hlayered : steps.Pairwise Over) (hfree : SetterFree steps)
    (hkept : ∀ step ∈ steps, Kept step doc) (s : Session σ) :
    ∃ read, ReadsThrough steps doc read ∧
      ∀ t, (runSteps writeStep steps read).run t = (.ok doc, t) := by
  induction steps with
  | nil => exact ⟨doc, rfl, fun t => rfl⟩
  | cons first steps ih =>
    obtain ⟨hover, hlayered⟩ := List.pairwise_cons.mp hlayered
    have hfree' : SetterFree steps :=
      fun step hstep => hfree step (List.mem_cons_of_mem first hstep)
    have hkept' := fun step hstep => hkept step (List.mem_cons_of_mem first hstep)
    have hfirst := hkept first List.mem_cons_self
    have hsetter := hfree first List.mem_cons_self
    obtain ⟨read, hread, hwrite⟩ := ih hlayered hfree' hkept'
    -- where reading the first path changes nothing, checking it after the others does not either
    have hquiet {result : Option Value} (hreads : first.2.Reads (doc.get? first.1) result)
        (hsame : result.elim doc (doc.set first.1) = doc) :
        ∃ read, ReadsThrough (first :: steps) doc read ∧
          ∀ t, (runSteps writeStep (first :: steps) read).run t = (.ok doc, t) := by
      have hsettled : Settled first.1 first.2 read :=
        runSteps_keeps (P := Settled first.1 first.2)
          (fun b hb _ _ _ _ hdoc => keeps_of_readStep
            (fun value => hdoc.put (hover b hb).1 (hover b hb).2 (some value)) hdoc)
          hfirst.settled (hread.run s)
      refine ⟨read, ⟨result, hreads, ?_⟩, fun t => ?_⟩
      · rw [hsame]
        exact hread
      · rw [runSteps, ActOn.run_bind_of_ok (hsettled.step hsetter t)]
        exact hwrite t
    rcases hfirst.reads with hnone | ⟨given, back, hgiven, hcheck, hback, hobject⟩
    · exact hquiet hnone rfl
    · by_cases hsame : doc.set first.1 given = doc
      · exact hquiet hgiven hsame
      · have hunnoticed : ∀ step ∈ steps, Unnoticed first.1 given back step := by
          intro step hstep
          rcases (hover step hstep).cases with hapart | ⟨rest, hrest, hbelow, hfield⟩
          · exact .inl hapart.symm
          · obtain ⟨habsent, rfl, hnone⟩ := (hobject hfield).resolve_left hsame
            have hsilent := (hkept' step hstep).silent_below hrest hbelow (by simp [hnone])
            exact .inr ⟨rest, hrest, hbelow, hsilent, habsent, rfl⟩
        have hthere : (doc.set first.1 given).removed? first.1 = some given :=
          Document.removedSegments_setSegments given doc (Path.segments_ne_nil first.1)
        rw [← hback] at hread
        obtain ⟨changed, hchanged, hleft, hput⟩ := hread.before_put hunnoticed hthere s
        refine ⟨changed, ⟨some given, hgiven, hchanged⟩, fun t => ?_⟩
        have hget : changed.get? first.1 = some given := Document.descend_of_removedSegments hleft
        have hstep : (writeStep first.1 first.2 changed).run t = (.ok read, t) := by
          rw [run_writeStep hsetter, hget, hcheck]
          exact congrArg (fun doc => (Except.ok doc, t)) hput
        rw [runSteps, ActOn.run_bind_of_ok hstep]
        exact hwrite t

/-! ## Texts at the top -/

/-- A text that is stored is read as it is. -/
theorem Kept.reads_text (h : Kept a doc) {text : String}
    (hthere : doc.removed? a.1 = some (.string text)) :
    a.2.Reads (some (.string text)) (some (.string text)) := by
  cases h with
  | there value given hvalue _ hcheck =>
    cases hvalue.symm.trans hthere
    rcases hfield : a.2 with ⟨path, kind, options⟩ | ⟨path, options, child⟩ | ⟨path, getter, setter⟩
    · rw [hfield] at hcheck
      obtain ⟨found, -, hscalar⟩ := Field.check_scalar_eq_some.mp hcheck
      exact Field.reads_scalar_of_present rfl (Field.castScalar_of_checkScalar hscalar)
    · rw [hfield] at hcheck
      obtain ⟨items, checked, -, -, hlist⟩ := Field.check_array_eq_some.mp hcheck
      cases hlist
    · rw [hfield] at hcheck
      cases hcheck
  | missing given hnone => cases hnone.symm.trans hthere

/-- **Reading leaves a text that is stored at the top.** -/
theorem removed?_text_of_kept {steps : List (String × Field σ)}
    (hkept : ∀ step ∈ steps, Kept step doc) {path text : String}
    (hpath : Path.segments path = [path]) (hthere : doc.removed? path = some (.string text))
    {read : Document} (h : (runSteps readStep steps doc).run s = (.ok read, s')) :
    read.removed? path = some (.string text) := by
  refine runSteps_keeps (P := fun read => read.removed? path = some (.string text)) ?_ hthere h
  intro b hb found after t t' hfound hstep
  have hget : found.get? path = some (.string text) := Document.descend_of_removedSegments hfound
  by_cases habove : Path.segments path <+: Path.segments b.1
  · obtain ⟨rest, hrest⟩ := habove
    by_cases hnil : rest = []
    · -- the path itself is read to its text
      rw [hnil, List.append_nil] at hrest
      have hown : doc.removed? b.1 = some (.string text) := by
        rw [Document.removed?, ← hrest]
        exact hthere
      have hreads : b.2.Reads (found.get? b.1) (some (.string text)) := by
        rw [Document.get?, ← hrest, ← Document.get?, hget]
        exact (hkept b hb).reads_text hown
      cases hstep.symm.trans (run_readStep hreads t)
      rw [Document.removed?, hrest]
      exact Document.removedSegments_setSegments _ found (Path.segments_ne_nil b.1)
    · -- below a text nothing stands, and nothing is made
      have hsilent := (hkept b hb).silent_below hnil hrest (by simp [hthere])
      have hnone : found.get? b.1 = none := by
        obtain ⟨key, keys, rfl⟩ := List.exists_cons_of_ne_nil hnil
        rw [Document.get?_eq_bind hrest, hget]
        rfl
      have hreads : b.2.Reads (found.get? b.1) none := hnone ▸ hsilent
      cases hstep.symm.trans (run_readStep hreads t)
      exact hfound
  · have hapart : Path.Apart (Path.segments b.1) (Path.segments path) := by
      refine ⟨fun hbelow => ?_, habove⟩
      have hlength : (Path.segments path).length ≤ (Path.segments b.1).length := by
        rw [hpath]
        exact List.length_pos_iff.mpr (Path.segments_ne_nil b.1)
      exact habove (hbelow.eq_of_length_le hlength ▸ List.prefix_rfl)
    refine keeps_of_readStep (P := fun read => read.removed? path = some (.string text))
      ?_ hfound hstep
    exact fun value => (Document.removed?_put_of_apart hapart (some value)).trans hfound

/-! ## Steady pipelines -/

/-- Reads a document and checks what was read. -/
def normalize (schema : Schema σ) (doc : Document) : Act σ Document := do
  schema.applySetters (← schema.applyGetters doc)

/-- Whether all defaults are constant. -/
def ConstantDefaults (steps : List (String × Field σ)) : Prop := ∀ step ∈ steps, step.2.Constant

/-- A layered pipeline without setters and with constant defaults. -/
structure Steady (steps : List (String × Field σ)) : Prop where
  layered : Layered steps
  free : SetterFree steps
  constant : ConstantDefaults steps

/-- Whether all paths of a schema are kept in a document. -/
def Normal (schema : Schema σ) (doc : Document) : Prop := ∀ step ∈ schema.pipeline, Kept step doc

/-- The document that a normal document is read to: it is read to itself, and the checks turn it
back. -/
structure ReadForm (schema : Schema σ) (doc read : Document) : Prop where
  reads : ∀ s, (schema.applyGetters doc).run s = (.ok read, s)
  again : ∀ s, (schema.applyGetters read).run s = (.ok read, s)
  checks : ∀ s, (schema.applySetters read).run s = (.ok doc, s)

variable {schema : Schema σ}

/-- **What was read and passed the checks is normal.** -/
theorem normal_of_applySetters (hsteady : Steady schema.pipeline) {data read : Document}
    {t t' : Session σ} (hread : (schema.applyGetters data).run s = (.ok read, s'))
    (h : (schema.applySetters read).run t = (.ok doc, t')) : schema.Normal doc :=
  kept_of_runSteps hsteady.layered hsteady.free
    (taken_of_runSteps hsteady.layered hsteady.constant hread) h

theorem normal_of_normalize (hsteady : Steady schema.pipeline) {data : Document}
    (h : (schema.normalize data).run s = (.ok doc, s')) : schema.Normal doc := by
  obtain ⟨read, t, hread, hcheck⟩ := ActOn.bind_eq_ok h
  exact normal_of_applySetters hsteady hread hcheck

/-- **A normal document is read to one document in every session.** The session at hand is any. -/
theorem Normal.exists_readForm (h : schema.Normal doc) (hsteady : Steady schema.pipeline)
    (s : Session σ) : ∃ read, schema.ReadForm doc read := by
  obtain ⟨read, hread, hchecks⟩ := exists_readsThrough_of_kept hsteady.layered hsteady.free h s
  have htaken := taken_of_runSteps hsteady.layered hsteady.constant (hread.run s)
  exact ⟨read, hread.run, (readsThrough_of_taken htaken).run, hchecks⟩

/-- **A normal document is read and checked to itself.** -/
theorem Normal.normalize (h : schema.Normal doc) (hsteady : Steady schema.pipeline)
    (s : Session σ) :
    (schema.normalize doc).run s = (.ok doc, s) := by
  obtain ⟨read, hform⟩ := h.exists_readForm hsteady s
  rw [Schema.normalize, ActOn.run_bind_of_ok (hform.reads s)]
  exact hform.checks s

/-- Reading leaves the id of a normal document. -/
theorem ReadForm.id? {read : Document} (hform : schema.ReadForm doc read) (h : schema.Normal doc)
    {id : String} (hid : doc.id? = some id) (s : Session σ) : read.id? = some id := by
  have hthere : doc.removed? "_id" = some (.string id) := Document.id?_eq_some_iff.mp hid
  exact Document.id?_eq_some_iff.mpr (removed?_text_of_kept h rfl hthere (hform.reads s))

/-! ## Steady schemas -/

theorem constant_ensureId {schema : Schema σ} (h : ConstantDefaults schema.pipeline) :
    ConstantDefaults schema.ensureId.pipeline := by
  rw [ensureId]
  split
  · exact h
  · intro step hstep
    rcases List.mem_append.mp hstep with hstep | hstep
    · exact h step hstep
    · cases List.mem_singleton.mp hstep
      rintro _ ⟨⟩

section Declared

variable {fields : List (String × Definition σ)} {declared : Schema σ}
  (hnamed : Definition.AllNamed fields)
  (hdeclared : (declareAll "" fields).run Schema.empty = (.ok (), declared))
  (hfree : SetterFree declared.pipeline) (hconstant : ConstantDefaults declared.pipeline)

include hnamed hdeclared hfree hconstant

/-- Nested declarations under distinct names without dots make steady pipelines. -/
theorem steady_declared : Steady declared.pipeline :=
  ⟨layered_declared hnamed hdeclared, hfree, hconstant⟩

theorem steady_ensureId : Steady declared.ensureId.pipeline :=
  ⟨layered_ensureId hnamed hdeclared, setterFree_ensureId hfree, constant_ensureId hconstant⟩

end Declared

end Schema

end DocStore
