import DocStore.Proofs.Schema.Declared
import Mathlib.Data.List.TakeWhile
/-!
# Registrations and pipelines

A `Registration` is a call that registers paths, and `Registration.steps` lists what it registers: a
step for each declaration, also for those inside groups, up to where the call fails. The four stages
of a schema run the same pipeline (`Schema.runStage_eq`), which holds the steps of all registrations
in their order; the table of paths is the map of these steps.

So a path has one step for each time that it was registered, while the table has it once, with the
field that came last (`Schema.steps_of_registrations`). Pipeline and table agree exactly where no
path was registered twice.
-/

namespace DocStore

variable {σ : Type}

/-! ## The four stages -/

/-- The ways in which a document goes through a pipeline. -/
inductive Stage where
  | reading
  | writing
  | importing
  | exporting

/-- What a stage does at one step. -/
def Stage.step : Stage → String → Field σ → Document → Act σ Document
  | .reading => Schema.readStep
  | .writing => Schema.writeStep
  | .importing => fun path field doc => Act.ofExcept (Schema.importStep path field doc)
  | .exporting => fun path field doc => return Schema.exportStep path field doc

namespace Schema

/-- What a stage does with a document. -/
def runStage (schema : Schema σ) : Stage → Document → Act σ Document
  | .reading => schema.applyGetters
  | .writing => schema.applySetters
  | .importing => fun doc => Act.ofExcept (schema.importRecord doc)
  | .exporting => fun doc => return schema.exportRecord doc

theorem run_importSteps (steps : List (String × Field σ)) (doc : Document) :
    runSteps Stage.importing.step steps doc =
      Act.ofExcept (steps.foldlM (fun doc step => importStep step.1 step.2 doc) doc) := by
  induction steps generalizing doc with
  | nil => rfl
  | cons step steps ih =>
    rw [runSteps, List.foldlM_cons]
    funext session
    show (Act.ofExcept (importStep step.1 step.2 doc) >>= _ : Act σ Document).run session = _
    rw [ActOn.run_bind, Act.run_ofExcept]
    rcases importStep step.1 step.2 doc with e | read
    · rfl
    · exact congrFun (ih read) session

theorem run_exportSteps (steps : List (String × Field σ)) (doc : Document) :
    runSteps Stage.exporting.step steps doc =
      return steps.foldl (fun doc step => exportStep step.1 step.2 doc) doc := by
  induction steps generalizing doc with
  | nil => rfl
  | cons step steps ih => exact ih (exportStep step.1 step.2 doc)

/-- **Every stage runs all steps of the pipeline, in order.** -/
theorem runStage_eq (schema : Schema σ) (stage : Stage) :
    schema.runStage stage = runSteps stage.step schema.pipeline := by
  funext doc
  cases stage with
  | reading => rfl
  | writing => rfl
  | importing => exact (run_importSteps schema.pipeline doc).symm
  | exporting => exact (run_exportSteps schema.pipeline doc).symm

/-- The field of the path of ids in a schema that does not declare it. -/
def idField : Field σ := .scalar "_id" .cuid { FieldOptions.none with required := true }

end Schema

/-! ## Calls -/

/-- A call that registers paths: one declaration, declarations in turn, a computed path, or the path
of ids. -/
inductive Registration (σ : Type) where
  | path (name : String) (definition : Definition σ)
  | add (definitions : List (String × Definition σ)) (pathPrefix : String)
  | virtualPath (name : String) (getter : Getter σ) (setter : Option (Setter σ))
  | ensureId

namespace Registration

/-- A call from beginning to end. -/
def perform : Registration σ → ActOn (Schema σ) Unit
  | .path name definition => Schema.declare name definition
  | .add definitions pathPrefix => Schema.declareAll pathPrefix definitions
  | .virtualPath name getter setter => modify fun schema => schema.declareVirtual name getter setter
  | .ensureId => modify Schema.ensureId

/-- Whether a declaration has a path to stand under. -/
def isNamed (pathPrefix : String) (declaration : String × Definition σ) : Bool :=
  !(pathPrefix ++ declaration.1).isEmpty

/-- The steps that a call registers after others: a step for each path, up to a declaration without
a name. The path of ids is registered unless it is there. -/
def steps (before : List (String × Field σ)) : Registration σ → List (String × Field σ)
  | .path name definition => if name.isEmpty then [] else definition.steps name
  | .add definitions pathPrefix =>
    Definition.stepsAll pathPrefix (definitions.takeWhile (isNamed pathPrefix))
  | .virtualPath name getter setter => [(name, .virtual name getter setter)]
  | .ensureId => if "_id" ∈ before.map Prod.fst then [] else [("_id", Schema.idField)]

/-- The steps that calls register, in order. -/
def stepsOf (calls : List (Registration σ)) : List (String × Field σ) :=
  calls.foldl (fun before call => before ++ call.steps before) []

end Registration

namespace Schema

open Registration

/-! ## What a call registers -/

theorem registerAll_nil (schema : Schema σ) : schema.registerAll [] = schema := by
  simp [registerAll, OrderedMap.insertAll]

/-- Below a path every name is a path. -/
theorem isNamed_below (path : String) (declaration : String × Definition σ) :
    isNamed (path ++ ".") declaration = true := by
  simp [isNamed]

theorem run_declare_leaf_eq {path : String} {definition : Definition σ}
    (hleaf : ∀ fields, definition = .nested fields → False) (schema : Schema σ) :
    (declare path definition).run schema =
      if path.isEmpty then (.error (.invalidSchema .unnamedPath), schema)
      else (.ok (), schema.registerAll (definition.steps path)) := by
  rw [declare, Definition.steps]
  · dsimp only
    split <;> rfl
  · exact hleaf
  · exact hleaf

mutual

/-- A declaration registers its steps if its path has a name, and fails otherwise. -/
theorem run_declare_eq (path : String) (schema : Schema σ) : (definition : Definition σ) →
    (declare path definition).run schema =
      if path.isEmpty then (.error (.invalidSchema .unnamedPath), schema)
      else (.ok (), schema.registerAll (definition.steps path))
  | .nested fields => by
    rw [declare, Definition.steps]
    dsimp only
    split
    · rfl
    · have hgroup := run_declareAll_eq (path ++ ".")
        (schema.register path (Field.object path .none)) fields
      have hnamed : ∀ declaration ∈ fields, isNamed (path ++ ".") declaration = true :=
        fun declaration _ => isNamed_below path declaration
      have hall : fields.all (isNamed (path ++ ".")) = true := List.all_eq_true.mpr hnamed
      have hwhole : fields.takeWhile (isNamed (path ++ ".")) = fields :=
        List.takeWhile_eq_self_iff.mpr hnamed
      rw [if_pos hall, hwhole] at hgroup
      refine hgroup.trans (congrArg (Prod.mk _) ?_)
      exact registerAll_registerAll schema [(path, Field.object path .none)] _
  | .type _ => run_declare_leaf_eq (by rintro _ ⟨⟩) schema
  | .typed _ _ _ => run_declare_leaf_eq (by rintro _ ⟨⟩) schema
  | .custom _ => run_declare_leaf_eq (by rintro _ ⟨⟩) schema
  | .list _ => run_declare_leaf_eq (by rintro _ ⟨⟩) schema

/-- Declarations register their steps in order, up to one without a name, where they fail. -/
theorem run_declareAll_eq (pathPrefix : String) (schema : Schema σ) :
    (definitions : List (String × Definition σ)) →
    (declareAll pathPrefix definitions).run schema =
      (if definitions.all (isNamed pathPrefix) then .ok ()
        else .error (.invalidSchema .unnamedPath),
        schema.registerAll
          (Definition.stepsAll pathPrefix (definitions.takeWhile (isNamed pathPrefix))))
  | [] => congrArg (Prod.mk _) (registerAll_nil schema).symm
  | (name, definition) :: rest => by
    rw [declareAll, ActOn.run_bind, run_declare_eq (pathPrefix ++ name) schema definition]
    by_cases hname : (pathPrefix ++ name).isEmpty = true
    · have hnot : isNamed pathPrefix (name, definition) = false := by rw [isNamed, hname]; rfl
      rw [if_pos hname, List.all_cons, hnot, List.takeWhile_cons_of_neg (by simp [hnot])]
      exact congrArg (Prod.mk _) (registerAll_nil schema).symm
    · have hnamed : isNamed pathPrefix (name, definition) = true := by simp [isNamed, hname]
      rw [if_neg hname, List.all_cons, hnamed, List.takeWhile_cons_of_pos hnamed,
        Definition.stepsAll, ← registerAll_registerAll]
      exact run_declareAll_eq pathPrefix _ rest

end

/-- **What a call does to a schema is to register its steps.** -/
theorem perform_registers (call : Registration σ) (before : List (String × Field σ)) :
    (call.perform.run (empty.registerAll before)).2 =
      empty.registerAll (before ++ call.steps before) := by
  rw [← registerAll_registerAll]
  cases call with
  | path name definition =>
    rw [perform, run_declare_eq, steps]
    split
    · exact (registerAll_nil _).symm
    · rfl
  | add definitions pathPrefix =>
    rw [perform, run_declareAll_eq, steps]
  | virtualPath name getter setter => rfl
  | ensureId =>
    have hdeclared : (empty.registerAll before : Schema σ).fields.contains "_id" = true ↔
        "_id" ∈ before.map Prod.fst := by
      rw [OrderedMap.contains_iff_mem_keys]
      exact (OrderedMap.mem_keys_insertAll before "_id" []).trans (by simp [OrderedMap.keys])
    show ensureId (empty.registerAll before) = _
    rw [ensureId, steps]
    by_cases hid : "_id" ∈ before.map Prod.fst
    · rw [if_pos (hdeclared.mpr hid), if_pos hid, registerAll_nil]
    · rw [if_neg (mt hdeclared.mp hid), if_neg hid]
      rfl

/-! ## What calls register -/

/-- The schema that calls leave, whether they succeed or fail. -/
def registeredBy (calls : List (Registration σ)) : Schema σ :=
  calls.foldl (fun schema call => (call.perform.run schema).2) empty

/-- The schema of calls has the steps that they register. -/
theorem registeredBy_eq (calls : List (Registration σ)) :
    registeredBy calls = empty.registerAll (stepsOf calls) := by
  induction calls using List.reverseRecOn with
  | nil => rfl
  | append_singleton calls call ih =>
    have hlast : registeredBy (calls ++ [call]) = (call.perform.run (registeredBy calls)).2 := by
      rw [registeredBy, List.foldl_append]
      rfl
    rw [hlast, ih, perform_registers, stepsOf, stepsOf, List.foldl_append]
    rfl

/-- **Pipelines and the table of paths.** After any calls that register paths, whether they succeed
or fail, each of the four stages runs one step for each registration, in the order of the
registrations. The table lists every registered path once, where it was registered first, with the
field of its last registration. So the steps of every stage are the paths of the table with their
fields, in the order of the table, if and only if no path was registered twice; and then every step
has the field that queries, updates and sorts use for its path. -/
theorem steps_of_registrations (calls : List (Registration σ)) :
    let schema := registeredBy calls
    schema.pipeline = stepsOf calls ∧
      (∀ stage, schema.runStage stage = runSteps stage.step schema.pipeline) ∧
      schema.fields.keys = ((stepsOf calls).map Prod.fst).eraseDups ∧
      (∀ path, schema.field? path = OrderedMap.get? (stepsOf calls).reverse path) ∧
      (schema.pipeline = schema.fields ↔ ((stepsOf calls).map Prod.fst).Nodup) ∧
      (schema.pipeline = schema.fields →
        ∀ step ∈ schema.pipeline, schema.fieldOrMixed step.1 = step.2) := by
  intro schema
  have hschema : schema = empty.registerAll (stepsOf calls) := registeredBy_eq calls
  have hpipeline : schema.pipeline = stepsOf calls := by
    rw [hschema]
    rfl
  have hfields : schema.fields = OrderedMap.ofEntries (stepsOf calls) := by
    rw [hschema]
    rfl
  refine ⟨hpipeline, runStage_eq schema, ?_, fun path => ?_, ?_, fun hagree step hstep => ?_⟩
  · rw [hfields]
    exact OrderedMap.keys_ofEntries _
  · rw [field?, hfields]
    exact OrderedMap.get?_ofEntries _ path
  · rw [hpipeline, hfields, eq_comm]
    exact OrderedMap.ofEntries_eq_self_iff
  · have hnodup : schema.fields.keys.Nodup := hfields ▸ OrderedMap.nodup_keys_ofEntries _
    have hfound : schema.field? step.1 = some step.2 :=
      OrderedMap.get?_of_mem hnodup (hagree ▸ hstep)
    rw [fieldOrMixed, hfound]
    rfl

/-! ## A path with two steps -/

/-- A path that is declared as a text and then as a number. -/
def redeclared : List (Registration Unit) := [.path "a" (.type .string), .path "a" (.type .number)]

/-- Both declarations stay in the pipeline, and the table has the last one. -/
theorem exists_path_with_two_steps :
    ¬ ∀ calls : List (Registration Unit),
      (registeredBy calls).pipeline = (registeredBy calls).fields := by
  intro hagree
  have hkinds : ((registeredBy redeclared).pipeline.map fun step => (step.1, step.2.kind)) =
      [("a", .string), ("a", .number)] := rfl
  have htable : ((registeredBy redeclared).fields.map fun step => (step.1, step.2.kind)) =
      [("a", .number)] := rfl
  rw [hagree redeclared, htable] at hkinds
  cases hkinds

end Schema

end DocStore
