import DocStore.Proofs.OrderedMap
import DocStore.Proofs.Schema.Settled
/-!
# The pipelines of nested declarations

`Definition.steps` lists the steps that a declaration registers, and `run_declareAll` says that
declarations append just these. Where names are distinct and free of dots at every level
(`Definition.AllNamed`), two paths lie apart unless one of them is a group and the other one of its
declarations, so the steps are layered, also with the `_id` that every model has
(`layered_ensureId`).
-/

namespace DocStore

variable {σ : Type}

/-! ## Segments of composed paths -/

namespace Path

theorem split_append (p q : List Char) : split (p ++ '.' :: q) = split p ++ split q := by
  induction p with
  | nil => simp [split]
  | cons c p ih =>
    rw [List.cons_append, split, split, ih]
    split
    · rfl
    · rcases hsplit : split p with _ | ⟨segment, rest⟩
      · exact absurd hsplit (split_ne_nil p)
      · rfl

theorem split_of_not_mem {cs : List Char} (h : '.' ∉ cs) : split cs = [cs] := by
  induction cs with
  | nil => rfl
  | cons c cs ih =>
    have hc : c ≠ '.' := fun hc => h (hc ▸ List.mem_cons_self)
    have hcs : '.' ∉ cs := fun hcs => h (List.mem_cons_of_mem c hcs)
    rw [split, if_neg hc, ih hcs]

theorem segments_name {name : String} (h : '.' ∉ name.toList) : segments name = [name] := by
  rw [segments, split_of_not_mem h, List.map_singleton, String.ofList_toList]

/-- Names at the top have nothing above them. -/
theorem segments_top {name : String} (h : '.' ∉ name.toList) :
    segments ("" ++ name) = [] ++ [name] := by
  rw [String.empty_append, segments_name h, List.nil_append]

theorem segments_below {name : String} (path : String) (h : '.' ∉ name.toList) :
    segments (path ++ "." ++ name) = segments path ++ [name] := by
  have hsplit : (path ++ "." ++ name).toList = path.toList ++ '.' :: name.toList := by simp
  rw [segments, hsplit, split_append, List.map_append, split_of_not_mem h, List.map_singleton,
    String.ofList_toList]
  rfl

theorem apart_concat {name name' : String} (h : name ≠ name') (segs : List String) :
    Apart (segs ++ [name]) (segs ++ [name']) := by
  simp [Apart, List.prefix_append_right_inj, h, Ne.symm h]

end Path

/-! ## The steps of a declaration -/

namespace Definition

mutual

/-- The steps that a declaration registers under a path. -/
def steps (path : String) : Definition σ → List (String × Field σ)
  | .nested fields => (path, Field.object path .none) :: stepsAll (path ++ ".") fields
  | definition => [(path, definition.field path)]

/-- The steps of declarations in order, each under its name after a prefix. -/
def stepsAll (pathPrefix : String) : List (String × Definition σ) → List (String × Field σ)
  | [] => []
  | (name, definition) :: rest => steps (pathPrefix ++ name) definition ++ stepsAll pathPrefix rest

end

mutual

/-- Whether the groups of a declaration have distinct names without dots. -/
def WellNamed : Definition σ → Prop
  | .nested fields => AllNamed fields
  | _ => True

/-- Whether names are distinct and free of dots, at every level. -/
def AllNamed : List (String × Definition σ) → Prop
  | [] => True
  | (name, definition) :: rest =>
    '.' ∉ name.toList ∧ name ∉ rest.map Prod.fst ∧ WellNamed definition ∧ AllNamed rest

end

end Definition

namespace Schema

/-- A schema with more steps at the end of its pipeline. -/
def registerAll (schema : Schema σ) (steps : List (String × Field σ)) : Schema σ :=
  { schema with
    fields := schema.fields.insertAll steps
    pipeline := schema.pipeline ++ steps }

theorem registerAll_registerAll (schema : Schema σ) (first second : List (String × Field σ)) :
    (schema.registerAll first).registerAll second = schema.registerAll (first ++ second) := by
  simp [registerAll, OrderedMap.insertAll]

/-- A declaration under a name goes on to what it registers. -/
theorem run_of_named {path : String} {act : ActOn (Schema σ) Unit} {schema declared : Schema σ}
    (h : (do
      if path.isEmpty then throw (.invalidSchema .unnamedPath)
      act : ActOn (Schema σ) Unit).run schema = (.ok (), declared)) :
    act.run schema = (.ok (), declared) := by
  dsimp only at h
  split at h
  · cases h
  · exact h

theorem run_declare_leaf {path : String} {definition : Definition σ}
    (hleaf : ∀ fields, definition = .nested fields → False) {schema declared : Schema σ}
    (h : (declare path definition).run schema = (.ok (), declared)) :
    declared = schema.registerAll (definition.steps path) := by
  rw [declare] at h
  · cases run_of_named h
    rw [Definition.steps]
    · rfl
    · exact hleaf
  · exact hleaf

mutual

/-- A declaration that succeeds appends its steps. -/
theorem run_declare (path : String) {schema declared : Schema σ} :
    ∀ {definition : Definition σ}, (declare path definition).run schema = (.ok (), declared) →
      declared = schema.registerAll (definition.steps path)
  | .nested fields, h => by
    rw [declare] at h
    obtain ⟨⟨⟩, between, hgroup, hfields⟩ := ActOn.bind_eq_ok (run_of_named h)
    cases hgroup
    rw [run_declareAll (path ++ ".") hfields, Definition.steps]
    exact registerAll_registerAll schema [(path, Field.object path .none)] _
  | .type _, h => run_declare_leaf (by rintro _ ⟨⟩) h
  | .typed _ _ _, h => run_declare_leaf (by rintro _ ⟨⟩) h
  | .custom _, h => run_declare_leaf (by rintro _ ⟨⟩) h
  | .list _, h => run_declare_leaf (by rintro _ ⟨⟩) h

/-- Declarations that succeed append their steps in order. -/
theorem run_declareAll (pathPrefix : String) {schema declared : Schema σ} :
    ∀ {fields : List (String × Definition σ)},
      (declareAll pathPrefix fields).run schema = (.ok (), declared) →
      declared = schema.registerAll (Definition.stepsAll pathPrefix fields)
  | [], h => by
    cases h
    simp [registerAll, Definition.stepsAll, OrderedMap.insertAll]
  | (name, definition) :: rest, h => by
    rw [declareAll] at h
    obtain ⟨⟨⟩, between, hfirst, hrest⟩ := ActOn.bind_eq_ok h
    rw [run_declareAll pathPrefix hrest, run_declare (pathPrefix ++ name) hfirst,
      registerAll_registerAll, Definition.stepsAll]

end

/-! ## Nested declarations are layered -/

theorem Layered.append {first second : List (String × Field σ)} (hfirst : Layered first)
    (hsecond : Layered second)
    (hapart : ∀ a ∈ first, ∀ b ∈ second, Path.Apart (Path.segments a.1) (Path.segments b.1)) :
    Layered (first ++ second) :=
  List.pairwise_append.mpr ⟨hfirst, hsecond, fun a ha b hb =>
    ⟨(hapart a ha b hb).2, fun hpre => absurd hpre (hapart a ha b hb).1⟩⟩

mutual

/-- The steps of a declaration lie at its path or below. -/
theorem prefix_of_mem_steps {path : String} {step : String × Field σ} :
    ∀ {definition : Definition σ}, definition.WellNamed → step ∈ definition.steps path →
      Path.segments path <+: Path.segments step.1
  | .nested fields, hnamed, hstep => by
    rw [Definition.steps] at hstep
    rcases List.mem_cons.mp hstep with rfl | hstep
    · exact List.prefix_rfl
    · rw [Definition.WellNamed] at hnamed
      obtain ⟨name, -, hpre⟩ := prefix_of_mem_stepsAll
        (fun name hname => Path.segments_below path hname) hnamed hstep
      exact (List.prefix_append _ _).trans hpre
  | .type _, _, hstep => by
    cases List.mem_singleton.mp hstep
    exact List.prefix_rfl
  | .typed _ _ _, _, hstep => by
    cases List.mem_singleton.mp hstep
    exact List.prefix_rfl
  | .custom _, _, hstep => by
    cases List.mem_singleton.mp hstep
    exact List.prefix_rfl
  | .list _, _, hstep => by
    cases List.mem_singleton.mp hstep
    exact List.prefix_rfl

/-- The steps of declarations lie each below one of their names. -/
theorem prefix_of_mem_stepsAll {pathPrefix : String} {above : List String}
    {step : String × Field σ}
    (hpre : ∀ name : String, '.' ∉ name.toList →
      Path.segments (pathPrefix ++ name) = above ++ [name]) :
    ∀ {fields : List (String × Definition σ)}, Definition.AllNamed fields →
      step ∈ Definition.stepsAll pathPrefix fields →
      ∃ name ∈ fields.map Prod.fst, above ++ [name] <+: Path.segments step.1
  | [], _, hstep => absurd hstep List.not_mem_nil
  | (name, definition) :: rest, hnamed, hstep => by
    rw [Definition.AllNamed] at hnamed
    obtain ⟨hname, -, hhead, htail⟩ := hnamed
    rcases List.mem_append.mp hstep with hstep | hstep
    · refine ⟨name, List.mem_cons_self, ?_⟩
      rw [← hpre name hname]
      exact prefix_of_mem_steps hhead hstep
    · obtain ⟨other, hother, hbelow⟩ := prefix_of_mem_stepsAll hpre htail hstep
      exact ⟨other, List.mem_cons_of_mem _ hother, hbelow⟩

end

theorem layered_singleton (step : String × Field σ) : Layered [step] :=
  List.pairwise_singleton _ step

mutual

theorem layered_steps (path : String) :
    ∀ {definition : Definition σ}, definition.WellNamed → Layered (definition.steps path)
  | .nested fields, hnamed => by
    rw [Definition.WellNamed] at hnamed
    have hpre : ∀ name : String, '.' ∉ name.toList →
        Path.segments (path ++ "." ++ name) = Path.segments path ++ [name] :=
      fun name hname => Path.segments_below path hname
    refine List.pairwise_cons.mpr ⟨fun step hstep => ⟨fun hthrough => ?_, fun _ => ?_⟩,
      layered_stepsAll hpre hnamed⟩
    · obtain ⟨name, -, hbelow⟩ := prefix_of_mem_stepsAll hpre hnamed hstep
      have hlength : (Path.segments path ++ [name]).length ≤ (Path.segments path).length :=
        (hbelow.trans hthrough).length_le
      rw [List.length_append, List.length_singleton] at hlength
      omega
    · exact ⟨path, _, rfl⟩
  | .type _, _ => layered_singleton _
  | .typed _ _ _, _ => layered_singleton _
  | .custom _, _ => layered_singleton _
  | .list _, _ => layered_singleton _

/-- **Declarations under distinct names without dots register layered steps.** -/
theorem layered_stepsAll {pathPrefix : String} {above : List String}
    (hpre : ∀ name : String, '.' ∉ name.toList →
      Path.segments (pathPrefix ++ name) = above ++ [name]) :
    ∀ {fields : List (String × Definition σ)}, Definition.AllNamed fields →
      Layered (Definition.stepsAll pathPrefix fields)
  | [], _ => List.Pairwise.nil
  | (name, definition) :: rest, hnamed => by
    rw [Definition.AllNamed] at hnamed
    obtain ⟨hname, hfresh, hhead, htail⟩ := hnamed
    refine (layered_steps (pathPrefix ++ name) hhead).append (layered_stepsAll hpre htail) ?_
    intro a ha b hb
    have habove := prefix_of_mem_steps hhead ha
    rw [hpre name hname] at habove
    obtain ⟨other, hother, hbelow⟩ := prefix_of_mem_stepsAll hpre htail hb
    have hne : name ≠ other := fun heq => hfresh (heq ▸ hother)
    exact (Path.apart_concat hne above).mono habove hbelow

end

/-- **Declarations from the beginning register layered steps.** -/
theorem layered_declared {fields : List (String × Definition σ)} {declared : Schema σ}
    (hnamed : Definition.AllNamed fields)
    (h : (declareAll "" fields).run Schema.empty = (.ok (), declared)) :
    Layered declared.pipeline := by
  rw [run_declareAll "" h]
  exact layered_stepsAll (fun name hname => Path.segments_top hname) hnamed

/-! ## The path of ids -/

/-- Every declared name is the path of a step. -/
theorem mem_map_stepsAll {pathPrefix name : String} :
    ∀ {fields : List (String × Definition σ)}, name ∈ fields.map Prod.fst →
      pathPrefix ++ name ∈ (Definition.stepsAll pathPrefix fields).map Prod.fst
  | (first, definition) :: rest, h => by
    rw [Definition.stepsAll, List.map_append, List.mem_append]
    rcases List.mem_cons.mp h with rfl | h
    · left
      cases definition with
      | nested fields => exact List.mem_cons_self
      | _ => exact List.mem_singleton_self _
    · exact .inr (mem_map_stepsAll h)

/-- **The steps of a model are layered.** -/
theorem layered_ensureId {fields : List (String × Definition σ)} {declared : Schema σ}
    (hnamed : Definition.AllNamed fields)
    (h : (declareAll "" fields).run Schema.empty = (.ok (), declared)) :
    Layered declared.ensureId.pipeline := by
  have hlayered := layered_declared hnamed h
  rw [run_declareAll "" h] at hlayered ⊢
  rw [ensureId]
  split
  · exact hlayered
  · next habsent =>
    refine hlayered.append (layered_singleton _) fun a ha b hb => ?_
    cases List.mem_singleton.mp hb
    obtain ⟨name, hname, hbelow⟩ :=
      prefix_of_mem_stepsAll (fun name hname => Path.segments_top hname) hnamed ha
    have hne : name ≠ "_id" := by
      rintro rfl
      refine habsent ?_
      rw [OrderedMap.contains_iff_mem_keys]
      exact (OrderedMap.mem_keys_insertAll _ _ _).mpr (.inr (mem_map_stepsAll hname))
    have hid : Path.segments "_id" = ["_id"] := rfl
    rw [hid]
    exact (Path.apart_concat hne []).mono hbelow List.prefix_rfl

theorem setterFree_ensureId {schema : Schema σ} (h : SetterFree schema.pipeline) :
    SetterFree schema.ensureId.pipeline := by
  rw [ensureId]
  split
  · exact h
  · intro step hstep
    rcases List.mem_append.mp hstep with hstep | hstep
    · exact h step hstep
    · cases List.mem_singleton.mp hstep
      rfl

end Schema

end DocStore
