import DocStore.Proofs.Number.Whole
import DocStore.Proofs.Schema.Kept
import DocStore.Proofs.Value.RealOrder
/-!
# What an integer path stores of a double

A finite double is read as the 64-bit integer nearest to its whole part
(`Schema.removed?_of_applyGetters_integer`), and that integer is written as it is
(`Schema.removed?_of_applySetters_integer`); the other paths of a layered schema leave both alone.
So the whole part itself is stored just if it is a 64-bit integer (`Schema.integer_stored_iff`).
Nothing refuses the others: of every finite double from `2 ^ 63` on, the greatest 64-bit integer is
stored.
-/

namespace DocStore

variable {σ : Type}

/-! ## Whole parts -/

/-- Whether the whole part of a value is a 64-bit integer, if the value is a finite double. -/
def Value.WholeFits (value : Value) : Prop :=
  ∀ x n, value = .double x → x.truncate? = some n → IsInt64 n

theorem Double.units_of_isIntegral {x : Double} (h : x.isIntegral = true) :
    ∃ n, x.truncate? = some n ∧ x.units = n * unitsPerOne := by
  simp only [isIntegral, Bool.and_eq_true, beq_iff_eq] at h
  obtain ⟨hfinite, hfraction⟩ := h
  have hdvd : (unitsPerOne : Int) ∣ x.units := by
    have hmagnitude : (unitsPerOne : Int) ∣ x.magnitude :=
      Int.natCast_dvd_natCast.mpr (Nat.dvd_of_mod_eq_zero hfraction)
    rw [units]
    split
    · exact (Int.dvd_neg).mpr hmagnitude
    · exact hmagnitude
  refine ⟨x.units.tdiv unitsPerOne, ?_, (Int.tdiv_mul_cancel hdvd).symm⟩
  cases x with
  | finite => rfl
  | _ => cases hfinite

theorem toInt_ofInt_clampInt64 (n : Int) : (Int64.ofInt (clampInt64 n)).toInt = clampInt64 n := by
  obtain ⟨hleast, hgreatest⟩ := isInt64_clampInt64 n
  exact Int64.toInt_ofInt_of_le hleast (Int.lt_add_one_of_le hgreatest)

theorem clampInt64_eq_self_iff {n : Int} : clampInt64 n = n ↔ IsInt64 n := by
  constructor
  · intro h
    rw [← h]
    exact isInt64_clampInt64 n
  · exact clampInt64_of_isInt64

namespace Field

theorem exists_of_kind_integer {field : Field σ} (h : field.kind = .integer) :
    ∃ path options, field = .scalar path .integer options := by
  cases field with
  | scalar path kind options =>
    cases kind <;> cases h
    exact ⟨path, options, rfl⟩
  | array => cases h
  | virtual => cases h

/-- **What an integer field makes of a number equals it just if its whole part is a 64-bit
integer.** -/
theorem order_checkInteger_eq_iff {value stored : Value} (h : checkInteger value = .ok stored) :
    stored.order value = .eq ↔ value.WholeFits := by
  unfold checkInteger at h
  split at h
  · cases h
  · next x hnan hvalue =>
    split at h
    · next hintegral =>
      cases h
      obtain ⟨n, hwhole, hunits⟩ := Double.units_of_isIntegral hintegral
      have hfinite : x.isFinite = true := by
        simp only [Double.isIntegral, Bool.and_eq_true] at hintegral
        exact hintegral.1
      obtain rfl : value = .double x := by
        cases value <;> cases hvalue
        rfl
      have horder : Value.order (.int64 (Int64.ofInt (clampInt64 n))) (.double x) =
          compare (clampInt64 n) n := by
        rw [Value.order_of_ofValue? rfl rfl, Number.totalOrder,
          Number.compareIntDouble_of_isFinite _ hfinite, hunits, Number.compare_mul_unitsPerOne,
          toInt_ofInt_clampInt64]
      rw [Double.clampToInt64_of_truncate? hwhole, horder, Int.compare_eq_eq,
        clampInt64_eq_self_iff]
      constructor
      · rintro hfits _ _ ⟨⟩ hwhole'
        rw [hwhole] at hwhole'
        cases hwhole'
        exact hfits
      · exact fun hfits => hfits x n rfl hwhole
    · cases h
  · next number hnan hfloat hvalue =>
    cases h
    refine iff_of_true ?_ ?_
    · rw [Value.order_of_ofValue? (ofValue?_toValue number) hvalue]
      exact Std.ReflCmp.compare_self
    · rintro x n rfl
      cases hvalue
      exact absurd rfl (hfloat x)
  · cases h

end Field

namespace Schema

/-! ## Other paths -/

section Others

variable {a b : String × Field σ} {doc after : Document} {value : Value} {s s' : Session σ}

theorem not_isObject_of_integer (h : a.2.kind = .integer) : ¬ a.2.IsObject := by
  rintro ⟨path, options, hobject⟩
  rw [hobject] at h
  cases h

/-- What is put at a later path leaves what stands at a path that is no object. -/
theorem removed?_put_later (hover : Over a b) (hleaf : ¬ a.2.IsObject) (stored : Option Value) :
    (doc.put b.1 stored).removed? a.1 = doc.removed? a.1 := by
  rcases hover.cases with hapart | ⟨rest, hrest, hbelow, hobject⟩
  · exact Document.removed?_put_of_apart hapart stored
  · exact absurd hobject hleaf

/-- A later path is read without a change to what stands at a path that is no object. -/
theorem removed?_of_readStep_later (hover : Over a b) (hleaf : ¬ a.2.IsObject)
    (hthere : doc.removed? a.1 = some value)
    (h : (readStep b.1 b.2 doc).run s = (.ok after, s')) : after.removed? a.1 = some value :=
  keeps_of_readStep (P := fun doc => doc.removed? a.1 = some value)
    (fun found => (removed?_put_later hover hleaf (some found)).trans hthere) hthere h

/-- An earlier path is read without a change to what stands: apart from it, or as the document above
it. -/
theorem removed?_of_readStep_earlier (hover : Over a b) (hthere : doc.removed? b.1 = some value)
    (h : (readStep a.1 a.2 doc).run s = (.ok after, s')) : after.removed? b.1 = some value := by
  rcases hover.cases with hapart | ⟨rest, hrest, hbelow, hobject⟩
  · exact keeps_of_readStep (P := fun doc => doc.removed? b.1 = some value)
      (fun found => (Document.removed?_put_of_apart hapart.symm (some found)).trans hthere) hthere h
  · obtain ⟨entries, hget, hset⟩ := exists_document_at_above hrest hbelow hthere
    have hreads : a.2.Reads (doc.get? a.1) (some (.document entries)) := by
      rw [hget]
      exact (given_document hobject entries).1
    rw [run_readStep hreads] at h
    cases h
    exact (congrArg (Document.removed? · b.1) hset).trans hthere

theorem removed?_of_writeStep_later (hover : Over a b) (hleaf : ¬ a.2.IsObject)
    (hspares : b.2.SettersKeep fun doc => doc.removed? a.1 = some value)
    (hthere : doc.removed? a.1 = some value)
    (h : (writeStep b.1 b.2 doc).run s = (.ok after, s')) : after.removed? a.1 = some value := by
  obtain ⟨stored, left, hrun, rfl⟩ := writeStep_eq_ok h
  exact (removed?_put_later hover hleaf stored).trans (Field.validate_keeps hspares hrun hthere)

theorem removed?_of_writeStep_earlier (hover : Over a b)
    (hspares : a.2.SettersKeep fun doc => doc.removed? b.1 = some value)
    (hthere : doc.removed? b.1 = some value)
    (h : (writeStep a.1 a.2 doc).run s = (.ok after, s')) : after.removed? b.1 = some value := by
  rcases hover.cases with hapart | ⟨rest, hrest, hbelow, hobject⟩
  · obtain ⟨stored, left, hrun, rfl⟩ := writeStep_eq_ok h
    exact (Document.removed?_put_of_apart hapart.symm stored).trans
      (Field.validate_keeps hspares hrun hthere)
  · obtain ⟨entries, hget, hset⟩ := exists_document_at_above hrest hbelow hthere
    have hfree : a.2.hasSetter = false := by
      obtain ⟨path, options, hfield⟩ := hobject
      rw [hfield]
      rfl
    obtain ⟨stored, hcheck, rfl⟩ := check_of_writeStep hfree h
    rw [hget, hobject.check_document] at hcheck
    cases hcheck
    exact (congrArg (Document.removed? · b.1) hset).trans hthere

end Others

/-! ## The path itself -/

section Own

variable {a : String × Field σ} {doc after : Document} {s s' : Session σ}

/-- A finite double is read as the 64-bit integer nearest to its whole part. -/
theorem toInteger_of_truncate? {x : Double} {n : Int} (h : x.truncate? = some n) :
    (Value.double x).toInteger = .ofInt (clampInt64 n) := by
  have hfinite : x.isFinite = true := by
    cases x with
    | finite => rfl
    | _ => cases h
  simp only [Value.toInteger, Value.toNumber, hfinite, if_true]
  rw [Double.clampToInt64_of_truncate? h]

theorem removed?_of_readStep_integer (hkind : a.2.kind = .integer) {x : Double} {n : Int}
    (hwhole : x.truncate? = some n) (hthere : doc.removed? a.1 = some (.double x))
    (h : (readStep a.1 a.2 doc).run s = (.ok after, s')) :
    after.removed? a.1 = some (.ofInt (clampInt64 n)) := by
  obtain ⟨path, options, hfield⟩ := Field.exists_of_kind_integer hkind
  have hget : doc.get? a.1 = some (.double x) := Document.descend_of_removedSegments hthere
  have hreads : a.2.Reads (doc.get? a.1) (some (.ofInt (clampInt64 n))) := by
    rw [hfield, hget]
    refine Field.reads_scalar (fun s => by rw [options.fill_of_present rfl]; rfl) ?_
    rw [Field.castScalar, toInteger_of_truncate? hwhole]
  rw [run_readStep hreads] at h
  cases h
  exact Document.removedSegments_setSegments _ doc (Path.segments_ne_nil a.1)

theorem removed?_of_writeStep_integer (hkind : a.2.kind = .integer) {n : Int64}
    (hthere : doc.removed? a.1 = some (.int64 n))
    (h : (writeStep a.1 a.2 doc).run s = (.ok after, s')) :
    after.removed? a.1 = some (.int64 n) := by
  obtain ⟨path, options, hfield⟩ := Field.exists_of_kind_integer hkind
  have hfree : a.2.hasSetter = false := by rw [hfield]; rfl
  obtain ⟨stored, hcheck, rfl⟩ := check_of_writeStep hfree h
  have hget : doc.get? a.1 = some (.int64 n) := Document.descend_of_removedSegments hthere
  have hown : a.2.check (some (.int64 n)) = .ok (some (.int64 n)) := by
    rw [hfield]
    rfl
  rw [hget, hown] at hcheck
  cases hcheck
  exact Document.removedSegments_setSegments _ doc (Path.segments_ne_nil a.1)

end Own

/-! ## Runs -/

section Runs

variable {schema : Schema σ} {path : String} {field : Field σ} {doc after : Document}
  {s s' : Session σ}

/-- Reading makes of a finite double the 64-bit integer nearest to its whole part. -/
theorem removed?_of_applyGetters_integer (hlayered : Layered schema.pipeline)
    (hstep : (path, field) ∈ schema.pipeline) (hkind : field.kind = .integer) {x : Double} {n : Int}
    (hwhole : x.truncate? = some n) (hthere : doc.removed? path = some (.double x))
    (h : (schema.applyGetters doc).run s = (.ok after, s')) :
    after.removed? path = some (.ofInt (clampInt64 n)) := by
  refine runSteps_turns (R := Over)
    (P := fun a doc => a = (path, field) → doc.removed? path = some (.double x))
    (Q := fun a doc => a = (path, field) → doc.removed? path = some (.ofInt (clampInt64 n)))
    ?_ ?_ ?_ hlayered (fun _ _ _ => hthere) h _ hstep rfl
  · rintro a b doc after s s' hover hthere hread rfl
    exact removed?_of_readStep_earlier (b := (path, field)) hover (hthere rfl) hread
  · rintro a doc after s s' hthere hread rfl
    exact removed?_of_readStep_integer (a := (path, field)) hkind hwhole (hthere rfl) hread
  · rintro a b doc after s s' hover hthere hread rfl
    exact removed?_of_readStep_later (a := (path, field)) hover (not_isObject_of_integer hkind)
      (hthere rfl) hread

/-- Writing leaves a 64-bit integer as it is. -/
theorem removed?_of_applySetters_integer (hlayered : Layered schema.pipeline)
    (hstep : (path, field) ∈ schema.pipeline) (hkind : field.kind = .integer) {n : Int64}
    (hspares : ∀ step ∈ schema.pipeline,
      step.2.SettersKeep fun doc => doc.removed? path = some (.int64 n))
    (hthere : doc.removed? path = some (.int64 n))
    (h : (schema.applySetters doc).run s = (.ok after, s')) :
    after.removed? path = some (.int64 n) := by
  let Spares := fun step : String × Field σ =>
    step.2.SettersKeep fun doc => doc.removed? path = some (.int64 n)
  have hpairs : schema.pipeline.Pairwise fun a b => Over a b ∧ Spares a ∧ Spares b :=
    List.Pairwise.imp_of_mem (fun ha hb hover => ⟨hover, hspares _ ha, hspares _ hb⟩) hlayered
  refine runSteps_turns
    (P := fun a doc => a = (path, field) → doc.removed? path = some (.int64 n))
    (Q := fun a doc => a = (path, field) → doc.removed? path = some (.int64 n))
    ?_ ?_ ?_ hpairs (fun _ _ _ => hthere) h _ hstep rfl
  · rintro a b doc after s s' ⟨hover, hspares, -⟩ hthere hwrite rfl
    exact removed?_of_writeStep_earlier (b := (path, field)) hover hspares (hthere rfl) hwrite
  · rintro a doc after s s' hthere hwrite rfl
    exact removed?_of_writeStep_integer (a := (path, field)) hkind (hthere rfl) hwrite
  · rintro a b doc after s s' ⟨hover, -, hspares⟩ hthere hwrite rfl
    exact removed?_of_writeStep_later (a := (path, field)) hover
      (not_isObject_of_integer hkind) hspares (hthere rfl) hwrite

end Runs

/-- **An integer path stores the whole part of a double just if that is a 64-bit integer.** Reading
and writing a document with a finite double at the path store the 64-bit integer nearest to its
whole part, if they succeed; and what validation alone makes of a number equals that number just if
its whole part fits. The schema is layered, and its setters leave integers at the path alone. -/
theorem integer_stored_iff {schema : Schema σ} {path : String} {field : Field σ}
    (hlayered : Layered schema.pipeline) (hstep : (path, field) ∈ schema.pipeline)
    (hkind : field.kind = .integer)
    (hspares : ∀ step ∈ schema.pipeline, ∀ n,
      step.2.SettersKeep fun doc => doc.removed? path = some (.int64 n)) :
    (∀ (doc read stored : Document) (x : Double) (n : Int) (s s' t t' : Session σ),
      x.truncate? = some n →
      (schema.applyGetters (doc.set path (.double x))).run s = (.ok read, s') →
      (schema.applySetters read).run t = (.ok stored, t') →
      stored.get? path = some (.ofInt (clampInt64 n)) ∧
      ((∃ m, stored.get? path = some (.int64 m) ∧ m.toInt = n) ↔ IsInt64 n)) ∧
    ∀ (value : Value) (number : Number) (data left : Document) (result : Option Value)
      (s s' : Session σ), Number.ofValue? value = some number →
      (field.validate (some value) data).run s = (.ok (result, left), s') →
      ∃ stored, result = some stored ∧ (stored.order value = .eq ↔ value.WholeFits) := by
  refine ⟨fun doc read stored x n s s' t t' hwhole hread hwrite => ?_,
    fun value number data left result s s' hnumber hrun => ?_⟩
  · have hset : (doc.set path (.double x)).removed? path = some (.double x) :=
      Document.removedSegments_setSegments _ doc (Path.segments_ne_nil path)
    have hint := removed?_of_applyGetters_integer hlayered hstep hkind hwhole hset hread
    have hthere := removed?_of_applySetters_integer hlayered hstep hkind
      (fun step hstep => hspares step hstep _) hint hwrite
    have hget : stored.get? path = some (.ofInt (clampInt64 n)) :=
      Document.descend_of_removedSegments hthere
    refine ⟨hget, ?_⟩
    rw [hget, ← clampInt64_eq_self_iff]
    constructor
    · rintro ⟨m, hm, hexact⟩
      cases hm
      exact (toInt_ofInt_clampInt64 n).symm.trans hexact
    · intro hexact
      exact ⟨_, rfl, (toInt_ofInt_clampInt64 n).trans hexact⟩
  · have hcheck := Field.check_of_validate hrun
    obtain ⟨own, options, rfl⟩ := Field.exists_of_kind_integer hkind
    have hpresent : present (some value) = some value := by
      cases value <;> cases hnumber <;> rfl
    cases result with
    | none =>
      rcases Field.present_of_check_eq_none hcheck with hvirtual | habsent
      · cases hvirtual
      · rw [hpresent] at habsent
        cases habsent
    | some stored =>
      obtain ⟨found, hfound, hscalar⟩ := Field.check_scalar_eq_some.mp hcheck
      rw [hpresent] at hfound
      cases hfound
      exact ⟨stored, rfl, Field.order_checkInteger_eq_iff hscalar⟩

/-! ### A tally -/

def tallyField : Field Unit := .scalar "tally" .integer .none

/-- One integer path. -/
def tallySchema : Schema Unit := Schema.empty.register "tally" tallyField

theorem layered_tallySchema : Layered tallySchema.pipeline := List.pairwise_singleton _ _

theorem settersKeep_tallySchema (P : Document → Prop) :
    ∀ step ∈ tallySchema.pipeline, step.2.SettersKeep P := by
  intro step hstep
  cases List.mem_singleton.mp hstep
  trivial

theorem truncate?_int64Limit : Number.int64Limit.truncate? = some (int64Greatest + 1) := by
  decide +kernel

/-- The first double past the 64-bit integers is read as the greatest of them. -/
theorem applyGetters_tallySchema :
    (tallySchema.applyGetters (Document.set [] "tally" (.double Number.int64Limit))).run .idle =
      (.ok [("tally", .int64 Int64.maxValue)], .idle) := rfl

theorem applySetters_tallySchema :
    (tallySchema.applySetters [("tally", .int64 Int64.maxValue)]).run .idle =
      (.ok [("tally", .int64 Int64.maxValue)], .idle) := rfl

theorem integer_stored_iff_tally :
    (Document.get? [("tally", .int64 Int64.maxValue)] "tally" =
        some (.ofInt (clampInt64 (int64Greatest + 1))) ∧
      ((∃ m, Document.get? [("tally", .int64 Int64.maxValue)] "tally" = some (.int64 m) ∧
        m.toInt = int64Greatest + 1) ↔ IsInt64 (int64Greatest + 1))) ∧
    ∃ stored, some (Value.int64 7) = some stored ∧
      (stored.order (.int32 7) = .eq ↔ (Value.int32 7).WholeFits) := by
  obtain ⟨hstored, hvalidated⟩ := integer_stored_iff layered_tallySchema
    (List.mem_singleton_self ("tally", tallyField)) rfl fun step hstep n =>
      settersKeep_tallySchema _ step hstep
  exact ⟨hstored [] _ _ _ _ _ _ _ _ truncate?_int64Limit applyGetters_tallySchema
      applySetters_tallySchema, hvalidated (.int32 7) (.int 7) [] [] _ .idle .idle rfl rfl⟩

/-- The integer that is stored of a finite double may differ from its whole part. -/
theorem exists_double_stored_as_another_number :
    ¬ ∀ (x : Double) (n : Int) (read stored : Document), x.truncate? = some n →
      (tallySchema.applyGetters (Document.set [] "tally" (.double x))).run .idle =
        (.ok read, .idle) →
      (tallySchema.applySetters read).run .idle = (.ok stored, .idle) →
      ∃ m, stored.get? "tally" = some (.int64 m) ∧ m.toInt = n := by
  intro hexact
  obtain ⟨m, -, hm⟩ := hexact _ _ _ _ truncate?_int64Limit applyGetters_tallySchema
    applySetters_tallySchema
  have hlt : m.toInt < 2 ^ 63 := m.toInt_lt
  simp only [int64Greatest] at hm
  omega

end Schema

end DocStore
