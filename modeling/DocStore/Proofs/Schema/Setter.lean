import DocStore.Proofs.Schema.Settled
import DocStore.Schema.Callable
/-!
# What setters leave behind

The setter of a virtual path changes the document that is being validated. What it writes at the
path of a later step is checked there. What it writes at the path of an earlier step nobody checks,
for the steps run in the order of registration. So in a document that passed a layered pipeline
every path holds a valid value, unless the setter of a later step has taken it away
(`Schema.valid_or_broken_by_setter`), and that can happen (`Schema.exists_setter_that_breaks`).
-/

namespace DocStore

variable {σ : Type}

/-- Storing the parts of a text leaves the other keys. -/
theorem Document.get?_insertParts {first second key : String} (hfirst : key ≠ first)
    (hsecond : key ≠ second) (separator : String) (value : Value) (doc : Document) :
    OrderedMap.get? (Document.insertParts separator first second value doc) key =
      OrderedMap.get? doc key := by
  unfold Document.insertParts
  split
  · split
    · rw [OrderedMap.get?_insert, if_neg hsecond, OrderedMap.get?_insert, if_neg hfirst]
    · rfl
  · rfl

namespace Field

/-- Whether validation gives back a value as it is, an explicit `null` as nothing, and leaves the
data and the session as they are. -/
def Validates (field : Field σ) (value : Option Value) : Prop :=
  ∀ data s, (field.validate value data).run s = (.ok (present value, data), s)

theorem present_of_check_eq_some {field : Field σ} {value : Value}
    (h : field.check (some value) = .ok (some value)) : present (some value) = some value := by
  cases field with
  | scalar path kind options =>
    obtain ⟨found, hfound, -⟩ := check_scalar_eq_some.mp h
    exact hfound.trans (eq_some_of_present hfound).1.symm
  | array path options child =>
    obtain ⟨items, checked, hfound, -, -⟩ := check_array_eq_some.mp h
    exact hfound.trans (eq_some_of_present hfound).1.symm
  | virtual path getter setter => cases h

end Field

namespace Schema

/-- The value of a settled path is valid. -/
theorem Settled.validates {path : String} {field : Field σ} {doc : Document}
    (h : Settled path field doc) (hkind : field.kind ≠ .virtual) :
    field.Validates (doc.get? path) := by
  intro data s
  rcases h with ⟨value, hremoved, hcheck⟩ | ⟨hremoved, hcheck⟩
  · have hget : doc.get? path = some value := Document.descend_of_removedSegments hremoved
    rw [hget, Field.present_of_check_eq_some hcheck]
    exact Field.validate_of_check hcheck data s
  · have habsent : present (doc.get? path) = none :=
      (Field.present_of_check_eq_none hcheck).resolve_left hkind
    rw [habsent]
    exact Field.validate_of_absent habsent hcheck data s

/-- **What passed the checks of a layered schema is valid, but for what setters wrote behind them.**
The value of every path that is not virtual passes its check as it is, unless a setter registered
after the path found it settled and left it unsettled in this very run. -/
theorem valid_or_broken_by_setter {schema : Schema σ} (hlayered : Layered schema.pipeline)
    {data stored : Document} {s s' : Session σ}
    (h : (schema.applySetters data).run s = (.ok stored, s')) {path : String} {field : Field σ}
    (hstep : (path, field) ∈ schema.pipeline) (hkind : field.kind ≠ .virtual) :
    field.Validates (stored.get? path) ∨
      ∃ before later checked t, schema.pipeline = before ++ [(path, field)] ++ later ∧
        (runSteps writeStep (before ++ [(path, field)]) data).run s = (.ok checked, t) ∧
        UnsettledBySetter path field later checked t :=
  (settled_or_unsettled hlayered h hstep).imp_left fun hsettled => hsettled.validates hkind

/-- Whether setters write at paths that are not virtual, above them or below them, and nowhere
else. -/
def SettersWriteDeclared (schema : Schema σ) : Prop :=
  ∀ step ∈ schema.pipeline, ∀ target found,
    (∀ declared ∈ schema.pipeline, declared.2.kind ≠ .virtual →
      Path.Apart (Path.segments declared.1) (Path.segments target)) →
    step.2.SettersKeep fun doc => doc.get? target = found

/-! ## A count that comes with a name -/

def countField : Field Unit := .scalar "count" .number .none

/-- A number and a text, and a virtual path after them whose setter takes both from one text. -/
def itemSchema : Schema Unit :=
  ((Schema.empty.register "count" countField).register "name"
    (.scalar "name" .string .none)).declareVirtual "label" (Getter.joined " " ["count", "name"])
      (some fun value doc => return Document.insertParts " " "count" "name" value doc)

/-- A label that begins with no number. -/
def itemData : Document := [("label", .string "many pears")]

def itemStored : Document := [("count", .string "many"), ("name", .string "pears")]

theorem layered_itemSchema : Layered itemSchema.pipeline := by
  have hpaths : itemSchema.pipeline.map (fun step => Path.segments step.1) =
      [["count"], ["name"], ["label"]] := rfl
  refine layered_of_apart ?_
  rw [hpaths]
  simp [Path.Apart]

theorem applySetters_itemData :
    (itemSchema.applySetters itemData).run .idle = (.ok itemStored, .idle) := rfl

theorem valid_or_broken_by_setter_item :
    (itemSchema.applySetters itemData).run .idle = (.ok itemStored, .idle) ∧
      (countField.Validates (itemStored.get? "count") ∨
        ∃ before later checked t,
          itemSchema.pipeline = before ++ [("count", countField)] ++ later ∧
          (runSteps writeStep (before ++ [("count", countField)]) itemData).run .idle =
            (.ok checked, t) ∧
          UnsettledBySetter "count" countField later checked t) :=
  ⟨applySetters_itemData, valid_or_broken_by_setter layered_itemSchema applySetters_itemData
    List.mem_cons_self (by decide)⟩

theorem settersWriteDeclared_itemSchema : itemSchema.SettersWriteDeclared := by
  intro step hstep target found hapart
  rcases hstep with _ | ⟨_, _ | ⟨_, _ | ⟨_, hstep⟩⟩⟩
  · trivial
  · trivial
  · rintro set ⟨⟩ value doc host hsame
    have hcount := hapart _ List.mem_cons_self (by decide)
    have hname := hapart _ (List.mem_cons_of_mem _ List.mem_cons_self) (by decide)
    rcases hsegs : Path.segments target with _ | ⟨key, rest⟩
    · exact absurd hsegs (Path.segments_ne_nil target)
    · rw [hsegs] at hcount hname
      have hnotCount : key ≠ "count" := by
        rintro rfl
        exact hcount.1 ⟨rest, rfl⟩
      have hnotName : key ≠ "name" := by
        rintro rfl
        exact hname.1 ⟨rest, rfl⟩
      rw [Document.get?, hsegs, Document.descend_cons] at hsame ⊢
      show (OrderedMap.get? (Document.insertParts " " "count" "name" value doc) key).bind _ = _
      rw [Document.get?_insertParts hnotCount hnotName]
      exact hsame
  · cases hstep

/-- A document may pass the checks with a value that does not pass its own. -/
theorem exists_setter_that_breaks :
    ¬ ∀ (schema : Schema Unit) (data stored : Document) (s s' : Session Unit),
      Layered schema.pipeline → schema.SettersWriteDeclared →
      (schema.applySetters data).run s = (.ok stored, s') →
      ∀ step ∈ schema.pipeline, step.2.kind ≠ .virtual → step.2.Validates (stored.get? step.1) := by
  intro hvalid
  have hcount := hvalid itemSchema itemData itemStored .idle .idle layered_itemSchema
    settersWriteDeclared_itemSchema applySetters_itemData _ List.mem_cons_self (by decide) []
    .idle
  cases hcount

end Schema

end DocStore
