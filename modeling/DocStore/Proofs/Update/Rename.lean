import DocStore.Proofs.Value.Path
import DocStore.Store.Model
/-!
# Renaming

Renaming `source` to `target` writes the value found at the source to the target and then removes
the source, in every kind of field and whatever the schema declares. Between paths that are apart
this moves the value (`get?_set_remove_of_apart`). Where the source leads to the target or past it,
the removal takes the moved value with it; where the target leads to the source, it takes what the
moved value itself holds below (`get?_set_remove_target_iff`). In particular a path renamed to
itself is lost (`exists_rename_that_loses`).
-/

namespace DocStore

variable {σ : Type}

namespace Document

/-! ### The source removed after the target is written -/

/-- What is written below a path, or at it, is removed with the path. -/
theorem exists_removed?_set_below {path target : String}
    (h : Path.segments path <+: Path.segments target) (doc : Document) (value : Value) :
    ∃ found, (doc.set target value).removed? path = some found := by
  have hpath := Path.segments_ne_nil path
  obtain ⟨rest, hrest⟩ := h
  rw [removed?, set, ← hrest]
  rcases rest with _ | ⟨key, rest⟩
  · rw [List.append_nil]
    exact ⟨_, removedSegments_setSegments value doc hpath⟩
  · rw [setSegments_append (List.cons_ne_nil _ _) value doc hpath]
    exact ⟨_, removedSegments_setSegments _ doc hpath⟩

theorem get?_set_remove_below {source target : String}
    (h : Path.segments source <+: Path.segments target) (doc : Document) (value : Value) :
    ((doc.set target value).remove source).get? target = none := by
  obtain ⟨found, hfound⟩ := exists_removed?_set_below h doc value
  obtain ⟨rest, hrest⟩ := h
  have hgone : ((doc.set target value).remove source).get? source = none :=
    descend_removeSegments_of_removedSegments hfound
  rw [get?_eq_bind hrest, hgone, Option.bind_none]

/-- Between paths apart the value moves. -/
theorem get?_set_remove_of_apart {doc : Document} {source target : String} {value : Value}
    (h : Path.Apart (Path.segments source) (Path.segments target))
    (hfound : doc.removed? source = some value) :
    ((doc.set target value).remove source).get? target = some value ∧
      ((doc.set target value).remove source).get? source = none := by
  constructor
  · exact (descend_removeSegments_of_apart _ h).trans (get?_set_self doc target value)
  · have hkept : (doc.set target value).removed? source = some value :=
      (removedSegments_setSegments_of_apart value doc h.symm).trans hfound
    exact descend_removeSegments_of_removedSegments hkept

/-- Removing changes a document where it finds something. -/
theorem removeSegments_eq_self_iff {segs : List String} {doc : Document} :
    removeSegments segs doc = doc ↔ removedSegments segs doc = none := by
  refine ⟨fun h => ?_, removeSegments_of_removedSegments⟩
  rw [← h]
  exact removedSegments_removeSegments segs doc

/-- Below the target, the removal goes on in the value itself. -/
theorem get?_set_remove_above {source target : String} {rest : List String} (hrest : rest ≠ [])
    (h : Path.segments target ++ rest = Path.segments source) (doc : Document) (value : Value) :
    ((doc.set target value).remove source).get? target =
      match value.asDocument? with
      | some entries => some (.document (removeSegments rest entries))
      | none => some value := by
  have htarget := Path.segments_ne_nil target
  have hwritten := removedSegments_setSegments value doc htarget
  have hat : documentAt? (Path.segments target) (doc.set target value) = value.asDocument? := by
    rw [documentAt?, set, hwritten, Option.bind_some]
  rw [remove, ← h, removeSegments_append hrest _ htarget, hat]
  cases value.asDocument? with
  | some entries => exact get?_set_self _ target _
  | none => exact get?_set_self doc target value

/-- The target holds the value afterwards unless the source leads to the target, or leads on from it
to something in the value. -/
theorem get?_set_remove_target_iff (doc : Document) (source target : String) (value : Value) :
    ((doc.set target value).remove source).get? target = some value ↔
      ¬ Path.segments source <+: Path.segments target ∧
        ∀ rest entries, Path.segments target ++ rest = Path.segments source →
          value = .document entries → removedSegments rest entries = none := by
  by_cases hbelow : Path.segments source <+: Path.segments target
  · simp [get?_set_remove_below hbelow, hbelow]
  by_cases habove : Path.segments target <+: Path.segments source
  · obtain ⟨rest, hrest⟩ := habove
    have hne : rest ≠ [] := by
      rintro rfl
      rw [List.append_nil] at hrest
      exact hbelow (hrest ▸ List.prefix_rfl)
    have hunique : ∀ rest', Path.segments target ++ rest' = Path.segments source ↔
        rest' = rest := by
      intro rest'
      rw [← hrest, List.append_cancel_left_eq]
    rw [get?_set_remove_above hne hrest]
    simp only [hbelow, not_false_eq_true, true_and, hunique]
    cases value with
    | document entries => simp [Value.asDocument?, removeSegments_eq_self_iff]
    | _ => simp [Value.asDocument?]
  · have hmoved : ((doc.set target value).remove source).get? target = some value :=
      (descend_removeSegments_of_apart _ ⟨hbelow, habove⟩).trans (get?_set_self doc target value)
    refine iff_of_true hmoved ⟨hbelow, fun rest _ hrest => ?_⟩
    exact absurd ⟨rest, hrest⟩ habove

end Document

/-! ### The operator -/

namespace Field

theorem contains_rename_updateOperators (field : Field σ) :
    field.updateOperators.contains .rename = true := by
  cases field with
  | scalar path kind options => cases kind <;> rfl
  | _ => rfl

/-- Renaming is the same in every field. -/
theorem update_rename (field : Field σ) (value : Option Value) (argument : Value)
    (data : Document) :
    field.update .rename value argument data =
      updateGeneric field.path .rename value argument data := by
  cases field with
  | scalar path kind options => cases kind <;> rfl
  | _ => rfl

end Field

namespace Schema

/-- The update that renames one path. -/
def renameUpdate (source target : String) : Document :=
  [("$rename", .document [(source, .string target)])]

theorem prepareUpdate_renameUpdate (schema : Schema σ) (source target : String) :
    schema.prepareUpdate (.document (renameUpdate source target)) =
      .ok ⟨[(.operator source .rename (.string target), schema.fieldOrMixed source)]⟩ := by
  have hparse : Mutation.parse (renameUpdate source target) =
      .ok [.operator source .rename (.string target)] := rfl
  have hresolve : schema.compileMutation (.operator source .rename (.string target)) =
      .ok (.operator source .rename (.string target), schema.fieldOrMixed source) :=
    if_pos (Field.contains_rename_updateOperators _)
  rw [prepareUpdate, hparse]
  change schema.compileUpdate _ = _
  rw [compileUpdate, List.mapM_cons, hresolve, List.mapM_nil]
  rfl

/-- Applying it writes the present value at the target and removes the source. -/
theorem apply_renameUpdate (field : Field σ) {source target : String} {doc : Document}
    {value : Value} (hvalue : doc.get? source = some value)
    (hpresent : present (some value) = some value) :
    CompiledUpdate.apply ⟨[(.operator source .rename (.string target), field)]⟩ doc =
      .ok ((doc.set target value).remove source) := by
  have hupdate : field.update .rename (doc.get? source) (.string target) doc =
      .ok (none, doc.set target value) := by
    rw [Field.update_rename, Field.updateGeneric, hvalue, hpresent]
  rw [CompiledUpdate.apply, List.foldlM_cons, CompiledUpdate.applyStep, hupdate]
  rfl

/-- **Renaming moves a value between paths apart, and loses it exactly when the source leads to the
target, or the target leads to the source and the value has something where the source leads on.**
In every schema and document, for a present value that the source leads to through documents. -/
theorem rename_moves_iff (schema : Schema σ) {doc : Document} {source target : String}
    {value : Value} (hfound : doc.removed? source = some value)
    (hpresent : present (some value) = some value) :
    ∃ update renamed,
      schema.prepareUpdate (.document (renameUpdate source target)) = .ok update ∧
      update.apply doc = .ok renamed ∧
      (Path.Apart (Path.segments source) (Path.segments target) →
        renamed.get? target = some value ∧ renamed.get? source = none) ∧
      (renamed.get? target = some value ↔
        ¬ Path.segments source <+: Path.segments target ∧
          ∀ rest entries, Path.segments target ++ rest = Path.segments source →
            value = .document entries → Document.removedSegments rest entries = none) :=
  have hvalue : doc.get? source = some value := Document.descend_of_removedSegments hfound
  ⟨_, _, schema.prepareUpdate_renameUpdate source target, apply_renameUpdate _ hvalue hpresent,
    fun hapart => Document.get?_set_remove_of_apart hapart hfound,
    Document.get?_set_remove_target_iff doc source target value⟩

/-- A schema that declares a title. -/
def titleSchema : Schema Unit := empty.register "title" (.scalar "title" .string .none)

theorem rename_moves_iff_title :
    ∃ update renamed,
      titleSchema.prepareUpdate (.document (renameUpdate "title" "name")) = .ok update ∧
      update.apply [("title", .string "a")] = .ok renamed ∧
      renamed.get? "name" = some (.string "a") ∧
      renamed.get? "title" = none := by
  have hapart : Path.Apart (Path.segments "title") (Path.segments "name") :=
    ⟨by decide, by decide⟩
  obtain ⟨update, renamed, hprepare, happly, hmoved, -⟩ :=
    @rename_moves_iff Unit titleSchema [("title", .string "a")] "title" "name" (.string "a") rfl rfl
  exact ⟨update, renamed, hprepare, happly, hmoved hapart⟩

/-- A present value that is nowhere after its path is renamed to itself. -/
theorem exists_rename_that_loses :
    ∃ update, titleSchema.prepareUpdate (.document (renameUpdate "title" "title")) = .ok update ∧
      update.apply [("title", .string "a")] = .ok [] ∧
      Document.get? [] "title" ≠ some (.string "a") := by
  have hgone : Document.get? [] "title" = none := rfl
  refine ⟨_, titleSchema.prepareUpdate_renameUpdate _ _, ?_, by simp [hgone]⟩
  rw [apply_renameUpdate _ rfl rfl]
  rfl

end Schema

end DocStore
