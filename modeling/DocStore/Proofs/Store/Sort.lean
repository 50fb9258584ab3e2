import DocStore.Proofs.OrderedMap
import DocStore.Proofs.Script
import DocStore.Proofs.Sort
import DocStore.Store.Cursor
/-!
# Sorting live documents

Reading a live document changes nothing but what it remembers, and what it remembers stays
(`LiveDocument.readWithin_keeps`); a path that was read is known (`LiveDocument.get_learns`). So a
sorted cursor holds copies of its documents in the order of the values that they are left with.
-/

open Std

namespace DocStore

namespace LiveDocument

variable {σ α : Type}

/-! ## What reading keeps -/

/-- The second document is the first one after paths were read. -/
structure Keeps (doc doc' : LiveDocument σ) : Prop where
  copy : doc'.copy = doc.copy
  known (path : String) (found : Option Value) :
    doc.known? path = some found → doc'.known? path = some found

namespace Keeps

theorem refl (doc : LiveDocument σ) : Keeps doc doc := ⟨rfl, fun _ _ h => h⟩

theorem trans {doc doc' doc'' : LiveDocument σ} (h : Keeps doc doc') (h' : Keeps doc' doc'') :
    Keeps doc doc'' :=
  ⟨h'.copy.trans h.copy, fun path found hfound => h'.known path found (h.known path found hfound)⟩

theorem model {doc doc' : LiveDocument σ} (h : Keeps doc doc') : doc'.model = doc.model := by
  have hcopy := h.copy
  rw [LiveDocument.copy, LiveDocument.copy, LiveDocument.mk.injEq] at hcopy
  exact hcopy.1

end Keeps

/-- A reading keeps what its reads keep. -/
theorem run_keeps {read : String → StateM (LiveDocument σ × σ) (Option Value)}
    (hread : ∀ path state, Keeps state.1 (read path state).2.1) (reading : Reading σ α)
    (state : LiveDocument σ × σ) :
    Keeps state.1
      (Script.run (accessBy read fun change _ => Empty.elim change) reading state).2.1 :=
  Script.run_preserves (P := fun t => Keeps state.1 t.1)
    (fun path _ t ht => ht.trans (hread path t))
    (fun change => change.elim) (fun _ _ ht => ht) (.refl state.1)

theorem known?_remember {doc : LiveDocument σ} {path : String} {getter : Getter σ}
    (hgetter : doc.model.schema.getter? path = some getter) (found : Option Value) :
    (doc.remember path found).known? path = some found := by
  have : (doc.remember path found).model.schema.getter? path = some getter := hgetter
  rw [known?, this]
  exact (OrderedMap.get?_insert _ _ _ _).trans (if_pos rfl)

theorem known?_remember_of_ne (doc : LiveDocument σ) {path path' : String} (hne : path' ≠ path)
    (found : Option Value) : (doc.remember path found).known? path' = doc.known? path' := by
  have : (doc.remember path found).model.schema = doc.model.schema := rfl
  rw [known?, known?, this]
  split
  · exact (OrderedMap.get?_insert _ _ _ _).trans (if_neg hne)
  · rfl

/-- What getters may overwrite is only what was not known before. -/
theorem remember_keeps {doc doc' : LiveDocument σ} (h : Keeps doc doc') {path : String}
    (hunknown : doc.known? path = none) (found : Option Value) :
    Keeps doc (doc'.remember path found) where
  copy := h.copy
  known path' found' hfound := by
    have hne : path' ≠ path := fun heq => by
      rw [heq, hunknown] at hfound
      cases hfound
    rw [known?_remember_of_ne _ hne]
    exact h.known path' found' hfound

theorem readWithin_of_known {state : LiveDocument σ × σ} {path : String} {found : Option Value}
    (h : state.1.known? path = some found) (depth : Nat) :
    readWithin depth path state = (found, state) := by
  cases depth <;> simp only [readWithin, h, Option.getD_some]

/-- A path that is not known has a getter. -/
theorem exists_getter_of_unknown {doc : LiveDocument σ} {path : String}
    (h : doc.known? path = none) :
    ∃ getter, doc.model.schema.getter? path = some getter := by
  cases hgetter : doc.model.schema.getter? path with
  | none =>
    rw [known?, hgetter] at h
    cases h
  | some getter => exact ⟨getter, rfl⟩

/-- Reading a path that is not known runs its getter and remembers the value. -/
theorem readWithin_of_unknown {state : LiveDocument σ × σ} {path : String}
    (h : state.1.known? path = none) (depth : Nat) :
    ∃ getter, state.1.model.schema.getter? path = some getter ∧
      ∃ found doc host, Script.run (accessBy (readWithin depth) fun change _ => Empty.elim change)
          getter state = (found, doc, host) ∧
        readWithin (depth + 1) path state = (found, doc.remember path found, host) := by
  obtain ⟨getter, hgetter⟩ := exists_getter_of_unknown h
  refine ⟨getter, hgetter, _, _, _, rfl, ?_⟩
  simp only [readWithin, h, hgetter]

/-- Reading a path keeps the document, however many getters are under way. -/
theorem readWithin_keeps (depth : Nat) (path : String) (state : LiveDocument σ × σ) :
    Keeps state.1 (readWithin depth path state).2.1 := by
  induction depth generalizing path state with
  | zero => exact .refl state.1
  | succ depth ih =>
    cases hknown : state.1.known? path with
    | some found =>
      rw [readWithin_of_known hknown]
      exact .refl state.1
    | none =>
      obtain ⟨getter, -, found, doc, host, hrun, hread⟩ := readWithin_of_unknown hknown depth
      have hkeeps := run_keeps ih getter state
      rw [hrun] at hkeeps
      rw [hread]
      exact remember_keeps hkeeps hknown found

theorem readWithin_known (depth : Nat) (path : String) (state : LiveDocument σ × σ) :
    (readWithin (depth + 1) path state).2.1.known? path =
      some (readWithin (depth + 1) path state).1 := by
  cases hknown : state.1.known? path with
  | some found =>
    rw [readWithin_of_known hknown]
    exact hknown
  | none =>
    obtain ⟨getter, hgetter, found, doc, host, hrun, hread⟩ := readWithin_of_unknown hknown depth
    have hkeeps := run_keeps (readWithin_keeps depth) getter state
    rw [hrun] at hkeeps
    rw [hread]
    rw [← hkeeps.model] at hgetter
    exact known?_remember hgetter found

theorem virtualPaths_ne_nil {schema : Schema σ} {path : String} {getter : Getter σ}
    (h : schema.getter? path = some getter) : schema.virtualPaths ≠ [] := by
  obtain ⟨field, hfield, hgetter⟩ := Option.bind_eq_some_iff.mp h
  refine List.ne_nil_of_mem (List.mem_map_of_mem (List.mem_filter.mpr
    ⟨OrderedMap.mem_of_get? hfield, ?_⟩))
  exact Option.isSome_iff_exists.mpr ⟨getter, hgetter⟩

/-- **A path that was read is known.** -/
theorem read_known (path : String) (state : LiveDocument σ × σ) :
    (read path state).2.1.known? path = some (read path state).1 := by
  rw [read]
  cases hknown : state.1.known? path with
  | some found =>
    rw [readWithin_of_known hknown]
    exact hknown
  | none =>
    obtain ⟨getter, hgetter⟩ := exists_getter_of_unknown hknown
    obtain ⟨depth, hdepth⟩ := Nat.exists_eq_succ_of_ne_zero
      (mt List.length_eq_zero_iff.mp (virtualPaths_ne_nil hgetter))
    rw [hdepth]
    exact readWithin_known depth path state

/-! ## What a document admits -/

/-- A document admits the values of a document of the same data that agree with what it knows. -/
def Admits (doc : LiveDocument σ) (v : LiveDocument σ × (String → Option Value)) : Prop :=
  v.1 = doc.copy ∧ ∀ path found, doc.known? path = some found → v.2 path = found

theorem exists_admits (doc : LiveDocument σ) : ∃ v, doc.Admits v :=
  ⟨(doc.copy, fun path => (doc.known? path).getD none), rfl, fun path found h => by
    simp only [h, Option.getD_some]⟩

theorem Keeps.admits {doc doc' : LiveDocument σ} (h : Keeps doc doc')
    {v : LiveDocument σ × (String → Option Value)} (hv : doc'.Admits v) : doc.Admits v :=
  ⟨hv.1.trans h.copy, fun path found hfound => hv.2 path found (h.known path found hfound)⟩

theorem get_learns (sort : SortOrder σ) :
    SortOrder.Learns (sort.ranking Admits Prod.snd exists_admits) Prod.snd
      (get : String → Visit σ (Option Value)) := by
  intro path doc host
  refine ⟨fun v hv => Keeps.admits (readWithin_keeps _ path (doc, host)) hv, fun v hv => ?_⟩
  exact hv.2 path _ (read_known path (doc, host))

end LiveDocument

namespace Cursor

variable {σ : Type}

open StableSort

theorem sort_of_read (cursor : Cursor σ) {spec : SortSpec} {keys : List SortKey}
    (hread : spec.read = .ok keys) (host : σ) :
    (cursor.sort spec host).1 = .ok (cursor.derive ((cursor.schema.sortOrder keys).sortM
      LiveDocument.get (cursor.documents.map LiveDocument.copy) host).1) := by
  have hprepare : cursor.schema.prepareSort spec = .ok (cursor.schema.sortOrder keys) := by
    rw [Schema.prepareSort, hread]
    rfl
  rw [sort, hprepare]
  rfl

/-- Documents with values that agree with what they know admit them. -/
theorem forall₂_admits {documents : List (LiveDocument σ)}
    {values : LiveDocument σ → String → Option Value}
    (hvalues : ∀ doc ∈ documents, ∀ path found, doc.known? path = some found →
      values doc path = found) :
    List.Forall₂ LiveDocument.Admits documents (documents.map fun doc => (doc.copy, values doc)) :=
  List.forall₂_map_right_iff.mpr (List.forall₂_same.mpr fun doc hdoc => ⟨rfl, hvalues doc hdoc⟩)

theorem map_fst_of_admits {documents : List (LiveDocument σ)}
    {given : List (LiveDocument σ × (String → Option Value))}
    (h : List.Forall₂ LiveDocument.Admits documents given) :
    given.map Prod.fst = documents.map LiveDocument.copy := by
  induction h with
  | nil => rfl
  | cons hv _ ih => rw [List.map_cons, List.map_cons, ih, hv.1]

end Cursor

end DocStore
