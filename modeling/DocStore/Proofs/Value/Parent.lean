import DocStore.Proofs.OrderedMap
import DocStore.Proofs.Value.Lens
/-!
# Writing and taking back

A path is `Parented` in a document when every path above it leads to a document, so that writing
there makes no new levels. What leads somewhere is parented (`parented_of_removedSegments`), and
stays so when something is written or removed at a path that is not above it (`Parented.put`).

Writing at a parented path that leads nowhere and removing it again gives the document back
(`removeSegments_setSegments`). What is put at a path that leads somewhere commutes with a write at
a path apart (`put_set_comm`), and is not seen there (`get?_put_of_apart`).
-/

namespace DocStore

namespace OrderedMap

variable {α : Type}

theorem erase_insert_of_ne {key key' : String} (hne : key' ≠ key) (map : OrderedMap α) (value : α) :
    erase (insert map key' value) key = insert (erase map key) key' value := by
  induction map with
  | nil => simp [insert, erase, hne]
  | cons entry rest ih =>
    unfold erase at ih ⊢
    by_cases hkey : entry.1 = key
    · have hother : entry.1 ≠ key' := fun heq => hne (heq.symm.trans hkey)
      rw [insert, if_neg hother, List.filter_cons_of_neg (by simp [hkey]),
        List.filter_cons_of_neg (by simp [hkey]), ih]
    · by_cases hkey' : entry.1 = key'
      · rw [insert, if_pos hkey', List.filter_cons_of_pos (by simp [hkey]),
          List.filter_cons_of_pos (by simp [hkey]), insert, if_pos hkey']
      · rw [insert, if_neg hkey', List.filter_cons_of_pos (by simp [hkey]),
          List.filter_cons_of_pos (by simp [hkey]), insert, if_neg hkey', ih]

theorem erase_insert_of_get? {map : OrderedMap α} {key : String} (h : get? map key = none)
    (value : α) : erase (insert map key value) key = map := by
  have hfresh : key ∉ map.keys := by
    rw [← contains_iff_mem_keys, contains, h]
    exact Bool.false_ne_true
  have hsame : erase map key = map := erase_of_get? h
  unfold erase at hsame ⊢
  rw [insert_of_not_mem value hfresh, List.filter_append, hsame]
  simp

end OrderedMap

namespace Document

/-! ## Documents above a path -/

/-- Whether every path above a path leads to a document. -/
def Parented (path : List String) (doc : Document) : Prop :=
  ∀ above, above <+: path → above ≠ path → above ≠ [] →
    ∃ entries, removedSegments above doc = some (.document entries)

theorem parented_of_removedSegments {path : List String} {doc : Document} {value : Value}
    (h : removedSegments path doc = some value) : Parented path doc :=
  fun _ habove hne hnil => exists_document_above habove hne hnil h

/-- What leads to a document does so after a write or a removal at a path that is not above it. -/
theorem exists_document_put {above : List String} {path : String} {doc : Document}
    (hnil : above ≠ []) (hnot : ¬ Path.segments path <+: above)
    (h : ∃ entries, removedSegments above doc = some (.document entries)) (stored : Option Value) :
    ∃ entries, removedSegments above (doc.put path stored) = some (.document entries) := by
  by_cases hbelow : above <+: Path.segments path
  · have hne : above ≠ Path.segments path := fun heq => hnot (heq ▸ List.prefix_rfl)
    cases stored with
    | some value => exact removedSegments_setSegments_below hbelow hne hnil value doc
    | none =>
      obtain ⟨rest, hrest⟩ := hbelow
      have hrestne : rest ≠ [] := by
        rintro rfl
        exact hne (by rw [← hrest, List.append_nil])
      obtain ⟨entries, hentries⟩ := h
      have hat : documentAt? above doc = some entries := by
        rw [documentAt?, hentries]
        rfl
      rw [put, remove, ← hrest, removeSegments_append hrestne doc hnil, hat]
      exact ⟨_, removedSegments_setSegments _ doc hnil⟩
  · have hapart : Path.Apart (Path.segments path) above := ⟨hnot, hbelow⟩
    have hsame : removedSegments above (doc.put path stored) = removedSegments above doc := by
      cases stored with
      | some value => exact removedSegments_setSegments_of_apart value doc hapart
      | none => exact removedSegments_removeSegments_of_apart doc hapart
    rwa [hsame]

theorem Parented.put {path : List String} {other : String} {doc : Document}
    (h : Parented path doc) (hnot : Path.segments other <+: path → Path.segments other = path)
    (stored : Option Value) : Parented path (doc.put other stored) := by
  intro above habove hne hnil
  refine exists_document_put hnil (fun hover => ?_) (h above habove hne hnil) stored
  have hsame := hnot (hover.trans habove)
  exact hne (habove.eq_of_length_le (hsame ▸ hover.length_le))

theorem Parented.below {key : String} {rest : List String} {doc : Document}
    (h : Parented (key :: rest) doc) (hrest : rest ≠ []) :
    ∃ entries, OrderedMap.get? doc key = some (.document entries) ∧ Parented rest entries := by
  obtain ⟨entries, hentries⟩ := h [key] (by simp) (by simpa using hrest.symm) (by simp)
  refine ⟨entries, hentries, fun above habove hne hnil => ?_⟩
  obtain ⟨found, hfound⟩ := h (key :: above) (List.cons_prefix_cons.mpr ⟨rfl, habove⟩)
    (by simpa using hne) (List.cons_ne_nil _ _)
  rw [removedSegments_cons hnil, inner_of_get? hentries] at hfound
  exact ⟨found, hfound⟩

/-- What is written where nothing was and makes no levels is taken back by a removal. -/
theorem removeSegments_setSegments (value : Value) :
    ∀ {path : List String} {doc : Document}, removedSegments path doc = none → Parented path doc →
      removeSegments path (setSegments path value doc) = doc
  | [], _, _, _ => rfl
  | [key], _, hnone, _ => OrderedMap.erase_insert_of_get? hnone value
  | key :: next :: rest, doc, hnone, hparented => by
    have hrest : next :: rest ≠ [] := List.cons_ne_nil _ _
    obtain ⟨entries, hget, hbelow⟩ := hparented.below hrest
    rw [removedSegments_cons hrest, inner_of_get? hget] at hnone
    rw [setSegments_cons hrest, removeSegments_cons hrest, OrderedMap.get?_insert, if_pos rfl,
      inner_of_get? hget]
    dsimp only [Option.bind_some, Value.asDocument?]
    rw [removeSegments_setSegments value hnone hbelow, OrderedMap.insert_insert,
      OrderedMap.insert_of_get? hget]

/-! ## Two paths apart -/

/-- A removal that takes something away commutes with a write at a path apart. -/
theorem removeSegments_setSegments_comm {x : Value} (w : Value) :
    ∀ {p q : List String} {doc : Document}, Path.Apart p q → removedSegments p doc = some x →
      removeSegments p (setSegments q w doc) = setSegments q w (removeSegments p doc)
  | [], _, _, h, _ => absurd rfl h.ne_nil_left
  | _ :: _, [], _, h, _ => absurd rfl h.ne_nil_right
  | key :: p, key' :: q, doc, h, hpresent => by
    by_cases hkey : key' = key
    · subst hkey
      have hbelow := Path.apart_cons_iff.mp h
      have hp := hbelow.ne_nil_left
      obtain ⟨entries, hget, hinner⟩ := exists_document_of_removedSegments hp hpresent
      rw [setSegments_cons hbelow.ne_nil_right, setSegments_cons hbelow.ne_nil_right,
        removeSegments_cons hp, removeSegments_cons hp, hget, OrderedMap.get?_insert, if_pos rfl,
        inner_of_get? hget]
      dsimp only [Option.bind_some, Value.asDocument?]
      rw [inner_insert_document, removeSegments_setSegments_comm w hbelow hinner,
        OrderedMap.insert_insert, OrderedMap.insert_insert]
    · obtain ⟨written, hwritten⟩ := exists_setSegments_eq_insert key' q w
      rw [hwritten, hwritten]
      rcases p with _ | ⟨next, rest⟩
      · have hinner : inner (OrderedMap.erase doc key) key' = doc.inner key' := by
          rw [inner, OrderedMap.get?_erase, if_neg hkey, inner]
        rw [removeSegments, removeSegments, OrderedMap.erase_insert_of_ne hkey, hinner]
      · have hrest : next :: rest ≠ [] := List.cons_ne_nil _ _
        have hmem : key ∈ OrderedMap.keys doc := mem_keys_of_removedSegments hpresent
        obtain ⟨entries, hget, -⟩ := exists_document_of_removedSegments hrest hpresent
        rw [removeSegments_cons hrest, removeSegments_cons hrest, OrderedMap.get?_insert,
          if_neg (Ne.symm hkey), hget]
        dsimp only [Option.bind_some, Value.asDocument?]
        rw [inner_insert_of_ne hkey, OrderedMap.insert_comm hkey hmem]

/-- **What is put at a path that leads somewhere commutes with a write at a path apart.** -/
theorem put_set_comm {path other : String} {doc : Document} {x : Value}
    (h : Path.Apart (Path.segments path) (Path.segments other))
    (hthere : doc.removed? path = some x) (stored : Option Value) (w : Value) :
    (doc.set other w).put path stored = (doc.put path stored).set other w := by
  cases stored with
  | some v => exact (setSegments_comm v w h hthere).symm
  | none => exact removeSegments_setSegments_comm w h hthere

/-- Where a path leads somewhere, a write there takes no list away. -/
theorem descend_setSegments_of_removedSegments {x : Value} (value : Value) {p q : List String}
    {doc : Document} (h : Path.Apart p q) (hthere : removedSegments p doc = some x) :
    Value.descend q (.document (setSegments p value doc)) = Value.descend q (.document doc) :=
  descend_setSegments_of_listFreeAbove value h
    (documentsAbove_of_removedSegments hthere).listFreeAbove

/-- What is put at a path that leads somewhere is not seen at a path apart. -/
theorem get?_put_of_apart {path other : String} {doc : Document} {x : Value}
    (h : Path.Apart (Path.segments path) (Path.segments other))
    (hthere : doc.removed? path = some x) (stored : Option Value) :
    (doc.put path stored).get? other = doc.get? other := by
  cases stored with
  | some value => exact descend_setSegments_of_removedSegments value h hthere
  | none => exact descend_removeSegments_of_apart doc h

end Document

end DocStore
