import DocStore.Proofs.Store.Identity
/-!
# The order of entry

The ids of a model stand in the order in which each entered last, without those that have left since
(`Passage.remaining`). What enters and leaves is read off the ids that a call is about
(`Call.targets`) and that were stored before or after it alone, so it does not depend on the order
in which they are stored.

`Call.InOrder` says what a call may do to the sequence of ids: insertions and imports add new ids at
the end, a removal takes its id out, and updates and replacements leave the sequence as it is. All
calls keep to it (`inOrder_of_nodup`), and the order of entry follows for runs of any length
(`Model.ids_in_order_of_entry`).
-/

namespace DocStore

/-- An id enters a store or leaves it. -/
inductive Passage where
  | enters (id : String)
  | leaves (id : String)

namespace Passage

/-- The id that passes. -/
def key : Passage → String
  | .enters id | .leaves id => id

/-- The ids in the order in which each entered last, without those that have left since. -/
def remaining : List Passage → List String
  | [] => []
  | .enters id :: later =>
    if id ∈ later.map key then remaining later else id :: remaining later
  | .leaves _ :: later => remaining later

/-- Whatever passes later takes its id out of the order. -/
theorem remaining_append (earlier later : List Passage) :
    remaining (earlier ++ later) =
      (remaining earlier).filter (· ∉ later.map key) ++ remaining later := by
  induction earlier with
  | nil => rfl
  | cons passage earlier ih =>
    cases passage with
    | leaves id => exact ih
    | enters id =>
      have hmem : id ∈ (earlier ++ later).map key ↔
          id ∈ earlier.map key ∨ id ∈ later.map key := by
        rw [List.map_append, List.mem_append]
      rw [List.cons_append, remaining, remaining, ih]
      by_cases hearlier : id ∈ earlier.map key
      · rw [if_pos (hmem.mpr (.inl hearlier)), if_pos hearlier]
      · by_cases hlater : id ∈ later.map key
        · rw [if_pos (hmem.mpr (.inr hlater)), if_neg hearlier,
            List.filter_cons_of_neg (by simpa using hlater)]
        · rw [if_neg (fun h => (hmem.mp h).elim hearlier hlater), if_neg hearlier,
            List.filter_cons_of_pos (by simpa using hlater), List.cons_append]

theorem map_key_enters (ids : List String) : (ids.map enters).map key = ids := by
  rw [List.map_map]
  exact List.map_id' ids

/-- Different ids that enter one after another remain in this order. -/
theorem remaining_enters {ids : List String} (h : ids.Nodup) :
    remaining (ids.map enters) = ids := by
  induction ids with
  | nil => rfl
  | cons id ids ih =>
    obtain ⟨hfresh, hrest⟩ := List.nodup_cons.mp h
    rw [List.map_cons, remaining, map_key_enters, if_neg hfresh, ih hrest]

example : remaining [.enters "a", .enters "b", .enters "c", .leaves "a", .leaves "c", .enters "a"] =
    ["b", "a"] := by decide

end Passage

namespace OrderedMap

variable {α : Type}

theorem keys_append (map added : OrderedMap α) : keys (map ++ added) = map.keys ++ added.keys :=
  List.map_append

/-- Entries at the end are not found under other keys. -/
theorem get?_append_of_not_mem {added : OrderedMap α} {key : String} (h : key ∉ added.keys)
    (map : OrderedMap α) : get? (map ++ added) key = map.get? key := by
  have hadded : added.get? key = none := by
    rw [← Option.not_isSome_iff_eq_none]
    exact fun hsome => h ((contains_iff_mem_keys added key).mp hsome)
  induction map with
  | nil => exact hadded
  | cons entry map ih => rw [List.cons_append, get?_cons, get?_cons, ih]

end OrderedMap

namespace Model

variable {σ : Type}

theorem has_iff {model : Model σ} {id : String} : model.has id = true ↔ id ∈ model.records.keys :=
  OrderedMap.contains_iff_mem_keys model.records id

/-! ## What a call is about -/

/-- The ids that insertions in turn take, up to the first that fails. -/
def insertedIds : List Document → ModelState σ → List String
  | [], _ => []
  | data :: rest, s =>
    (insertedId? data s).toList ++
      match (Model.insert data).run s with
      | (.ok _, after) => insertedIds rest after
      | (.error _, _) => []

/-- The id of the document that a snapshot record is read as. -/
def recordId? (model : Model σ) (record : Document) : Option String :=
  (model.handle.schema.importRecord record).toOption.bind Document.id?

namespace Call

/-- The ids that a call is about, in order. An import that fails is about none. -/
def targets : Call → ModelState σ → List String
  | .write w, s => (w.target? s).toList
  | .insertMany data, s => insertedIds data s
  | .importing records, s =>
    match s.model.importFrom [] records with
    | .ok _ => records.filterMap s.model.recordId?
    | .error _ => []

end Call

/-- Whether an id enters or leaves between two states of a model. -/
def passage? (before after : Model σ) (id : String) : Option Passage :=
  if before.has id then
    if after.has id then none else some (.leaves id)
  else if after.has id then some (.enters id) else none

/-- What enters and leaves in a call. -/
def Call.passages (c : Call) (s : ModelState σ) : List Passage :=
  (c.targets s).filterMap (passage? s.model (c.perform.run s).2.model)

/-- What enters and leaves in a run. -/
def history : List Call → ModelState σ → List Passage
  | [], _ => []
  | c :: calls, s => c.passages s ++ history calls (c.perform.run s).2

/-! ## How a call may change the sequence of ids -/

/-- Documents under new ids come behind the stored ones, in the order of the ids: under some of the
first ids, and on success under all of them. -/
structure Appends (ids : List String) (succeeds : Bool) (before after : OrderedMap Document) :
    Prop where
  nodup : ids.Nodup
  fresh : ∀ id ∈ ids, id ∉ before.keys
  added : ∃ added : OrderedMap Document, after = before ++ added ∧ added.keys <+: ids ∧
    (succeeds = true → added.keys = ids)

/-- Documents that come behind those that have come. -/
theorem Appends.then {ids ids' : List String} {succeeds : Bool}
    {before between after : OrderedMap Document} (h : Appends ids true before between)
    (h' : Appends ids' succeeds between after) : Appends (ids ++ ids') succeeds before after := by
  obtain ⟨added, rfl, -, hall⟩ := h.added
  obtain ⟨added', rfl, hpre, hall'⟩ := h'.added
  have hids : added.keys = ids := hall rfl
  have hfresh : ∀ id ∈ ids', id ∉ before.keys ∧ id ∉ ids := by
    intro id hid
    have hnew := h'.fresh id hid
    rwa [OrderedMap.keys_append, List.mem_append, not_or, hids] at hnew
  refine ⟨?_, ?_, added ++ added', List.append_assoc .., ?_, ?_⟩
  · exact List.nodup_append.mpr ⟨h.nodup, h'.nodup, fun id hid id' hid' heq =>
      (hfresh id' hid').2 (heq ▸ hid)⟩
  · intro id hid
    rcases List.mem_append.mp hid with hid | hid
    · exact h.fresh id hid
    · exact (hfresh id hid).1
  · rw [OrderedMap.keys_append, hids]
    exact (List.prefix_append_right_inj ids).mpr hpre
  · intro hsucceeds
    rw [OrderedMap.keys_append, hids, hall' hsucceeds]

/-- Documents under other ids stay. -/
theorem Appends.get?_eq {ids : List String} {succeeds : Bool} {before after : OrderedMap Document}
    (h : Appends ids succeeds before after) {id : String} (hid : id ∉ ids) :
    after.get? id = before.get? id := by
  obtain ⟨added, rfl, hpre, -⟩ := h.added
  exact OrderedMap.get?_append_of_not_mem (fun hadded => hid (hpre.subset hadded)) before

/-- What a call may do to the sequence of ids. -/
def Call.InOrder (c : Call) (s : ModelState σ) : Prop :=
  let out := c.perform.run s
  let before := s.model.records
  let after := out.2.model.records
  match c with
  | .write (.insert _) | .insertMany _ | .importing _ =>
    Appends (c.targets s) out.1.isOk before after
  | .write (.save data) =>
    if data.id?.any s.model.has then after.keys = before.keys
    else Appends (c.targets s) out.1.isOk before after
  | .write (.update id _) | .write (.replace id _) =>
    after.keys = before.keys ∧ (out.1.isOk = true → id ∈ before.keys)
  | .write (.remove id) =>
    out.1.isOk = false ∧ after = before ∨
      id ∈ before.keys ∧ after.keys = before.keys.filter (· ≠ id)

/-! ## Writes -/

/-- What a write of a kind does to the stored documents, given its target and whether it
succeeds. -/
inductive Alters (kind : HookKind) (target? : Option String) (before : OrderedMap Document) :
    Bool → OrderedMap Document → Prop
  | refused : Alters kind target? before false before
  | stored (id : String) (doc : Document) (succeeds : Bool) (saves : kind = .save)
      (target : target? = some id) : Alters kind target? before succeeds (before.insert id doc)
  | removed (id : String) (succeeds : Bool) (removes : kind = .remove)
      (target : target? = some id) : Alters kind target? before succeeds (before.erase id)

/-- A write succeeds only if its first part does. -/
theorem Write.isOk_enter_of_isOk_perform (w : Write) (s : ModelState σ)
    (h : (w.perform.run s).1.isOk = true) : (w.enter.run s).1.isOk = true := by
  rw [w.perform_eq, ActOn.run_bind] at h
  rcases hrun : w.enter.run s with ⟨e | doc, after⟩
  · rw [hrun] at h
    exact h
  · rfl

theorem Write.perform_alters (w : Write) (s : ModelState σ) :
    Alters w.kind (w.target? s) s.model.records (w.perform.run s).1.isOk
      (w.perform.run s).2.model.records := by
  have hok := w.isOk_enter_of_isOk_perform s
  have effect := w.enter_effect s.model s.session
  rw [w.perform_model]
  generalize w.enter.run ⟨s.model, s.session⟩ = out at effect hok
  cases effect with
  | refused e session =>
    have hfails : (w.perform.run s).1.isOk = false := by
      rw [← Bool.not_eq_true]
      exact fun h => absurd (hok h) (by simp [Except.isOk, Except.toBool])
    rw [hfails]
    exact .refused
  | stored id doc session hid checked saves target => exact .stored id doc _ saves target
  | removed id doc session present removes target => exact .removed id _ removes target

namespace Alters

variable {target? : Option String} {before after : OrderedMap Document} {succeeds : Bool}
  {kind : HookKind}

/-- Other documents stay. -/
theorem get?_eq (h : Alters kind target? before succeeds after) {id : String}
    (hid : id ∉ target?.toList) : after.get? id = before.get? id := by
  cases h with
  | refused => rfl
  | stored target doc _ saves htarget =>
    have hne : id ≠ target := by
      rintro rfl
      exact hid (by simp [htarget])
    rw [OrderedMap.get?_insert, if_neg hne]
  | removed target _ removes htarget =>
    have hne : id ≠ target := by
      rintro rfl
      exact hid (by simp [htarget])
    rw [OrderedMap.get?_erase, if_neg hne]

/-- A document under a new id is added. -/
theorem appends (h : Alters .save target? before succeeds after)
    (hfresh : ∀ id ∈ target?, id ∉ before.keys) :
    Appends target?.toList succeeds before after where
  nodup := by cases target? <;> simp
  fresh id hid := hfresh id (Option.mem_toList.mp hid)
  added := by
    cases h with
    | refused => exact ⟨[], (List.append_nil before).symm, List.nil_prefix, nofun⟩
    | stored id doc _ saves htarget =>
      refine ⟨[(id, doc)], OrderedMap.insert_of_not_mem doc (hfresh id htarget), ?_⟩
      rw [htarget]
      exact ⟨List.prefix_rfl, fun _ => rfl⟩
    | removed id _ removes htarget => cases removes

end Alters

theorem not_mem_keys_of_insertedId? {data : Document} {s : ModelState σ} {id : String}
    (h : insertedId? data s = some id) : id ∉ s.model.records.keys := by
  unfold insertedId? at h
  split at h
  · obtain ⟨-, hfree⟩ := Option.filter_eq_some_iff.mp h
    rw [← has_iff]
    simpa using hfree
  · cases h

theorem storedId?_eq_some_iff {id id' : String} {s : ModelState σ} :
    storedId? id s = some id' ↔ id ∈ s.model.records.keys ∧ id' = id := by
  rw [storedId?, ← has_iff]
  split
  · next h => simp [h, eq_comm]
  · next h => simp [h]

/-- Saving under a stored id is about this id. -/
theorem exists_target?_save {data : Document} {s : ModelState σ}
    (h : data.id?.any s.model.has = true) :
    ∃ id, (Write.save data).target? s = storedId? id s := by
  have htarget : (Write.save data).target? s = data.id? := if_pos h
  rcases hid : data.id? with _ | id
  · rw [hid] at h
    cases h
  · rw [hid, Option.any_some] at h
    refine ⟨id, ?_⟩
    rw [htarget, hid, storedId?, if_pos h]

/-- A document under a stored id keeps its place. -/
theorem Alters.keys_eq {id : String} {s : ModelState σ} {after : OrderedMap Document}
    {succeeds : Bool} (h : Alters .save (storedId? id s) s.model.records succeeds after) :
    after.keys = s.model.records.keys ∧ (succeeds = true → id ∈ s.model.records.keys) := by
  cases h with
  | refused => exact ⟨rfl, nofun⟩
  | stored target doc _ saves htarget =>
    obtain ⟨hmem, rfl⟩ := storedId?_eq_some_iff.mp htarget
    rw [OrderedMap.keys_insert, if_pos hmem]
    exact ⟨rfl, fun _ => hmem⟩
  | removed target _ removes htarget => cases removes

/-- A removal takes out the id, if it succeeds or fails after it. -/
theorem Alters.keys_erased {id : String} {s : ModelState σ} {after : OrderedMap Document}
    {succeeds : Bool} (h : Alters .remove (storedId? id s) s.model.records succeeds after) :
    succeeds = false ∧ after = s.model.records ∨
      id ∈ s.model.records.keys ∧ after.keys = s.model.records.keys.filter (· ≠ id) := by
  cases h with
  | refused => exact .inl ⟨rfl, rfl⟩
  | stored target doc _ saves htarget => cases saves
  | removed target _ removes htarget =>
    obtain ⟨hmem, rfl⟩ := storedId?_eq_some_iff.mp htarget
    exact .inr ⟨hmem, OrderedMap.keys_erase s.model.records target⟩

/-! ## Insertions in turn -/

/-- One insertion adds its document behind the stored ones. -/
theorem insert_appends (data : Document) (s : ModelState σ) :
    Appends (insertedId? data s).toList ((Model.insert data).run s).1.isOk s.model.records
      ((Model.insert data).run s).2.model.records :=
  ((Write.insert data).perform_alters s).appends fun _ => not_mem_keys_of_insertedId?

/-- Insertions, of which the first succeeds, and then the rest of them. -/
theorem insertMany_run_of_ok {data : Document} {s after : ModelState σ} {doc : LiveDocument σ}
    (h : (Model.insert data).run s = (.ok doc, after)) (rest : List Document) :
    ((insertMany (data :: rest)).run s).2 = ((insertMany rest).run after).2 ∧
      ((insertMany (data :: rest)).run s).1.isOk = ((insertMany rest).run after).1.isOk := by
  unfold insertMany
  rw [List.mapM_cons, ActOn.run_bind_of_ok h, ActOn.run_bind]
  rcases (rest.mapM Model.insert).run after with ⟨e | docs, last⟩
  · exact ⟨rfl, rfl⟩
  · exact ⟨rfl, rfl⟩

theorem insertMany_appends :
    ∀ (data : List Document) (s : ModelState σ),
      Appends (insertedIds data s) ((insertMany data).run s).1.isOk s.model.records
        ((insertMany data).run s).2.model.records
  | [], s => ⟨List.nodup_nil, nofun, [], (List.append_nil _).symm, List.nil_prefix, fun _ => rfl⟩
  | data :: rest, s => by
    have hfirst := insert_appends data s
    rcases hrun : (Model.insert data).run s with ⟨e | doc, after⟩
    · have hmany : (insertMany (data :: rest)).run s = (.error e, after) := by
        rw [insertMany, List.mapM_cons, ActOn.run_bind_of_error hrun]
      rw [hrun] at hfirst
      rw [hmany, insertedIds, hrun, List.append_nil]
      exact hfirst
    · obtain ⟨hstate, hok⟩ := insertMany_run_of_ok hrun rest
      have hrest := insertMany_appends rest after
      rw [hrun] at hfirst
      rw [hstate, hok, insertedIds, hrun]
      exact hfirst.then hrest

/-! ## Imports -/

/-- What an import adds stands in the order of its records. -/
theorem keys_importFrom {model : Model σ} :
    ∀ {records : List Document} {sofar imported : OrderedMap Document},
      model.importFrom sofar records = .ok imported →
      imported.keys = sofar.keys ++ records.filterMap model.recordId?
  | [], _, _, h => by
    cases h
    exact (List.append_nil _).symm
  | record :: rest, sofar, imported, h => by
    obtain ⟨doc, id, hread, hid, -, hnew, hrest⟩ := importFrom_cons_eq_ok h
    have hrecord : model.recordId? record = some id := by
      rw [recordId?, hread]
      exact hid
    rw [keys_importFrom hrest, OrderedMap.keys_insert, if_neg hnew,
      List.filterMap_cons_some hrecord, List.append_assoc, List.singleton_append]

/-- An import adds all its records, or none when it fails. -/
theorem importing_appends (records : List Document) {s : ModelState σ}
    (hkeyed : KeyedById s.model.records) :
    Appends ((Call.importing records).targets s) (((Call.importing records).perform).run s).1.isOk
      s.model.records (((Call.importing records).perform).run s).2.model.records := by
  have hrun := importRecords_run records s
  rw [Call.perform, ActOn.run_bind, Call.targets]
  rcases himport : s.model.importFrom [] records with e | imported
  · rw [himport] at hrun
    rw [hrun]
    exact ⟨List.nodup_nil, fun _ hid => absurd hid List.not_mem_nil, [],
      (List.append_nil _).symm, List.nil_prefix, fun _ => rfl⟩
  · rw [himport] at hrun
    have hkeys := keys_importFrom himport
    have hnodup := (importFrom_keyedById himport (by rwa [List.append_nil])).nodup
    rw [OrderedMap.keys_append, List.nodup_append] at hnodup
    rw [hrun, ← hkeys.trans (List.nil_append _)]
    exact ⟨hnodup.2.1, fun id hid hold => hnodup.2.2 id hold id hid rfl, imported, rfl,
      List.prefix_rfl, fun _ => rfl⟩

/-! ## All calls -/

theorem isOk_discard {α : Type} (act : ModelAct σ α) (s : ModelState σ) :
    ((do let _ ← act : ModelAct σ Unit).run s).1.isOk = (act.run s).1.isOk := by
  rw [ActOn.run_bind]
  rcases act.run s with ⟨_ | _, _⟩ <;> rfl

/-- **A call changes the sequence of ids only in order.** -/
theorem Call.inOrder (c : Call) {s : ModelState σ} (hkeyed : KeyedById s.model.records) :
    c.InOrder s := by
  cases c with
  | importing records => exact importing_appends records hkeyed
  | insertMany data =>
    have h := insertMany_appends data s
    rw [← isOk_discard, ← ActOn.run_discard_state] at h
    exact h
  | write w =>
    have h := w.perform_alters s
    rw [← isOk_discard, ← ActOn.run_discard_state] at h
    cases w with
    | insert data => exact h.appends fun _ => not_mem_keys_of_insertedId?
    | save data =>
      unfold InOrder
      dsimp only
      by_cases hstored : data.id?.any s.model.has = true
      · obtain ⟨id, htarget⟩ := exists_target?_save hstored
        rw [htarget] at h
        rw [if_pos hstored]
        exact h.keys_eq.1
      · have htarget : (Write.save data).target? s = insertedId? data s := if_neg hstored
        rw [if_neg hstored]
        exact h.appends fun _ hid => not_mem_keys_of_insertedId? (htarget.symm.trans hid)
    | update id spec => exact h.keys_eq
    | replace id data => exact h.keys_eq
    | remove id => exact h.keys_erased

/-- **A call keeps the documents that it is not about.** -/
theorem Call.get?_eq (c : Call) {s : ModelState σ}
    (hkeyed : KeyedById s.model.records) {id : String} (hid : id ∉ c.targets s) :
    (c.perform.run s).2.model.records.get? id = s.model.records.get? id := by
  cases c with
  | importing records => exact (importing_appends records hkeyed).get?_eq hid
  | insertMany data =>
    have h := insertMany_appends data s
    rw [← ActOn.run_discard_state] at h
    exact h.get?_eq hid
  | write w =>
    have h := w.perform_alters s
    rw [← ActOn.run_discard_state] at h
    exact h.get?_eq hid

/-! ## What enters and leaves -/

theorem passage?_eq_none {before after : Model σ} {id : String}
    (h : id ∈ before.records.keys ↔ id ∈ after.records.keys) : passage? before after id = none := by
  rw [← has_iff, ← has_iff] at h
  unfold passage?
  split
  · next hbefore => rw [if_pos (h.mp hbefore)]
  · next hbefore => rw [if_neg (fun hafter => hbefore (h.mpr hafter))]

theorem passage?_eq_enters {before after : Model σ} {id : String} (h : id ∉ before.records.keys)
    (h' : id ∈ after.records.keys) : passage? before after id = some (.enters id) := by
  rw [← has_iff] at h h'
  rw [passage?, if_neg h, if_pos h']

theorem passage?_eq_leaves {before after : Model σ} {id : String} (h : id ∈ before.records.keys)
    (h' : id ∉ after.records.keys) : passage? before after id = some (.leaves id) := by
  rw [← has_iff] at h h'
  rw [passage?, if_pos h, if_neg h']

/-- Nothing passes where the sequence of ids stays. -/
theorem filterMap_passage?_of_keys_eq {before after : Model σ}
    (h : after.records.keys = before.records.keys) (ids : List String) :
    ids.filterMap (passage? before after) = [] := by
  rw [List.filterMap_eq_nil_iff]
  exact fun id _ => passage?_eq_none (by rw [h])

/-- Where documents are added, their ids enter. -/
theorem filterMap_passage?_of_appends {ids : List String} {succeeds : Bool} {before after : Model σ}
    (h : Appends ids succeeds before.records after.records) :
    ∃ new : List String, ids.filterMap (passage? before after) = new.map .enters ∧
      after.records.keys = before.records.keys ++ new ∧ new.Nodup ∧
      ∀ id ∈ new, id ∉ before.records.keys := by
  obtain ⟨added, hafter, ⟨rest, hids⟩, -⟩ := h.added
  have hkeys : after.records.keys = before.records.keys ++ added.keys := by
    rw [hafter, OrderedMap.keys_append]
  have hfresh := h.fresh
  have hnodup := h.nodup
  rw [← hids] at hfresh hnodup
  have hrest : rest.filterMap (passage? before after) = [] := by
    rw [List.filterMap_eq_nil_iff]
    intro id hid
    have hnotAdded : id ∉ added.keys := fun hmem =>
      (List.nodup_append.mp hnodup).2.2 id hmem id hid rfl
    refine passage?_eq_none ?_
    rw [hkeys, List.mem_append, or_iff_left hnotAdded]
  have hadded : added.keys.filterMap (passage? before after) = added.keys.map .enters := by
    rw [← List.filterMap_eq_map]
    refine List.filterMap_congr fun id hid => ?_
    refine passage?_eq_enters (hfresh id (List.mem_append_left rest hid)) ?_
    rw [hkeys]
    exact List.mem_append_right _ hid
  refine ⟨added.keys, ?_, hkeys, (List.nodup_append.mp hnodup).1, fun id hid =>
    hfresh id (List.mem_append_left rest hid)⟩
  rw [← hids, List.filterMap_append, hrest, List.append_nil, hadded]

/-- Where the sequence of ids stays, nothing has passed. -/
theorem Call.remaining_of_keys_eq {c : Call} {s : ModelState σ} (hkeyed : KeyedById s.model.records)
    (h : (c.perform.run s).2.model.records.keys = s.model.records.keys) :
    (c.perform.run s).2.model.records.keys =
      Passage.remaining (s.model.records.keys.map .enters ++ c.passages s) := by
  rw [passages, filterMap_passage?_of_keys_eq h, List.append_nil,
    Passage.remaining_enters hkeyed.nodup, h]

/-- Where documents were added, their ids have entered last. -/
theorem Call.remaining_of_appends {c : Call} {s : ModelState σ} {succeeds : Bool}
    (hkeyed : KeyedById s.model.records)
    (h : Appends (c.targets s) succeeds s.model.records (c.perform.run s).2.model.records) :
    (c.perform.run s).2.model.records.keys =
      Passage.remaining (s.model.records.keys.map .enters ++ c.passages s) := by
  obtain ⟨new, hpassages, hkeys, hnodup, hfresh⟩ := filterMap_passage?_of_appends h
  have hall : (s.model.records.keys ++ new).Nodup :=
    List.nodup_append.mpr ⟨hkeyed.nodup, hnodup, fun id hid id' hid' heq =>
      hfresh id' hid' (heq ▸ hid)⟩
  rw [passages, hpassages, ← List.map_append, Passage.remaining_enters hall, hkeys]

/-- Where an id was taken out, it has left. -/
theorem Call.remaining_of_removed {id : String} {s : ModelState σ}
    (hkeyed : KeyedById s.model.records) (hid : id ∈ s.model.records.keys)
    (h : ((Call.write (.remove id)).perform.run s).2.model.records.keys =
      s.model.records.keys.filter (· ≠ id)) :
    ((Call.write (.remove id)).perform.run s).2.model.records.keys =
      Passage.remaining (s.model.records.keys.map .enters ++
        (Call.write (.remove id)).passages s) := by
  have htargets : (Call.write (.remove id)).targets s = [id] := by
    rw [targets, Write.target?, storedId?_eq_some_iff.mpr ⟨hid, rfl⟩]
    rfl
  have hleaves := passage?_eq_leaves hid (by rw [h]; simp)
  rw [passages, htargets, List.filterMap_cons_some hleaves, List.filterMap_nil,
    Passage.remaining_append, Passage.remaining_enters hkeyed.nodup, h]
  simp [Passage.remaining, Passage.key]

/-- **After a call the ids stand in the order in which they entered before it and in it.** -/
theorem Call.keys_eq_remaining (c : Call) {s : ModelState σ} (hkeyed : KeyedById s.model.records) :
    (c.perform.run s).2.model.records.keys =
      Passage.remaining (s.model.records.keys.map .enters ++ c.passages s) := by
  have h := c.inOrder hkeyed
  cases c with
  | insertMany data => exact remaining_of_appends hkeyed h
  | importing records => exact remaining_of_appends hkeyed h
  | write w =>
    cases w with
    | insert data => exact remaining_of_appends hkeyed h
    | save data =>
      unfold InOrder at h
      dsimp only at h
      split at h
      · exact remaining_of_keys_eq hkeyed h
      · exact remaining_of_appends hkeyed h
    | update id spec => exact remaining_of_keys_eq hkeyed h.1
    | replace id data => exact remaining_of_keys_eq hkeyed h.1
    | remove id =>
      rcases h with ⟨-, hsame⟩ | ⟨hid, herased⟩
      · exact remaining_of_keys_eq hkeyed (congrArg OrderedMap.keys hsame)
      · exact remaining_of_removed hkeyed hid herased

/-! ## Runs -/

/-- After a run the ids stand in the order in which they entered before it and in it. -/
theorem keys_after_eq_remaining (calls : List Call) {s : ModelState σ}
    (hkeyed : KeyedById s.model.records) :
    (after calls s).model.records.keys =
      Passage.remaining (s.model.records.keys.map .enters ++ history calls s) := by
  induction calls generalizing s with
  | nil => exact (by rw [history, List.append_nil, Passage.remaining_enters hkeyed.nodup]; rfl)
  | cons c calls ih =>
    have hnext : KeyedById (c.perform.run s).2.model.records :=
      keyedById_after_of_keyedById hkeyed [c]
    have hcall := c.keys_eq_remaining hkeyed
    rw [← Passage.remaining_enters hnext.nodup] at hcall
    show (after calls (c.perform.run s).2).model.records.keys = _
    rw [ih hnext, history, ← List.append_assoc, Passage.remaining_append, hcall,
      ← Passage.remaining_append]

/-- The exported records stand in the order of the ids. -/
theorem exportRecords_eq {model : Model σ} (hkeyed : KeyedById model.records) :
    model.exportRecords.map some = model.records.keys.map fun id =>
      (model.records.get? id).map model.handle.schema.exportRecord := by
  rw [exportRecords, OrderedMap.values, OrderedMap.keys, List.map_map, List.map_map, List.map_map]
  refine List.map_congr_left fun entry hentry => ?_
  have hget := OrderedMap.get?_of_mem hkeyed.nodup hentry
  simp only [Function.comp_apply]
  rw [hget, Option.map_some]

/-- **The ids of a model stand in the order in which each entered last, without those that have left
since**, in every state that a new model reaches by calls that succeed or fail, and so do the
exported records. A call changes the sequence of ids only by adding new ids at the end or by taking
out the id that it removes, and it changes no document but those that it is about. -/
theorem ids_in_order_of_entry (handle : ModelHandle σ) (session : Session σ) (calls : List Call) :
    let state := after calls ⟨Model.empty handle, session⟩
    state.model.records.keys =
        Passage.remaining (history calls ⟨Model.empty handle, session⟩) ∧
      (state.model.exportRecords.map some = state.model.records.keys.map fun id =>
        (state.model.records.get? id).map state.model.handle.schema.exportRecord) ∧
      ∀ c : Call, c.InOrder state ∧ ∀ id, id ∉ c.targets state →
        (c.perform.run state).2.model.records.get? id = state.model.records.get? id := by
  intro state
  have hkeyed : KeyedById state.model.records := keyedById_after handle session calls
  refine ⟨?_, exportRecords_eq hkeyed, fun c => ⟨c.inOrder hkeyed, fun id => c.get?_eq hkeyed⟩⟩
  exact keys_after_eq_remaining calls KeyedById.nil

end Model

end DocStore
