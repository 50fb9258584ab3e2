import DocStore.Proofs.Store.Arrival
import Mathlib.Data.List.Forall2
/-!
# Imports are all or nothing

`ModelHandle.Admits` says when snapshot records may enter a model in which some ids are taken: every
record is read as a document with an id, no two have the same id, and none of the ids is taken.
`ModelHandle.Refuses` says why a record may not enter, and with which error.

Either all records of a list may enter, or a first one is refused (`ModelHandle.admits_or_refuses`),
and the loop over the records follows these two cases from any point of it
(`Model.importFrom_of_admits`, `Model.importFrom_of_refuses`); the ids taken there are the stored
ones and those that were read before. `Model.import_all_or_nothing` is what an import does to a
model.
-/

namespace DocStore

variable {σ : Type}

namespace ModelHandle

variable {handle : ModelHandle σ} {taken : List String}

/-- A record is read as a document, which is stored under the id that it holds. -/
def ReadsAs (handle : ModelHandle σ) (record : Document) (entry : String × Document) : Prop :=
  handle.schema.importRecord record = .ok entry.2 ∧ entry.2.id? = some entry.1

/-- Records enter a model as these entries, where some ids are taken. -/
structure Admits (handle : ModelHandle σ) (taken : List String) (records : List Document)
    (entries : OrderedMap Document) : Prop where
  read : List.Forall₂ handle.ReadsAs records entries
  distinct : entries.keys.Nodup
  fresh : ∀ id ∈ entries.keys, id ∉ taken

/-- The error with which a model refuses a record, where some ids are taken: the record cannot be
read, it has no id that is a text, or its id is taken. -/
inductive Refuses (handle : ModelHandle σ) (taken : List String) (record : Document) :
    StoreError → Prop
  | unreadable {e : StoreError} (read : handle.schema.importRecord record = .error e) :
      Refuses handle taken record e
  | unnamed {doc : Document} (read : handle.schema.importRecord record = .ok doc)
      (unnamed : doc.id? = none) :
      Refuses handle taken record (.idUndefined (.record handle.name))
  | repeated {entry : String × Document} (read : handle.ReadsAs record entry)
      (mem : entry.1 ∈ taken) : Refuses handle taken record (.idExist entry.1)

/-- A record is refused, or it is read under a new id. -/
theorem refuses_or_reads (handle : ModelHandle σ) (taken : List String) (record : Document) :
    (∃ e, handle.Refuses taken record e) ∨
      ∃ entry, handle.ReadsAs record entry ∧ entry.1 ∉ taken := by
  rcases hread : handle.schema.importRecord record with e | doc
  · exact .inl ⟨e, .unreadable hread⟩
  · rcases hid : doc.id? with _ | id
    · exact .inl ⟨_, .unnamed hread hid⟩
    · have hreads : handle.ReadsAs record (id, doc) := ⟨hread, hid⟩
      by_cases htaken : id ∈ taken
      · exact .inl ⟨_, .repeated hreads htaken⟩
      · exact .inr ⟨(id, doc), hreads, htaken⟩

theorem ReadsAs.unique {record : Document} {entry other : String × Document}
    (h : handle.ReadsAs record entry) (h' : handle.ReadsAs record other) : entry = other := by
  have hdoc : entry.2 = other.2 := by simpa [h.1] using h'.1
  have hid : entry.1 = other.1 := by simpa [h.2, ← hdoc] using h'.2
  exact Prod.ext hid hdoc

theorem admits_nil : handle.Admits taken [] [] := ⟨.nil, List.nodup_nil, by simp [OrderedMap.keys]⟩

/-- The ids of the records that entered are taken for those behind them. -/
theorem admits_cons_iff {record : Document} {records : List Document} {entry : String × Document}
    {entries : OrderedMap Document} :
    handle.Admits taken (record :: records) (entry :: entries) ↔
      handle.ReadsAs record entry ∧ entry.1 ∉ taken ∧
        handle.Admits (taken ++ [entry.1]) records entries := by
  constructor
  · rintro ⟨hread, hdistinct, hfresh⟩
    obtain ⟨hfirst, hrest⟩ := List.forall₂_cons.mp hread
    obtain ⟨hnew, hdistinct⟩ := List.nodup_cons.mp hdistinct
    refine ⟨hfirst, hfresh _ List.mem_cons_self, hrest, hdistinct, fun id hid hmem => ?_⟩
    rcases List.mem_append.mp hmem with htaken | hfirst
    · exact hfresh id (List.mem_cons_of_mem _ hid) htaken
    · exact hnew (List.mem_singleton.mp hfirst ▸ hid)
  · rintro ⟨hfirst, hfresh, hrest, hdistinct, hrestFresh⟩
    have hnew : entry.1 ∉ entries.keys := fun hmem => hrestFresh _ hmem (by simp)
    refine ⟨.cons hfirst hrest, List.nodup_cons.mpr ⟨hnew, hdistinct⟩, fun id hid htaken => ?_⟩
    rcases List.mem_cons.mp hid with rfl | hid
    · exact hfresh htaken
    · exact hrestFresh id hid (List.mem_append_left _ htaken)

/-- Records enter as one list of entries only. -/
theorem Admits.unique {records : List Document} {entries others : OrderedMap Document}
    (h : handle.Admits taken records entries) (h' : handle.Admits taken records others) :
    entries = others := by
  have hread := h.read
  have hread' := h'.read
  clear h h'
  induction hread generalizing others with
  | nil => exact (List.forall₂_nil_left_iff.mp hread').symm
  | cons hfirst _ ih =>
    obtain ⟨other, rest, hother, hrest, rfl⟩ := List.forall₂_cons_left_iff.mp hread'
    rw [hfirst.unique hother, ih hrest]

/-- All records of a list may enter, or one is refused behind others that may. -/
theorem admits_or_refuses (handle : ModelHandle σ) (taken : List String) (records : List Document) :
    (∃ entries, handle.Admits taken records entries) ∨
      ∃ e before record after entries, records = before ++ record :: after ∧
        handle.Admits taken before entries ∧ handle.Refuses (taken ++ entries.keys) record e := by
  induction records generalizing taken with
  | nil => exact .inl ⟨[], admits_nil⟩
  | cons record records ih =>
    rcases handle.refuses_or_reads taken record with ⟨e, hrefuses⟩ | ⟨entry, hread, hfresh⟩
    · exact .inr ⟨e, [], record, records, [], rfl, admits_nil, by simpa [OrderedMap.keys]⟩
    · rcases ih (taken ++ [entry.1]) with
        ⟨entries, hadmits⟩ | ⟨e, before, bad, after, entries, rfl, hadmits, hrefuses⟩
      · exact .inl ⟨entry :: entries, admits_cons_iff.mpr ⟨hread, hfresh, hadmits⟩⟩
      · refine .inr ⟨e, record :: before, bad, after, entry :: entries, rfl,
          admits_cons_iff.mpr ⟨hread, hfresh, hadmits⟩, ?_⟩
        simpa [OrderedMap.keys] using hrefuses

end ModelHandle

namespace Model

variable {model : Model σ}

/-- The ids that are taken in the loop over the records: those of stored documents and those that
were read before. -/
def taken (model : Model σ) (sofar : OrderedMap Document) : List String :=
  model.records.keys ++ sofar.keys

theorem mem_taken_iff {sofar : OrderedMap Document} {id : String} :
    id ∈ model.taken sofar ↔ (model.has id || sofar.contains id) = true := by
  rw [taken, List.mem_append, Bool.or_eq_true, has_iff, OrderedMap.contains_iff_mem_keys]

theorem taken_append (sofar entries : OrderedMap Document) :
    model.taken (sofar ++ entries) = model.taken sofar ++ entries.keys := by
  simp [taken, OrderedMap.keys_append]

/-- A record with a new id is added, and the loop goes on. -/
theorem importFrom_cons_of_reads {sofar : OrderedMap Document} {record : Document}
    {entry : String × Document} (hread : model.handle.ReadsAs record entry)
    (hfresh : entry.1 ∉ model.taken sofar) (rest : List Document) :
    model.importFrom sofar (record :: rest) = model.importFrom (sofar ++ [entry]) rest := by
  have hfree : (model.has entry.1 || sofar.contains entry.1) = false := by
    rwa [mem_taken_iff, Bool.not_eq_true] at hfresh
  have hinsert : sofar.insert entry.1 entry.2 = sofar ++ [entry] :=
    OrderedMap.insert_of_not_mem entry.2 fun hmem => hfresh (List.mem_append_right _ hmem)
  rw [importFrom, hread.1]
  simp [bind, Except.bind, hread.2, hfree, hinsert]

/-- A record that is refused ends the loop. -/
theorem importFrom_cons_of_refuses {sofar : OrderedMap Document} {record : Document}
    {e : StoreError} (h : model.handle.Refuses (model.taken sofar) record e)
    (rest : List Document) : model.importFrom sofar (record :: rest) = .error e := by
  cases h with
  | unreadable hread =>
    rw [importFrom, hread]
    rfl
  | unnamed hread hunnamed =>
    rw [importFrom, hread]
    simp [bind, Except.bind, hunnamed, throw, throwThe, MonadExceptOf.throw]
  | repeated hread hmem =>
    rw [mem_taken_iff] at hmem
    rw [importFrom, hread.1]
    simp [bind, Except.bind, hread.2, hmem, throw, throwThe, MonadExceptOf.throw]

/-- Records that may enter are added in order, and the loop goes on behind them. -/
theorem importFrom_append_of_admits {records : List Document} {sofar entries : OrderedMap Document}
    (h : model.handle.Admits (model.taken sofar) records entries) (rest : List Document) :
    model.importFrom sofar (records ++ rest) = model.importFrom (sofar ++ entries) rest := by
  induction records generalizing sofar entries with
  | nil =>
    obtain rfl := List.forall₂_nil_left_iff.mp h.read
    simp
  | cons record records ih =>
    obtain ⟨entry, later, -, -, rfl⟩ := List.forall₂_cons_left_iff.mp h.read
    obtain ⟨hread, hfresh, hlater⟩ := ModelHandle.admits_cons_iff.mp h
    have hbehind : model.handle.Admits (model.taken (sofar ++ [entry])) records later := by
      rw [taken_append]
      exact hlater
    rw [List.cons_append, importFrom_cons_of_reads hread hfresh, ih hbehind, List.append_assoc,
      List.singleton_append]

theorem importFrom_of_admits {records : List Document} {sofar entries : OrderedMap Document}
    (h : model.handle.Admits (model.taken sofar) records entries) :
    model.importFrom sofar records = .ok (sofar ++ entries) := by
  have hrun := importFrom_append_of_admits h []
  rwa [List.append_nil] at hrun

/-- A record that is refused ends the loop, also behind records that may enter. -/
theorem importFrom_of_refuses {before after : List Document} {record : Document} {e : StoreError}
    {sofar entries : OrderedMap Document}
    (hbefore : model.handle.Admits (model.taken sofar) before entries)
    (h : model.handle.Refuses (model.taken sofar ++ entries.keys) record e) :
    model.importFrom sofar (before ++ record :: after) = .error e := by
  rw [← taken_append] at h
  rw [importFrom_append_of_admits hbefore, importFrom_cons_of_refuses h]

/-- **An import is all or nothing.** It succeeds if and only if its records may enter behind the
stored ones: each of them is read as a document with an id, the ids are distinct, and none of them
is stored. Then the stored documents stay as they are, the records follow them in order, each under
its own id, and their number is the answer. An import that fails changes nothing; the records before
the one that fails could enter, and the error is the one of this record. -/
theorem import_all_or_nothing (records : List Document) (s : ModelState σ) :
    ((∃ count after, (importRecords records).run s = (.ok count, after)) ↔
      ∃ entries, s.model.handle.Admits s.model.records.keys records entries) ∧
    (∀ entries, s.model.handle.Admits s.model.records.keys records entries →
      (importRecords records).run s =
        (.ok records.length, ⟨s.model.withRecords (s.model.records ++ entries), s.session⟩)) ∧
    ∀ e after, (importRecords records).run s = (.error e, after) →
      after = s ∧ ∃ before record rest entries, records = before ++ record :: rest ∧
        s.model.handle.Admits s.model.records.keys before entries ∧
        s.model.handle.Refuses (s.model.records.keys ++ entries.keys) record e := by
  have htaken : s.model.taken [] = s.model.records.keys := by simp [taken, OrderedMap.keys]
  rw [importRecords_run]
  rcases s.model.handle.admits_or_refuses s.model.records.keys records with
    ⟨entries, hadmits⟩ | ⟨e, before, record, rest, entries, rfl, hbefore, hrefuses⟩
  · have himport : s.model.importFrom [] records = .ok entries :=
      importFrom_of_admits (by rwa [htaken])
    have hlength : records.length = entries.length := hadmits.read.length_eq
    rw [himport]
    refine ⟨⟨fun _ => ⟨entries, hadmits⟩, fun _ => ⟨_, _, rfl⟩⟩, fun other hother => ?_,
      fun e after hfailed => ?_⟩
    · have hsame : entries = other := hadmits.unique hother
      rw [hlength, hsame]
    · cases hfailed
  · have himport : s.model.importFrom [] (before ++ record :: rest) = .error e :=
      importFrom_of_refuses (by rwa [htaken]) (by rwa [htaken])
    have hnone : ∀ others, ¬ s.model.handle.Admits s.model.records.keys
        (before ++ record :: rest) others := by
      intro others hothers
      have hok : s.model.importFrom [] (before ++ record :: rest) = .ok others :=
        importFrom_of_admits (by rwa [htaken])
      rw [himport] at hok
      cases hok
    rw [himport]
    refine ⟨⟨?_, ?_⟩, fun others hothers => absurd hothers (hnone others), ?_⟩
    · rintro ⟨count, after, hcount⟩
      cases hcount
    · rintro ⟨others, hothers⟩
      exact absurd hothers (hnone others)
    · rintro _ _ ⟨⟩
      exact ⟨rfl, before, record, rest, entries, rfl, hbefore, hrefuses⟩

end Model

end DocStore
