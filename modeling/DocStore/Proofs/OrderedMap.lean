import DocStore.OrderedMap
import Mathlib.Data.List.Induction
import Mathlib.Data.List.Nodup
/-!
# Entries and keys of ordered maps

Which entries a map has after an insertion, and that insertions keep its keys distinct. The map of a
list of entries has each key where it was first, with the value that came last.
-/

namespace DocStore

namespace OrderedMap

variable {α : Type}

theorem mem_of_get? {map : OrderedMap α} {key : String} {value : α}
    (h : map.get? key = some value) : (key, value) ∈ map := by
  induction map with
  | nil => cases h
  | cons entry rest ih =>
    rw [get?_cons] at h
    by_cases hk : key = entry.1
    · rw [if_pos hk, Option.some.injEq] at h
      rw [hk, ← h]
      exact List.mem_cons_self
    · rw [if_neg hk] at h
      exact List.mem_cons_of_mem _ (ih h)

/-- Something is found under the keys of a map. -/
theorem exists_get?_iff {map : OrderedMap α} {key : String} :
    (∃ value, map.get? key = some value) ↔ key ∈ map.keys := by
  rw [← contains_iff_mem_keys, contains, Option.isSome_iff_exists]

/-- Where no key is used twice, every entry is found. -/
theorem get?_of_mem {map : OrderedMap α} (hnodup : map.keys.Nodup) {key : String} {value : α}
    (h : (key, value) ∈ map) : map.get? key = some value := by
  induction map with
  | nil => cases h
  | cons entry rest ih =>
    obtain ⟨hfresh, hrest⟩ := List.nodup_cons.mp hnodup
    rw [get?_cons]
    rcases List.mem_cons.mp h with rfl | h
    · exact if_pos rfl
    · have hne : key ≠ entry.1 := fun heq => hfresh (heq ▸ List.mem_map_of_mem h)
      rw [if_neg hne]
      exact ih hrest h

/-- An entry after an insertion is the new one or an old one. -/
theorem mem_insert {map : OrderedMap α} {key : String} {value : α} {entry : String × α}
    (h : entry ∈ insert map key value) : entry = (key, value) ∨ entry ∈ map := by
  induction map with
  | nil => exact .inl (List.mem_singleton.mp h)
  | cons first rest ih =>
    rw [insert] at h
    by_cases hk : first.1 = key
    · rw [if_pos hk] at h
      rcases List.mem_cons.mp h with rfl | hrest
      · exact .inl (by rw [hk])
      · exact .inr (List.mem_cons_of_mem _ hrest)
    · rw [if_neg hk] at h
      rcases List.mem_cons.mp h with rfl | hrest
      · exact .inr List.mem_cons_self
      · exact (ih hrest).imp_right (List.mem_cons_of_mem _)

theorem nodup_keys_insert {map : OrderedMap α} (h : map.keys.Nodup) (key : String) (value : α) :
    (insert map key value).keys.Nodup := by
  rw [keys_insert]
  split
  · exact h
  · exact List.nodup_append.mpr ⟨h, List.nodup_singleton key, by
      rintro a ha b hb rfl
      exact absurd (List.mem_singleton.mp hb ▸ ha) ‹_›⟩

/-- A new key comes last. -/
theorem insert_of_not_mem {map : OrderedMap α} {key : String} (value : α) (h : key ∉ map.keys) :
    insert map key value = map ++ [(key, value)] := by
  induction map with
  | nil => rfl
  | cons first rest ih =>
    rw [keys, List.map_cons, List.mem_cons, not_or] at h
    rw [insert, if_neg (Ne.symm h.1), ih h.2, List.cons_append]

theorem mem_keys_insertAll (entries : List (String × α)) (key : String) :
    ∀ map : OrderedMap α, key ∈ (map.insertAll entries).keys ↔
      key ∈ map.keys ∨ key ∈ entries.map Prod.fst := by
  induction entries with
  | nil => intro map; simp [insertAll]
  | cons entry entries ih =>
    intro map
    show key ∈ (insertAll (map.insert entry.1 entry.2) entries).keys ↔ _
    rw [ih, keys_insert, List.map_cons, List.mem_cons]
    split
    · next hmem =>
      refine ⟨Or.imp_right .inr, ?_⟩
      rintro (h | rfl | h)
      · exact .inl h
      · exact .inl hmem
      · exact .inr h
    · rw [List.mem_append, List.mem_singleton, or_assoc]

/-- Entries with new keys are appended. -/
theorem insertAll_of_nodup {map entries : OrderedMap α} (h : (map ++ entries).keys.Nodup) :
    map.insertAll entries = map ++ entries := by
  induction entries generalizing map with
  | nil => exact (List.append_nil map).symm
  | cons entry entries ih =>
    have hsplit : map ++ entry :: entries = map ++ [entry] ++ entries := by simp
    have hfresh : entry.1 ∉ map.keys := by
      have hkeys : (map ++ entry :: entries).keys = map.keys ++ entry.1 :: keys entries := by
        simp [keys]
      rw [hkeys] at h
      exact fun hmem => List.disjoint_of_nodup_append h hmem List.mem_cons_self
    show insertAll (map.insert entry.1 entry.2) entries = _
    rw [insert_of_not_mem _ hfresh, hsplit]
    exact ih (hsplit ▸ h)

/-- A list without repeated keys is the map of its entries. -/
theorem ofEntries_of_nodup {entries : OrderedMap α} (h : entries.keys.Nodup) :
    ofEntries entries = entries :=
  @insertAll_of_nodup α [] entries h

theorem ofEntries_concat (entries : List (String × α)) (entry : String × α) :
    ofEntries (entries ++ [entry]) = (ofEntries entries).insert entry.1 entry.2 := by
  rw [ofEntries, insertAll, List.foldl_append]
  rfl

theorem nodup_keys_ofEntries (entries : List (String × α)) : (ofEntries entries).keys.Nodup := by
  induction entries using List.reverseRecOn with
  | nil => exact List.nodup_nil
  | append_singleton entries entry ih =>
    rw [ofEntries_concat]
    exact nodup_keys_insert ih entry.1 entry.2

/-- The map of a list has no entries but those of the list. -/
theorem mem_of_mem_ofEntries {entries : List (String × α)} {entry : String × α}
    (h : entry ∈ ofEntries entries) : entry ∈ entries := by
  induction entries using List.reverseRecOn with
  | nil => exact h
  | append_singleton entries last ih =>
    rw [ofEntries_concat] at h
    rcases mem_insert h with rfl | hmem
    · exact List.mem_append_right _ (List.mem_singleton_self _)
    · exact List.mem_append_left _ (ih hmem)

/-- A list is the map of its entries exactly if no key is repeated. -/
theorem ofEntries_eq_self_iff {entries : OrderedMap α} :
    ofEntries entries = entries ↔ entries.keys.Nodup :=
  ⟨fun h => h ▸ nodup_keys_ofEntries entries, ofEntries_of_nodup⟩

/-- Keys stand where they were first. -/
theorem keys_ofEntries (entries : List (String × α)) :
    (ofEntries entries).keys = (entries.map Prod.fst).eraseDups := by
  induction entries using List.reverseRecOn with
  | nil => rfl
  | append_singleton entries entry ih =>
    rw [ofEntries_concat, keys_insert, ih, List.map_append, List.eraseDups_append]
    by_cases h : entry.1 ∈ entries.map Prod.fst
    · rw [if_pos (List.mem_eraseDups.mpr h)]
      simp [List.removeAll, h]
    · rw [if_neg (mt List.mem_eraseDups.mp h)]
      simp [List.removeAll, List.eraseDups_cons, h]

/-- Under a key stands the value that came last. -/
theorem get?_ofEntries (entries : List (String × α)) (key : String) :
    (ofEntries entries).get? key = get? entries.reverse key := by
  induction entries using List.reverseRecOn with
  | nil => rfl
  | append_singleton entries entry ih =>
    rw [ofEntries_concat, get?_insert, ih, List.reverse_append, List.reverse_singleton,
      List.singleton_append, get?_cons]

end OrderedMap

end DocStore
