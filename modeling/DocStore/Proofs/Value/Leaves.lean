import DocStore.Proofs.OrderedMap
import DocStore.Proofs.Value.Path
/-!
# Leaves of documents

The leaves of a value are the parts that are no documents, with the segments that lead to them; a
list is a leaf. `Value.mapLeaves` changes every leaf by a function of its segments and itself, and
keeps the documents around. Where keys are not repeated, a leaf is what its segments lead to
(`removedSegments_of_mem_leaves`), and changing one leaf is writing it
(`setSegments_eq_mapLeaves`).
-/

namespace DocStore

namespace Value

mutual

/-- Changes every leaf by a function of its segments and itself. -/
def mapLeaves (f : List String → Value → Value) : Value → Value
  | .document entries => .document (mapLeavesEntries f entries)
  | leaf => f [] leaf

def mapLeavesEntries (f : List String → Value → Value) : List (String × Value) → Document
  | [] => []
  | (key, value) :: entries =>
    (key, mapLeaves (fun segs => f (key :: segs)) value) :: mapLeavesEntries f entries

end

mutual

/-- The leaves of a value with the segments that lead to them. -/
def leaves : Value → List (List String × Value)
  | .document entries => leavesEntries entries
  | leaf => [([], leaf)]

def leavesEntries : List (String × Value) → List (List String × Value)
  | [] => []
  | (key, value) :: entries =>
    (leaves value).map (fun leaf => (key :: leaf.1, leaf.2)) ++ leavesEntries entries

end

mutual

/-- Whether the documents around the leaves repeat no key. -/
def KeyedOnce : Value → Prop
  | .document entries => (entries.map Prod.fst).Nodup ∧ KeyedOnceEntries entries
  | _ => True

def KeyedOnceEntries : List (String × Value) → Prop
  | [] => True
  | (_, value) :: entries => KeyedOnce value ∧ KeyedOnceEntries entries

end

/-- Whether a value is a leaf. -/
def IsLeaf (value : Value) : Prop := value.asDocument? = none

theorem isLeaf_or_document (value : Value) :
    value.IsLeaf ∨ ∃ entries, value = .document entries := by
  cases value with
  | document entries => exact .inr ⟨entries, rfl⟩
  | _ => exact .inl rfl

theorem mapLeaves_of_isLeaf {value : Value} (h : value.IsLeaf) (f : List String → Value → Value) :
    mapLeaves f value = f [] value := by
  cases value with
  | document entries => cases h
  | _ => rfl

theorem leaves_of_isLeaf {value : Value} (h : value.IsLeaf) : leaves value = [([], value)] := by
  cases value with
  | document entries => cases h
  | _ => rfl

theorem keyedOnce_of_isLeaf {value : Value} (h : value.IsLeaf) : value.KeyedOnce := by
  cases value with
  | document entries => cases h
  | _ => trivial

mutual

theorem isLeaf_of_mem_leaves (value : Value) {leaf : List String × Value}
    (h : leaf ∈ leaves value) : leaf.2.IsLeaf := by
  cases value with
  | document entries => exact isLeaf_of_mem_leavesEntries entries h
  | _ =>
    cases List.mem_singleton.mp h
    rfl

theorem isLeaf_of_mem_leavesEntries (entries : List (String × Value))
    {leaf : List String × Value} (h : leaf ∈ leavesEntries entries) : leaf.2.IsLeaf := by
  match entries with
  | (key, value) :: entries =>
    rcases List.mem_append.mp h with h | h
    · obtain ⟨inner, hinner, rfl⟩ := List.mem_map.mp h
      have hleaf := isLeaf_of_mem_leaves value hinner
      exact hleaf
    · exact isLeaf_of_mem_leavesEntries entries h

end

/-! ## Maps of leaves -/

mutual

/-- Functions that agree on the leaves change a value alike. -/
theorem mapLeaves_congr (value : Value) {f g : List String → Value → Value}
    (h : ∀ leaf ∈ leaves value, f leaf.1 leaf.2 = g leaf.1 leaf.2) :
    mapLeaves f value = mapLeaves g value := by
  cases value with
  | document entries => rw [mapLeaves, mapLeaves, mapLeavesEntries_congr entries h]
  | _ => exact h _ (List.mem_singleton_self _)

theorem mapLeavesEntries_congr (entries : List (String × Value))
    {f g : List String → Value → Value}
    (h : ∀ leaf ∈ leavesEntries entries, f leaf.1 leaf.2 = g leaf.1 leaf.2) :
    mapLeavesEntries f entries = mapLeavesEntries g entries := by
  match entries with
  | [] => rfl
  | (key, value) :: entries =>
    have hvalue : ∀ leaf ∈ leaves value, f (key :: leaf.1) leaf.2 = g (key :: leaf.1) leaf.2 :=
      fun leaf hleaf => h (key :: leaf.1, leaf.2)
        (List.mem_append_left _ (List.mem_map_of_mem hleaf))
    have hentries : ∀ leaf ∈ leavesEntries entries, f leaf.1 leaf.2 = g leaf.1 leaf.2 :=
      fun leaf hleaf => h leaf (List.mem_append_right _ hleaf)
    have hhead := mapLeaves_congr value (f := fun segs => f (key :: segs))
      (g := fun segs => g (key :: segs)) hvalue
    rw [mapLeavesEntries, mapLeavesEntries, hhead, mapLeavesEntries_congr entries hentries]

end

mutual

theorem mapLeaves_id (value : Value) : mapLeaves (fun _ leaf => leaf) value = value := by
  cases value with
  | document entries => rw [mapLeaves, mapLeavesEntries_id entries]
  | _ => rfl

theorem mapLeavesEntries_id (entries : List (String × Value)) :
    mapLeavesEntries (fun _ leaf => leaf) entries = entries := by
  match entries with
  | [] => rfl
  | (key, value) :: entries =>
    rw [mapLeavesEntries, mapLeaves_id value, mapLeavesEntries_id entries]

end

mutual

/-- Two changes in turn, where the first one leaves the leaves to be leaves. -/
theorem mapLeaves_mapLeaves (value : Value) {f : List String → Value → Value}
    (g : List String → Value → Value) (h : ∀ leaf ∈ leaves value, (f leaf.1 leaf.2).IsLeaf) :
    mapLeaves g (mapLeaves f value) = mapLeaves (fun segs leaf => g segs (f segs leaf)) value := by
  cases value with
  | document entries =>
    rw [mapLeaves, mapLeaves, mapLeavesEntries_mapLeavesEntries entries g h, mapLeaves]
  | _ => exact mapLeaves_of_isLeaf (h _ (List.mem_singleton_self _)) g

theorem mapLeavesEntries_mapLeavesEntries (entries : List (String × Value))
    {f : List String → Value → Value} (g : List String → Value → Value)
    (h : ∀ leaf ∈ leavesEntries entries, (f leaf.1 leaf.2).IsLeaf) :
    mapLeavesEntries g (mapLeavesEntries f entries) =
      mapLeavesEntries (fun segs leaf => g segs (f segs leaf)) entries := by
  match entries with
  | [] => rfl
  | (key, value) :: entries =>
    have hvalue : ∀ leaf ∈ leaves value, (f (key :: leaf.1) leaf.2).IsLeaf :=
      fun leaf hleaf => h (key :: leaf.1, leaf.2)
        (List.mem_append_left _ (List.mem_map_of_mem hleaf))
    have hentries : ∀ leaf ∈ leavesEntries entries, (f leaf.1 leaf.2).IsLeaf :=
      fun leaf hleaf => h leaf (List.mem_append_right _ hleaf)
    rw [mapLeavesEntries, mapLeavesEntries, mapLeavesEntries, mapLeaves_mapLeaves value _ hvalue,
      mapLeavesEntries_mapLeavesEntries entries g hentries]

end

mutual

/-- The leaves after a change that leaves them to be leaves. -/
theorem leaves_mapLeaves (value : Value) {f : List String → Value → Value}
    (h : ∀ leaf ∈ leaves value, (f leaf.1 leaf.2).IsLeaf) :
    leaves (mapLeaves f value) = (leaves value).map fun leaf => (leaf.1, f leaf.1 leaf.2) := by
  cases value with
  | document entries => exact leavesEntries_mapLeavesEntries entries h
  | _ => exact leaves_of_isLeaf (h _ (List.mem_singleton_self _))

theorem leavesEntries_mapLeavesEntries (entries : List (String × Value))
    {f : List String → Value → Value}
    (h : ∀ leaf ∈ leavesEntries entries, (f leaf.1 leaf.2).IsLeaf) :
    leavesEntries (mapLeavesEntries f entries) =
      (leavesEntries entries).map fun leaf => (leaf.1, f leaf.1 leaf.2) := by
  match entries with
  | [] => rfl
  | (key, value) :: entries =>
    have hvalue : ∀ leaf ∈ leaves value, (f (key :: leaf.1) leaf.2).IsLeaf :=
      fun leaf hleaf => h (key :: leaf.1, leaf.2)
        (List.mem_append_left _ (List.mem_map_of_mem hleaf))
    have hentries : ∀ leaf ∈ leavesEntries entries, (f leaf.1 leaf.2).IsLeaf :=
      fun leaf hleaf => h leaf (List.mem_append_right _ hleaf)
    rw [mapLeavesEntries, leavesEntries, leavesEntries, List.map_append,
      leaves_mapLeaves value hvalue, leavesEntries_mapLeavesEntries entries hentries, List.map_map,
      List.map_map]
    rfl

end

/-! ## Paths to leaves -/

variable {f : List String → Value → Value}

theorem keys_mapLeavesEntries (f : List String → Value → Value) (entries : List (String × Value)) :
    (mapLeavesEntries f entries).map Prod.fst = entries.map Prod.fst := by
  induction entries with
  | nil => rfl
  | cons entry entries ih => rw [mapLeavesEntries, List.map_cons, List.map_cons, ih]

theorem get?_mapLeavesEntries (f : List String → Value → Value) (entries : List (String × Value))
    (key : String) :
    OrderedMap.get? (mapLeavesEntries f entries) key =
      (OrderedMap.get? entries key).map (mapLeaves fun segs => f (key :: segs)) := by
  induction entries with
  | nil => rfl
  | cons entry entries ih =>
    obtain ⟨first, value⟩ := entry
    rw [mapLeavesEntries, OrderedMap.get?_cons, OrderedMap.get?_cons]
    by_cases hkey : key = first
    · rw [if_pos hkey, if_pos hkey, hkey, Option.map_some]
    · rw [if_neg hkey, if_neg hkey, ih]

theorem mem_leavesEntries_of_mem {entries : List (String × Value)} {entry : String × Value}
    (h : entry ∈ entries) {leaf : List String × Value} (hleaf : leaf ∈ leaves entry.2) :
    (entry.1 :: leaf.1, leaf.2) ∈ leavesEntries entries := by
  induction entries with
  | nil => cases h
  | cons first entries ih =>
    rw [leavesEntries]
    rcases List.mem_cons.mp h with rfl | h
    · exact List.mem_append_left _ (List.mem_map_of_mem hleaf)
    · exact List.mem_append_right _ (ih h)

/-- Whether no leaf on the way of segments changes. -/
def SameAbove (f : List String → Value → Value) (segs : List String) (doc : Document) : Prop :=
  ∀ leaf ∈ leavesEntries doc, leaf.1 <+: segs → leaf.1 ≠ segs → f leaf.1 leaf.2 = leaf.2

theorem SameAbove.below {key next : String} {rest : List String} {doc entries : Document}
    (h : SameAbove f (key :: next :: rest) doc)
    (hget : OrderedMap.get? doc key = some (.document entries)) :
    SameAbove (fun segs => f (key :: segs)) (next :: rest) entries := by
  intro leaf hleaf hpre hne
  refine h (key :: leaf.1, leaf.2)
    (mem_leavesEntries_of_mem (OrderedMap.mem_of_get? hget) hleaf) ?_ ?_
  · exact List.cons_prefix_cons.mpr ⟨rfl, hpre⟩
  · simpa using hne

theorem SameAbove.leaf {key next : String} {rest : List String} {doc : Document} {value : Value}
    (h : SameAbove f (key :: next :: rest) doc) (hget : OrderedMap.get? doc key = some value)
    (hleaf : value.IsLeaf) : f [key] value = value := by
  have hself : (([] : List String), value) ∈ leaves value := by
    rw [leaves_of_isLeaf hleaf]
    exact List.mem_singleton_self _
  have hmem := mem_leavesEntries_of_mem (OrderedMap.mem_of_get? hget) hself
  exact h ([key], value) hmem ⟨next :: rest, rfl⟩ (by simp)

/-- What segments lead to, when no leaf on the way changes. -/
theorem removedSegments_mapLeavesEntries :
    ∀ {segs : List String} {f : List String → Value → Value} {doc : Document}, segs ≠ [] →
      SameAbove f segs doc →
      Document.removedSegments segs (mapLeavesEntries f doc) =
        (Document.removedSegments segs doc).map (mapLeaves fun below => f (segs ++ below))
  | [], _, _, h, _ => absurd rfl h
  | [key], f, doc, _, _ => get?_mapLeavesEntries f doc key
  | key :: next :: rest, f, doc, _, hsame => by
    have hrest : next :: rest ≠ [] := List.cons_ne_nil _ _
    rw [Document.removedSegments_cons hrest, Document.removedSegments_cons hrest, Document.inner,
      get?_mapLeavesEntries, Document.inner]
    rcases hget : OrderedMap.get? doc key with _ | found
    · rw [Option.map_none, Option.bind_none, Option.getD_none,
        Document.removedSegments_nil_document, Option.map_none]
    · rcases isLeaf_or_document found with hleaf | ⟨entries, rfl⟩
      · rw [Option.map_some, mapLeaves_of_isLeaf hleaf, hsame.leaf hget hleaf, Option.bind_some,
          hleaf, Option.getD_none, Document.removedSegments_nil_document, Option.map_none]
      · exact removedSegments_mapLeavesEntries hrest (hsame.below hget)

/-- What is read, when no leaf on the way changes and nothing was read. -/
theorem descend_mapLeavesEntries_none :
    ∀ {segs : List String} {f : List String → Value → Value} {doc : Document}, segs ≠ [] →
      SameAbove f segs doc → Value.descend segs (.document doc) = none →
      Value.descend segs (.document (mapLeavesEntries f doc)) = none
  | [], _, _, h, _, _ => absurd rfl h
  | [key], f, doc, _, _, hnone => by
    rw [Document.descend_cons] at hnone
    rw [Document.descend_cons, get?_mapLeavesEntries]
    rcases hget : OrderedMap.get? doc key with _ | found
    · rfl
    · rw [hget] at hnone
      cases hnone
  | key :: next :: rest, f, doc, _, hsame, hnone => by
    have hrest : next :: rest ≠ [] := List.cons_ne_nil _ _
    rw [Document.descend_cons] at hnone
    rw [Document.descend_cons, get?_mapLeavesEntries]
    rcases hget : OrderedMap.get? doc key with _ | found
    · rfl
    · rw [hget, Option.bind_some] at hnone
      rw [Option.map_some, Option.bind_some]
      rcases isLeaf_or_document found with hleaf | ⟨entries, rfl⟩
      · rw [mapLeaves_of_isLeaf hleaf, hsame.leaf hget hleaf]
        exact hnone
      · exact descend_mapLeavesEntries_none hrest (hsame.below hget) hnone

/-! ## Leaves under keys that are not repeated -/

theorem keyedOnce_of_mem :
    ∀ {entries : List (String × Value)} {entry : String × Value}, KeyedOnceEntries entries →
      entry ∈ entries → entry.2.KeyedOnce
  | _ :: _, _, h, hentry => by
    rw [KeyedOnceEntries] at h
    rcases List.mem_cons.mp hentry with rfl | hentry
    · exact h.1
    · exact keyedOnce_of_mem h.2 hentry

theorem exists_of_mem_leavesEntries :
    ∀ {entries : List (String × Value)} {leaf : List String × Value},
      leaf ∈ leavesEntries entries → ∃ key value segs, (key, value) ∈ entries ∧
        (segs, leaf.2) ∈ leaves value ∧ leaf.1 = key :: segs
  | (key, value) :: entries, leaf, h => by
    rcases List.mem_append.mp h with h | h
    · obtain ⟨⟨segs, inner⟩, hinner, rfl⟩ := List.mem_map.mp h
      exact ⟨key, value, segs, List.mem_cons_self, hinner, rfl⟩
    · obtain ⟨key', value', segs, hentry, hleaf, hsegs⟩ := exists_of_mem_leavesEntries h
      exact ⟨key', value', segs, List.mem_cons_of_mem _ hentry, hleaf, hsegs⟩

mutual

theorem pairwise_apart_leaves (value : Value) (h : value.KeyedOnce) :
    (leaves value).Pairwise fun leaf other => Path.Apart leaf.1 other.1 := by
  cases value with
  | document entries => exact pairwise_apart_leavesEntries entries h.1 h.2
  | _ => exact List.pairwise_singleton _ _

/-- No leaf stands above another one. -/
theorem pairwise_apart_leavesEntries (entries : List (String × Value))
    (hnodup : (entries.map Prod.fst).Nodup) (h : KeyedOnceEntries entries) :
    (leavesEntries entries).Pairwise fun leaf other => Path.Apart leaf.1 other.1 := by
  match entries with
  | [] => exact .nil
  | (key, value) :: entries =>
    obtain ⟨hfresh, hnodup⟩ := List.nodup_cons.mp hnodup
    refine List.pairwise_append.mpr
      ⟨?_, pairwise_apart_leavesEntries entries hnodup h.2, fun leaf hleaf other hother => ?_⟩
    · exact List.pairwise_map.mpr ((pairwise_apart_leaves value h.1).imp Path.apart_cons_iff.mpr)
    · obtain ⟨inner, -, rfl⟩ := List.mem_map.mp hleaf
      obtain ⟨key', value', segs, hentry, -, hsegs⟩ := exists_of_mem_leavesEntries hother
      rw [hsegs]
      refine Path.apart_of_head_ne ?_ _ _
      rintro rfl
      exact hfresh (List.mem_map.mpr ⟨_, hentry, rfl⟩)

end

/-- **A leaf is what its segments lead to.** -/
theorem removedSegments_of_mem_leaves :
    ∀ {segs : List String} {doc : Document} {value : Value}, KeyedOnce (.document doc) →
      (segs, value) ∈ leavesEntries doc → Document.removedSegments segs doc = some value
  | segs, doc, value, hkeyed, h => by
    obtain ⟨key, found, rest, hentry, hleaf, rfl⟩ := exists_of_mem_leavesEntries h
    rw [KeyedOnce] at hkeyed
    have hget := OrderedMap.get?_of_mem hkeyed.1 hentry
    have hfound := keyedOnce_of_mem hkeyed.2 hentry
    rcases isLeaf_or_document found with hisLeaf | ⟨entries, rfl⟩
    · rw [leaves_of_isLeaf hisLeaf] at hleaf
      cases List.mem_singleton.mp hleaf
      exact hget
    · have hbelow := removedSegments_of_mem_leaves hfound hleaf
      have hrest : rest ≠ [] := by
        rintro rfl
        cases hbelow
      rw [Document.removedSegments_cons hrest, Document.inner_of_get? hget]
      exact hbelow
termination_by segs => segs.length
decreasing_by simp_all

mutual

theorem keyedOnce_mapLeaves (value : Value) {f : List String → Value → Value}
    (h : ∀ leaf ∈ leaves value, (f leaf.1 leaf.2).IsLeaf) (hkeyed : value.KeyedOnce) :
    (mapLeaves f value).KeyedOnce := by
  cases value with
  | document entries =>
    rw [KeyedOnce] at hkeyed
    rw [mapLeaves, KeyedOnce, keys_mapLeavesEntries]
    exact ⟨hkeyed.1, keyedOnceEntries_mapLeavesEntries entries h hkeyed.2⟩
  | _ => exact keyedOnce_of_isLeaf (h _ (List.mem_singleton_self _))

theorem keyedOnceEntries_mapLeavesEntries (entries : List (String × Value))
    {f : List String → Value → Value}
    (h : ∀ leaf ∈ leavesEntries entries, (f leaf.1 leaf.2).IsLeaf)
    (hkeyed : KeyedOnceEntries entries) : KeyedOnceEntries (mapLeavesEntries f entries) := by
  match entries with
  | [] => trivial
  | (key, value) :: entries =>
    rw [KeyedOnceEntries] at hkeyed
    rw [mapLeavesEntries, KeyedOnceEntries]
    refine ⟨keyedOnce_mapLeaves value (fun leaf hleaf => ?_) hkeyed.1,
      keyedOnceEntries_mapLeavesEntries entries (fun leaf hleaf => ?_) hkeyed.2⟩
    · exact h (key :: leaf.1, leaf.2) (List.mem_append_left _ (List.mem_map_of_mem hleaf))
    · exact h leaf (List.mem_append_right _ hleaf)

end

/-! ## Writing a leaf -/

/-- Changes the leaf at given segments. -/
def changeAt (segs : List String) (change : Value → Value) (path : List String) (leaf : Value) :
    Value :=
  if path = segs then change leaf else leaf

/-- Where no leaf is, none changes. -/
theorem mapLeavesEntries_changeAt_of_forall_not_isLeaf {segs : List String} {doc : Document}
    (change : Value → Value) (hkeyed : KeyedOnce (.document doc))
    (h : ∀ value, Document.removedSegments segs doc = some value → ¬ value.IsLeaf) :
    mapLeavesEntries (changeAt segs change) doc = doc := by
  refine (mapLeavesEntries_congr doc fun leaf hleaf => if_neg ?_).trans (mapLeavesEntries_id doc)
  rintro rfl
  exact h leaf.2 (removedSegments_of_mem_leaves hkeyed hleaf)
    (isLeaf_of_mem_leavesEntries doc hleaf)

theorem mapLeaves_of_same {value : Value} (h : ∀ segs leaf, f segs leaf = leaf) :
    mapLeaves f value = value :=
  (mapLeaves_congr value fun leaf _ => h leaf.1 leaf.2).trans (mapLeaves_id value)

theorem mapLeavesEntries_of_same {entries : List (String × Value)}
    (h : ∀ entry ∈ entries, ∀ segs leaf, f (entry.1 :: segs) leaf = leaf) :
    mapLeavesEntries f entries = entries := by
  induction entries with
  | nil => rfl
  | cons entry entries ih =>
    have hhead := h entry List.mem_cons_self
    rw [mapLeavesEntries, mapLeaves_of_same hhead, ih fun entry hentry =>
      h entry (List.mem_cons_of_mem _ hentry)]

/-- A change below one key is an insertion under it. -/
theorem insert_eq_mapLeavesEntries {doc : Document} {key : String} {value : Value}
    (hnodup : (doc.map Prod.fst).Nodup) (hget : OrderedMap.get? doc key = some value)
    (hother : ∀ other, other ≠ key → ∀ segs leaf, f (other :: segs) leaf = leaf) :
    OrderedMap.insert doc key (mapLeaves (fun segs => f (key :: segs)) value) =
      mapLeavesEntries f doc := by
  induction doc with
  | nil => cases hget
  | cons entry entries ih =>
    obtain ⟨first, found⟩ := entry
    obtain ⟨hfresh, hrest⟩ := List.nodup_cons.mp hnodup
    rw [OrderedMap.get?_cons] at hget
    rw [OrderedMap.insert, mapLeavesEntries]
    by_cases hkey : first = key
    · subst hkey
      rw [if_pos rfl, Option.some.injEq] at hget
      have hsame : mapLeavesEntries f entries = entries :=
        mapLeavesEntries_of_same fun entry hentry => hother entry.1 fun heq =>
          hfresh (List.mem_map.mpr ⟨entry, hentry, heq⟩)
      rw [if_pos rfl, hsame, ← hget]
    · rw [if_neg (Ne.symm hkey)] at hget
      rw [if_neg hkey, mapLeaves_of_same (hother first hkey), ih hrest hget]

/-- **Changing one leaf is writing it.** -/
theorem setSegments_eq_mapLeaves (change : Value → Value) :
    ∀ {segs : List String} {doc : Document} {value : Value}, KeyedOnce (.document doc) →
      Document.removedSegments segs doc = some value → value.IsLeaf →
      Document.setSegments segs (change value) doc = mapLeavesEntries (changeAt segs change) doc
  | [], _, _, _, h, _ => by cases h
  | [key], doc, value, hkeyed, h, hleaf => by
    rw [KeyedOnce] at hkeyed
    have hchange : mapLeaves (fun segs => changeAt [key] change (key :: segs)) value =
        change value := by
      rw [mapLeaves_of_isLeaf hleaf, changeAt, if_pos rfl]
    rw [Document.setSegments, ← hchange]
    refine insert_eq_mapLeavesEntries hkeyed.1 h fun other hne segs leaf => if_neg ?_
    simp [hne]
  | key :: next :: rest, doc, value, hkeyed, h, hleaf => by
    have hrest : next :: rest ≠ [] := List.cons_ne_nil _ _
    rw [KeyedOnce] at hkeyed
    obtain ⟨entries, hget, hbelow⟩ := Document.exists_document_of_removedSegments hrest h
    have hentries : KeyedOnce (.document entries) :=
      keyedOnce_of_mem hkeyed.2 (OrderedMap.mem_of_get? hget)
    have hchange : mapLeaves (fun segs => changeAt (key :: next :: rest) change (key :: segs))
        (.document entries) =
          .document (mapLeavesEntries (changeAt (next :: rest) change) entries) := by
      have hbelow : (fun segs => changeAt (key :: next :: rest) change (key :: segs)) =
          changeAt (next :: rest) change := by
        funext segs leaf
        simp [changeAt]
      rw [hbelow, mapLeaves]
    rw [Document.setSegments_cons hrest, Document.inner_of_get? hget,
      setSegments_eq_mapLeaves change hentries hbelow hleaf, ← hchange]
    refine insert_eq_mapLeavesEntries hkeyed.1 hget fun other hne segs leaf => if_neg ?_
    simp [hne]

end Value

end DocStore
