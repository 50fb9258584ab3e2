import DocStore.Proofs.Store.Population
import DocStore.Proofs.Value.Overwrite
/-!
# Putting ids back

The populated paths of a document are visited one by one, and each visit puts the ids of its
documents under the path (`LiveDocument.depopulatedIn`).

Where every id was found, the outermost populated paths are the roots at which the data differs from
the document before (`LiveDocument.Populated`). A visit of a root puts back what was there
(`LiveDocument.removedSegments_visit_of_stands`); a visit below a root that was not visited yet
changes a document that is written over later, and below a root that was visited it writes a
document over the id (`LiveDocument.text_depopulatedIn_iff`).

So the data is restored if and only if the paths below an outermost path that brought documents are
visited before it, and not behind it (`LiveDocument.Populated.depopulatedIn_eq_iff`). No path is
populated behind one below it (`LiveDocument.Nested`), so turning round the order in which the paths
were populated does this (`LiveDocument.Nested.innerFirst_reverse`).
-/

namespace DocStore

variable {σ : Type}

namespace LiveDocument

open Document (Rooted removedSegments setSegments)

/-! ## Visiting populated paths -/

/-- The ids of documents. -/
def idsOf (found : List (ResolvedDocument σ)) : List String := found.filterMap fun d => d.data.id?

/-- The data after visits of populated paths in an order. -/
def depopulatedIn (order : OrderedMap (List (ResolvedDocument σ))) (data : Document) : Document :=
  order.foldl (fun data entry => depopulateStep data entry.1 entry.2) data

@[simp] theorem depopulatedIn_cons (entry : String × List (ResolvedDocument σ))
    (order : OrderedMap (List (ResolvedDocument σ))) (data : Document) :
    depopulatedIn (entry :: order) data =
      depopulatedIn order (depopulateStep data entry.1 entry.2) := rfl

theorem depopulatedIn_append (before after : OrderedMap (List (ResolvedDocument σ)))
    (data : Document) :
    depopulatedIn (before ++ after) data = depopulatedIn after (depopulatedIn before data) :=
  List.foldl_append

theorem depopulated_eq (doc : LiveDocument σ) :
    doc.depopulated = depopulatedIn doc.resolved doc.data := rfl

section Visit

variable {data : Document} {path : String} {found : List (ResolvedDocument σ)}

/-- A list becomes the list of the ids. -/
theorem visit_of_array {items : List Value} (h : data.get? path = some (.array items)) :
    depopulateStep data path found = data.set path (.array ((idsOf found).map .string)) := by
  simp only [depopulateStep, h, idsOf]

/-- Anything else becomes the first id. -/
theorem visit_of_ids (h : ∀ items, data.get? path ≠ some (.array items)) {id : String}
    {rest : List String} (hids : idsOf found = id :: rest) :
    depopulateStep data path found = data.set path (.string id) := by
  rw [idsOf] at hids
  simp only [depopulateStep, hids]

theorem visit_of_no_ids (h : ∀ items, data.get? path ≠ some (.array items))
    (hids : idsOf found = []) : depopulateStep data path found = data := by
  rw [idsOf] at hids
  simp only [depopulateStep, hids]

/-- A visit writes at its path or does nothing. -/
theorem visit_eq (data : Document) (path : String) (found : List (ResolvedDocument σ)) :
    depopulateStep data path found = data ∨
      ∃ value, depopulateStep data path found = data.set path value := by
  by_cases harray : ∃ items, data.get? path = some (.array items)
  · obtain ⟨items, hitems⟩ := harray
    exact .inr ⟨_, visit_of_array hitems⟩
  · rw [not_exists] at harray
    rcases hids : idsOf found with _ | ⟨id, rest⟩
    · exact .inl (visit_of_no_ids harray hids)
    · exact .inr ⟨_, visit_of_ids harray hids⟩

/-- Visits leave the paths apart from theirs. -/
theorem removedSegments_visit_of_apart {p : List String}
    (h : Path.Apart (Path.segments path) p) :
    removedSegments p (depopulateStep data path found) = removedSegments p data := by
  rcases visit_eq data path found with hsame | ⟨value, hwrite⟩
  · rw [hsame]
  · rw [hwrite]
    exact Document.removedSegments_setSegments_of_apart value data h

/-- A document stays one when a path below it is visited. -/
theorem document_visit_of_below {p : List String} (hbelow : p <+: Path.segments path)
    (hne : p ≠ Path.segments path) {entries : Document}
    (h : removedSegments p data = some (.document entries)) :
    ∃ entries', removedSegments p (depopulateStep data path found) =
      some (.document entries') := by
  rcases visit_eq data path found with hsame | ⟨value, hwrite⟩
  · rw [hsame]
    exact ⟨entries, h⟩
  · rw [hwrite]
    exact Document.removedSegments_setSegments_below hbelow hne
      (Document.ne_nil_of_removedSegments h) value data

/-- Below a text, documents with ids are written over it, and no documents leave it. -/
theorem text_visit_of_below {p : List String} (hbelow : p <+: Path.segments path)
    (hne : p ≠ Path.segments path) {text : String}
    (h : removedSegments p data = some (.string text)) :
    (idsOf found = [] → depopulateStep data path found = data) ∧
      (idsOf found ≠ [] → ∃ entries, removedSegments p (depopulateStep data path found) =
        some (.document entries)) := by
  have hget : data.get? path = none := by
    obtain ⟨rest, hrest⟩ := hbelow
    have hrestNe : rest ≠ [] := by
      rintro rfl
      exact hne (by rw [← hrest, List.append_nil])
    obtain ⟨key, rest, rfl⟩ := List.exists_cons_of_ne_nil hrestNe
    rw [Document.get?, ← hrest, Document.descend_append,
      Document.descend_of_removedSegments h]
    rfl
  have hlist : ∀ items, data.get? path ≠ some (.array items) := by simp [hget]
  refine ⟨visit_of_no_ids hlist, fun hids => ?_⟩
  obtain ⟨id, rest, hids⟩ := List.exists_cons_of_ne_nil hids
  rw [visit_of_ids hlist hids]
  exact Document.removedSegments_setSegments_below hbelow hne
    (Document.ne_nil_of_removedSegments h) _ data

end Visit

/-- What stands under a populated path: for an id its document, and for a list of ids a list. -/
inductive Stands : Value → List (ResolvedDocument σ) → Value → Prop
  | one {id : String} {found : List (ResolvedDocument σ)} {entries : Document}
      (ids : idsOf found = [id]) : Stands (.string id) found (.document entries)
  | many {found : List (ResolvedDocument σ)} {items : List Value} :
      Stands (.array ((idsOf found).map .string)) found (.array items)

/-- A visit puts back what a path held before it was populated. -/
theorem removedSegments_visit_of_stands {data : Document} {path : String}
    {found : List (ResolvedDocument σ)} {before now : Value}
    (hnow : removedSegments (Path.segments path) data = some now) (h : Stands before found now) :
    removedSegments (Path.segments path) (depopulateStep data path found) = some before := by
  have hget : data.get? path = some now := Document.descend_of_removedSegments hnow
  cases h with
  | one hids =>
    rw [visit_of_ids (by simp [hget]) hids]
    exact Document.removedSegments_setSegments _ data (Path.segments_ne_nil path)
  | many =>
    rw [visit_of_array hget]
    exact Document.removedSegments_setSegments _ data (Path.segments_ne_nil path)

/-! ## Visits behind a root -/

section Visits

variable {p : List String} {order : OrderedMap (List (ResolvedDocument σ))} {data : Document}

theorem removedSegments_depopulatedIn_of_apart
    (h : ∀ entry ∈ order, Path.Apart (Path.segments entry.1) p) :
    removedSegments p (depopulatedIn order data) = removedSegments p data := by
  induction order generalizing data with
  | nil => rfl
  | cons first rest ih =>
    rw [depopulatedIn_cons, ih fun entry hentry => h entry (List.mem_cons_of_mem _ hentry),
      removedSegments_visit_of_apart (h first List.mem_cons_self)]

/-- Whether a path is apart from another or lies below it. -/
def Off (p : List String) (path : String) : Prop :=
  Path.Apart (Path.segments path) p ∨ p <+: Path.segments path ∧ p ≠ Path.segments path

/-- A document stays one when no path at or above it is visited. -/
theorem document_depopulatedIn (hoff : ∀ entry ∈ order, Off p entry.1) {entries : Document}
    (h : removedSegments p data = some (.document entries)) :
    ∃ entries', removedSegments p (depopulatedIn order data) = some (.document entries') := by
  induction order generalizing data entries with
  | nil => exact ⟨entries, h⟩
  | cons first rest ih =>
    have hrest : ∀ entry ∈ rest, Off p entry.1 := fun entry hentry =>
      hoff entry (List.mem_cons_of_mem _ hentry)
    rcases hoff first List.mem_cons_self with hapart | ⟨hbelow, hne⟩
    · exact ih hrest ((removedSegments_visit_of_apart hapart).trans h)
    · obtain ⟨entries', hentries⟩ := document_visit_of_below hbelow hne h
      exact ih hrest hentries

/-- An id that was put back stays if and only if no path below it that brought documents is visited
afterwards. -/
theorem text_depopulatedIn_iff (hoff : ∀ entry ∈ order, Off p entry.1)
    (hnamed : ∀ entry ∈ order, idsOf entry.2 = [] → entry.2 = []) {text : String}
    (h : removedSegments p data = some (.string text)) :
    removedSegments p (depopulatedIn order data) = some (.string text) ↔
      ∀ entry ∈ order, p <+: Path.segments entry.1 → entry.2 = [] := by
  induction order generalizing data with
  | nil => simpa [depopulatedIn] using h
  | cons first rest ih =>
    have hrest : ∀ entry ∈ rest, Off p entry.1 := fun entry hentry =>
      hoff entry (List.mem_cons_of_mem _ hentry)
    have hnamedRest : ∀ entry ∈ rest, idsOf entry.2 = [] → entry.2 = [] := fun entry hentry =>
      hnamed entry (List.mem_cons_of_mem _ hentry)
    rw [depopulatedIn_cons, List.forall_mem_cons]
    rcases hoff first List.mem_cons_self with hapart | ⟨hbelow, hne⟩
    · rw [ih hrest hnamedRest ((removedSegments_visit_of_apart hapart).trans h)]
      exact (and_iff_right fun hbelow => absurd hbelow hapart.2).symm
    · obtain ⟨hnone, hsome⟩ := @text_visit_of_below σ data first.1 first.2 p hbelow hne text h
      by_cases hids : idsOf first.2 = []
      · rw [hnone hids, ih hrest hnamedRest h]
        exact (and_iff_right fun _ => hnamed first List.mem_cons_self hids).symm
      · obtain ⟨entries, hentries⟩ := hsome hids
        obtain ⟨entries', hentries'⟩ := document_depopulatedIn hrest hentries
        constructor
        · intro htext
          rw [hentries'] at htext
          cases htext
        · rintro ⟨hempty, -⟩
          rw [hempty hbelow] at hids
          exact absurd rfl hids

end Visits

/-! ## Populated documents -/

/-- What is known of the populated paths alone: each of them leads somewhere, none was populated
behind a path below it, and documents that were brought have ids. -/
structure Nested (doc : LiveDocument σ) : Prop where
  present : ∀ entry ∈ doc.resolved, ∃ value,
    removedSegments (Path.segments entry.1) doc.data = some value
  outerFirst : doc.resolved.Pairwise fun earlier later =>
    ¬ Path.segments later.1 <+: Path.segments earlier.1
  named : ∀ entry ∈ doc.resolved, idsOf entry.2 = [] → entry.2 = []

/-- Whether a document is another one with documents in place of ids: the roots are its outermost
populated paths with what they held, and every populated path lies at or below one of them, below an
id only. -/
structure Populated (original : Document) (roots : List (List String × Value))
    (doc : LiveDocument σ) : Prop where
  nested : Nested doc
  rooted : Rooted original roots doc.data
  stands : ∀ root ∈ roots, ∃ entry ∈ doc.resolved, Path.segments entry.1 = root.1 ∧
    ∃ now, removedSegments root.1 doc.data = some now ∧ Stands root.2 entry.2 now
  below : ∀ entry ∈ doc.resolved, ∃ root ∈ roots, root.1 <+: Path.segments entry.1 ∧
    (root.1 = Path.segments entry.1 ∨ ∃ id, root.2 = .string id)

/-- Whether the paths below every outermost path that brought documents are visited before it. -/
def InnerFirst (order : OrderedMap (List (ResolvedDocument σ))) : Prop :=
  ∀ before outer after, order = before ++ outer :: after →
    (∀ entry ∈ order, Path.segments entry.1 <+: Path.segments outer.1 → entry.1 = outer.1) →
    ∀ inner ∈ after, Path.segments outer.1 <+: Path.segments inner.1 → inner.2 = []

namespace Nested

variable {doc : LiveDocument σ} {path : String} {found : List (ResolvedDocument σ)}
  {held now : Value}

theorem keys_nodup (h : Nested doc) : doc.resolved.keys.Nodup := by
  have hdistinct : doc.resolved.Pairwise fun earlier later => earlier.1 ≠ later.1 := by
    refine h.outerFirst.imp fun {earlier later} hlater heq => hlater ?_
    simp [heq]
  exact List.pairwise_map.mpr hdistinct

/-- The order in which the paths were populated, turned round, visits inner paths first. -/
theorem innerFirst_reverse (h : Nested doc) : InnerFirst doc.resolved.reverse := by
  intro before outer after hsplit _ inner hinner hbelow
  have hpairs := List.pairwise_reverse.mpr h.outerFirst
  rw [hsplit] at hpairs
  have hlater := (List.pairwise_cons.mp (List.pairwise_append.mp hpairs).2.1).1 inner hinner
  exact absurd hbelow hlater

/-- The visits before one and behind it are of other populated paths. -/
theorem others_of_split (h : Nested doc)
    {order before after : OrderedMap (List (ResolvedDocument σ))} (horder : order.Perm doc.resolved)
    {outer : String × List (ResolvedDocument σ)} (hsplit : order = before ++ outer :: after) :
    outer ∈ doc.resolved ∧ ∀ entry ∈ before ++ after, entry ∈ doc.resolved ∧ entry ≠ outer := by
  rw [hsplit] at horder
  have hperm : (outer :: (before ++ after)).Perm doc.resolved := List.perm_middle.symm.trans horder
  have hnodup : (outer :: (before ++ after)).Nodup :=
    hperm.nodup_iff.mpr (List.Nodup.of_map Prod.fst h.keys_nodup)
  refine ⟨hperm.subset List.mem_cons_self, fun entry hentry => ?_⟩
  refine ⟨hperm.subset (List.mem_cons_of_mem _ hentry), ?_⟩
  rintro rfl
  exact (List.nodup_cons.mp hnodup).1 hentry

/-- The entries after a path was populated for the first time. -/
theorem mem_insert_iff (hnew : path ∉ doc.resolved.keys)
    (entry : String × List (ResolvedDocument σ)) :
    entry ∈ doc.resolved.insert path found ↔ entry ∈ doc.resolved ∨ entry = (path, found) := by
  rw [OrderedMap.insert_of_not_mem found hnew, List.mem_append, List.mem_singleton]

/-- An id or a list of ids is never above a populated path, where a document stands. -/
theorem not_above (h : Nested doc) (hnew : path ∉ doc.resolved.keys)
    (hheld : doc.data.removed? path = some held) (hstands : Stands held found now)
    {entry : String × List (ResolvedDocument σ)} (hentry : entry ∈ doc.resolved) :
    ¬ Path.segments path <+: Path.segments entry.1 := by
  intro habove
  have hne : Path.segments path ≠ Path.segments entry.1 := by
    intro heq
    have hkey : entry.1 = path := (Path.segments_injective heq).symm
    exact hnew (hkey ▸ List.mem_map_of_mem hentry)
  obtain ⟨value, hvalue⟩ := h.present entry hentry
  obtain ⟨entries, hentries⟩ :=
    Document.exists_document_above habove hne (Path.segments_ne_nil path) hvalue
  have hdocument : held = .document entries := Option.some.inj (hheld.symm.trans hentries)
  rw [hdocument] at hstands
  cases hstands

/-- Populating a path for the first time keeps what is known of the populated paths. -/
theorem populate (h : Nested doc) (hnew : path ∉ doc.resolved.keys)
    (hheld : doc.data.removed? path = some held) (hstands : Stands held found now)
    (hnamed : idsOf found = [] → found = []) : Nested (doc.populate path found now) := by
  have hmem := @mem_insert_iff σ doc path found hnew
  have habove : ∀ entry ∈ doc.resolved, ¬ Path.segments path <+: Path.segments entry.1 :=
    fun entry hentry => h.not_above hnew hheld hstands hentry
  exact {
    present := by
      intro entry hentry
      rcases (hmem entry).mp hentry with hold | rfl
      · obtain ⟨value, hvalue⟩ := h.present entry hold
        by_cases hbelow : Path.segments entry.1 <+: Path.segments path
        · have hne : Path.segments entry.1 ≠ Path.segments path := fun heq =>
            habove entry hold (heq ▸ List.prefix_rfl)
          obtain ⟨entries, hentries⟩ := Document.removedSegments_setSegments_below hbelow hne
            (Path.segments_ne_nil entry.1) now doc.data
          exact ⟨_, hentries⟩
        · have hapart : Path.Apart (Path.segments path) (Path.segments entry.1) :=
            ⟨habove entry hold, hbelow⟩
          exact ⟨value,
            (Document.removedSegments_setSegments_of_apart now doc.data hapart).trans hvalue⟩
      · exact ⟨now, Document.removedSegments_setSegments now doc.data (Path.segments_ne_nil path)⟩
    outerFirst := by
      have happend : doc.resolved.insert path found = doc.resolved ++ [(path, found)] :=
        OrderedMap.insert_of_not_mem found hnew
      show (doc.resolved.insert path found).Pairwise _
      rw [happend, List.pairwise_append]
      refine ⟨h.outerFirst, List.pairwise_singleton _ _, fun earlier hearlier later hlater => ?_⟩
      rw [List.mem_singleton.mp hlater]
      exact habove earlier hearlier
    named := by
      intro entry hentry
      rcases (hmem entry).mp hentry with hold | rfl
      · exact h.named entry hold
      · exact hnamed }

end Nested

namespace Populated

variable {original : Document} {roots : List (List String × Value)} {doc : LiveDocument σ}
  {order : OrderedMap (List (ResolvedDocument σ))}

/-- A document that was not populated has no roots. -/
theorem start (h : doc.resolved = []) : Populated doc.data [] doc where
  nested := ⟨by simp [h], by simp [h], by simp [h]⟩
  rooted := Document.rooted_nil doc.data
  stands := by simp
  below := by simp [h]

/-- Visits of populated paths keep the roots. -/
theorem rooted_depopulatedIn (h : Populated original roots doc)
    (horder : ∀ entry ∈ order, entry ∈ doc.resolved) {data : Document}
    (hdata : Rooted original roots data) : Rooted original roots (depopulatedIn order data) := by
  induction order generalizing data with
  | nil => exact hdata
  | cons first rest ih =>
    rw [depopulatedIn_cons]
    refine ih (fun entry hentry => horder entry (List.mem_cons_of_mem _ hentry)) ?_
    rcases visit_eq data first.1 first.2 with hsame | ⟨value, hwrite⟩
    · rw [hsame]
      exact hdata
    · obtain ⟨root, hroot, hbelow, -⟩ := h.below first (horder first List.mem_cons_self)
      rw [hwrite]
      exact hdata.write ⟨root, hroot, hbelow⟩ value

/-- A populated path is apart from a root, or lies at it, or lies below it where it held an id. -/
theorem apart_or_below (h : Populated original roots doc) {root : List String × Value}
    (hroot : root ∈ roots) {entry : String × List (ResolvedDocument σ)}
    (hentry : entry ∈ doc.resolved) :
    Path.Apart (Path.segments entry.1) root.1 ∨ root.1 = Path.segments entry.1 ∨
      root.1 <+: Path.segments entry.1 ∧ ∃ id, root.2 = .string id := by
  obtain ⟨other, hother, hbelow, hkind⟩ := h.below entry hentry
  by_cases hsame : other = root
  · subst hsame
    rcases hkind with heq | hid
    · exact .inr (.inl heq)
    · exact .inr (.inr ⟨hbelow, hid⟩)
  · exact .inl (h.rooted.apart_of_below hother hroot hsame hbelow)

/-- A path holds what one visit of it knows. -/
theorem eq_of_segments (h : Populated original roots doc)
    {entry other : String × List (ResolvedDocument σ)} (hentry : entry ∈ doc.resolved)
    (hother : other ∈ doc.resolved) (heq : Path.segments entry.1 = Path.segments other.1) :
    entry = other := by
  have hkey : entry.1 = other.1 := Path.segments_injective heq
  have hget : doc.resolved.get? entry.1 = some entry.2 :=
    OrderedMap.get?_of_mem h.nested.keys_nodup hentry
  have hget' : doc.resolved.get? other.1 = some other.2 :=
    OrderedMap.get?_of_mem h.nested.keys_nodup hother
  rw [hkey, hget', Option.some.injEq] at hget
  exact Prod.ext hkey hget.symm

/-- The other visits are off a root. -/
theorem off_of_ne (h : Populated original roots doc) {root : List String × Value}
    (hroot : root ∈ roots) {outer entry : String × List (ResolvedDocument σ)}
    (houterMem : outer ∈ doc.resolved) (houter : Path.segments outer.1 = root.1)
    (hentry : entry ∈ doc.resolved) (hne : entry ≠ outer) :
    Path.Apart (Path.segments entry.1) root.1 ∨
      (root.1 <+: Path.segments entry.1 ∧ root.1 ≠ Path.segments entry.1) ∧
        ∃ id, root.2 = .string id := by
  have hsegments : root.1 ≠ Path.segments entry.1 := fun heq =>
    hne (h.eq_of_segments hentry houterMem (heq.symm.trans houter.symm))
  rcases h.apart_or_below hroot hentry with hapart | heq | ⟨hbelow, hid⟩
  · exact .inl hapart
  · exact absurd heq hsegments
  · exact .inr ⟨⟨hbelow, hsegments⟩, hid⟩

/-- Behind the visit of a root, what it held stays if and only if the paths below it that are
visited then brought no documents. -/
theorem root_depopulatedIn_iff (h : Populated original roots doc) (horder : order.Perm doc.resolved)
    {root : List String × Value} (hroot : root ∈ roots)
    {before after : OrderedMap (List (ResolvedDocument σ))}
    {outer : String × List (ResolvedDocument σ)} (hsplit : order = before ++ outer :: after)
    (houter : Path.segments outer.1 = root.1) :
    removedSegments root.1 (depopulatedIn order doc.data) = some root.2 ↔
      ∀ inner ∈ after, root.1 <+: Path.segments inner.1 → inner.2 = [] := by
  obtain ⟨houterMem, hothers⟩ := h.nested.others_of_split horder hsplit
  have hoff : ∀ other ∈ before ++ after, Path.Apart (Path.segments other.1) root.1 ∨
      (root.1 <+: Path.segments other.1 ∧ root.1 ≠ Path.segments other.1) ∧
        ∃ id, root.2 = .string id := fun other hother =>
    h.off_of_ne hroot houterMem houter (hothers other hother).1 (hothers other hother).2
  obtain ⟨entry, hentry, hsegments, now, hnow, hstands⟩ := h.stands root hroot
  obtain rfl : entry = outer :=
    h.eq_of_segments hentry houterMem (hsegments.trans houter.symm)
  obtain ⟨p, held⟩ := root
  dsimp only at *
  rw [hsplit, depopulatedIn_append, depopulatedIn_cons]
  cases hstands with
  | one hids =>
    have hoffBefore : ∀ other ∈ before, Off p other.1 := fun other hother =>
      (hoff other (List.mem_append_left _ hother)).imp_right And.left
    have hoffAfter : ∀ other ∈ after, Off p other.1 := fun other hother =>
      (hoff other (List.mem_append_right _ hother)).imp_right And.left
    have hnamed : ∀ other ∈ after, idsOf other.2 = [] → other.2 = [] := fun other hother =>
      h.nested.named other (hothers other (List.mem_append_right _ hother)).1
    obtain ⟨entries, hentries⟩ := document_depopulatedIn hoffBefore hnow
    subst houter
    exact text_depopulatedIn_iff hoffAfter hnamed
      (removedSegments_visit_of_stands hentries (.one hids))
  | many =>
    -- below a list nothing is populated
    have hapart : ∀ other ∈ before ++ after, Path.Apart (Path.segments other.1) p := by
      intro other hother
      rcases hoff other hother with hapart | ⟨-, id, hid⟩
      · exact hapart
      · cases hid
    have hbefore : ∀ other ∈ before, Path.Apart (Path.segments other.1) p := fun other hother =>
      hapart other (List.mem_append_left _ hother)
    have hafter : ∀ other ∈ after, Path.Apart (Path.segments other.1) p := fun other hother =>
      hapart other (List.mem_append_right _ hother)
    have hkept : removedSegments p (depopulatedIn before doc.data) = some (.array _) :=
      (removedSegments_depopulatedIn_of_apart hbefore).trans hnow
    subst houter
    rw [removedSegments_depopulatedIn_of_apart hafter,
      removedSegments_visit_of_stands hkept .many]
    exact iff_of_true rfl fun inner hinner hbelow => absurd hbelow (hafter inner hinner).2

/-- **The data is restored if and only if inner paths come first.** -/
theorem depopulatedIn_eq_iff (h : Populated original roots doc) (horder : order.Perm doc.resolved) :
    depopulatedIn order doc.data = original ↔ InnerFirst order := by
  have hrooted : Rooted original roots (depopulatedIn order doc.data) :=
    h.rooted_depopulatedIn (fun entry hentry => horder.mem_iff.mp hentry) h.rooted
  rw [hrooted.eq_original_iff]
  constructor
  · intro hvalues before outer after hsplit houtermost inner hinner hbelow
    have houterMem : outer ∈ doc.resolved := horder.mem_iff.mp (by simp [hsplit])
    obtain ⟨root, hroot, hrootBelow, -⟩ := h.below outer houterMem
    obtain ⟨entry, hentry, hsegments, -⟩ := h.stands root hroot
    have hkey : entry.1 = outer.1 :=
      houtermost entry (horder.mem_iff.mpr hentry) (by rw [hsegments]; exact hrootBelow)
    have houter : Path.segments outer.1 = root.1 := by rw [← hkey, hsegments]
    refine (h.root_depopulatedIn_iff horder hroot hsplit houter).mp (hvalues root hroot) inner
      hinner ?_
    rw [← houter]
    exact hbelow
  · intro hfirst root hroot
    obtain ⟨entry, hentry, hsegments, -⟩ := h.stands root hroot
    obtain ⟨before, after, hsplit⟩ := List.append_of_mem (horder.mem_iff.mpr hentry)
    refine (h.root_depopulatedIn_iff horder hroot hsplit hsegments).mpr
      fun inner hinner hbelow => ?_
    refine hfirst before entry after hsplit (fun other hother habove => ?_) inner hinner
      (by rw [hsegments]; exact hbelow)
    rw [hsegments] at habove
    obtain ⟨root', hroot', hbelow', -⟩ := h.below other (horder.mem_iff.mp hother)
    have hsame : root' = root := Classical.byContradiction fun hne =>
      (h.rooted.apart_of_ne hroot' hroot hne).1 (hbelow'.trans habove)
    rw [hsame] at hbelow'
    have heq : root.1 = Path.segments other.1 :=
      hbelow'.eq_of_length (Nat.le_antisymm hbelow'.length_le habove.length_le)
    exact Path.segments_injective (heq.symm.trans hsegments.symm)

/-- Otherwise some path does not hold any more what it held. -/
theorem innerFirst_of_get? (h : Populated original roots doc) (horder : order.Perm doc.resolved)
    (hkept : ∀ path value, original.get? path = some value →
      (depopulatedIn order doc.data).get? path = some value) : InnerFirst order := by
  have hrooted : Rooted original roots (depopulatedIn order doc.data) :=
    h.rooted_depopulatedIn (fun entry hentry => horder.mem_iff.mp hentry) h.rooted
  refine (h.depopulatedIn_eq_iff horder).mp (hrooted.eq_original_iff.mpr fun root hroot => ?_)
  obtain ⟨entry, hentry, hsegments, -⟩ := h.stands root hroot
  obtain ⟨value, hvalue⟩ := hrooted.present root hroot
  have hbefore := h.rooted.original_value hroot
  rw [← hsegments] at hvalue hbefore ⊢
  have hget := hkept entry.1 root.2 (Document.descend_of_removedSegments hbefore)
  have hnow : (depopulatedIn order doc.data).get? entry.1 = some value :=
    Document.descend_of_removedSegments hvalue
  rw [hvalue, ← hnow, hget]

section Populate

variable {path : String} {found : List (ResolvedDocument σ)} {now held : Value}

/-- Populating a path below a root, which held an id, keeps the roots. -/
theorem populate_below (h : Populated original roots doc) (hnew : path ∉ doc.resolved.keys)
    {root : List String × Value} (hroot : root ∈ roots) (hbelow : root.1 <+: Path.segments path)
    (hheld : doc.data.removed? path = some held) (hstands : Stands held found now)
    (hnamed : idsOf found = [] → found = []) :
    Populated original roots (doc.populate path found now) := by
  have hmem := @Nested.mem_insert_iff σ doc path found hnew
  obtain ⟨outer, houter, hsegments, standing, hstanding, hbefore⟩ := h.stands root hroot
  have hne : root.1 ≠ Path.segments path := by
    intro heq
    have hkey : outer.1 = path := Path.segments_injective (hsegments.trans heq)
    exact hnew (hkey ▸ List.mem_map_of_mem houter)
  obtain ⟨entries, hdocument⟩ :=
    Document.exists_document_above hbelow hne (h.rooted.ne_nil hroot) hheld
  rw [hdocument, Option.some.injEq] at hstanding
  subst hstanding
  have hid : ∃ id, root.2 = .string id ∧ idsOf outer.2 = [id] := by
    obtain ⟨p, before⟩ := root
    cases hbefore with
    | one hids => exact ⟨_, rfl, hids⟩
  obtain ⟨id, hid, hids⟩ := hid
  exact {
    nested := h.nested.populate hnew hheld hstands hnamed
    rooted := h.rooted.write ⟨root, hroot, hbelow⟩ now
    stands := by
      intro other hother
      by_cases hsame : other = root
      · subst hsame
        obtain ⟨entries', hentries'⟩ := Document.removedSegments_setSegments_below hbelow hne
          (h.rooted.ne_nil hroot) now doc.data
        refine ⟨outer, (hmem outer).mpr (.inl houter), hsegments, _, hentries', ?_⟩
        rw [hid]
        exact .one hids
      · obtain ⟨entry, hentry, hat, value, hvalue, hvalueStands⟩ := h.stands other hother
        have hapart := h.rooted.apart_of_below hroot hother (Ne.symm hsame) hbelow
        exact ⟨entry, (hmem entry).mpr (.inl hentry), hat, value,
          (Document.removedSegments_setSegments_of_apart now doc.data hapart).trans hvalue,
          hvalueStands⟩
    below := by
      intro entry hentry
      rcases (hmem entry).mp hentry with hold | rfl
      · exact h.below entry hold
      · exact ⟨root, hroot, hbelow, .inr ⟨id, hid⟩⟩ }

/-- A path apart from all roots that is populated is a new root. -/
theorem populate_apart (h : Populated original roots doc) (hnew : path ∉ doc.resolved.keys)
    (hapart : ∀ root ∈ roots, Path.Apart (Path.segments path) root.1)
    (hheld : doc.data.removed? path = some held) (hstands : Stands held found now)
    (hnamed : idsOf found = [] → found = []) :
    Populated original ((Path.segments path, held) :: roots) (doc.populate path found now) := by
  have hmem := @Nested.mem_insert_iff σ doc path found hnew
  exact {
    nested := h.nested.populate hnew hheld hstands hnamed
    rooted := h.rooted.cons hheld hapart now
    stands := by
      intro root hroot
      rcases List.mem_cons.mp hroot with rfl | hroot
      · exact ⟨(path, found), (hmem _).mpr (.inr rfl), rfl, now,
          Document.removedSegments_setSegments now doc.data (Path.segments_ne_nil path), hstands⟩
      · obtain ⟨entry, hentry, hat, value, hvalue, hvalueStands⟩ := h.stands root hroot
        exact ⟨entry, (hmem entry).mpr (.inl hentry), hat, value,
          (Document.removedSegments_setSegments_of_apart now doc.data (hapart root hroot)).trans
            hvalue, hvalueStands⟩
    below := by
      intro entry hentry
      rcases (hmem entry).mp hentry with hold | rfl
      · obtain ⟨root, hroot, hbelow⟩ := h.below entry hold
        exact ⟨root, List.mem_cons_of_mem _ hroot, hbelow⟩
      · exact ⟨_, List.mem_cons_self, List.prefix_refl _, .inl rfl⟩ }

/-- Populating a path for the first time keeps a document populated. -/
theorem populate (h : Populated original roots doc) (hnew : path ∉ doc.resolved.keys)
    (hheld : doc.data.removed? path = some held) (hstands : Stands held found now)
    (hnamed : idsOf found = [] → found = []) :
    ∃ roots', Populated original roots' (doc.populate path found now) := by
  by_cases hbelow : ∃ root ∈ roots, root.1 <+: Path.segments path
  · obtain ⟨root, hroot, hbelow⟩ := hbelow
    exact ⟨roots, h.populate_below hnew hroot hbelow hheld hstands hnamed⟩
  · have hapart : ∀ root ∈ roots, Path.Apart (Path.segments path) root.1 := by
      intro root hroot
      obtain ⟨entry, hentry, hsegments, -⟩ := h.stands root hroot
      have habove := h.nested.not_above hnew hheld hstands hentry
      rw [hsegments] at habove
      exact ⟨habove, fun hprefix => hbelow ⟨root, hroot, hprefix⟩⟩
    exact ⟨_, h.populate_apart hnew hapart hheld hstands hnamed⟩

end Populate

end Populated

end LiveDocument

end DocStore
