import DocStore.Proofs.Value.Path
import Mathlib.Data.List.Pairwise
/-!
# Writing over what was written

A later write at a path takes the place of earlier ones at the path and below it
(`Document.setSegments_setSegments_append`), and writes at paths apart commute where the first of
them leads somewhere already, since a new key comes last (`Document.setSegments_comm`).

`Document.Rooted` says that some data is a document with other values at some paths, its roots:
writing the values of the document back at the roots restores it. Writing at a root or below it
keeps this.
-/

namespace DocStore

namespace OrderedMap

variable {α : Type}

theorem insert_insert (map : OrderedMap α) (key : String) (v w : α) :
    insert (insert map key v) key w = insert map key w := by
  induction map with
  | nil => simp [insert]
  | cons entry rest ih =>
    by_cases h : entry.1 = key
    · simp [insert, h]
    · simp [insert, h, ih]

/-- Insertions under two keys commute where one of them is there already. -/
theorem insert_comm {map : OrderedMap α} {key key' : String} (hne : key' ≠ key)
    (h : key ∈ map.keys) (v w : α) :
    insert (insert map key v) key' w = insert (insert map key' w) key v := by
  induction map with
  | nil => simp [keys] at h
  | cons entry rest ih =>
    by_cases hkey : entry.1 = key
    · have hother : entry.1 ≠ key' := fun heq => hne (heq.symm.trans hkey)
      simp [insert, hkey, hne.symm]
    · have hrest : key ∈ keys rest := by
        rcases List.mem_cons.mp h with heq | hmem
        · exact absurd heq.symm hkey
        · exact hmem
      by_cases hkey' : entry.1 = key'
      · simp [insert, hkey', hne]
      · simp [insert, hkey, hkey', ih hrest]

end OrderedMap

namespace Document

/-- The second of two writes at a path wins. -/
theorem setSegments_setSegments (v w : Value) :
    ∀ (p : List String) (doc : Document),
      setSegments p w (setSegments p v doc) = setSegments p w doc
  | [], _ => rfl
  | [key], doc => OrderedMap.insert_insert doc key v w
  | key :: next :: rest, doc => by
    have hrest : next :: rest ≠ [] := List.cons_ne_nil _ _
    rw [setSegments_cons hrest, setSegments_cons hrest, setSegments_cons hrest,
      inner_insert_document, setSegments_setSegments v w (next :: rest), OrderedMap.insert_insert]

/-- A write at a path takes the place of one below it. -/
theorem setSegments_setSegments_append {p : List String} (hp : p ≠ []) (rest : List String)
    (v w : Value) (doc : Document) :
    setSegments p w (setSegments (p ++ rest) v doc) = setSegments p w doc := by
  cases rest with
  | nil =>
    rw [List.append_nil]
    exact setSegments_setSegments v w p doc
  | cons next rest =>
    rw [setSegments_append (List.cons_ne_nil next rest) v doc hp]
    exact setSegments_setSegments _ w p doc

/-- A write inserts under the first key a value that depends on what stands there only. -/
theorem exists_setSegments_eq_insert (key : String) (rest : List String) (value : Value) :
    ∃ written : Document → Value, ∀ doc : Document,
      setSegments (key :: rest) value doc =
        OrderedMap.insert doc key (written (doc.inner key)) := by
  cases rest with
  | nil => exact ⟨fun _ => value, fun doc => rfl⟩
  | cons next rest =>
    exact ⟨fun entries => .document (setSegments (next :: rest) value entries), fun doc =>
      setSegments_cons (List.cons_ne_nil next rest) key value doc⟩

theorem inner_insert_of_ne {key key' : String} (h : key' ≠ key) (doc : Document) (value : Value) :
    inner (OrderedMap.insert doc key value) key' = doc.inner key' := by
  rw [inner_insert, if_neg h]

/-- A path that leads somewhere begins with a key that is there. -/
theorem mem_keys_of_removedSegments {key : String} {rest : List String} {doc : Document} {x : Value}
    (h : removedSegments (key :: rest) doc = some x) : key ∈ OrderedMap.keys doc := by
  rw [← OrderedMap.contains_iff_mem_keys, OrderedMap.contains]
  cases rest with
  | nil =>
    have hget : OrderedMap.get? doc key = some x := h
    simp [hget]
  | cons next rest =>
    obtain ⟨entries, hget, -⟩ := exists_document_of_removedSegments (List.cons_ne_nil _ _) h
    simp [hget]

/-- Writes at paths apart commute where one of them leads somewhere. -/
theorem setSegments_comm {x : Value} (v w : Value) :
    ∀ {p q : List String} {doc : Document}, Path.Apart p q → removedSegments p doc = some x →
      setSegments q w (setSegments p v doc) = setSegments p v (setSegments q w doc)
  | [], _, _, h, _ => absurd rfl h.ne_nil_left
  | _ :: _, [], _, h, _ => absurd rfl h.ne_nil_right
  | key :: p, key' :: q, doc, h, hpresent => by
    by_cases hkey : key' = key
    · subst hkey
      have hbelow := Path.apart_cons_iff.mp h
      rw [removedSegments_cons hbelow.ne_nil_left] at hpresent
      rw [setSegments_cons hbelow.ne_nil_left, setSegments_cons hbelow.ne_nil_left,
        setSegments_cons hbelow.ne_nil_right, setSegments_cons hbelow.ne_nil_right,
        inner_insert_document, inner_insert_document, setSegments_comm v w hbelow hpresent,
        OrderedMap.insert_insert, OrderedMap.insert_insert]
    · obtain ⟨first, hfirst⟩ := exists_setSegments_eq_insert key p v
      obtain ⟨second, hsecond⟩ := exists_setSegments_eq_insert key' q w
      have hmem : key ∈ OrderedMap.keys doc := mem_keys_of_removedSegments hpresent
      rw [hfirst, hsecond, hsecond, hfirst, inner_insert_of_ne hkey,
        inner_insert_of_ne (Ne.symm hkey), OrderedMap.insert_comm hkey hmem]

theorem ne_nil_of_removedSegments {p : List String} {doc : Document} {x : Value}
    (h : removedSegments p doc = some x) : p ≠ [] := by
  rintro rfl
  cases h

/-- Writing below a path leaves a document there. -/
theorem removedSegments_setSegments_below {p q : List String} (hbelow : p <+: q) (hne : p ≠ q)
    (hp : p ≠ []) (value : Value) (doc : Document) :
    ∃ entries, removedSegments p (setSegments q value doc) = some (.document entries) := by
  obtain ⟨rest, rfl⟩ := hbelow
  have hrest : rest ≠ [] := by
    rintro rfl
    exact hne (List.append_nil p).symm
  rw [setSegments_append hrest value doc hp]
  exact ⟨_, removedSegments_setSegments _ doc hp⟩

/-- Above a path that leads somewhere there is a document. -/
theorem exists_document_above {p q : List String} (hbelow : p <+: q) (hne : p ≠ q) (hp : p ≠ [])
    {doc : Document} {x : Value} (h : removedSegments q doc = some x) :
    ∃ entries, removedSegments p doc = some (.document entries) := by
  obtain ⟨rest, rfl⟩ := hbelow
  have hrest : rest ≠ [] := by
    rintro rfl
    exact hne (List.append_nil p).symm
  rw [removedSegments_append hrest doc hp, documentAt?] at h
  obtain ⟨entries, hentries, -⟩ := Option.bind_eq_some_iff.mp h
  obtain ⟨value, hvalue, hdocument⟩ := Option.bind_eq_some_iff.mp hentries
  cases value <;> cases hdocument
  exact ⟨entries, hvalue⟩

/-! ## Writing at some paths and below them -/

/-- Writes values at paths in turn. -/
def restore (roots : List (List String × Value)) (doc : Document) : Document :=
  roots.foldl (fun doc root => setSegments root.1 root.2 doc) doc

/-- Whether data is a document with other values at the roots, which are apart and are there. -/
structure Rooted (original : Document) (roots : List (List String × Value)) (data : Document) :
    Prop where
  apart : roots.Pairwise fun root other => Path.Apart root.1 other.1
  present : ∀ root ∈ roots, ∃ value, removedSegments root.1 data = some value
  restored : restore roots data = original

theorem rooted_nil (doc : Document) : Rooted doc [] doc := ⟨.nil, by simp, rfl⟩

/-- A write at a root or below it is lost when the roots are restored. -/
theorem restore_setSegments {q : List String} {value : Value} :
    ∀ {roots : List (List String × Value)} {data : Document},
      roots.Pairwise (fun root other => Path.Apart root.1 other.1) →
      (∀ root ∈ roots, ∃ value, removedSegments root.1 data = some value) →
      (∃ root ∈ roots, root.1 <+: q) →
      restore roots (setSegments q value data) = restore roots data
  | [], _, _, _, h => by
    obtain ⟨root, hmem, -⟩ := h
    exact absurd hmem List.not_mem_nil
  | first :: rest, data, hapart, hpresent, h => by
    obtain ⟨hfirst, hapart⟩ := List.pairwise_cons.mp hapart
    obtain ⟨x, hx⟩ := hpresent first List.mem_cons_self
    show restore rest (setSegments first.1 first.2 (setSegments q value data)) =
      restore rest (setSegments first.1 first.2 data)
    by_cases hbelow : first.1 <+: q
    · obtain ⟨r, rfl⟩ := hbelow
      rw [setSegments_setSegments_append (ne_nil_of_removedSegments hx)]
    · obtain ⟨root, hmem, hroot⟩ := h
      have hrest : root ∈ rest := by
        rcases List.mem_cons.mp hmem with rfl | hmem
        · exact absurd hroot hbelow
        · exact hmem
      have hdiverge : Path.Apart first.1 q := (hfirst root hrest).mono List.prefix_rfl hroot
      rw [← setSegments_comm first.2 value hdiverge hx]
      refine restore_setSegments hapart (fun other hother => ?_) ⟨root, hrest, hroot⟩
      rw [removedSegments_setSegments_of_apart _ _ (hfirst other hother)]
      exact hpresent other (List.mem_cons_of_mem _ hother)

/-- Restoring leaves the paths apart from all roots. -/
theorem removedSegments_restore_of_apart {q : List String} {roots : List (List String × Value)}
    (h : ∀ root ∈ roots, Path.Apart root.1 q) (data : Document) :
    removedSegments q (restore roots data) = removedSegments q data := by
  induction roots generalizing data with
  | nil => rfl
  | cons first rest ih =>
    show removedSegments q (restore rest (setSegments first.1 first.2 data)) = _
    rw [ih fun root hroot => h root (List.mem_cons_of_mem _ hroot),
      removedSegments_setSegments_of_apart _ _ (h first List.mem_cons_self)]

/-- Restored roots have their values. -/
theorem removedSegments_restore {roots : List (List String × Value)}
    (hapart : roots.Pairwise fun root other => Path.Apart root.1 other.1)
    (hne : ∀ root ∈ roots, root.1 ≠ []) {root : List String × Value} (hroot : root ∈ roots)
    (data : Document) : removedSegments root.1 (restore roots data) = some root.2 := by
  induction roots generalizing data with
  | nil => exact absurd hroot List.not_mem_nil
  | cons first rest ih =>
    obtain ⟨hfirst, hapart⟩ := List.pairwise_cons.mp hapart
    show removedSegments root.1 (restore rest (setSegments first.1 first.2 data)) = _
    rcases List.mem_cons.mp hroot with rfl | hroot
    · rw [removedSegments_restore_of_apart fun other hother => (hfirst other hother).symm]
      exact removedSegments_setSegments _ data (hne root List.mem_cons_self)
    · exact ih hapart (fun other hother => hne other (List.mem_cons_of_mem _ hother)) hroot _

/-- Restoring roots that have their values changes nothing. -/
theorem restore_of_values {roots : List (List String × Value)} {data : Document}
    (h : ∀ root ∈ roots, removedSegments root.1 data = some root.2) :
    restore roots data = data := by
  induction roots with
  | nil => rfl
  | cons first rest ih =>
    show restore rest (setSegments first.1 first.2 data) = data
    rw [setSegments_of_removedSegments (h first List.mem_cons_self)]
    exact ih fun root hroot => h root (List.mem_cons_of_mem _ hroot)

namespace Rooted

variable {original data : Document} {roots : List (List String × Value)}

theorem apart_of_ne (h : Rooted original roots data) {root other : List String × Value}
    (hroot : root ∈ roots) (hother : other ∈ roots) (hne : root ≠ other) :
    Path.Apart root.1 other.1 := by
  have : Std.Symm fun root other : List String × Value => Path.Apart root.1 other.1 :=
    ⟨fun _ _ hapart => hapart.symm⟩
  exact h.apart.forall hroot hother hne

theorem ne_nil (h : Rooted original roots data) {root : List String × Value}
    (hroot : root ∈ roots) : root.1 ≠ [] := by
  obtain ⟨x, hx⟩ := h.present root hroot
  exact ne_nil_of_removedSegments hx

/-- What lies below a root is apart from the other roots. -/
theorem apart_of_below (h : Rooted original roots data) {root other : List String × Value}
    (hroot : root ∈ roots) (hother : other ∈ roots) (hne : root ≠ other) {q : List String}
    (hq : root.1 <+: q) : Path.Apart q other.1 :=
  (h.apart_of_ne hroot hother hne).mono hq List.prefix_rfl

/-- Writing at a root or below it keeps the roots. -/
theorem write (h : Rooted original roots data) {q : List String}
    (hq : ∃ root ∈ roots, root.1 <+: q) (value : Value) :
    Rooted original roots (setSegments q value data) := by
  refine ⟨h.apart, fun root hroot => ?_, ?_⟩
  · obtain ⟨x, hx⟩ := h.present root hroot
    have hne := h.ne_nil hroot
    obtain ⟨other, hother, hprefix⟩ := hq
    by_cases hsame : other = root
    · subst hsame
      by_cases heq : other.1 = q
      · rw [← heq]
        exact ⟨value, removedSegments_setSegments value data hne⟩
      · obtain ⟨entries, hentries⟩ :=
          removedSegments_setSegments_below hprefix heq hne value data
        exact ⟨_, hentries⟩
    · have hapart := h.apart_of_below hother hroot hsame hprefix
      rw [removedSegments_setSegments_of_apart value data hapart]
      exact ⟨x, hx⟩
  · rw [restore_setSegments h.apart h.present hq]
    exact h.restored

/-- A path apart from all roots is a new root, with the value that was there. -/
theorem cons (h : Rooted original roots data) {p : List String} {value : Value}
    (hvalue : removedSegments p data = some value) (hapart : ∀ root ∈ roots, Path.Apart p root.1)
    (new : Value) : Rooted original ((p, value) :: roots) (setSegments p new data) := by
  have hne := ne_nil_of_removedSegments hvalue
  refine ⟨List.pairwise_cons.mpr ⟨hapart, h.apart⟩, fun root hroot => ?_, ?_⟩
  · rcases List.mem_cons.mp hroot with rfl | hroot
    · exact ⟨new, removedSegments_setSegments new data hne⟩
    · rw [removedSegments_setSegments_of_apart new data (hapart root hroot)]
      exact h.present root hroot
  · show restore roots (setSegments p value (setSegments p new data)) = original
    rw [setSegments_setSegments, setSegments_of_removedSegments hvalue]
    exact h.restored

/-- The original document has its values at the roots. -/
theorem original_value (h : Rooted original roots data) {root : List String × Value}
    (hroot : root ∈ roots) : removedSegments root.1 original = some root.2 := by
  rw [← h.restored]
  exact removedSegments_restore h.apart (fun other hother => h.ne_nil hother) hroot data

/-- Data with the original values at the roots is the original document. -/
theorem eq_original_iff (h : Rooted original roots data) :
    data = original ↔ ∀ root ∈ roots, removedSegments root.1 data = some root.2 := by
  constructor
  · rintro rfl root hroot
    exact h.original_value hroot
  · intro hvalues
    rw [← h.restored, restore_of_values hvalues]

end Rooted

end Document

end DocStore
