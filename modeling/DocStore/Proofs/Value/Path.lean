import DocStore.Value.Path
/-!
# Writing and removing along paths

`Document.removedSegments` is the value that segments lead to through documents alone, and
`Value.descend` also goes through lists. What is written at a path is found there
(`removedSegments_setSegments`), writing back what was found changes nothing
(`setSegments_of_removedSegments`), and a path that is `Apart` from the one written or removed leads
where it led before (`removedSegments_setSegments_of_apart`,
`removedSegments_removeSegments_of_apart`).

Lists are where the two readings part: writing through a list replaces it, so that a path apart from
the one written may lose what it led to through the list, and nothing else
(`descend_setSegments_of_apart`). Where no segment denotes a place in a list, the readings agree
(`descend_eq_removedSegments`).
-/

namespace DocStore

/-- Neither path leads through the other. -/
def Path.Apart (p q : List String) : Prop := ¬ p <+: q ∧ ¬ q <+: p

namespace Path

theorem Apart.symm {p q : List String} (h : Apart p q) : Apart q p := ⟨h.2, h.1⟩

theorem Apart.ne_nil_left {p q : List String} (h : Apart p q) : p ≠ [] := by
  rintro rfl
  exact h.1 List.nil_prefix

theorem Apart.ne_nil_right {p q : List String} (h : Apart p q) : q ≠ [] := h.symm.ne_nil_left

/-- Paths that begin with one key are apart below it. -/
theorem apart_cons_iff {key : String} {p q : List String} :
    Apart (key :: p) (key :: q) ↔ Apart p q := by
  simp [Apart, List.cons_prefix_cons]

/-- Paths that begin with different keys are apart. -/
theorem apart_of_head_ne {key key' : String} (h : key ≠ key') (p q : List String) :
    Apart (key :: p) (key' :: q) :=
  ⟨fun hpre => h (List.cons_prefix_cons.mp hpre).1,
    fun hpre => h (List.cons_prefix_cons.mp hpre).1.symm⟩

/-- Paths that begin apart are apart. -/
theorem Apart.mono {p q p' q' : List String} (h : Apart p q) (hp : p <+: p') (hq : q <+: q') :
    Apart p' q' := by
  constructor
  · intro hpre
    exact (List.prefix_or_prefix_of_prefix (hp.trans hpre) hq).elim h.1 h.2
  · intro hpre
    exact (List.prefix_or_prefix_of_prefix hp (hq.trans hpre)).elim h.1 h.2

theorem split_ne_nil (cs : List Char) : split cs ≠ [] := by
  cases cs with
  | nil => simp [split]
  | cons c cs =>
    rw [split]
    split
    · simp
    · split <;> simp

/-- Whether no segment denotes a place in a list. -/
def OffLists (segs : List String) : Prop := ∀ segment ∈ segs, index? segment = none

/-- A path has a segment. -/
theorem segments_ne_nil (path : String) : segments path ≠ [] := by
  rw [segments, ne_eq, List.map_eq_nil_iff]
  exact split_ne_nil _

/-- The text whose segments are given. -/
def join : List (List Char) → List Char
  | [] => []
  | [segment] => segment
  | segment :: rest => segment ++ '.' :: join rest

theorem join_cons {rest : List (List Char)} (h : rest ≠ []) (segment : List Char) :
    join (segment :: rest) = segment ++ '.' :: join rest := by
  cases rest with
  | nil => exact absurd rfl h
  | cons next rest => rfl

theorem join_split (cs : List Char) : join (split cs) = cs := by
  induction cs with
  | nil => rfl
  | cons c cs ih =>
    rw [split]
    by_cases hdot : c = '.'
    · rw [if_pos hdot, join_cons (split_ne_nil cs), ih, hdot]
      rfl
    · rw [if_neg hdot]
      rcases hsplit : split cs with _ | ⟨segment, rest⟩
      · exact absurd hsplit (split_ne_nil cs)
      · rw [hsplit] at ih
        cases rest with
        | nil => simpa [join] using ih
        | cons next rest => simpa [join] using ih

/-- Different paths have different segments. -/
theorem segments_injective : Function.Injective segments := by
  intro path path' h
  have hsplit : split path.toList = split path'.toList := by
    have hchars := congrArg (List.map String.toList) h
    simpa [segments, List.map_map, Function.comp_def] using hchars
  have hlist : path.toList = path'.toList := by
    rw [← join_split path.toList, hsplit, join_split]
  exact String.toList_inj.mp hlist

end Path

namespace Document

/-- The document under a key, empty where there is none. -/
def inner (doc : Document) (key : String) : Document :=
  ((OrderedMap.get? doc key).bind Value.asDocument?).getD []

theorem inner_of_get? {doc entries : Document} {key : String}
    (h : OrderedMap.get? doc key = some (.document entries)) : doc.inner key = entries := by
  rw [inner, h]
  rfl

theorem inner_insert (doc : Document) (key key' : String) (value : Value) :
    inner (OrderedMap.insert doc key value) key' =
      if key' = key then value.asDocument?.getD [] else doc.inner key' := by
  rw [inner, OrderedMap.get?_insert]
  split <;> rfl

theorem inner_insert_document (doc entries : Document) (key : String) :
    inner (OrderedMap.insert doc key (.document entries)) key = entries := by
  rw [inner_insert, if_pos rfl]
  rfl

@[simp] theorem removedSegments_nil_document (segs : List String) :
    removedSegments segs [] = none := by
  match segs with
  | [] => rfl
  | [_] => rfl
  | _ :: _ :: _ => rfl

theorem setSegments_cons {rest : List String} (h : rest ≠ []) (key : String) (value : Value)
    (doc : Document) : setSegments (key :: rest) value doc =
      OrderedMap.insert doc key (.document (setSegments rest value (doc.inner key))) := by
  cases rest with
  | nil => exact absurd rfl h
  | cons next rest => rfl

theorem removedSegments_cons {rest : List String} (h : rest ≠ []) (key : String)
    (doc : Document) :
    removedSegments (key :: rest) doc = removedSegments rest (doc.inner key) := by
  cases rest with
  | nil => exact absurd rfl h
  | cons next rest =>
    simp only [removedSegments, inner]
    rcases OrderedMap.get? doc key with _ | value
    · rw [Option.bind_none, Option.getD_none, removedSegments_nil_document]
    · cases value <;> simp [Value.asDocument?]

theorem removeSegments_cons {rest : List String} (h : rest ≠ []) (key : String)
    (doc : Document) : removeSegments (key :: rest) doc =
      match (OrderedMap.get? doc key).bind Value.asDocument? with
      | some entries => OrderedMap.insert doc key (.document (removeSegments rest entries))
      | none => doc := by
  cases rest with
  | nil => exact absurd rfl h
  | cons next rest =>
    simp only [removeSegments]
    rcases OrderedMap.get? doc key with _ | value
    · rfl
    · cases value <;> rfl

theorem descend_cons (key : String) (rest : List String) (doc : Document) :
    Value.descend (key :: rest) (.document doc) =
      (OrderedMap.get? doc key).bind (Value.descend rest) := by
  rw [Value.descend]

/-- An empty document leads nowhere. -/
theorem descend_nil_document {path : List String} (h : path ≠ []) :
    Value.descend path (.document []) = none := by
  cases path with
  | nil => exact absurd rfl h
  | cons key rest => rw [descend_cons, OrderedMap.get?_nil, Option.bind_none]

/-- What leads further leads through a document. -/
theorem exists_document_of_removedSegments {rest : List String} {key : String} {doc : Document}
    {value : Value} (hrest : rest ≠ []) (h : removedSegments (key :: rest) doc = some value) :
    ∃ entries, OrderedMap.get? doc key = some (.document entries) ∧
      removedSegments rest entries = some value := by
  rw [removedSegments_cons hrest] at h
  rcases hget : OrderedMap.get? doc key with _ | found
  · rw [inner, hget, Option.bind_none, Option.getD_none, removedSegments_nil_document] at h
    cases h
  · cases found with
    | document entries =>
      rw [inner_of_get? hget] at h
      exact ⟨entries, rfl, h⟩
    | _ =>
      simp only [inner, hget, Option.bind_some, Value.asDocument?, Option.getD_none,
        removedSegments_nil_document] at h
      cases h

/-! ## One path -/

/-- What is written is found. -/
theorem removedSegments_setSegments (value : Value) :
    ∀ {segs : List String} (doc : Document), segs ≠ [] →
      removedSegments segs (setSegments segs value doc) = some value
  | [], _, h => absurd rfl h
  | [key], doc, _ => by rw [setSegments, removedSegments, OrderedMap.get?_insert, if_pos rfl]
  | key :: next :: rest, doc, _ => by
    rw [setSegments_cons (List.cons_ne_nil _ _), removedSegments_cons (List.cons_ne_nil _ _),
      inner_insert_document]
    exact removedSegments_setSegments value _ (List.cons_ne_nil _ _)

/-- What is removed is not found any more. -/
theorem removedSegments_removeSegments :
    ∀ (segs : List String) (doc : Document), removedSegments segs (removeSegments segs doc) = none
  | [], _ => rfl
  | [key], doc => by rw [removeSegments, removedSegments, OrderedMap.get?_erase, if_pos rfl]
  | key :: next :: rest, doc => by
    rw [removeSegments_cons (List.cons_ne_nil _ _), removedSegments_cons (List.cons_ne_nil _ _)]
    rcases hget : (OrderedMap.get? doc key).bind Value.asDocument? with _ | entries
    · rw [inner, hget, Option.getD_none, removedSegments_nil_document]
    · dsimp only
      rw [inner_insert_document]
      exact removedSegments_removeSegments (next :: rest) entries

/-- Writing back what was found changes nothing. -/
theorem setSegments_of_removedSegments {value : Value} :
    ∀ {segs : List String} {doc : Document}, removedSegments segs doc = some value →
      setSegments segs value doc = doc
  | [], _, _ => rfl
  | [key], doc, h => OrderedMap.insert_of_get? h
  | key :: next :: rest, doc, h => by
    obtain ⟨entries, hget, hbelow⟩ := exists_document_of_removedSegments (List.cons_ne_nil _ _) h
    rw [setSegments_cons (List.cons_ne_nil _ _), inner_of_get? hget,
      setSegments_of_removedSegments hbelow, OrderedMap.insert_of_get? hget]

/-- Removing where nothing is found changes nothing. -/
theorem removeSegments_of_removedSegments :
    ∀ {segs : List String} {doc : Document}, removedSegments segs doc = none →
      removeSegments segs doc = doc
  | [], _, _ => rfl
  | [key], doc, h => OrderedMap.erase_of_get? h
  | key :: next :: rest, doc, h => by
    rw [removedSegments_cons (List.cons_ne_nil _ _)] at h
    rw [removeSegments_cons (List.cons_ne_nil _ _)]
    rcases hget : OrderedMap.get? doc key with _ | found
    · rfl
    · cases found with
      | document entries =>
        rw [inner_of_get? hget] at h
        simp only [Option.bind_some, Value.asDocument?]
        rw [removeSegments_of_removedSegments h, OrderedMap.insert_of_get? hget]
      | _ => rfl

/-- A path that leads through documents alone is read there. -/
theorem descend_of_removedSegments {value : Value} :
    ∀ {segs : List String} {doc : Document}, removedSegments segs doc = some value →
      Value.descend segs (.document doc) = some value
  | [], _, h => by cases h
  | [key], doc, h => by
    rw [removedSegments] at h
    rw [descend_cons, h]
    rfl
  | key :: next :: rest, doc, h => by
    obtain ⟨entries, hget, hbelow⟩ := exists_document_of_removedSegments (List.cons_ne_nil _ _) h
    rw [descend_cons, hget, Option.bind_some]
    exact descend_of_removedSegments hbelow

/-- Where something was removed, nothing is read any more. -/
theorem descend_removeSegments_of_removedSegments {value : Value} :
    ∀ {segs : List String} {doc : Document}, removedSegments segs doc = some value →
      Value.descend segs (.document (removeSegments segs doc)) = none
  | [], _, h => by cases h
  | [key], doc, _ => by
    rw [removeSegments, descend_cons, OrderedMap.get?_erase, if_pos rfl, Option.bind_none]
  | key :: next :: rest, doc, h => by
    obtain ⟨entries, hget, hbelow⟩ := exists_document_of_removedSegments (List.cons_ne_nil _ _) h
    rw [removeSegments_cons (List.cons_ne_nil _ _), hget]
    dsimp only [Option.bind_some, Value.asDocument?]
    rw [descend_cons, OrderedMap.get?_insert, if_pos rfl]
    exact descend_removeSegments_of_removedSegments hbelow

/-! ## Two paths apart -/

theorem removedSegments_congr {key : String} {doc doc' : Document}
    (h : OrderedMap.get? doc key = OrderedMap.get? doc' key) (rest : List String) :
    removedSegments (key :: rest) doc = removedSegments (key :: rest) doc' := by
  cases rest with
  | nil => exact h
  | cons next rest => simp only [removedSegments, h]

theorem get?_setSegments_of_ne {key key' : String} (h : key' ≠ key) (rest : List String)
    (value : Value) (doc : Document) :
    OrderedMap.get? (setSegments (key :: rest) value doc) key' = OrderedMap.get? doc key' := by
  cases rest with
  | nil => rw [setSegments, OrderedMap.get?_insert, if_neg h]
  | cons next rest => rw [setSegments_cons (List.cons_ne_nil _ _), OrderedMap.get?_insert, if_neg h]

theorem get?_removeSegments_of_ne {key key' : String} (h : key' ≠ key) (rest : List String)
    (doc : Document) :
    OrderedMap.get? (removeSegments (key :: rest) doc) key' = OrderedMap.get? doc key' := by
  cases rest with
  | nil => rw [removeSegments, OrderedMap.get?_erase, if_neg h]
  | cons next rest =>
    rw [removeSegments_cons (List.cons_ne_nil _ _)]
    split
    · rw [OrderedMap.get?_insert, if_neg h]
    · rfl

/-- Writing at a path leaves the paths apart from it where they are. -/
theorem removedSegments_setSegments_of_apart (value : Value) :
    ∀ {p q : List String} (doc : Document), Path.Apart p q →
      removedSegments q (setSegments p value doc) = removedSegments q doc
  | [], _, _, h => absurd rfl h.ne_nil_left
  | _ :: _, [], _, h => absurd rfl h.ne_nil_right
  | key :: p, key' :: q, doc, h => by
    by_cases hkey : key' = key
    · subst hkey
      have hbelow := Path.apart_cons_iff.mp h
      rw [setSegments_cons hbelow.ne_nil_left, removedSegments_cons hbelow.ne_nil_right,
        removedSegments_cons hbelow.ne_nil_right, inner_insert_document]
      exact removedSegments_setSegments_of_apart value _ hbelow
    · exact removedSegments_congr (get?_setSegments_of_ne hkey p value doc) q

/-- Removing a path leaves the paths apart from it where they are. -/
theorem removedSegments_removeSegments_of_apart :
    ∀ {p q : List String} (doc : Document), Path.Apart p q →
      removedSegments q (removeSegments p doc) = removedSegments q doc
  | [], _, _, h => absurd rfl h.ne_nil_left
  | _ :: _, [], _, h => absurd rfl h.ne_nil_right
  | key :: p, key' :: q, doc, h => by
    by_cases hkey : key' = key
    · subst hkey
      have hbelow := Path.apart_cons_iff.mp h
      rw [removeSegments_cons hbelow.ne_nil_left]
      rcases hget : (OrderedMap.get? doc key').bind Value.asDocument? with _ | entries
      · rfl
      · dsimp only
        rw [removedSegments_cons hbelow.ne_nil_right, removedSegments_cons hbelow.ne_nil_right,
          inner_insert_document, removedSegments_removeSegments_of_apart entries hbelow, inner,
          hget,
          Option.getD_some]
    · exact removedSegments_congr (get?_removeSegments_of_ne hkey p doc) q

/-- Removing a path leaves what is read at the paths apart from it. -/
theorem descend_removeSegments_of_apart :
    ∀ {p q : List String} (doc : Document), Path.Apart p q →
      Value.descend q (.document (removeSegments p doc)) = Value.descend q (.document doc)
  | [], _, _, h => absurd rfl h.ne_nil_left
  | _ :: _, [], _, h => absurd rfl h.ne_nil_right
  | key :: p, key' :: q, doc, h => by
    by_cases hkey : key' = key
    · subst hkey
      have hbelow := Path.apart_cons_iff.mp h
      rw [removeSegments_cons hbelow.ne_nil_left]
      rcases hget : (OrderedMap.get? doc key').bind Value.asDocument? with _ | entries
      · rfl
      · obtain ⟨found, hfound, hentries⟩ := Option.bind_eq_some_iff.mp hget
        cases found <;> cases hentries
        dsimp only
        rw [descend_cons, descend_cons, OrderedMap.get?_insert, if_pos rfl, hfound,
          Option.bind_some, Option.bind_some]
        exact descend_removeSegments_of_apart entries hbelow
    · rw [descend_cons, descend_cons, get?_removeSegments_of_ne hkey]

/-- Writing at a path leaves what is read at a path apart from it, or takes it away with a list that
both lead through. -/
theorem descend_setSegments_of_apart (value : Value) :
    ∀ {p q : List String} (doc : Document), Path.Apart p q →
      Value.descend q (.document (setSegments p value doc)) = Value.descend q (.document doc) ∨
        Value.descend q (.document (setSegments p value doc)) = none
  | [], _, _, h => absurd rfl h.ne_nil_left
  | _ :: _, [], _, h => absurd rfl h.ne_nil_right
  | key :: p, key' :: q, doc, h => by
    by_cases hkey : key' = key
    · subst hkey
      have hbelow := Path.apart_cons_iff.mp h
      rw [setSegments_cons hbelow.ne_nil_left, descend_cons, descend_cons, OrderedMap.get?_insert,
        if_pos rfl, Option.bind_some]
      have hempty : Value.descend q (.document []) = none :=
        descend_nil_document hbelow.ne_nil_right
      rcases descend_setSegments_of_apart value (doc.inner key') hbelow with hsame | hnone
      · rcases hget : OrderedMap.get? doc key' with _ | found
        · rw [hsame, inner, hget]
          exact .inr hempty
        · cases found with
          | document entries =>
            rw [inner_of_get? hget] at hsame ⊢
            exact .inl hsame
          | _ =>
            rw [hsame, inner, hget]
            exact .inr hempty
      · exact .inr hnone
    · rw [descend_cons, descend_cons, get?_setSegments_of_ne hkey]
      exact .inl rfl

/-! ## A path below another -/

theorem descend_append (r : List String) :
    ∀ (p : List String) (value : Value),
      Value.descend (p ++ r) value = (Value.descend p value).bind (Value.descend r)
  | [], value => rfl
  | key :: p, value => by
    cases value with
    | document entries =>
      rw [List.cons_append, descend_cons, descend_cons]
      rcases OrderedMap.get? entries key with _ | found
      · rfl
      · exact descend_append r p found
    | array items =>
      rw [List.cons_append, Value.descend, Value.descend]
      rcases Path.index? key with _ | i
      · rfl
      · rcases hitem : items[i]? with _ | found
        · simp [hitem]
        · simpa [hitem] using descend_append r p found
    | _ => rfl

/-- The document that segments lead to through documents. -/
def documentAt? (p : List String) (doc : Document) : Option Document :=
  (removedSegments p doc).bind Value.asDocument?

theorem documentAt?_cons {p : List String} (h : p ≠ []) (key : String) (doc : Document) :
    documentAt? (key :: p) doc = documentAt? p (doc.inner key) := by
  rw [documentAt?, documentAt?, removedSegments_cons h]

theorem documentAt?_singleton (key : String) (doc : Document) :
    documentAt? [key] doc = (OrderedMap.get? doc key).bind Value.asDocument? := rfl

theorem removedSegments_append {r : List String} (hr : r ≠ []) :
    ∀ {p : List String} (doc : Document), p ≠ [] →
      removedSegments (p ++ r) doc = (documentAt? p doc).bind (removedSegments r)
  | [], _, h => absurd rfl h
  | [key], doc, _ => by
    rw [List.singleton_append, removedSegments_cons hr, documentAt?_singleton, inner]
    rcases (OrderedMap.get? doc key).bind Value.asDocument? with _ | entries
    · exact removedSegments_nil_document r
    · rfl
  | key :: next :: p, doc, _ => by
    have hp : next :: p ≠ [] := List.cons_ne_nil _ _
    rw [List.cons_append, removedSegments_cons (by simp), documentAt?_cons hp]
    exact removedSegments_append hr _ hp

/-- Writing below a path writes the document that stands there. -/
theorem setSegments_append {r : List String} (hr : r ≠ []) (value : Value) :
    ∀ {p : List String} (doc : Document), p ≠ [] →
      setSegments (p ++ r) value doc =
        setSegments p (.document (setSegments r value ((documentAt? p doc).getD []))) doc
  | [], _, h => absurd rfl h
  | [key], doc, _ => by
    rw [List.singleton_append, setSegments_cons hr]
    rfl
  | key :: next :: p, doc, _ => by
    have hp : next :: p ≠ [] := List.cons_ne_nil _ _
    rw [List.cons_append, setSegments_cons (by simp), setSegments_cons hp, documentAt?_cons hp,
      setSegments_append hr value _ hp]

/-- Removing below a path writes the document that stands there, if one does. -/
theorem removeSegments_append {r : List String} (hr : r ≠ []) :
    ∀ {p : List String} (doc : Document), p ≠ [] →
      removeSegments (p ++ r) doc =
        match documentAt? p doc with
        | some entries => setSegments p (.document (removeSegments r entries)) doc
        | none => doc
  | [], _, h => absurd rfl h
  | [key], doc, _ => by
    rw [List.singleton_append, removeSegments_cons hr, documentAt?_singleton]
    rfl
  | key :: next :: p, doc, _ => by
    have hp : next :: p ≠ [] := List.cons_ne_nil _ _
    rw [List.cons_append, removeSegments_cons (by simp), documentAt?_cons hp, inner]
    rcases hget : (OrderedMap.get? doc key).bind Value.asDocument? with _ | entries
    · rw [Option.getD_none, documentAt?, removedSegments_nil_document, Option.bind_none]
    · dsimp only [Option.getD_some]
      rw [removeSegments_append hr entries hp]
      obtain ⟨found, hfound, hentries⟩ := Option.bind_eq_some_iff.mp hget
      cases found <;> cases hentries
      rcases documentAt? (next :: p) entries with _ | below
      · exact OrderedMap.insert_of_get? hfound
      · dsimp only
        rw [setSegments_cons hp, inner_of_get? hfound]

/-! ## Paths outside lists -/

/-- Where no list is on the way, a path is read through documents alone. -/
theorem descend_eq_removedSegments {rest : List String} (h : Path.OffLists rest) (key : String)
    (doc : Document) :
    Value.descend (key :: rest) (.document doc) = removedSegments (key :: rest) doc := by
  induction rest generalizing key doc with
  | nil =>
    rw [descend_cons, removedSegments]
    exact Option.bind_fun_some _
  | cons next rest ih =>
    have hrest : Path.OffLists rest := fun segment hmem => h segment (List.mem_cons_of_mem _ hmem)
    rw [descend_cons, removedSegments_cons (List.cons_ne_nil _ _), inner]
    rcases hget : OrderedMap.get? doc key with _ | found
    · exact (removedSegments_nil_document _).symm
    · rw [Option.bind_some, Option.bind_some]
      cases found with
      | document entries => exact ih hrest next entries
      | array items =>
        rw [Value.descend, h next List.mem_cons_self]
        exact (removedSegments_nil_document _).symm
      | _ => exact (removedSegments_nil_document _).symm

/-- Where no list is on the way, removing leaves nothing. -/
theorem get?_remove_self {path : String} (h : Path.OffLists (Path.segments path).tail)
    (doc : Document) : (doc.remove path).get? path = none := by
  rcases hsegs : Path.segments path with _ | ⟨key, rest⟩
  · exact absurd hsegs (Path.segments_ne_nil path)
  · rw [hsegs, List.tail_cons] at h
    rw [get?, remove, hsegs, descend_eq_removedSegments h]
    exact removedSegments_removeSegments _ doc

/-! ## Nothing at a path -/

theorem get?_eq_bind {doc : Document} {path below : String} {rest : List String}
    (h : Path.segments path ++ rest = Path.segments below) :
    doc.get? below = (doc.get? path).bind (Value.descend rest) := by
  rw [get?, ← h, descend_append]
  rfl

/-- What is written is read. -/
theorem get?_set_self (doc : Document) (path : String) (value : Value) :
    (doc.set path value).get? path = some value :=
  descend_of_removedSegments (removedSegments_setSegments value doc (Path.segments_ne_nil path))

/-- Writing leaves nothing where nothing was, unless the value brings something. -/
theorem get?_set_eq_none {doc : Document} {path target : String} {value : Value}
    (hnone : doc.get? target = none)
    (hbelow : ∀ rest, Path.segments path ++ rest = Path.segments target →
      Value.descend rest value = none)
    (habove : ¬ Path.segments target <+: Path.segments path) :
    (doc.set path value).get? target = none := by
  by_cases hpre : Path.segments path <+: Path.segments target
  · obtain ⟨rest, hrest⟩ := hpre
    have hwritten : (doc.set path value).get? path = some value :=
      descend_of_removedSegments
        (removedSegments_setSegments value doc (Path.segments_ne_nil path))
    rw [get?_eq_bind hrest, hwritten]
    exact hbelow rest hrest
  · rcases descend_setSegments_of_apart value doc ⟨hpre, habove⟩ with hsame | hgone
    · exact hsame.trans hnone
    · exact hgone

/-- Removing leaves nothing where nothing was. -/
theorem get?_remove_eq_none {doc : Document} {path target : String}
    (hnone : doc.get? target = none) : (doc.remove path).get? target = none := by
  rcases hremoved : doc.removed? path with _ | value
  · have hsame : doc.remove path = doc := removeSegments_of_removedSegments hremoved
    rw [hsame]
    exact hnone
  · by_cases hpre : Path.segments path <+: Path.segments target
    · obtain ⟨rest, hrest⟩ := hpre
      have hgone : (doc.remove path).get? path = none :=
        descend_removeSegments_of_removedSegments hremoved
      rw [get?_eq_bind hrest, hgone, Option.bind_none]
    · have habove : ¬ Path.segments target <+: Path.segments path := by
        rintro ⟨rest, hrest⟩
        have hget : doc.get? path = some value := descend_of_removedSegments hremoved
        rw [get?_eq_bind hrest, hnone] at hget
        cases hget
      exact (descend_removeSegments_of_apart doc ⟨hpre, habove⟩).trans hnone

/-! ## What a change elsewhere does -/

theorem removed?_put_of_apart {path other : String} {doc : Document}
    (h : Path.Apart (Path.segments other) (Path.segments path)) (stored : Option Value) :
    (doc.put other stored).removed? path = doc.removed? path := by
  cases stored with
  | some value => exact removedSegments_setSegments_of_apart value doc h
  | none => exact removedSegments_removeSegments_of_apart doc h

/-- What is put at a path apart leaves what is read at a path, or takes a list away with it. -/
theorem get?_put_apart_cases {path other : String}
    (h : Path.Apart (Path.segments other) (Path.segments path)) (doc : Document)
    (stored : Option Value) :
    (doc.put other stored).get? path = doc.get? path ∨ (doc.put other stored).get? path = none := by
  cases stored with
  | some value => exact descend_setSegments_of_apart value doc h
  | none => exact .inl (descend_removeSegments_of_apart doc h)

/-- What is absent at a path stays absent when a path apart is put. -/
theorem present_get?_put_of_apart {path other : String} {doc : Document}
    (h : Path.Apart (Path.segments other) (Path.segments path)) (stored : Option Value)
    (habsent : present (doc.get? path) = none) :
    present ((doc.put other stored).get? path) = none := by
  rcases get?_put_apart_cases h doc stored with hsame | hgone
  · exact (congrArg present hsame).trans habsent
  · exact congrArg present hgone

/-- What is put below a path writes a document at the path, or does nothing. -/
theorem put_below_cases {path other : String} {rest : List String} (hrest : rest ≠ [])
    (hbelow : Path.segments path ++ rest = Path.segments other) (doc : Document)
    (stored : Option Value) :
    (∃ entries, doc.put other stored = doc.set path (.document entries)) ∨
      doc.put other stored = doc := by
  have hsegs := Path.segments_ne_nil path
  cases stored with
  | some value =>
    rw [put, set, ← hbelow, setSegments_append hrest value doc hsegs]
    exact .inl ⟨_, rfl⟩
  | none =>
    rw [put, remove, ← hbelow, removeSegments_append hrest doc hsegs]
    split
    · exact .inl ⟨_, rfl⟩
    · exact .inr rfl

/-- Removing a path leaves nothing present there where nothing was. -/
theorem present_get?_remove {path : String} {doc : Document}
    (habsent : present (doc.get? path) = none) : present ((doc.remove path).get? path) = none := by
  rcases hremoved : doc.removed? path with _ | value
  · have hsame : doc.remove path = doc := removeSegments_of_removedSegments hremoved
    rw [hsame]
    exact habsent
  · have hgone : (doc.remove path).get? path = none :=
      descend_removeSegments_of_removedSegments hremoved
    rw [hgone]
    rfl

/-- Nothing is below what is absent. -/
theorem get?_below_of_absent {path below : String} {rest : List String} (hrest : rest ≠ [])
    (h : Path.segments path ++ rest = Path.segments below) {doc : Document}
    (habsent : present (doc.get? path) = none) : doc.get? below = none := by
  rw [get?_eq_bind h]
  rcases hget : doc.get? path with _ | value
  · rfl
  · rw [hget] at habsent
    rcases rest with _ | ⟨key, rest⟩
    · exact absurd rfl hrest
    · cases value with
      | null | undefined => rfl
      | _ => cases habsent

/-! ## The id -/

/-- The id of a document is the text at its path. -/
theorem id?_eq_some_iff {doc : Document} {id : String} :
    doc.id? = some id ↔ doc.removed? "_id" = some (.string id) := by
  show (OrderedMap.get? doc "_id").bind Value.asString? = _ ↔ OrderedMap.get? doc "_id" = _
  rcases OrderedMap.get? doc "_id" with _ | value
  · simp
  · cases value <;> simp [Value.asString?]

end Document

end DocStore
