import DocStore.Proofs.Value.Overwrite
/-!
# Paths as lenses

Reading goes through lists and writing does not, so that the laws that tie reading, writing and
removing at a path together ask what stands above the path. Where no list does
(`Document.ListFreeAbove`), a path is read through documents alone
(`Document.descend_eq_of_listFreeAbove`), and a write there is not seen at a path apart
(`Document.descend_setSegments_of_listFreeAbove`). A write at a path that leads somewhere leaves all
keys above it where they are (`Document.keysAt?_setSegments`).

The laws together are `Document.path_lens`.
-/

namespace DocStore

namespace Document

/-! ## What stands above a path -/

/-- Whether no path above a path leads to a list. -/
def ListFreeAbove (path : List String) (doc : Document) : Prop :=
  ∀ above, above <+: path → above ≠ path →
    ∀ items, Value.descend above (.document doc) ≠ some (.array items)

/-- Whether the paths above a path lead to documents, if to anything. -/
def DocumentsAbove (path : List String) (doc : Document) : Prop :=
  ∀ above, above <+: path → above ≠ path →
    ∀ found, Value.descend above (.document doc) = some found → ∃ entries, found = .document entries

theorem DocumentsAbove.listFreeAbove {path : List String} {doc : Document}
    (h : DocumentsAbove path doc) : ListFreeAbove path doc := by
  intro above habove hne items hitems
  obtain ⟨entries, hentries⟩ := h above habove hne _ hitems
  cases hentries

theorem ListFreeAbove.head {key : String} {rest : List String} {doc : Document}
    (h : ListFreeAbove (key :: rest) doc) (hrest : rest ≠ []) (items : List Value) :
    OrderedMap.get? doc key ≠ some (.array items) := by
  intro hget
  refine h [key] (List.cons_prefix_cons.mpr ⟨rfl, List.nil_prefix⟩) (by simpa using hrest.symm)
    items ?_
  rw [descend_cons, hget]
  rfl

/-- A path that goes on reads what is below its first key as a document, unless that is a list. -/
theorem descend_cons_of_not_array {key : String} {rest : List String} {doc : Document}
    (hrest : rest ≠ []) (h : ∀ items, OrderedMap.get? doc key ≠ some (.array items)) :
    Value.descend (key :: rest) (.document doc) =
      Value.descend rest (.document (doc.inner key)) := by
  rw [descend_cons, inner]
  rcases hget : OrderedMap.get? doc key with _ | found
  · exact (descend_nil_document hrest).symm
  · cases found with
    | document entries => rfl
    | array items => exact absurd hget (h items)
    | _ =>
      obtain ⟨next, rest, rfl⟩ := List.exists_cons_of_ne_nil hrest
      exact (descend_nil_document hrest).symm

theorem ListFreeAbove.below {key : String} {rest : List String} {doc : Document}
    (h : ListFreeAbove (key :: rest) doc) (hrest : rest ≠ []) :
    ListFreeAbove rest (doc.inner key) := by
  intro above habove hne items hitems
  rcases eq_or_ne above [] with rfl | hnil
  · cases hitems
  · refine h (key :: above) (List.cons_prefix_cons.mpr ⟨rfl, habove⟩) (by simpa using hne) items ?_
    rwa [descend_cons_of_not_array hnil (h.head hrest)]

/-- What is found through documents alone has documents above it. -/
theorem documentsAbove_of_removedSegments {path : List String} {doc : Document} {value : Value}
    (h : removedSegments path doc = some value) : DocumentsAbove path doc := by
  intro above habove hne found hfound
  rcases eq_or_ne above [] with rfl | hnil
  · exact ⟨doc, (Option.some.inj hfound).symm⟩
  · obtain ⟨entries, hentries⟩ := exists_document_above habove hne hnil h
    rw [descend_of_removedSegments hentries] at hfound
    exact ⟨entries, (Option.some.inj hfound).symm⟩

/-! ## Paths below no list -/

/-- A path below no list is read through documents alone. -/
theorem descend_eq_of_listFreeAbove :
    ∀ {path : List String} {doc : Document}, path ≠ [] → ListFreeAbove path doc →
      Value.descend path (.document doc) = removedSegments path doc
  | [], _, hnil, _ => absurd rfl hnil
  | [key], doc, _, _ => by
    rw [descend_cons, removedSegments]
    exact Option.bind_fun_some _
  | key :: next :: rest, doc, _, h => by
    have hrest : next :: rest ≠ [] := List.cons_ne_nil _ _
    rw [descend_cons_of_not_array hrest (h.head hrest), removedSegments_cons hrest]
    exact descend_eq_of_listFreeAbove hrest (h.below hrest)

/-- A write below no list is not seen at a path apart. -/
theorem descend_setSegments_of_listFreeAbove (value : Value) :
    ∀ {p q : List String} {doc : Document}, Path.Apart p q → ListFreeAbove p doc →
      Value.descend q (.document (setSegments p value doc)) = Value.descend q (.document doc)
  | [], _, _, h, _ => absurd rfl h.ne_nil_left
  | _ :: _, [], _, h, _ => absurd rfl h.ne_nil_right
  | key :: p, key' :: q, doc, h, hfree => by
    by_cases hkey : key' = key
    · subst hkey
      have hbelow := Path.apart_cons_iff.mp h
      have hp := hbelow.ne_nil_left
      rw [setSegments_cons hp, descend_cons, OrderedMap.get?_insert, if_pos rfl, Option.bind_some,
        descend_setSegments_of_listFreeAbove value hbelow (hfree.below hp),
        descend_cons_of_not_array hbelow.ne_nil_right (hfree.head hp)]
    · rw [descend_cons, descend_cons, get?_setSegments_of_ne hkey]

/-! ## Where keys stand -/

/-- The keys, in order, of the document that a path leads to. -/
def keysAt? (path : List String) (doc : Document) : Option (List String) :=
  ((Value.descend path (.document doc)).bind Value.asDocument?).map OrderedMap.keys

/-- Writing at a path that leads somewhere leaves all keys above it in their places. -/
theorem keysAt?_setSegments {x : Value} (value : Value) :
    ∀ {path above : List String} {doc : Document}, removedSegments path doc = some x →
      above <+: path → above ≠ path →
      keysAt? above (setSegments path value doc) = keysAt? above doc
  | [], _, _, h, _, _ => by cases h
  | key :: rest, [], doc, h, _, _ => by
    have hkey := mem_keys_of_removedSegments h
    obtain ⟨written, hwritten⟩ := exists_setSegments_eq_insert key rest value
    show some (OrderedMap.keys (setSegments (key :: rest) value doc)) = some doc.keys
    rw [hwritten, OrderedMap.keys_insert, if_pos hkey]
  | key :: rest, key' :: above, doc, h, habove, hne => by
    obtain ⟨rfl, hprefix⟩ := List.cons_prefix_cons.mp habove
    have hnotAll : above ≠ rest := fun heq => hne (by rw [heq])
    have hrest : rest ≠ [] := by
      rintro rfl
      exact hnotAll (List.prefix_nil.mp hprefix)
    obtain ⟨entries, hget, hbelow⟩ := exists_document_of_removedSegments hrest h
    have hsame := keysAt?_setSegments value hbelow hprefix hnotAll
    rw [keysAt?, keysAt?, descend_cons, descend_cons, setSegments_cons hrest,
      OrderedMap.get?_insert, if_pos rfl, inner_of_get? hget, hget]
    exact hsame

/-! ## The laws -/

/-- **Paths are lenses.** What is written is read. The second of two writes at a path wins, and all
keys above the path stay in their places. Below no list, writing back what is read changes nothing,
and removing gives what was read and leaves nothing there. Below documents only, writing and
removing are not seen at a path apart. -/
theorem path_lens (doc : Document) (p q : String) (v w : Value) :
    (doc.set p v).get? p = some v ∧
      ((doc.set p v).set p w = doc.set p w ∧
        ∀ above, above <+: Path.segments p → above ≠ Path.segments p →
          ((doc.set p v).set p w).keysAt? above = (doc.set p v).keysAt? above) ∧
      (doc.ListFreeAbove (Path.segments p) →
        (∀ found, doc.get? p = some found → doc.set p found = doc) ∧
          doc.removed? p = doc.get? p ∧ (doc.remove p).get? p = none) ∧
      (Path.Apart (Path.segments p) (Path.segments q) → doc.DocumentsAbove (Path.segments p) →
        (doc.set p v).get? q = doc.get? q ∧ (doc.remove p).get? q = doc.get? q) := by
  have hp := Path.segments_ne_nil p
  have hwritten : (doc.set p v).removed? p = some v := removedSegments_setSegments v doc hp
  refine ⟨get?_set_self doc p v, ⟨setSegments_setSegments v w _ doc, fun above => ?_⟩,
    fun hfree => ?_, fun hapart habove => ⟨?_, descend_removeSegments_of_apart doc hapart⟩⟩
  · exact keysAt?_setSegments w hwritten
  · have hread : doc.get? p = doc.removed? p := descend_eq_of_listFreeAbove hp hfree
    refine ⟨fun found hfound => ?_, hread.symm, ?_⟩
    · exact setSegments_of_removedSegments (hread.symm.trans hfound)
    · rcases hremoved : doc.removed? p with _ | found
      · have hsame : doc.remove p = doc := removeSegments_of_removedSegments hremoved
        rw [hsame, hread, hremoved]
      · exact descend_removeSegments_of_removedSegments hremoved
  · exact descend_setSegments_of_listFreeAbove v hapart habove.listFreeAbove

/-- A document with a list and documents in it. -/
def post : Document :=
  [("title", .string "Emma"), ("meta", .document [("author", .document [("name", .string "ann")])]),
    ("tags", .array [.string "novel"])]

theorem path_lens_post :
    (post.set "meta.author.name" (.string "bea")).get? "meta.author.name" = some (.string "bea") ∧
      post.removed? "meta.author.name" = some (.string "ann") ∧
      (post.remove "meta.author.name").get? "meta.author.name" = none ∧
      (post.set "meta.author.name" (.string "bea")).get? "tags.0" = some (.string "novel") := by
  have hfound : post.removed? "meta.author.name" = some (.string "ann") := rfl
  have habove : post.DocumentsAbove (Path.segments "meta.author.name") :=
    documentsAbove_of_removedSegments hfound
  have hapart : Path.Apart (Path.segments "meta.author.name") (Path.segments "tags.0") :=
    ⟨by decide, by decide⟩
  obtain ⟨hread, -, hback, helse⟩ :=
    path_lens post "meta.author.name" "tags.0" (.string "bea") (.string "cleo")
  obtain ⟨-, -, hgone⟩ := hback habove.listFreeAbove
  exact ⟨hread, hfound, hgone, (helse hapart habove).1⟩

end Document

end DocStore
