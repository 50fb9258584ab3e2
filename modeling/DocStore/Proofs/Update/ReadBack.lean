import DocStore.Proofs.Nesting
import DocStore.Proofs.Query.Compile
import DocStore.Proofs.Query.Membership
import DocStore.Proofs.Value.Overwrite
/-!
# An update read back as a query

A document of plain values means both an update, which stores its leaves, and a query, which asks
for them. The readers of both languages find the leaves at the same paths (`Mutation.parse_eq_sets`,
`Expr.parse_eq_equals`); no leaf stands above another one, so that each is still there when all are
written (`CompiledUpdate.apply_sets`, `Document.removedSegments_restore`); and a value equals itself
through every field, as long as no NaN is within it (`Field.accepts_self`). So the updated document
matches, whatever was at the paths before (`Schema.updated_document_matches`).
-/

namespace DocStore

variable {σ : Type}

/-! ## Equality with itself -/

theorem equalOrAbsent_self {value : Value} (hkeys : value.DistinctKeys) (hnan : value.NaNFree) :
    equalOrAbsent (some value) value = true := by
  cases habsent : value.isAbsentValue with
  | true =>
    rw [equalOrAbsent, present_some_of_absent habsent]
    exact habsent
  | false =>
    rw [equalOrAbsent, present_some_of_present habsent]
    exact Value.looseEq_refl hkeys hnan

/-- **A value equals itself through every field.** -/
theorem Field.accepts_self (field : Field σ) {value : Value} (hkeys : value.DistinctKeys)
    (hnan : value.NaNFree) : field.accepts (some value) value = true := by
  induction field generalizing value with
  | scalar path kind options =>
    have hself := equalOrAbsent_self hkeys hnan
    cases kind with
    | date =>
      cases value with
      | dateTime at_ => exact beq_self_eq_true at_
      | _ => exact hself
    | buffer =>
      cases value with
      | binary subtype content => exact beq_self_eq_true content
      | _ => exact hself
    | _ => exact hself
  | array path options child ih =>
    cases value with
    | array items =>
      refine (accepts_array_iff path options child items items).mpr
        (List.forall₂_same.mpr fun item hitem => ih (hkeys.item hitem) ?_)
      exact (Value.throughout_array.mp hnan).2 item hitem
    | _ => exact equalOrAbsent_self hkeys hnan
  | virtual path getter setter => exact equalOrAbsent_self hkeys hnan

/-! ## Leaves of a document -/

namespace Value

mutual

theorem keyedOnce_of_distinctKeys (value : Value) (h : value.DistinctKeys) : value.KeyedOnce := by
  cases value with
  | document entries =>
    have hhere := (throughout_document.mp h).1 entries rfl
    exact ⟨hhere, keyedOnceEntries_of_distinctKeys entries fun entry => h.entry⟩
  | _ => exact keyedOnce_of_isLeaf rfl

theorem keyedOnceEntries_of_distinctKeys (entries : List (String × Value))
    (h : ∀ entry ∈ entries, entry.2.DistinctKeys) : KeyedOnceEntries entries := by
  match entries with
  | [] => trivial
  | (key, value) :: entries =>
    obtain ⟨hvalue, hentries⟩ := List.forall_mem_cons.mp h
    exact ⟨keyedOnce_of_distinctKeys value hvalue,
      keyedOnceEntries_of_distinctKeys entries hentries⟩

end

mutual

/-- What holds throughout a value holds throughout its leaves. -/
theorem throughout_of_mem_leaves (value : Value) {P : Value → Prop} (h : value.Throughout P)
    {leaf : List String × Value} (hleaf : leaf ∈ leaves value) : leaf.2.Throughout P := by
  cases value with
  | document entries =>
    exact throughout_of_mem_leavesEntries entries (throughout_document.mp h).2 hleaf
  | _ =>
    cases List.mem_singleton.mp hleaf
    exact h

theorem throughout_of_mem_leavesEntries (entries : List (String × Value)) {P : Value → Prop}
    (h : ∀ entry ∈ entries, entry.2.Throughout P) {leaf : List String × Value}
    (hleaf : leaf ∈ leavesEntries entries) : leaf.2.Throughout P := by
  match entries with
  | (key, value) :: entries =>
    obtain ⟨hvalue, hentries⟩ := List.forall_mem_cons.mp h
    rcases List.mem_append.mp hleaf with hleaf | hleaf
    · obtain ⟨inner, hinner, rfl⟩ := List.mem_map.mp hleaf
      have hthroughout := throughout_of_mem_leaves value hvalue hinner
      exact hthroughout
    · exact throughout_of_mem_leavesEntries entries hentries hleaf

end

end Value

open Value

/-- A key that is one segment of a path and no operator. -/
def PlainKey (key : String) : Prop := isOperatorKey key = false ∧ '.' ∉ key.toList

/-- The leaves of a document at their dotted paths. -/
def Document.dottedLeaves (doc : Document) : List (String × Value) :=
  (leavesEntries doc).map fun leaf => (Path.dotted leaf.1, leaf.2)

theorem Document.flatten_eq_dottedLeaves {doc : Document} (h : KeyedByEntries PlainKey doc) :
    doc.flatten isOperatorKey = doc.dottedLeaves.map fun leaf => (leaf.1, .value leaf.2) := by
  rw [Document.flatten, Document.dottedLeaves,
    flattenEntries_eq_leavesEntries doc [] (keyedByEntries_mono doc (fun _ hkey => hkey.1) h),
    List.map_map]
  simp only [List.nil_append, Function.comp_def]

/-- The path of a leaf has the keys above it as its segments. -/
theorem segments_of_mem_leavesEntries {doc : Document} (h : KeyedByEntries PlainKey doc)
    {leaf : List String × Value} (hleaf : leaf ∈ leavesEntries doc) :
    Path.segments (Path.dotted leaf.1) = leaf.1 := by
  have hkeys := keyedBy_of_mem_leavesEntries doc h hleaf
  obtain ⟨key, value, segs, -, -, hsegs⟩ := exists_of_mem_leavesEntries hleaf
  refine Path.segments_dotted ?_ fun key hkey => (hkeys key hkey).2
  rw [hsegs]
  exact List.cons_ne_nil _ _

/-! ## The update -/

theorem Mutation.parse_eq_sets {doc : Document} (h : KeyedByEntries PlainKey doc) :
    parse doc = .ok (doc.dottedLeaves.map fun leaf => .set leaf.1 leaf.2) := by
  have hplain :=
    Document.plainTop_of_keyedByEntries (keyedByEntries_mono doc (fun _ hkey => hkey.1) h)
  rw [readsNested.top_eq_mapM hplain, Document.flatten_eq_dottedLeaves h]
  exact mapM_map_eq_ok_iff.mpr fun leaf _ => rfl

theorem Schema.compileUpdate_sets (schema : Schema σ) (leaves : List (String × Value)) :
    schema.compileUpdate (leaves.map fun leaf => .set leaf.1 leaf.2) =
      .ok ⟨leaves.map fun leaf => (.set leaf.1 leaf.2, schema.fieldOrMixed leaf.1)⟩ := by
  have hsteps : (leaves.map fun leaf => Mutation.set leaf.1 leaf.2).mapM schema.compileMutation =
      .ok (leaves.map fun leaf => (.set leaf.1 leaf.2, schema.fieldOrMixed leaf.1)) :=
    mapM_map_eq_ok_iff.mpr fun leaf _ => rfl
  rw [compileUpdate, hsteps]
  rfl

/-- Storing some leaves writes them in turn. -/
theorem CompiledUpdate.apply_sets (schema : Schema σ) {leaves : List (List String × Value)}
    (h : ∀ leaf ∈ leaves, Path.segments (Path.dotted leaf.1) = leaf.1) (doc : Document) :
    apply ⟨leaves.map fun leaf =>
        (.set (Path.dotted leaf.1) leaf.2, schema.fieldOrMixed (Path.dotted leaf.1))⟩ doc =
      .ok (Document.restore leaves doc) := by
  induction leaves generalizing doc with
  | nil => rfl
  | cons leaf leaves ih =>
    obtain ⟨hleaf, hleaves⟩ := List.forall_mem_cons.mp h
    have hset : doc.set (Path.dotted leaf.1) leaf.2 = Document.setSegments leaf.1 leaf.2 doc := by
      rw [Document.set, hleaf]
    show apply ⟨leaves.map _⟩ (doc.set (Path.dotted leaf.1) leaf.2) = _
    rw [hset, ih hleaves]
    rfl

/-! ## The query -/

namespace Expr

theorem parse_eq_equals {doc : Document} (h : KeyedByEntries PlainKey doc) :
    (parse doc : Except StoreError (Expr σ)) =
      .ok (.and (doc.dottedLeaves.map fun leaf => .equals leaf.1 leaf.2)) := by
  have hplain :=
    Document.plainTop_of_keyedByEntries (keyedByEntries_mono doc (fun _ hkey => hkey.1) h)
  have hclauses : (doc.dottedLeaves.map fun leaf => (leaf.1, Leaf.value leaf.2)).mapM ofLeaf =
      .ok (doc.dottedLeaves.map fun leaf => (.equals leaf.1 leaf.2 : Expr σ)) :=
    mapM_map_eq_ok_iff.mpr fun leaf _ => rfl
  rw [parse_eq_mapM hplain, Document.flatten_eq_dottedLeaves h, hclauses]
  rfl

theorem mem_clausesAll_equals {leaves : List (String × Value)} {clause : Expr σ}
    (h : clause ∈ clausesAll (leaves.map fun leaf => .equals leaf.1 leaf.2)) :
    ∃ leaf ∈ leaves, clause = .equals leaf.1 leaf.2 := by
  induction leaves with
  | nil => exact absurd h List.not_mem_nil
  | cons leaf leaves ih =>
    rcases List.mem_cons.mp h with rfl | h
    · exact ⟨leaf, List.mem_cons_self, rfl⟩
    · obtain ⟨other, hother, hclause⟩ := ih h
      exact ⟨other, List.mem_cons_of_mem _ hother, hclause⟩

theorem holdsEach_equals (truth : Expr σ → Bool) (leaves : List (String × Value)) :
    holdsEach truth (leaves.map fun leaf => .equals leaf.1 leaf.2) =
      leaves.map fun leaf => truth (.equals leaf.1 leaf.2) := by
  induction leaves with
  | nil => rfl
  | cons leaf leaves ih =>
    rw [List.map_cons, List.map_cons, holdsEach, ih]
    rfl

/-- A conjunction of equalities compiles, and a plain document matches it that has equal values at
the paths. -/
theorem exists_compile_equals (schema : Schema σ) (leaves : List (String × Value)) :
    ∃ predicate, (and (leaves.map fun leaf => .equals leaf.1 leaf.2)).compile schema =
      .ok predicate ∧
      ∀ doc : Document, (∀ leaf ∈ leaves,
        (schema.fieldOrMixed leaf.1).accepts (doc.get? leaf.1) leaf.2 = true) →
        ∀ host, (Reading.runOn predicate doc host).1 = true := by
  obtain ⟨predicate, hcompile, hanswer⟩ :=
    compile_of_resolves schema (.and (leaves.map fun leaf => .equals leaf.1 leaf.2))
      fun clause hclause => by
        obtain ⟨leaf, -, rfl⟩ := mem_clausesAll_equals hclause
        trivial
  refine ⟨predicate, hcompile, fun doc haccepts host => ?_⟩
  have hvalues : ∀ path, Fixed (fun t : Document × σ => t.1 = doc)
      ((plainAccess fun (change : Empty) _ => change.elim).value path) (doc.get? path) := by
    rintro path t rfl
    exact ⟨rfl, rfl⟩
  have hclause : ∀ clause ∈ clausesAll (leaves.map fun leaf => (.equals leaf.1 leaf.2 : Expr σ)),
      Fixed (fun t : Document × σ => t.1 = doc)
        (clauseAnswer schema (plainAccess fun change _ => change.elim) clause)
        (clauseTruth schema doc.get? (fun _ => true) clause) := by
    intro clause hclause
    refine fixed_clauseAnswer hvalues clause fun named hnamed => ?_
    obtain ⟨leaf, -, rfl⟩ := mem_clausesAll_equals hclause
    cases hnamed
  have hfixed := fixed_answer (.and (leaves.map fun leaf => .equals leaf.1 leaf.2)) hclause
  have hholds : (and (leaves.map fun leaf => equals leaf.1 leaf.2)).holds
      (clauseTruth schema doc.get? fun _ => true) = true := by
    rw [holds, holdsEach_equals, List.all_map]
    exact List.all_eq_true.mpr haccepts
  have hrun := (hfixed (doc, host) rfl).1
  rw [← hanswer, hholds] at hrun
  exact hrun

end Expr

/-- **An updated document matches the update read as a query**, whatever it held at the paths: the
values in place of parents are gone, and no write undoes another one. -/
theorem Schema.updated_document_matches (schema : Schema σ) (doc update : Document)
    (hdistinct : (Value.document update).DistinctKeys) (hplain : KeyedByEntries PlainKey update)
    (hnan : (Value.document update).NaNFree) :
    ∃ compiled updated predicate, schema.prepareUpdate (.document update) = .ok compiled ∧
      compiled.apply doc = .ok updated ∧
      schema.compileQuery (.document update) = .ok predicate ∧
      ∀ host, (Reading.runOn predicate updated host).1 = true := by
  obtain ⟨predicate, hcompile, hmatches⟩ :=
    Expr.exists_compile_equals schema update.dottedLeaves
  have hsegments : ∀ leaf ∈ leavesEntries update, Path.segments (Path.dotted leaf.1) = leaf.1 :=
    fun leaf => segments_of_mem_leavesEntries hplain
  refine ⟨⟨update.dottedLeaves.map fun leaf => (.set leaf.1 leaf.2, schema.fieldOrMixed leaf.1)⟩,
    Document.restore (leavesEntries update) doc, predicate, ?_, ?_, ?_,
    hmatches _ fun leaf hleaf => ?_⟩
  · rw [prepareUpdate, Mutation.parse_eq_sets hplain]
    exact schema.compileUpdate_sets _
  · rw [Document.dottedLeaves, List.map_map]
    exact CompiledUpdate.apply_sets schema hsegments doc
  · rw [compileQuery_of_parse (Expr.parse_eq_equals hplain)]
    exact hcompile
  · obtain ⟨leaf, hmem, rfl⟩ := List.mem_map.mp hleaf
    have hkeyed := keyedOnce_of_distinctKeys _ hdistinct
    have hapart := pairwise_apart_leavesEntries update hkeyed.1 hkeyed.2
    have hne : ∀ leaf ∈ leavesEntries update, leaf.1 ≠ [] := by
      intro leaf hleaf
      rw [← hsegments leaf hleaf]
      exact Path.segments_ne_nil _
    have hget : (Document.restore (leavesEntries update) doc).get? (Path.dotted leaf.1) =
        some leaf.2 := by
      rw [Document.get?, hsegments leaf hmem]
      exact Document.descend_of_removedSegments
        (Document.removedSegments_restore hapart hne hmem doc)
    rw [hget]
    exact Field.accepts_self _
      (throughout_of_mem_leavesEntries update (throughout_document.mp hdistinct).2 hmem)
      (throughout_of_mem_leavesEntries update (throughout_document.mp hnan).2 hmem)

/-! ### An author in place of a name -/

/-- Two paths below `author`, one of them to a list with a document, and a null. -/
def authorUpdate : Document :=
  [("author", .document [("born", .dateTime 0),
    ("names", .array [.null, .document [("last", .string "Ann")]])]),
    ("editor", .document [("name", .null)])]

/-- A text and a list stand where the update has documents. -/
def namedDocument : Document :=
  [("author", .string "Ann"), ("editor", .array [.document [("name", .string "Bo")]])]

/-- Every author is born on a date. -/
def authorSchema : Schema Unit :=
  .register .empty "author.born" (.scalar "author.born" .date .none)

theorem Schema.updated_document_matches_author :
    (Value.document authorUpdate).DistinctKeys ∧ KeyedByEntries PlainKey authorUpdate ∧
      (Value.document authorUpdate).NaNFree ∧
      ∃ compiled updated predicate,
        authorSchema.prepareUpdate (.document authorUpdate) = .ok compiled ∧
        compiled.apply namedDocument = .ok updated ∧
        authorSchema.compileQuery (.document authorUpdate) = .ok predicate ∧
        ∀ host, (Reading.runOn predicate updated host).1 = true := by
  have hdistinct : (Value.document authorUpdate).DistinctKeys := by
    simp (disch := decide) [DistinctKeys, throughout_document, throughout_array,
      throughout_of_isScalar, OrderedMap.keys, authorUpdate]
  have hplain : KeyedByEntries PlainKey authorUpdate := by
    simp +decide [KeyedByEntries, KeyedBy, PlainKey, authorUpdate]
  have hnan : (Value.document authorUpdate).NaNFree := by
    simp (disch := decide) [NaNFree, throughout_document, throughout_array, throughout_of_isScalar,
      authorUpdate]
  exact ⟨hdistinct, hplain, hnan,
    authorSchema.updated_document_matches namedDocument authorUpdate hdistinct hplain hnan⟩

end DocStore
