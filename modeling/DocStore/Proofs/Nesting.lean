import DocStore.Proofs.Field.Check
import DocStore.Proofs.Query.Parse
import DocStore.Proofs.Value.Flatten
import DocStore.Sort
import DocStore.Update
/-!
# Nested and dotted forms

Queries, updates and sorts are read from documents whose nesting extends paths. The three readers
recurse in ways of their own, and each reads the flattening of a document, one leaf at a time and in
order: `ReadsNested` is what they have in common, by the forms of an entry, and
`ReadsNested.top_eq_mapM` the consequence for documents of any depth.

So a clause, a mutation or a sort key stands for every leaf, the first leaf that is invalid decides
the error, and documents with the same flattening are read alike
(`nested_and_dotted_forms_read_alike`).
-/

namespace DocStore

open Value

variable {α β σ : Type}

/-! ## Lists of steps that fail -/

/-- A list of steps fails with the first step that does. -/
theorem mapM_eq_error_iff {f : α → Except StoreError β} {as : List α} {e : StoreError} :
    as.mapM f = .error e ↔ ∃ before a after, as = before ++ a :: after ∧
      (∀ earlier ∈ before, ∃ b, f earlier = .ok b) ∧ f a = .error e := by
  induction as with
  | nil =>
    constructor
    · rintro ⟨⟩
    · rintro ⟨before, a, after, hsplit, -⟩
      cases before <;> cases hsplit
  | cons a as ih =>
    rw [List.mapM_cons]
    constructor
    · intro h
      rcases hhead : f a with e' | b
      · rw [hhead] at h
        cases h
        exact ⟨[], a, as, rfl, List.forall_mem_nil _, hhead⟩
      · rcases htail : as.mapM f with e' | bs
        · rw [hhead, htail] at h
          cases h
          obtain ⟨before, failing, after, rfl, hbefore, hfailing⟩ := ih.mp htail
          exact ⟨a :: before, failing, after, rfl,
            List.forall_mem_cons.mpr ⟨⟨b, hhead⟩, hbefore⟩, hfailing⟩
        · rw [hhead, htail] at h
          cases h
    · rintro ⟨before, failing, after, hsplit, hbefore, hfailing⟩
      cases before with
      | nil =>
        cases hsplit
        rw [hfailing]
        rfl
      | cons first before =>
        cases hsplit
        obtain ⟨⟨b, hhead⟩, hrest⟩ := List.forall_mem_cons.mp hbefore
        rw [hhead, ih.mpr ⟨before, failing, after, rfl, hrest, hfailing⟩]
        rfl

theorem forall_ok_of_mapM {f : α → Except StoreError β} {as : List α} {bs : List β}
    (h : as.mapM f = .ok bs) : ∀ a ∈ as, ∃ b, f a = .ok b := by
  have hall := mapM_eq_ok_iff.mp h
  clear h
  induction hall with
  | nil => exact List.forall_mem_nil _
  | cons hhead _ ih => exact List.forall_mem_cons.mpr ⟨⟨_, hhead⟩, ih⟩

theorem exists_mapM_eq_error_iff {f : α → Except StoreError β} {as : List α} :
    (∃ e, as.mapM f = .error e) ↔ ∃ a ∈ as, ∃ e, f a = .error e := by
  constructor
  · rintro ⟨e, h⟩
    obtain ⟨before, a, after, rfl, -, ha⟩ := mapM_eq_error_iff.mp h
    exact ⟨a, by simp, e, ha⟩
  · rintro ⟨a, ha, e, hfails⟩
    rcases hall : as.mapM f with e' | bs
    · exact ⟨e', rfl⟩
    · obtain ⟨b, hb⟩ := forall_ok_of_mapM hall a ha
      rw [hfails] at hb
      cases hb

/-! ## Readers of nested documents -/

/-- How a language reads documents: `top` reads the entries of a document and `below` those below a
path. An operator applies to the path that it stands below, a nested document adds a key to the
path, and any other value is a leaf at the path with its key. -/
structure ReadsNested (isOperator : String → Bool) (ofLeaf : String × Leaf → Except StoreError α)
    (top : List (String × Value) → Except StoreError (List α))
    (below : String → List (String × Value) → Except StoreError (List α)) : Prop where
  top_nil : top [] = .ok []
  top_value {key value} rest : isOperator key = false → value.IsLeaf →
    top ((key, value) :: rest) = do
      let first ← ofLeaf (key, .value value)
      let more ← top rest
      return first :: more
  top_document {key} inner rest : isOperator key = false →
    top ((key, .document inner) :: rest) = do
      let first ← below key inner
      let more ← top rest
      return first ++ more
  below_nil path : below path [] = .ok []
  below_operator {key} path value rest : isOperator key = true →
    below path ((key, value) :: rest) = do
      let first ← ofLeaf (path, .operator key value)
      let more ← below path rest
      return first :: more
  below_value {key value} path rest : isOperator key = false → value.IsLeaf →
    below path ((key, value) :: rest) = do
      let first ← ofLeaf (path ++ "." ++ key, .value value)
      let more ← below path rest
      return first :: more
  below_document {key} path inner rest : isOperator key = false →
    below path ((key, .document inner) :: rest) = do
      let first ← below (path ++ "." ++ key) inner
      let more ← below path rest
      return first ++ more

namespace ReadsNested

variable {isOperator : String → Bool} {ofLeaf : String × Leaf → Except StoreError α}
  {top : List (String × Value) → Except StoreError (List α)}
  {below : String → List (String × Value) → Except StoreError (List α)}

/-- What is below some keys is read leaf by leaf. -/
theorem below_eq_mapM (h : ReadsNested isOperator ofLeaf top below) :
    ∀ {keys : List String} (entries : List (String × Value)), keys ≠ [] →
      below (Path.dotted keys) entries = (flattenEntries isOperator keys entries).mapM ofLeaf
  | keys, [], _ => h.below_nil (Path.dotted keys)
  | keys, (key, value) :: entries, hkeys => by
    have hentries := h.below_eq_mapM entries hkeys
    cases hkey : isOperator key with
    | true =>
      rw [h.below_operator _ value entries hkey, hentries, flattenEntries_cons_operator hkey,
        List.mapM_cons]
    | false =>
      rw [flattenEntries_cons_plain hkey]
      rcases isLeaf_or_document value with hleaf | ⟨inner, rfl⟩
      · rw [h.below_value _ entries hkey hleaf, hentries, flatten_of_isLeaf hleaf,
          List.singleton_append, List.mapM_cons, Path.dotted_concat hkeys]
      · have hinner := h.below_eq_mapM inner (List.append_ne_nil_of_right_ne_nil keys
          (List.cons_ne_nil key []))
        rw [h.below_document _ inner entries hkey, hentries, ← Path.dotted_concat hkeys, hinner,
          flatten, List.mapM_append]

/-- **A document is read leaf by leaf.** -/
theorem top_eq_mapM (h : ReadsNested isOperator ofLeaf top below) {doc : Document}
    (hplain : doc.PlainTop isOperator) : top doc = (doc.flatten isOperator).mapM ofLeaf := by
  rw [Document.flatten]
  induction doc with
  | nil => exact h.top_nil
  | cons entry doc ih =>
    obtain ⟨key, value⟩ := entry
    obtain ⟨hkey, hrest⟩ := List.forall_mem_cons.mp hplain
    rw [flattenEntries_cons_plain hkey, List.nil_append]
    rcases isLeaf_or_document value with hleaf | ⟨inner, rfl⟩
    · rw [h.top_value doc hkey hleaf, ih hrest, flatten_of_isLeaf hleaf, List.singleton_append,
        List.mapM_cons, Path.dotted_singleton]
    · have hinner := h.below_eq_mapM inner (List.cons_ne_nil key [])
      rw [Path.dotted_singleton] at hinner
      rw [h.top_document inner doc hkey, ih hrest, hinner, flatten, List.mapM_append]

end ReadsNested

/-! ## The three languages -/

namespace Leaf

variable {ω : Type}

/-- Reads a leaf of a language with operators. -/
def read (operator : String → Except StoreError ω) (ofValue : String → Value → α)
    (ofOperator : String → ω → Value → α) : String × Leaf → Except StoreError α
  | (path, .value found) => .ok (ofValue path found)
  | (path, .operator key argument) => do
    let op ← operator key
    return ofOperator path op argument

/-- Whether a leaf is an operator that is not among the named ones. -/
def UnknownOperator (ofName? : String → Option ω) : Leaf → Prop
  | .value _ => False
  | .operator key _ => ofName? (bareOperator key) = none

/-- Whether a leaf is no direction of a sort. -/
def Undirected : Leaf → Prop
  | .value found => Direction.ofValue? found = none
  | .operator _ _ => True

/-- Where operators are read by a table of names, the leaves that fail are the operators that are
not in it. -/
theorem read_fails_iff (ofName? : String → Option ω) (unknown : String → QueryFault)
    (ofValue : String → Value → α) (ofOperator : String → ω → Value → α) (leaf : String × Leaf) :
    (∃ e, read (readOperator ofName? unknown) ofValue ofOperator leaf = .error e) ↔
      leaf.2.UnknownOperator ofName? := by
  obtain ⟨path, found | ⟨key, argument⟩⟩ := leaf
  · simp [read, UnknownOperator]
  · rw [UnknownOperator]
    rcases hop : ofName? (bareOperator key) with _ | op <;>
      simp [read, readOperator, hop, bind, Except.bind, pure, Except.pure]

end Leaf

namespace Expr

/-- The clause that a leaf of a query stands for. -/
def ofLeaf : String × Leaf → Except StoreError (Expr σ) :=
  Leaf.read QueryOperator.read .equals .operator

/-- A key that is no operator is a path at the top of a query. -/
theorem parseClauses_cons_plain {key : String} (hkey : isOperatorKey key = false) (value : Value)
    (rest : List (String × Value)) :
    (parseClauses ((key, value) :: rest) : Except StoreError (List (Expr σ))) = (do
      let first ← match value with
        | .document inner => parsePath key inner
        | value => pure [Expr.equals key value]
      let more ← parseClauses rest
      return first ++ more) := by
  conv_lhs => unfold parseClauses
  split
  any_goals cases hkey
  exact (if_neg (by simp [hkey])).trans rfl

theorem readsNested : ReadsNested isOperatorKey (ofLeaf : _ → Except StoreError (Expr σ))
    parseClauses parsePath where
  top_nil := parseClauses_nil
  top_value rest hkey hleaf := by
    rw [parseClauses_cons_plain hkey]
    split
    · cases hleaf
    · rfl
  top_document inner rest hkey := parseClauses_cons_plain hkey _ rest
  below_nil path := by rw [parsePath]
  below_operator path value rest hkey := by
    conv_lhs => unfold parsePath
    rw [if_pos hkey]
    simp only [ofLeaf, Leaf.read, bind_assoc, pure_bind, List.singleton_append]
  below_value path rest hkey hleaf := by
    rw [parsePath, if_neg (by simp [hkey])]
    · rfl
    · exact hleaf.ne_document
  below_document path inner rest hkey := by rw [parsePath, if_neg (by simp [hkey])]

theorem parse_eq_mapM {doc : Document} (h : doc.PlainTop isOperatorKey) :
    (parse doc : Except StoreError (Expr σ)) =
      ((doc.flatten isOperatorKey).mapM ofLeaf).map .and := by
  rw [parse, readsNested.top_eq_mapM h]

end Expr

namespace Mutation

/-- The mutation that a leaf of an update stands for. -/
def ofLeaf : String × Leaf → Except StoreError Mutation :=
  Leaf.read UpdateOperator.read .set .operator

theorem readsNested : ReadsNested isOperatorKey ofLeaf parse parseBelow where
  top_nil := by rw [parse]
  top_value rest hkey hleaf := by
    rw [parse, if_neg (by simp [hkey])]
    · rfl
    · exact hleaf.ne_document
  top_document inner rest hkey := by rw [parse, if_neg (by simp [hkey])]
  below_nil path := by rw [parseBelow]
  below_operator path value rest hkey := by
    conv_lhs => unfold parseBelow
    rw [if_pos hkey]
    simp only [ofLeaf, Leaf.read, bind_assoc, pure_bind, List.singleton_append]
  below_value path rest hkey hleaf := by
    rw [parseBelow, if_neg (by simp [hkey])]
    · rfl
    · exact hleaf.ne_document
  below_document path inner rest hkey := by rw [parseBelow, if_neg (by simp [hkey])]

end Mutation

namespace SortKey

/-- The key that a leaf of a sort stands for. -/
def ofLeaf : String × Leaf → Except StoreError SortKey
  | (path, .value value) =>
    match Direction.ofValue? value with
    | some direction => .ok ⟨path, direction⟩
    | none => .error (.invalidQuery (.invalidDirection path value))
  | (path, .operator key argument) =>
    .error (.invalidQuery (.invalidDirection path (.document [(key, argument)])))

theorem ofLeaf_fails_iff (leaf : String × Leaf) :
    (∃ e, ofLeaf leaf = .error e) ↔ leaf.2.Undirected := by
  obtain ⟨path, value | ⟨key, argument⟩⟩ := leaf
  · rcases hdirection : Direction.ofValue? value with _ | direction <;>
      simp [ofLeaf, Leaf.Undirected, hdirection]
  · simp [ofLeaf, Leaf.Undirected]

theorem parseFrom_cons_of_isLeaf (pathPrefix key : String) {value : Value} (h : value.IsLeaf)
    (rest : List (String × Value)) :
    parseFrom pathPrefix ((key, value) :: rest) = (do
      let first ← ofLeaf (pathPrefix ++ key, .value value)
      let more ← parseFrom pathPrefix rest
      return first :: more) := by
  rw [parseFrom, ofLeaf]
  · rcases Direction.ofValue? value with _ | direction <;> rfl
  · exact h.ne_document

/-- Sorts have no operators. -/
theorem readsNested : ReadsNested (fun _ => false) ofLeaf (parseFrom "") fun path =>
    parseFrom (path ++ ".") where
  top_nil := by rw [parseFrom]
  top_value rest _ hleaf := by rw [parseFrom_cons_of_isLeaf "" _ hleaf, String.empty_append]
  top_document inner rest _ := by rw [parseFrom, String.empty_append]
  below_nil path := by rw [parseFrom]
  below_operator _ _ _ hkey := by cases hkey
  below_value path rest _ hleaf := parseFrom_cons_of_isLeaf _ _ hleaf rest
  below_document path inner rest _ := by rw [parseFrom]

end SortKey

/-! ## Documents that are read alike -/

/-- How a language reads documents with no operator at the top: `ofLeaf` is the part that a leaf
stands for, and `whole` the result that has the parts. -/
structure ReadsLeaves (isOperator : String → Bool) (ofLeaf : String × Leaf → Except StoreError α)
    (invalid : Leaf → Prop) (whole : List α → β) (read : Document → Except StoreError β) :
    Prop where
  /-- Every leaf stands for one part, in order. -/
  ok_iff : ∀ {doc : Document}, doc.PlainTop isOperator → ∀ result, read doc = .ok result ↔
    ∃ parts, List.Forall₂ (fun leaf part => ofLeaf leaf = .ok part) (doc.flatten isOperator) parts ∧
      whole parts = result
  /-- The first leaf that stands for nothing decides the error. -/
  error_iff : ∀ {doc : Document}, doc.PlainTop isOperator → ∀ e, read doc = .error e ↔
    ∃ before leaf after, doc.flatten isOperator = before ++ leaf :: after ∧
      (∀ earlier ∈ before, ∃ part, ofLeaf earlier = .ok part) ∧ ofLeaf leaf = .error e
  fails_iff : ∀ {doc : Document}, doc.PlainTop isOperator →
    ((∃ e, read doc = .error e) ↔ ∃ leaf ∈ doc.flatten isOperator, invalid leaf.2)
  /-- Nothing but the flattening is read. -/
  same : ∀ {doc other : Document}, doc.PlainTop isOperator → other.PlainTop isOperator →
    doc.flatten isOperator = other.flatten isOperator → read doc = read other
  /-- A nested document may be written with dots, wherever it stands. -/
  dots : ∀ {key : String} {inner : Document} (before after : Document),
    Document.PlainTop isOperator (before ++ (key, .document inner) :: after) →
    inner.PlainTop isOperator →
    read (before ++ (key, .document inner) :: after) =
      read (before ++ inner.map (fun entry => (key ++ "." ++ entry.1, entry.2)) ++ after)

/-- A language whose reader goes through the flattening. -/
theorem ReadsLeaves.of_eq_mapM {isOperator : String → Bool}
    {ofLeaf : String × Leaf → Except StoreError α} {invalid : Leaf → Prop} {whole : List α → β}
    {read : Document → Except StoreError β}
    (hdotted : ∀ key next, isOperator key = false → isOperator (key ++ "." ++ next) = false)
    (hinvalid : ∀ leaf, (∃ e, ofLeaf leaf = .error e) ↔ invalid leaf.2)
    (hread : ∀ {doc : Document}, doc.PlainTop isOperator →
      read doc = ((doc.flatten isOperator).mapM ofLeaf).map whole) :
    ReadsLeaves isOperator ofLeaf invalid whole read := by
  have herror : ∀ {doc : Document}, doc.PlainTop isOperator → ∀ e, read doc = .error e ↔
      (doc.flatten isOperator).mapM ofLeaf = .error e := by
    intro doc hdoc e
    rw [hread hdoc]
    rcases (doc.flatten isOperator).mapM ofLeaf with e' | parts <;> simp [Except.map]
  have hsame : ∀ {doc other : Document}, doc.PlainTop isOperator → other.PlainTop isOperator →
      doc.flatten isOperator = other.flatten isOperator → read doc = read other := by
    intro doc other hdoc hother h
    rw [hread hdoc, hread hother, h]
  refine ⟨fun {doc} hdoc result => ?_, fun hdoc e => (herror hdoc e).trans mapM_eq_error_iff,
    fun {doc} hdoc => ?_, hsame, fun {key inner} before after hplain hinner => ?_⟩
  · rw [hread hdoc]
    rcases hparts : (doc.flatten isOperator).mapM ofLeaf with e | parts
    · constructor
      · rintro ⟨⟩
      · rintro ⟨parts, hall, -⟩
        rw [mapM_eq_ok_iff.mpr hall] at hparts
        cases hparts
    · rw [Except.map, Except.ok.injEq]
      constructor
      · exact fun hresult => ⟨parts, mapM_eq_ok_iff.mp hparts, hresult⟩
      · rintro ⟨parts', hall, hresult⟩
        rw [mapM_eq_ok_iff.mpr hall] at hparts
        cases hparts
        exact hresult
  · rw [exists_congr (herror hdoc), exists_mapM_eq_error_iff]
    simp only [hinvalid]
  · obtain ⟨hbefore, hrest⟩ := List.forall_mem_append.mp hplain
    obtain ⟨hkey, hafter⟩ := List.forall_mem_cons.mp hrest
    have hlonger : Document.PlainTop isOperator
        (inner.map fun entry => (key ++ "." ++ entry.1, entry.2)) := by
      intro entry hentry
      obtain ⟨entry, -, rfl⟩ := List.mem_map.mp hentry
      exact hdotted key entry.1 hkey
    refine hsame hplain
      (List.forall_mem_append.mpr ⟨List.forall_mem_append.mpr ⟨hbefore, hlonger⟩, hafter⟩) ?_
    rw [Document.flatten, Document.flatten, List.append_assoc, flattenEntries_append,
      flattenEntries_append, flattenEntries_append, flattenEntries_cons_plain hkey,
      flatten_document hinner fun next => hdotted key next hkey]

/-- A key with a dot is an operator only if it begins as one. -/
theorem isOperatorKey_dotted (key next : String) (h : isOperatorKey key = false) :
    isOperatorKey (key ++ "." ++ next) = false := by
  rw [isOperatorKey, String.toList_append, String.toList_append]
  rw [isOperatorKey] at h
  rcases hchars : key.toList with _ | ⟨c, cs⟩
  · rfl
  · rw [hchars] at h
    exact h

/-- **Nested and dotted forms are read alike**, in queries, in updates and in sorts. -/
theorem nested_and_dotted_forms_read_alike :
    ReadsLeaves isOperatorKey Expr.ofLeaf (Leaf.UnknownOperator QueryOperator.ofName?) Expr.and
        (Expr.parse : Document → Except StoreError (Expr σ)) ∧
      ReadsLeaves isOperatorKey Mutation.ofLeaf (Leaf.UnknownOperator UpdateOperator.ofName?) id
        Mutation.parse ∧
      ReadsLeaves (fun _ => false) SortKey.ofLeaf Leaf.Undirected id SortKey.parse := by
  refine ⟨.of_eq_mapM isOperatorKey_dotted (Leaf.read_fails_iff QueryOperator.ofName? _ _ _)
      Expr.parse_eq_mapM,
    .of_eq_mapM isOperatorKey_dotted (Leaf.read_fails_iff UpdateOperator.ofName? _ _ _)
      fun hdoc => ?_,
    .of_eq_mapM (fun _ _ _ => rfl) SortKey.ofLeaf_fails_iff fun hdoc => ?_⟩
  · rw [Mutation.readsNested.top_eq_mapM hdoc, Except.map_id, id]
  · rw [SortKey.parse, SortKey.readsNested.top_eq_mapM hdoc, Except.map_id, id]

/-- Operators and longer paths side by side below one key. -/
example : Mutation.parse [("a", .document [("b", .document [("$inc", .bool true), ("c", .null)]),
    ("d", .bool false)])] = .ok [.operator "a.b" .inc (.bool true), .set "a.b.c" .null,
      .set "a.d" (.bool false)] := by
  cbv

end DocStore
