import DocStore.Proofs.Query.Purity
import DocStore.Proofs.Store.Sort
/-!
# Pure getters

`Schema.Computes` says which values a record with pure getters has: plain paths hold what is stored,
and each getter finds its value from the data, from plain paths and from virtual paths that stand
below its own. A live document of this data has these values, however its paths are read, as long as
it remembers nothing else (`LiveDocument.fixed_read`); such a document is sound, and it stays so
when it is read.
-/

namespace DocStore

variable {σ : Type}

/-- The values of a record with pure getters, none of which needs itself. -/
structure Schema.Computes (schema : Schema σ) (data : Document) (values : String → Option Value) :
    Prop where
  plain : ∀ path, schema.getter? path = none → values path = data.get? path
  virtual : ∃ rank : String → Nat, ∀ path getter, schema.getter? path = some getter →
    Script.Yields (fun below => schema.getter? below = none ∨ rank below < rank path)
      values data getter
      (values path)

namespace Schema

variable {schema : Schema σ}

theorem mem_virtualPaths {path : String} {getter : Getter σ}
    (h : schema.getter? path = some getter) :
    path ∈ schema.virtualPaths := by
  obtain ⟨field, hfield, hgetter⟩ := Option.bind_eq_some_iff.mp h
  exact List.mem_map_of_mem (List.mem_filter.mpr
    ⟨OrderedMap.mem_of_get? hfield, Option.isSome_iff_exists.mpr ⟨getter, hgetter⟩⟩)

/-- How many getters may be under way when a path is read. -/
def height (schema : Schema σ) (rank : String → Nat) (path : String) : Nat :=
  (schema.virtualPaths.filter fun below => rank below ≤ rank path).length

theorem height_lt {rank : String → Nat} {below path : String} (hrank : rank below < rank path)
    (hpath : path ∈ schema.virtualPaths) : schema.height rank below < schema.height rank path := by
  have hsub : (schema.virtualPaths.filter fun q => rank q ≤ rank below).Sublist
      (schema.virtualPaths.filter fun q => rank q ≤ rank path) := by
    refine List.monotone_filter_right _ fun q hq => ?_
    have hle : rank q ≤ rank below := of_decide_eq_true hq
    exact decide_eq_true (Nat.le_of_lt (Nat.lt_of_le_of_lt hle hrank))
  refine Nat.lt_of_le_of_ne hsub.length_le fun hlength => ?_
  have hmem : path ∈ schema.virtualPaths.filter fun q => rank q ≤ rank below := by
    rw [hsub.eq_of_length hlength]
    exact List.mem_filter.mpr ⟨hpath, decide_eq_true (Nat.le_refl _)⟩
  exact Nat.not_le_of_lt hrank (of_decide_eq_true (List.mem_filter.mp hmem).2)

theorem height_pos {rank : String → Nat} {path : String} (hpath : path ∈ schema.virtualPaths) :
    0 < schema.height rank path :=
  List.length_pos_of_mem (List.mem_filter.mpr ⟨hpath, decide_eq_true (Nat.le_refl _)⟩)

theorem height_le (schema : Schema σ) (rank : String → Nat) (path : String) :
    schema.height rank path ≤ schema.virtualPaths.length :=
  List.length_filter_le _ _

end Schema

namespace LiveDocument

/-- The values of a document with pure getters. -/
def Computes (doc : LiveDocument σ) (values : String → Option Value) : Prop :=
  doc.model.schema.Computes doc.data values

/-- A document remembers no other values than these. -/
def Remembers (doc : LiveDocument σ) (values : String → Option Value) : Prop :=
  ∀ path found, doc.known? path = some found → values path = found

section

variable {copy : LiveDocument σ} {values : String → Option Value}

theorem Admits.model_eq {doc : LiveDocument σ} (h : doc.Admits (copy, values)) :
    doc.model = copy.model := by
  have hcopy : copy = doc.copy := h.1
  rw [hcopy]
  rfl

theorem Admits.data_eq {doc : LiveDocument σ} (h : doc.Admits (copy, values)) :
    doc.data = copy.data := by
  have hcopy : copy = doc.copy := h.1
  rw [hcopy]
  rfl

/-- A value that is remembered as it is admitted changes nothing. -/
theorem Admits.remember {doc : LiveDocument σ} (h : doc.Admits (copy, values)) {path : String}
    {getter : Getter σ} (hgetter : doc.model.schema.getter? path = some getter) :
    (doc.remember path (values path)).Admits (copy, values) := by
  refine ⟨h.1, fun path' found hfound => ?_⟩
  by_cases hpath : path' = path
  · subst hpath
    rw [known?_remember hgetter] at hfound
    exact Option.some.inj hfound
  · rw [known?_remember_of_ne doc hpath] at hfound
    exact h.2 path' found hfound

/-- Reading a path finds its value, if there is room for the getters that it needs. -/
theorem fixed_readWithin {rank : String → Nat}
    (hvirtual : ∀ path getter, copy.model.schema.getter? path = some getter →
      Script.Yields (fun below => copy.model.schema.getter? below = none ∨ rank below < rank path)
        values copy.data getter (values path))
    (depth : Nat) (path : String)
    (hdepth : copy.model.schema.getter? path = none ∨ copy.model.schema.height rank path ≤ depth) :
    Expr.Fixed (fun state : LiveDocument σ × σ => state.1.Admits (copy, values))
      (readWithin depth path) (values path) := by
  induction depth generalizing path with
  | zero =>
    intro state hstate
    cases hknown : state.1.known? path with
    | some found =>
      rw [readWithin_of_known hknown]
      exact ⟨(hstate.2 path found hknown).symm, hstate⟩
    | none =>
      obtain ⟨getter, hgetter⟩ := exists_getter_of_unknown hknown
      rw [hstate.model_eq] at hgetter
      have hroom := hdepth.resolve_left (by rw [hgetter]; exact Option.some_ne_none getter)
      exact absurd (Schema.height_pos (Schema.mem_virtualPaths hgetter)) (Nat.not_lt.mpr hroom)
  | succ depth ih =>
    intro state hstate
    cases hknown : state.1.known? path with
    | some found =>
      rw [readWithin_of_known hknown]
      exact ⟨(hstate.2 path found hknown).symm, hstate⟩
    | none =>
      obtain ⟨getter, hgetter, found, doc, host, hrun, hread⟩ := readWithin_of_unknown hknown depth
      have hcopyGetter : copy.model.schema.getter? path = some getter := by
        rw [← hstate.model_eq]
        exact hgetter
      have hroom := hdepth.resolve_left (by rw [hcopyGetter]; exact Option.some_ne_none getter)
      -- The getter needs only paths that stand below its own, for which there is room without it.
      have hbelow (below : String)
          (hmay : copy.model.schema.getter? below = none ∨ rank below < rank path) :
          Expr.Fixed (fun state : LiveDocument σ × σ => state.1.Admits (copy, values))
            (readWithin depth below) (values below) := by
        refine ih below (hmay.imp_right fun hrank => ?_)
        exact Nat.le_of_lt_succ (Nat.lt_of_lt_of_le
          (Schema.height_lt hrank (Schema.mem_virtualPaths hcopyGetter)) hroom)
      have hfixed : Expr.Fixed (fun state : LiveDocument σ × σ => state.1.Admits (copy, values))
          (Script.run (accessBy (readWithin depth) fun change _ => Empty.elim change) getter)
          (values path) :=
        (hvirtual path getter hcopyGetter).fixed hbelow (fun t ht => ht.data_eq) fun t host ht => ht
      obtain ⟨hvalue, hdoc⟩ := hfixed state hstate
      rw [hrun] at hvalue hdoc
      rw [hread]
      have hdocGetter : doc.model.schema.getter? path = some getter := by
        rw [hdoc.model_eq]
        exact hcopyGetter
      refine ⟨hvalue, ?_⟩
      rw [show found = values path from hvalue]
      exact hdoc.remember hdocGetter

/-- **A document with pure getters has their values, in whatever order its paths are read.** -/
theorem fixed_read (h : copy.Computes values) (path : String) :
    Expr.Fixed (fun state : LiveDocument σ × σ => state.1.Admits (copy, values)) (read path)
      (values path) := by
  obtain ⟨rank, hvirtual⟩ := h.virtual
  intro state hstate
  rw [read, hstate.model_eq]
  exact fixed_readWithin hvirtual _ path (.inr (copy.model.schema.height_le rank path)) state hstate

end

/-! ## Sound documents -/

/-- The values of a document whose getters are pure. -/
noncomputable def values (doc : LiveDocument σ) : String → Option Value :=
  Classical.epsilon doc.Computes

theorem computes_values {doc : LiveDocument σ} (h : ∃ values, doc.Computes values) :
    doc.Computes doc.values :=
  Classical.epsilon_spec h

theorem values_copy (doc : LiveDocument σ) : doc.copy.values = doc.values := rfl

/-- What a document remembers has no part in its values. -/
theorem Admits.values_eq {doc doc' : LiveDocument σ} {values : String → Option Value}
    (h : doc'.Admits (doc.copy, values)) : doc'.values = doc.values := by
  have hcopy : doc.copy = doc'.copy := h.1
  rw [← values_copy doc', ← hcopy, values_copy]

/-- The getters of the document are pure, and it remembers what they find. -/
structure Sound (doc : LiveDocument σ) : Prop where
  computes : doc.Computes doc.values
  remembers : doc.Remembers doc.values

theorem Sound.admits {doc : LiveDocument σ} (h : doc.Sound) : doc.Admits (doc.copy, doc.values) :=
  ⟨rfl, h.remembers⟩

theorem Sound.of_admits {doc doc' : LiveDocument σ} (h : doc.Sound)
    (h' : doc'.Admits (doc.copy, doc.values)) : doc'.Sound := by
  refine ⟨?_, h'.values_eq ▸ h'.2⟩
  rw [h'.values_eq, Computes, h'.model_eq, h'.data_eq]
  exact h.computes

/-- A copy remembers nothing. -/
theorem Sound.of_computes {doc : LiveDocument σ} (h : doc.Computes doc.values) :
    doc.copy.Sound where
  computes := h
  remembers path found hfound := by
    rw [known?] at hfound
    split at hfound
    · cases hfound
    · next hgetter =>
      rw [← Option.some.inj hfound]
      exact h.plain path hgetter

theorem Sound.copy {doc : LiveDocument σ} (h : doc.Sound) : doc.copy.Sound :=
  .of_computes h.computes

/-- A pure script has one result on a sound document, which stays sound. -/
theorem Sound.run {α : Type} {doc : LiveDocument σ} (h : doc.Sound) {reading : Reading σ α} {a : α}
    (hyields : Script.Yields (fun _ => True) doc.values doc.data reading a) (host : σ) :
    ∃ doc' host', LiveDocument.run reading doc host = ((a, doc'), host') ∧ doc'.copy = doc.copy ∧
      doc'.Sound := by
  have hfixed : Expr.Fixed (fun state : LiveDocument σ × σ => state.1.Admits (doc.copy, doc.values))
      (Script.run (accessBy read fun change _ => Empty.elim change) reading) a :=
    hyields.fixed (fun path _ => fixed_read h.copy.computes path) (fun t ht => ht.data_eq)
      fun t host ht => ht
  obtain ⟨hanswer, hadmits⟩ := hfixed (doc, host) h.admits
  rcases hrun : Script.run (accessBy read fun change _ => Empty.elim change) reading
      (doc, host) with
    ⟨b, doc', host'⟩
  rw [hrun] at hanswer hadmits
  refine ⟨doc', host', ?_, hadmits.1.symm, h.of_admits hadmits⟩
  rw [LiveDocument.run, hrun, ← hanswer]

/-- What a pure predicate says of a sound document. -/
noncomputable def verdict (predicate : Predicate σ) (doc : LiveDocument σ) : Bool :=
  Classical.epsilon (Script.Yields (fun _ => True) doc.values doc.data predicate)

theorem yields_verdict {predicate : Predicate σ} (h : predicate.Pure) (doc : LiveDocument σ) :
    Script.Yields (fun _ => True) doc.values doc.data predicate (doc.verdict predicate) :=
  Classical.epsilon_spec (h doc.values doc.data)

end LiveDocument

end DocStore
