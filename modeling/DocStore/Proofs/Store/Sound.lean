import DocStore.Proofs.Query.Algebra
import DocStore.Proofs.StableSort.Filter
import DocStore.Proofs.Store.Getter
/-!
# Sorting and filtering sound documents

The values of a sound document do not depend on what was read before. So sound documents are sorted
by their own values, stably (`LiveDocument.sortM_of_sound`), and a predicate that answers each of
them with its truth selects those of which it is true (`LiveDocument.select_of_sound`), whatever the
state of the host is. The documents stay sound, and they stay the same but for what they remember.
-/

namespace DocStore

variable {σ : Type}

/-! ## Sorting sound documents -/

namespace LiveDocument

/-- The documents of a list, without what they remember. -/
def copies (docs : List (LiveDocument σ)) : List (LiveDocument σ) := docs.map copy

theorem copies_copies (docs : List (LiveDocument σ)) : copies (copies docs) = copies docs := by
  rw [copies, copies, List.map_map]
  rfl

/-- A document admits what it admits; a sound one, its own values only. -/
def AdmitsOwn (doc : LiveDocument σ) (v : LiveDocument σ × (String → Option Value)) : Prop :=
  doc.Admits v ∧ (doc.Sound → v.2 = doc.values)

theorem exists_admitsOwn (doc : LiveDocument σ) : ∃ v, doc.AdmitsOwn v := by
  by_cases h : doc.Sound
  · exact ⟨(doc.copy, doc.values), h.admits, fun _ => rfl⟩
  · obtain ⟨v, hv⟩ := exists_admits doc
    exact ⟨v, hv, fun hsound => absurd hsound h⟩

/-- A sound document admits its copy and its values, and nothing else. -/
theorem Sound.admitsOwn_iff {doc : LiveDocument σ} (h : doc.Sound)
    (v : LiveDocument σ × (String → Option Value)) :
    doc.AdmitsOwn v ↔ v = (doc.copy, doc.values) := by
  constructor
  · rintro ⟨hadmits, hvalues⟩
    exact Prod.ext hadmits.1 (hvalues h)
  · rintro rfl
    exact ⟨h.admits, fun _ => rfl⟩

/-- A list of sound documents stands for one list of values. -/
theorem forall₂_admitsOwn_iff {docs : List (LiveDocument σ)} (h : ∀ doc ∈ docs, doc.Sound)
    (vs : List (LiveDocument σ × (String → Option Value))) :
    List.Forall₂ AdmitsOwn docs vs ↔ vs = (copies docs).map fun doc => (doc, doc.values) := by
  induction docs generalizing vs with
  | nil => exact List.forall₂_nil_left_iff
  | cons doc docs ih =>
    obtain ⟨hdoc, hdocs⟩ := List.forall_mem_cons.mp h
    rw [List.forall₂_cons_left_iff]
    constructor
    · rintro ⟨v, rest, hv, hrest, rfl⟩
      rw [(hdoc.admitsOwn_iff v).mp hv, (ih hdocs rest).mp hrest]
      rfl
    · rintro rfl
      exact ⟨_, _, (hdoc.admitsOwn_iff _).mpr rfl, (ih hdocs _).mpr rfl, rfl⟩

/-- Reading a path makes its value known, and leaves a sound document its values. -/
theorem get_learns_own (sort : SortOrder σ) :
    SortOrder.Learns (sort.ranking AdmitsOwn Prod.snd exists_admitsOwn) Prod.snd
      (get : String → Visit σ (Option Value)) := by
  intro path doc host
  obtain ⟨hlater, hknown⟩ := get_learns sort path doc host
  refine ⟨?_, fun v hv => hknown v hv.1⟩
  rintro v ⟨hadmits, hvalues⟩
  refine ⟨hlater v hadmits, fun hsound => ?_⟩
  have hread := (fixed_read hsound.copy.computes path (doc, host) hsound.admits).2
  rw [hvalues (hsound.of_admits hread)]
  exact Admits.values_eq hread

/-- The documents in the order of their own values. -/
noncomputable def orderOwn (sort : SortOrder σ) (a b : LiveDocument σ) : Ordering :=
  sort.order a.values b.values

instance (sort : SortOrder σ) : Std.TransCmp (orderOwn sort) :=
  transCmp_comap sort.order values

/-- **Sound documents are sorted by their own values, stably, and stay sound.** -/
theorem sortM_of_sound (sort : SortOrder σ) {docs : List (LiveDocument σ)}
    (h : ∀ doc ∈ docs, doc.Sound) (host : σ) :
    (∀ doc ∈ (sort.sortM get docs host).1, doc.Sound) ∧
      StableSort.StablySorted (orderOwn sort) (copies docs)
        (copies (sort.sortM get docs host).1) := by
  have hsorts := SortOrder.sortM_sorts sort (get_learns_own sort) docs host
  have hsound : ∀ doc ∈ (sort.sortM get docs host).1, doc.Sound := by
    intro doc hdoc
    obtain ⟨origin, horigin, hlater⟩ := hsorts.rearranges.exists_later doc hdoc
    obtain ⟨v, hv⟩ := exists_admitsOwn doc
    have hown := ((h origin horigin).admitsOwn_iff v).mp (hlater v hv)
    exact (h origin horigin).of_admits (hown ▸ hv.1)
  refine ⟨hsound, ?_⟩
  obtain ⟨vs, hvs, hstable⟩ := hsorts.stablySorted ((forall₂_admitsOwn_iff hsound _).mpr rfl)
  rw [(forall₂_admitsOwn_iff h vs).mp hvs] at hstable
  exact StableSort.StablySorted.of_map (fun doc : LiveDocument σ => (doc, doc.values))
    (fun a b hab => congrArg Prod.fst hab) hstable

/-! ## Filtering sound documents -/

/-- The question finds of every sound document whether this is true of it, and leaves it sound. -/
def Answers (q : Question σ) (truth : LiveDocument σ → Bool) : Prop :=
  ∀ doc : LiveDocument σ, doc.Sound → ∀ host, ∃ doc' host',
    q _ liveReading (doc, host) = (truth doc, doc', host') ∧ doc'.copy = doc.copy ∧ doc'.Sound

/-- A predicate is run with its question. -/
theorem run_eq_iff {predicate : Predicate σ} {doc doc' : LiveDocument σ} {host host' : σ}
    {holds : Bool} :
    LiveDocument.run predicate doc host = ((holds, doc'), host') ↔
      Question.ofPredicate predicate _ liveReading (doc, host) = (holds, doc', host') := by
  have hquestion : Question.ofPredicate predicate _ liveReading (doc, host) =
      Script.run (accessBy read fun change _ => Empty.elim change) predicate (doc, host) := rfl
  rw [LiveDocument.run, hquestion]
  constructor
  · intro h
    cases h
    rfl
  · intro h
    rw [h]

theorem answers_verdict {predicate : Predicate σ} (h : predicate.Pure) :
    Answers (.ofPredicate predicate) (verdict predicate) := by
  intro doc hdoc host
  obtain ⟨doc', host', hrun, hsame⟩ := hdoc.run (yields_verdict h doc) host
  exact ⟨doc', host', run_eq_iff.mp hrun, hsame⟩

theorem verdict_copy (predicate : Predicate σ) (doc : LiveDocument σ) :
    doc.copy.verdict predicate = doc.verdict predicate := rfl

/-- A conjunction is true of the documents of which both questions are. -/
theorem Answers.and {q r : Question σ} {truth truth' : LiveDocument σ → Bool} (hq : Answers q truth)
    (hr : Answers r truth') (hcopy : ∀ doc : LiveDocument σ, truth' doc.copy = truth' doc) :
    Answers (q.and r) fun doc => truth doc && truth' doc := by
  intro doc hdoc host
  obtain ⟨doc₁, host₁, hfirst, hcopy₁, hdoc₁⟩ := hq doc hdoc host
  have hand : q.and r _ liveReading (doc, host) =
      (if truth doc then r _ liveReading else pure false : StateM (LiveDocument σ × σ) Bool)
        (doc₁, host₁) := by
    show (if (q _ liveReading (doc, host)).1 then r _ liveReading else pure false :
      StateM (LiveDocument σ × σ) Bool) (q _ liveReading (doc, host)).2 = _
    rw [hfirst]
  cases htruth : truth doc with
  | false =>
    refine ⟨doc₁, host₁, ?_, hcopy₁, hdoc₁⟩
    rw [hand, htruth]
    simp only [htruth, Bool.false_and]
    rfl
  | true =>
    obtain ⟨doc₂, host₂, hsecond, hcopy₂, hdoc₂⟩ := hr doc₁ hdoc₁ host₁
    -- The second question meets a document that remembers more, which is the same to it.
    have htruth' : truth' doc₁ = truth' doc := by rw [← hcopy doc₁, hcopy₁, hcopy]
    refine ⟨doc₂, host₂, ?_, hcopy₂.trans hcopy₁, hdoc₂⟩
    rw [hand, htruth, if_pos rfl, hsecond, htruth']
    simp only [htruth, Bool.true_and]

/-- All documents are tested, one after the other. -/
theorem select_cons {test : Visit σ Bool} {doc doc' : LiveDocument σ} {holds : Bool}
    {host host' : σ} (h : test doc host = ((holds, doc'), host')) (docs : List (LiveDocument σ)) :
    (select test 0 none (doc :: docs) host).1.1 =
      if holds then doc' :: (select test 0 none docs host').1.1
      else (select test 0 none docs host').1.1 := by
  rw [select]
  · simp only [bind, StateT.bind, h]
    cases holds with
    | true => rfl
    | false => rfl
  · exact nofun

/-- The sound documents of which a predicate is true are selected, in their order. -/
theorem select_of_sound {predicate : Predicate σ} {truth : LiveDocument σ → Bool}
    (hanswers : Answers (.ofPredicate predicate) truth) {docs : List (LiveDocument σ)}
    (h : ∀ doc ∈ docs, doc.Sound) (host : σ) :
    copies (select (LiveDocument.run predicate) 0 none docs host).1.1 =
      copies (docs.filter truth) := by
  induction docs generalizing host with
  | nil => rfl
  | cons doc docs ih =>
    obtain ⟨hdoc, hdocs⟩ := List.forall_mem_cons.mp h
    obtain ⟨doc', host', hanswer, hcopy, -⟩ := hanswers doc hdoc host
    have hrest := ih hdocs host'
    rw [copies] at hrest
    rw [select_cons (run_eq_iff.mpr hanswer), List.filter_cons]
    cases truth doc with
    | true =>
      rw [if_pos rfl, if_pos rfl, copies, List.map_cons, hrest, hcopy]
      rfl
    | false => rw [if_neg Bool.false_ne_true, if_neg Bool.false_ne_true, copies, hrest]

theorem copies_filter {truth : LiveDocument σ → Bool}
    (h : ∀ doc : LiveDocument σ, truth doc.copy = truth doc) (docs : List (LiveDocument σ)) :
    copies (docs.filter truth) = (copies docs).filter truth := by
  rw [copies, copies, List.filter_map, show truth ∘ copy = truth from funext h]

theorem sound_of_mem_copies {docs : List (LiveDocument σ)} (h : ∀ doc ∈ docs, doc.Sound) :
    ∀ doc ∈ copies docs, doc.Sound := by
  intro doc hdoc
  obtain ⟨origin, horigin, rfl⟩ := List.mem_map.mp hdoc
  exact (h origin horigin).copy

end LiveDocument

end DocStore
