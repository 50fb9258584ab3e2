import DocStore.Proofs.StableSort.Run
/-!
# Sorting by partition

The choice of the pivot only reads records, so nothing depends on it. `split_divides` is the step: a
list falls into the records on either side of the pivot, each part in its order.
`partitionSort_sorts` puts the parts together by induction on the splits that are left, and
`stableSort_sorts` is the result for the sort as a whole.
-/

namespace DocStore

namespace StableSort

open Ranking

variable {τ ρ V : Type} {R : Ranking ρ V} {less : Precedes (StateM τ) ρ}

/-! ## The pivot -/

theorem lessAt_reads (hless : R.Compares less) (i j : Nat) (records : List ρ) :
    Ensures (lessAt less i j records) fun out => R.Rearranges records out.2 := by
  rw [lessAt]
  split
  · next x y hi hj =>
    refine .bind (hless x y) ?_
    rintro ⟨before, x', y'⟩ ⟨hx, hy, -⟩
    refine .pure ?_
    by_cases heq : i = j
    · subst heq
      rw [List.set_set]
      exact .set hj hy
    · refine .trans (.set hi hx) (.set ?_ hy)
      rw [List.getElem?_set_ne heq]
      exact hj
  · exact .pure (.refl records)

theorem median_reads (hless : R.Compares less) (a b c : Nat) (records : List ρ) :
    Ensures (median less a b c records) fun out => R.Rearranges records out.2 := by
  rw [median]
  refine .bind (lessAt_reads hless a b records) ?_
  rintro ⟨ab, records₁⟩ h₁
  refine .bind (lessAt_reads hless a c records₁) ?_
  rintro ⟨ac, records₂⟩ h₂
  dsimp only
  split
  · refine .bind (lessAt_reads hless b c records₂) ?_
    rintro ⟨bc, records₃⟩ h₃
    exact .pure (h₁.trans (h₂.trans h₃))
  · exact .pure (h₁.trans h₂)

theorem medianOfStretches_reads (hless : R.Compares less) (a b c n : Nat) (records : List ρ) :
    Ensures (medianOfStretches less a b c n records) fun out => R.Rearranges records out.2 := by
  induction a, b, c, n, records using medianOfStretches.induct with
  | case1 a b c n records hn k iha ihb ihc =>
    rw [medianOfStretches, if_pos hn]
    refine .bind iha ?_
    rintro ⟨a', records₁⟩ h₁
    refine .bind (ihb records₁) ?_
    rintro ⟨b', records₂⟩ h₂
    refine .bind (ihc records₂) ?_
    rintro ⟨c', records₃⟩ h₃
    exact (median_reads hless a' b' c' records₃).mono fun out hout =>
      h₁.trans (h₂.trans (h₃.trans hout))
  | case2 a b c n records hn =>
    rw [medianOfStretches, if_neg hn]
    exact median_reads hless a b c records

theorem pivotPlace_reads (hless : R.Compares less) (records : List ρ) :
    Ensures (pivotPlace less records) fun out => R.Rearranges records out.2 :=
  medianOfStretches_reads hless _ _ _ _ records

/-! ## Splitting -/

variable (R) in
/-- Two relations to a pivot that part the records: reading does not undo them, and what has the
first stands before what has the second. -/
structure Parts (yes no : ρ → ρ → Prop) : Prop where
  yes_later {x x' p p' : ρ} : yes x p → R.Later x x' → R.Later p p' → yes x' p'
  no_later {x x' p p' : ρ} : no x p → R.Later x x' → R.Later p p' → no x' p'
  before {x y p : ρ} : yes x p → no y p → R.Before x y

/-- The records before a pivot and the others. -/
theorem parts_before : Parts R R.Before fun x p => R.NotAfter p x :=
  ⟨Before.later, fun h hx hp => h.later hp hx, Before.trans_notAfter⟩

/-- The records after a pivot and the others. -/
theorem parts_notAfter : Parts R R.NotAfter fun x p => R.Before p x :=
  ⟨NotAfter.later, fun h hx hp => h.later hp hx, NotAfter.trans_before⟩

theorem notAfter_decides (hless : R.Compares less) :
    R.Decides (notAfter less) R.NotAfter fun x p => R.Before p x := by
  intro x p
  refine .bind (hless p x) ?_
  rintro ⟨after, p', x'⟩ ⟨hp, hx, hafter, hnotAfter⟩
  refine .pure ⟨hx, hp, fun h => hnotAfter ?_, fun h => hafter ?_⟩
  · simpa using h
  · simpa using h

/-- What a split is: the parts hold the records of the list, each those on its side of the pivot. -/
structure Divided (R : Ranking ρ V) (yes no : ρ → ρ → Prop) (pivot : ρ) (records : List ρ)
    (passed failed : List ρ) (pivot' : ρ) : Prop where
  rearranges : R.Rearranges records (passed ++ failed)
  later : R.Later pivot pivot'
  passed : ∀ x ∈ passed, yes x pivot'
  failed : ∀ x ∈ failed, no x pivot'

theorem split_divides {yes no : ρ → ρ → Prop} (hparts : Parts R yes no)
    {test : Precedes (StateM τ) ρ} (htest : R.Decides test yes no) (pivot : ρ) (records : List ρ) :
    Ensures (split test pivot records) fun (passed, failed, pivot') =>
      Divided R yes no pivot records passed failed pivot' := by
  induction records generalizing pivot with
  | nil => exact .pure ⟨.nil, .refl pivot, List.forall_mem_nil _, List.forall_mem_nil _⟩
  | cons x xs ih =>
    rw [split]
    refine .bind (htest x pivot) ?_
    rintro ⟨passes, x', pivot'⟩ ⟨hx, hpivot, hyes, hno⟩
    refine .bind (ih pivot') ?_
    rintro ⟨passed, failed, pivot''⟩ ⟨hrest, hlater, hpassed, hfailed⟩
    have hread : R.Rearranges (x :: xs) (x' :: (passed ++ failed)) := .cons hx hrest
    cases passes with
    | true =>
      have hx' := hparts.yes_later (hyes rfl) (.refl x') hlater
      exact .pure ⟨hread, hpivot.trans hlater, List.forall_mem_cons.mpr ⟨hx', hpassed⟩, hfailed⟩
    | false =>
      have hx' := hparts.no_later (hno rfl) (.refl x') hlater
      have hmove : R.Rearranges (x' :: (passed ++ failed)) (passed ++ x' :: failed) := by
        rw [← List.cons_append, List.append_cons]
        exact .append_right failed (.move_back fun y hy => hparts.before (hpassed y hy) hx')
      exact .pure ⟨hread.trans hmove, hpivot.trans hlater, hpassed,
        List.forall_mem_cons.mpr ⟨hx', hfailed⟩⟩

/-! ## Both sides of the pivot -/

section

variable {pivot pivot₁ pivot₂ : ρ} {front back passed₁ passed₂ failed₁ failed₂ : List ρ}

/-- The records on both sides of the pivot that stand before it are brought together in front of
it. -/
theorem Divided.bring_before
    (h₁ : Divided R R.Before (fun x p => R.NotAfter p x) pivot front passed₁ failed₁ pivot₁)
    (h₂ : Divided R R.Before (fun x p => R.NotAfter p x) pivot₁ back passed₂ failed₂ pivot₂) :
    R.Rearranges (front ++ pivot :: back) (passed₁ ++ passed₂ ++ (failed₁ ++ pivot₂ :: failed₂)) ∧
      ∀ x ∈ passed₁ ++ passed₂, ∀ y ∈ failed₁ ++ pivot₂ :: failed₂, R.NotAfter x y := by
  have hpassed : ∀ x ∈ passed₁ ++ passed₂, R.Before x pivot₂ := List.forall_mem_append.mpr
    ⟨fun x hx => (h₁.passed x hx).later (.refl x) h₂.later, h₂.passed⟩
  have hfailed (y : ρ) (hy : y ∈ failed₁) : R.NotAfter pivot₂ y :=
    (h₁.failed y hy).later h₂.later (.refl y)
  refine ⟨?_, fun x hx => List.forall_mem_append.mpr
    ⟨fun y hy => ((hpassed x hx).trans_notAfter (hfailed y hy)).notAfter, List.forall_mem_cons.mpr
      ⟨(hpassed x hx).notAfter, fun y hy =>
        ((hpassed x hx).trans_notAfter (h₂.failed y hy)).notAfter⟩⟩⟩
  have hread : R.Rearranges (front ++ pivot :: back)
      (passed₁ ++ ((failed₁ ++ [pivot₂]) ++ passed₂) ++ failed₂) := by
    have hback := Rearranges.cons (h₁.later.trans h₂.later) h₂.rearranges
    simpa only [List.append_assoc, List.cons_append, List.nil_append] using
      h₁.rearranges.append hback
  have hmove : R.Rearranges (failed₁ ++ [pivot₂] ++ passed₂)
      (passed₂ ++ (failed₁ ++ [pivot₂])) := by
    refine .exchange (List.forall_mem_append.mpr ⟨fun y hy x hx => ?_, List.forall_mem_singleton.mpr
      h₂.passed⟩)
    exact (h₂.passed x hx).trans_notAfter (hfailed y hy)
  have hall := hread.trans ((hmove.append_left passed₁).append_right failed₂)
  simpa only [List.append_assoc, List.cons_append, List.nil_append] using hall

/-- The records on both sides of the pivot that stand after it are brought together behind it. -/
theorem Divided.bring_after
    (h₁ : Divided R R.NotAfter (fun x p => R.Before p x) pivot front passed₁ failed₁ pivot₁)
    (h₂ : Divided R R.NotAfter (fun x p => R.Before p x) pivot₁ back passed₂ failed₂ pivot₂) :
    R.Rearranges (front ++ pivot :: back) (passed₁ ++ pivot₂ :: passed₂ ++ (failed₁ ++ failed₂)) ∧
      ∀ x ∈ passed₁ ++ pivot₂ :: passed₂, ∀ y ∈ failed₁ ++ failed₂, R.NotAfter x y := by
  have hfailed : ∀ y ∈ failed₁ ++ failed₂, R.Before pivot₂ y := List.forall_mem_append.mpr
    ⟨fun y hy => (h₁.failed y hy).later h₂.later (.refl y), h₂.failed⟩
  have hpassed (x : ρ) (hx : x ∈ passed₁) : R.NotAfter x pivot₂ :=
    (h₁.passed x hx).later (.refl x) h₂.later
  refine ⟨?_, List.forall_mem_append.mpr
    ⟨fun x hx y hy => (hpassed x hx).trans (hfailed y hy).notAfter, List.forall_mem_cons.mpr
      ⟨fun y hy => (hfailed y hy).notAfter, fun x hx y hy =>
        (h₂.passed x hx).trans (hfailed y hy).notAfter⟩⟩⟩
  have hread : R.Rearranges (front ++ pivot :: back)
      (passed₁ ++ (failed₁ ++ (pivot₂ :: passed₂)) ++ failed₂) := by
    have hback := Rearranges.cons (h₁.later.trans h₂.later) h₂.rearranges
    simpa only [List.append_assoc, List.cons_append, List.nil_append] using
      h₁.rearranges.append hback
  have hmove : R.Rearranges (failed₁ ++ pivot₂ :: passed₂) (pivot₂ :: passed₂ ++ failed₁) := by
    refine .exchange fun y hy => List.forall_mem_cons.mpr ⟨?_, fun x hx => ?_⟩
    · exact hfailed y (List.mem_append_left _ hy)
    · exact (h₂.passed x hx).trans_before (hfailed y (List.mem_append_left _ hy))
  have hall := hread.trans ((hmove.append_left passed₁).append_right failed₂)
  simpa only [List.append_assoc, List.cons_append, List.nil_append] using hall

/-- Records that do not stand after the pivot, taken from such that do not stand before it, tie with
it and with each other. -/
theorem Divided.inOrder_ties
    (h₁ : Divided R R.NotAfter (fun x p => R.Before p x) pivot front passed₁ failed₁ pivot₁)
    (h₂ : Divided R R.NotAfter (fun x p => R.Before p x) pivot₁ back passed₂ failed₂ pivot₂)
    (hfront : ∀ x ∈ front, R.NotAfter pivot x) (hback : ∀ x ∈ back, R.NotAfter pivot x) :
    R.InOrder (passed₁ ++ pivot₂ :: passed₂) := by
  have hpassed₁ (x : ρ) (hx : x ∈ passed₁) : R.NotAfter x pivot₂ :=
    (h₁.passed x hx).later (.refl x) h₂.later
  have hlater : R.Later pivot pivot₂ := h₁.later.trans h₂.later
  have hpivot₁ (x : ρ) (hx : x ∈ passed₁) : R.NotAfter pivot₂ x :=
    (h₁.rearranges.forall_notAfter hfront x (List.mem_append_left _ hx)).later hlater (.refl x)
  have hpivot₂ (x : ρ) (hx : x ∈ passed₂) : R.NotAfter pivot₂ x :=
    (h₂.rearranges.forall_notAfter hback x (List.mem_append_left _ hx)).later hlater (.refl x)
  have hties₁ : R.InOrder passed₁ := List.pairwise_of_forall_mem_list fun x hx y hy =>
    (hpassed₁ x hx).trans (hpivot₁ y hy)
  have hties₂ : R.InOrder passed₂ := List.pairwise_of_forall_mem_list fun x hx y hy =>
    (h₂.passed x hx).trans (hpivot₂ y hy)
  refine inOrder_append.mpr ⟨hties₁, List.pairwise_cons.mpr ⟨hpivot₂, hties₂⟩, fun x hx => ?_⟩
  exact List.forall_mem_cons.mpr
    ⟨hpassed₁ x hx, fun y hy => (hpassed₁ x hx).trans (hpivot₂ y hy)⟩

end

/-! ## Sorting -/

theorem partitionSort_sorts (hless : R.Compares less) (limit : Nat) (records : List ρ) :
    Ensures (partitionSort less limit records) (R.Sorts records) := by
  induction limit generalizing records with
  | zero =>
    rw [partitionSort.eq_def]
    dsimp only
    split
    · exact insertionSort_sorts hless records
    · exact mergeSort_sorts hless records
  | succ limit ih =>
    rw [partitionSort.eq_def]
    dsimp only
    split
    · exact insertionSort_sorts hless records
    refine .bind (pivotPlace_reads hless records) ?_
    rintro ⟨place, records'⟩ hpivot
    dsimp only
    split
    · exact (mergeSort_sorts hless records').mono fun out hout => hpivot.sorts hout
    next pivot after hafter =>
    refine .bind (split_divides parts_before hless pivot (records'.take place)) ?_
    rintro ⟨below₁, above₁, pivot₁⟩ h₁
    refine .bind (split_divides parts_before hless pivot₁ after) ?_
    rintro ⟨below₂, above₂, pivot₂⟩ h₂
    obtain ⟨hparts, hbefore⟩ := h₁.bring_before h₂
    rw [← hafter, List.take_append_drop] at hparts
    dsimp only
    split
    · next hempty =>
      have hnotAfter := notAfter_decides hless
      refine .bind (split_divides parts_notAfter hnotAfter pivot₂ above₁) ?_
      rintro ⟨ties₁, greater₁, pivot₃⟩ h₃
      refine .bind (split_divides parts_notAfter hnotAfter pivot₃ above₂) ?_
      rintro ⟨ties₂, greater₂, pivot₄⟩ h₄
      obtain ⟨hties, hafter⟩ := h₃.bring_after h₄
      refine .bind (ih (greater₁ ++ greater₂)) fun greater hgreater => .pure ?_
      rw [Bool.and_eq_true, List.isEmpty_iff, List.isEmpty_iff] at hempty
      rw [hempty.1, hempty.2] at hparts
      have hordered := h₃.inOrder_ties h₄
        (fun x hx => (h₁.failed x hx).later h₂.later (.refl x)) h₂.failed
      exact ((hpivot.trans hparts).trans hties).sorts
        ((Sorts.of_inOrder hordered).append hgreater hafter)
    · refine .bind (ih (above₁ ++ pivot₂ :: above₂)) fun right hright => ?_
      refine .bind (ih (below₁ ++ below₂)) fun left hleft => .pure ?_
      exact (hpivot.trans hparts).sorts (hleft.append hright hbefore)

end StableSort

open StableSort in
/-- **The stable sort sorts every list,** of whatever length, and in whatever state its comparisons
are made. -/
theorem stableSort_sorts {τ ρ V : Type} {R : Ranking ρ V} {less : Precedes (StateM τ) ρ}
    (hless : R.Compares less) (records : List ρ) :
    Ensures (stableSort less records) (R.Sorts records) := by
  rw [stableSort]
  dsimp only
  split
  · exact insertionSort_sorts hless records
  split
  · exact mergeSort_sorts hless records
  · refine mergeRuns_sorts hless (fun part => partitionSort_sorts hless _ part) (fun part => ?_)
      records
    refine .pure ⟨nofun, ?_⟩
    rw [List.take_append_drop]
    exact .refl part

end DocStore
