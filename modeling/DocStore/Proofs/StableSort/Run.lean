import DocStore.Proofs.StableSort.Merge
/-!
# Sorting by runs

Each run that is marked as sorted is in order, and the runs together hold the list. `collapse_runs`
and `joinAll_runs` carry this through the joining of neighbours, whatever the levels are at which
they are joined, so `mergeRuns_sorts` holds for every way of cutting a list into runs.
-/

namespace DocStore.StableSort

open Ranking

variable {τ ρ V : Type} {R : Ranking ρ V} {less : Precedes (StateM τ) ρ}

variable (R) in
/-- A run that is marked as sorted is in order. -/
def Truthful (run : Run ρ) : Prop := run.sorted = true → R.InOrder run.records

/-! ## Ordered stretches -/

variable (R) in
/-- How a record of a stretch stands to one further on: strictly after it in a descending stretch,
and not after it in an ascending one. -/
def InStretch (descending : Bool) (x y : ρ) : Prop :=
  if descending then R.Before y x else R.NotAfter x y

theorem InStretch.later {descending : Bool} {x x' y y' : ρ} (h : InStretch R descending x y)
    (hx : R.Later x x') (hy : R.Later y y') : InStretch R descending x' y' := by
  cases descending with
  | true => exact Before.later h hy hx
  | false => exact NotAfter.later h hx hy

theorem InStretch.trans {descending : Bool} {x y z : ρ} (h : InStretch R descending x y)
    (h' : InStretch R descending y z) : InStretch R descending x z := by
  cases descending with
  | true => exact Before.trans h' h
  | false => exact NotAfter.trans h h'

/-- Putting a record before a stretch whose first record follows it. -/
theorem pairwise_inStretch_cons {descending : Bool} {x y : ρ} {ys : List ρ}
    (h : InStretch R descending x y) (hys : (y :: ys).Pairwise (InStretch R descending)) :
    (x :: y :: ys).Pairwise (InStretch R descending) :=
  List.pairwise_cons.mpr ⟨List.forall_mem_cons.mpr
    ⟨h, fun _ hz => h.trans (List.rel_of_pairwise_cons hys hz)⟩, hys⟩

/-- What an extended stretch is: it begins with the record that was its last, and the list is cut
behind it. -/
structure Extended (R : Ranking ρ V) (descending : Bool) (last : ρ) (xs run rest : List ρ) :
    Prop where
  rearranges : R.Rearranges (last :: xs) (run ++ rest)
  stretch : run.Pairwise (InStretch R descending)
  first : ∃ last' tail, run = last' :: tail ∧ R.Later last last'

theorem extend_runs (hless : R.Compares less) (descending : Bool) (last : ρ) (xs : List ρ) :
    Ensures (Run.extend less descending last xs) fun (run, rest) =>
      Extended R descending last xs run rest := by
  induction xs generalizing last with
  | nil => exact .pure ⟨.refl _, List.pairwise_singleton _ last, last, [], rfl, .refl last⟩
  | cons x xs ih =>
    rw [Run.extend]
    refine .bind (hless x last) ?_
    rintro ⟨before, x', last'⟩ ⟨hx, hlast, hbefore, hnotAfter⟩
    have hread : R.Rearranges (last :: x :: xs) (last' :: x' :: xs) := .cons hlast (.head xs hx)
    dsimp only
    split
    · next heq =>
      have hstep : InStretch R descending last' x' := by
        rw [← beq_iff_eq.mp heq]
        cases before with
        | true => exact hbefore rfl
        | false => exact hnotAfter rfl
      refine .bind (ih x') ?_
      rintro ⟨run, rest⟩ ⟨hrest, hrun, x'', tail, rfl, hx'⟩
      refine .pure ⟨hread.trans (.cons (.refl last') hrest), ?_, last', _, rfl, hlast⟩
      exact pairwise_inStretch_cons (hstep.later (.refl last') hx') hrun
    · exact .pure ⟨hread, List.pairwise_singleton _ last', last', [], rfl, hlast⟩

theorem leading_runs (hless : R.Compares less) (records : List ρ) :
    Ensures (Run.leading less records) fun (descending, run, rest) =>
      R.Rearranges records (run ++ rest) ∧ run.Pairwise (InStretch R descending) := by
  match records with
  | [] => exact .pure ⟨.nil, .nil⟩
  | [x] => exact .pure ⟨.refl [x], List.pairwise_singleton _ x⟩
  | x :: y :: xs =>
    rw [Run.leading]
    refine .bind (hless y x) ?_
    rintro ⟨descending, y', x'⟩ ⟨hy, hx, hbefore, hnotAfter⟩
    have hstep : InStretch R descending x' y' := by
      cases descending with
      | true => exact hbefore rfl
      | false => exact hnotAfter rfl
    refine .bind (extend_runs hless descending y' xs) ?_
    rintro ⟨run, rest⟩ ⟨hrest, hrun, y'', tail, rfl, hy'⟩
    refine .pure ⟨?_, pairwise_inStretch_cons (hstep.later (.refl x') hy') hrun⟩
    exact .trans (.cons hx (.head xs hy)) (.cons (.refl x') hrest)

/-! ## Runs -/

variable (R) in
/-- How a run is cut off a list: it is truthful, and the list is cut behind it. -/
def Cuts (next : List ρ → StateM τ (Run ρ × List ρ)) : Prop :=
  ∀ records, Ensures (next records) fun (run, rest) =>
    Truthful R run ∧ R.Rearranges records (run.records ++ rest)

variable (R) in
/-- How neighbours are joined: the joined run is truthful if they are, and holds the records of
both. -/
def Joins (join : Run ρ → Run ρ → StateM τ (Run ρ)) : Prop :=
  ∀ a b, Truthful R a → Truthful R b → Ensures (join a b) fun joined =>
    Truthful R joined ∧ R.Rearranges (a.records ++ b.records) joined.records

theorem next_cuts (hless : R.Compares less) (good : Nat)
    {fresh : List ρ → StateM τ (Run ρ × List ρ)} (hfresh : Cuts R fresh) :
    Cuts R (Run.next less good fresh) := by
  intro records
  rw [Run.next]
  split
  · refine .bind (leading_runs hless records) ?_
    rintro ⟨descending, run, rest⟩ ⟨hrun, hstretch⟩
    dsimp only
    split
    · cases descending with
      | true =>
        have hreverse : R.Rearranges run run.reverse := .reverse hstretch
        refine .pure ⟨fun _ => ?_, hrun.trans (hreverse.append_right rest)⟩
        exact List.pairwise_reverse.mpr (hstretch.imp Before.notAfter)
      | false => exact .pure ⟨fun _ => hstretch, hrun⟩
    · exact (hfresh (run ++ rest)).mono fun cut hcut => ⟨hcut.1, hrun.trans hcut.2⟩
  · exact hfresh records

section

variable {sort : List ρ → StateM τ (List ρ)}

theorem settle_sorts (hsort : ∀ records, Ensures (sort records) (R.Sorts records)) {run : Run ρ}
    (hrun : Truthful R run) : Ensures (run.settle sort) (R.Sorts run.records) := by
  rw [Run.settle]
  split
  · next hsorted => exact .pure (.of_inOrder (hrun hsorted))
  · exact hsort run.records

theorem join_joins (hless : R.Compares less)
    (hsort : ∀ records, Ensures (sort records) (R.Sorts records)) :
    Joins R (Run.join less sort) := by
  intro a b ha hb
  rw [Run.join]
  split
  · refine .bind (settle_sorts hsort ha) fun left hleft => ?_
    refine .bind (settle_sorts hsort hb) fun right hright => ?_
    refine .bind (merge_sorts hless hleft.inOrder hright.inOrder) fun merged hmerged => ?_
    refine .pure ⟨fun _ => hmerged.inOrder, ?_⟩
    exact (hleft.rearranges.append hright.rearranges).trans hmerged.rearranges
  · exact .pure ⟨nofun, .refl _⟩

end

/-! ## The stack of runs -/

/-- The records of the runs of a stack, of which the nearest one stands last. -/
def strung : List (Run ρ × Nat) → List ρ
  | [] => []
  | (run, _) :: stack => strung stack ++ run.records

section

variable {join : Run ρ → Run ρ → StateM τ (Run ρ)}

theorem collapse_runs (hjoin : Joins R join) (depth : Nat) (stack : List (Run ρ × Nat))
    (run : Run ρ) (hstack : ∀ entry ∈ stack, Truthful R entry.1) (hrun : Truthful R run) :
    Ensures (collapse join depth stack run) fun (stack', run') =>
      (∀ entry ∈ stack', Truthful R entry.1) ∧ Truthful R run' ∧
        R.Rearranges (strung stack ++ run.records) (strung stack' ++ run'.records) ∧
        (depth = 0 → stack' = []) := by
  induction stack generalizing run with
  | nil => exact .pure ⟨hstack, hrun, .refl _, fun _ => rfl⟩
  | cons entry stack ih =>
    obtain ⟨left, d⟩ := entry
    obtain ⟨hleft, hstack⟩ := List.forall_mem_cons.mp hstack
    rw [collapse]
    split
    · refine .bind (hjoin left run hleft hrun) fun joined hjoined => ?_
      refine (ih joined hstack hjoined.1).mono fun out hout => ?_
      refine ⟨hout.1, hout.2.1, .trans ?_ hout.2.2.1, hout.2.2.2⟩
      rw [strung, List.append_assoc]
      exact hjoined.2.append_left _
    · next hdepth =>
      exact .pure ⟨List.forall_mem_cons.mpr ⟨hleft, hstack⟩, hrun, .refl _, fun hzero =>
        absurd (hzero ▸ Nat.zero_le d) hdepth⟩

/-- Joining all that is on the stack. -/
theorem collapse_zero (hjoin : Joins R join) (stack : List (Run ρ × Nat)) (run : Run ρ)
    (hstack : ∀ entry ∈ stack, Truthful R entry.1) (hrun : Truthful R run) :
    Ensures (collapse join 0 stack run) fun out =>
      Truthful R out.2 ∧ R.Rearranges (strung stack ++ run.records) out.2.records := by
  refine (collapse_runs hjoin 0 stack run hstack hrun).mono ?_
  rintro ⟨stack', run'⟩ ⟨-, hrun', hrearranges, hempty⟩
  rw [hempty rfl] at hrearranges
  exact ⟨hrun', hrearranges⟩

theorem joinAll_runs (hjoin : Joins R join) {next : List ρ → StateM τ (Run ρ × List ρ)}
    (hnext : Cuts R next) (n fuel : Nat) (stack : List (Run ρ × Nat)) (scanned : Nat) (run : Run ρ)
    (rest : List ρ) (hstack : ∀ entry ∈ stack, Truthful R entry.1) (hrun : Truthful R run) :
    Ensures (joinAll join next n fuel stack scanned run rest) fun out =>
      Truthful R out ∧ R.Rearranges (strung stack ++ run.records ++ rest) out.records := by
  induction fuel generalizing stack scanned run rest with
  | zero =>
    rw [joinAll]
    refine .bind (collapse_zero hjoin stack run hstack hrun) ?_
    rintro ⟨_, run'⟩ ⟨hrun', hjoined⟩
    refine (hjoin run' ⟨rest, false⟩ hrun' nofun).mono fun out hout => ⟨hout.1, ?_⟩
    exact (hjoined.append_right rest).trans hout.2
  | succ fuel ih =>
    cases rest with
    | nil =>
      rw [joinAll]
      refine .bind (collapse_zero hjoin stack run hstack hrun) fun out hout => .pure ?_
      rw [List.append_nil]
      exact hout
    | cons x xs =>
      rw [joinAll]
      refine .bind (hnext (x :: xs)) ?_
      rintro ⟨following, rest⟩ ⟨hfollowing, hcut⟩
      refine .bind (collapse_runs hjoin _ stack run hstack hrun) ?_
      rintro ⟨stack', run'⟩ ⟨hstack', hrun', hjoined, -⟩
      refine (ih ((run', _) :: stack') _ following rest
        (List.forall_mem_cons.mpr ⟨hrun', hstack'⟩) hfollowing).mono fun out hout => ⟨hout.1, ?_⟩
      refine .trans ?_ hout.2
      rw [strung, List.append_assoc _ following.records]
      exact hjoined.append hcut

end

/-! ## Sorting -/

/-- **Cutting a list into runs and joining them sorts it,** however the runs are cut and the ones
that are not in order are sorted. -/
theorem mergeRuns_sorts (hless : R.Compares less) {sort : List ρ → StateM τ (List ρ)}
    (hsort : ∀ records, Ensures (sort records) (R.Sorts records))
    {fresh : List ρ → StateM τ (Run ρ × List ρ)} (hfresh : Cuts R fresh) (records : List ρ) :
    Ensures (mergeRuns less sort fresh records) (R.Sorts records) := by
  rw [mergeRuns]
  dsimp only
  split
  · next hshort =>
    match records with
    | [] => exact .pure (.of_inOrder .nil)
    | [x] => exact .pure (.of_inOrder (List.pairwise_singleton _ x))
    | x :: y :: xs => simp only [List.length_cons] at hshort; omega
  · have hnext := next_cuts hless (goodSize records.length) hfresh
    refine .bind (hnext records) ?_
    rintro ⟨first, rest⟩ ⟨hfirst, hcut⟩
    refine .bind (joinAll_runs (join_joins hless hsort) hnext _ _ [] _ first rest
      (List.forall_mem_nil _) hfirst) fun run hrun => ?_
    exact (settle_sorts hsort hrun.1).mono fun out hout => (hcut.trans hrun.2).sorts hout

theorem mergeSort_sorts (hless : R.Compares less) (records : List ρ) :
    Ensures (mergeSort less records) (R.Sorts records) := by
  refine mergeRuns_sorts hless (insertionSort_sorts hless) (fun records => ?_) records
  refine .bind (insertionSort_sorts hless (records.take smallSize)) fun sorted hsorted => ?_
  refine .pure ⟨fun _ => hsorted.inOrder, ?_⟩
  have hparts := hsorted.rearranges.append_right (records.drop smallSize)
  rwa [List.take_append_drop] at hparts

end DocStore.StableSort
