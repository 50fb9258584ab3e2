import DocStore.Proofs.StableSort.Ranking
/-!
# Insertion and merging sort

Insertion and both ways of merging turn ordered lists into one ordered list, and each of them moves
a record only past records that are certain to belong on its other side. The lists that are worked
on from the back stand in reverse, so what is said of them is said of their reverses.
-/

namespace DocStore.StableSort

open Ranking

variable {τ ρ V : Type} {R : Ranking ρ V} {less : Precedes (StateM τ) ρ}

/-! ## Insertion -/

theorem insert_sorts (hless : R.Compares less) (x : ρ) (ys : List ρ) (hys : R.InOrder ys.reverse) :
    Ensures (insert less x ys) fun out => R.Sorts (ys.reverse ++ [x]) out.reverse := by
  induction ys generalizing x with
  | nil => exact .pure (.of_inOrder (List.pairwise_singleton _ x))
  | cons y ys ih =>
    rw [List.reverse_cons] at hys ⊢
    obtain ⟨hys, -, hle⟩ := inOrder_append.mp hys
    rw [insert]
    refine .bind (hless x y) ?_
    rintro ⟨before, x', y'⟩ ⟨hx, hy, hbefore, hnotAfter⟩
    have hread : R.Rearranges (ys.reverse ++ [y] ++ [x]) (ys.reverse ++ [y', x']) := by
      rw [List.append_assoc]
      exact .append_left _ (.cons hy (.head [] hx))
    have hle' (z : ρ) (hz : z ∈ ys.reverse) : R.NotAfter z y' :=
      (hle z hz y List.mem_cons_self).later (.refl z) hy
    cases before with
    | true =>
      refine .bind (ih x' hys) fun rest hrest => .pure ?_
      refine (hread.trans (.append_left _ (.swap [] (hbefore rfl)))).sorts ?_
      rw [List.append_cons, List.reverse_cons]
      exact hrest.concat (List.forall_mem_append.mpr
        ⟨hle', List.forall_mem_singleton.mpr (hbefore rfl).notAfter⟩)
    | false =>
      refine .pure (hread.sorts ?_)
      rw [List.reverse_cons, List.reverse_cons, List.append_cons]
      have hsorted : R.Sorts (ys.reverse ++ [y']) (ys.reverse ++ [y']) :=
        .concat (.of_inOrder hys) hle'
      exact hsorted.concat (List.forall_mem_append.mpr
        ⟨fun z hz => (hle' z hz).trans (hnotAfter rfl),
          List.forall_mem_singleton.mpr (hnotAfter rfl)⟩)

/-- Inserting the rest of a list into the part that is sorted. -/
theorem insertAll_sorts (hless : R.Compares less) (records sorted : List ρ)
    (hsorted : R.InOrder sorted.reverse) :
    Ensures (records.foldlM (fun sorted x => insert less x sorted) sorted) fun out =>
      R.Sorts (sorted.reverse ++ records) out.reverse := by
  induction records generalizing sorted with
  | nil =>
    rw [List.append_nil]
    exact .pure (.of_inOrder hsorted)
  | cons x records ih =>
    rw [List.foldlM_cons]
    refine .bind (insert_sorts hless x sorted hsorted) fun more hmore => ?_
    refine (ih more hmore.inOrder).mono fun out hout => ?_
    rw [List.append_cons]
    exact (hmore.rearranges.append_right records).sorts hout

theorem insertionSort_sorts (hless : R.Compares less) (records : List ρ) :
    Ensures (insertionSort less records) (R.Sorts records) :=
  .bind (insertAll_sorts hless records [] .nil) fun _ hout => .pure hout

/-! ## Merging -/

theorem mergeFront_sorts (hless : R.Compares less) (left right : List ρ) (hleft : R.InOrder left)
    (hright : R.InOrder right) :
    Ensures (mergeFront less left right) (R.Sorts (left ++ right)) := by
  induction left, right using mergeFront.induct with
  | case1 right =>
    rw [mergeFront]
    exact .pure (.of_inOrder hright)
  | case2 left hne =>
    rw [mergeFront.eq_2 _ _ hne, List.append_nil]
    exact .pure (.of_inOrder hleft)
  | case3 x left y right ihright ihleft =>
    rw [mergeFront]
    refine .bind (hless y x) ?_
    rintro ⟨before, y', x'⟩ ⟨hy, hx, hbefore, hnotAfter⟩
    have hread : R.Rearranges (x :: left ++ y :: right) (x' :: left ++ y' :: right) :=
      .cons hx (.append_left left (.head right hy))
    have hleft' := hleft.later hx
    have hright' := hright.later hy
    obtain ⟨hx', hleft⟩ := List.pairwise_cons.mp hleft'
    obtain ⟨hy', hright⟩ := List.pairwise_cons.mp hright'
    cases before with
    | true =>
      refine .bind (ihright x' hleft' hright) fun rest hrest => .pure ?_
      -- the record of the right list moves past the whole left one
      have hbefore (z : ρ) (hz : z ∈ x' :: left) : R.Before y' z := by
        rcases List.mem_cons.mp hz with rfl | hz
        · exact hbefore rfl
        · exact (hbefore rfl).trans_notAfter (hx' z hz)
      have hmove : R.Rearranges (x' :: left ++ y' :: right) (y' :: (x' :: left ++ right)) := by
        rw [List.append_cons, ← List.cons_append]
        exact .append_right right
          (.exchange fun z hz w hw => List.mem_singleton.mp hw ▸ hbefore z hz)
      exact (hread.trans hmove).sorts (hrest.cons (List.forall_mem_append.mpr
        ⟨fun z hz => (hbefore z hz).notAfter, hy'⟩))
    | false =>
      refine .bind (ihleft y' hleft hright') fun rest hrest => .pure ?_
      exact hread.sorts (hrest.cons (List.forall_mem_append.mpr
        ⟨hx', List.forall_mem_cons.mpr
          ⟨hnotAfter rfl, fun z hz => (hnotAfter rfl).trans (hy' z hz)⟩⟩))

theorem mergeBack_sorts (hless : R.Compares less) (left right : List ρ)
    (hleft : R.InOrder left.reverse) (hright : R.InOrder right.reverse) :
    Ensures (mergeBack less left right) fun out =>
      R.Sorts (left.reverse ++ right.reverse) out.reverse := by
  induction left, right using mergeBack.induct with
  | case1 right =>
    rw [mergeBack]
    exact .pure (.of_inOrder hright)
  | case2 left hne =>
    rw [mergeBack.eq_2 _ _ hne, List.reverse_nil, List.append_nil]
    exact .pure (.of_inOrder hleft)
  | case3 x left y right ihleft ihright =>
    rw [mergeBack]
    refine .bind (hless y x) ?_
    rintro ⟨before, y', x'⟩ ⟨hy, hx, hbefore, hnotAfter⟩
    simp only [List.reverse_cons] at hleft hright ihleft ihright ⊢
    have hread : R.Rearranges (left.reverse ++ [x] ++ (right.reverse ++ [y]))
        (left.reverse ++ [x'] ++ (right.reverse ++ [y'])) :=
      .append (.append_left _ (.head [] hx)) (.append_left _ (.head [] hy))
    have hleft' := hleft.later_last hx
    have hright' := hright.later_last hy
    obtain ⟨hleft, -, hx'⟩ := inOrder_append.mp hleft'
    obtain ⟨hright, -, hy'⟩ := inOrder_append.mp hright'
    have hx' (z : ρ) (hz : z ∈ left.reverse) : R.NotAfter z x' := hx' z hz x' List.mem_cons_self
    have hy' (z : ρ) (hz : z ∈ right.reverse) : R.NotAfter z y' := hy' z hz y' List.mem_cons_self
    cases before with
    | true =>
      refine .bind (ihleft y' hleft hright') fun rest hrest => .pure ?_
      rw [List.reverse_cons]
      -- the record of the left list moves past the whole right one
      have hbefore : ∀ z ∈ right.reverse ++ [y'], R.Before z x' := List.forall_mem_append.mpr
        ⟨fun z hz => (hy' z hz).trans_before (hbefore rfl),
          List.forall_mem_singleton.mpr (hbefore rfl)⟩
      have hmove : R.Rearranges (left.reverse ++ [x'] ++ (right.reverse ++ [y']))
          (left.reverse ++ (right.reverse ++ [y']) ++ [x']) := by
        rw [List.append_assoc, List.append_assoc _ _ [x']]
        exact .append_left _ (.move_back hbefore)
      exact (hread.trans hmove).sorts (hrest.concat (List.forall_mem_append.mpr
        ⟨hx', fun z hz => (hbefore z hz).notAfter⟩))
    | false =>
      refine .bind (ihright x' hleft' hright) fun rest hrest => .pure ?_
      rw [List.reverse_cons]
      rw [← List.append_assoc (left.reverse ++ [x'])] at hread
      exact hread.sorts (hrest.concat (List.forall_mem_append.mpr
        ⟨List.forall_mem_append.mpr ⟨fun z hz => (hx' z hz).trans (hnotAfter rfl),
          List.forall_mem_singleton.mpr (hnotAfter rfl)⟩, hy'⟩))

/-- **Merging two ordered lists sorts them.** -/
theorem merge_sorts (hless : R.Compares less) {left right : List ρ} (hleft : R.InOrder left)
    (hright : R.InOrder right) : Ensures (merge less left right) (R.Sorts (left ++ right)) := by
  rw [merge]
  split
  · exact mergeFront_sorts hless left right hleft hright
  · refine .bind (mergeBack_sorts hless left.reverse right.reverse ?_ ?_) fun out hout => .pure ?_
    · rwa [List.reverse_reverse]
    · rwa [List.reverse_reverse]
    · rwa [List.reverse_reverse, List.reverse_reverse] at hout

end DocStore.StableSort
