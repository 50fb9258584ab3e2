import DocStore.Proofs.StableSort.Ranking
import Mathlib.Data.List.Perm.Basic
/-!
# Stable sorts and filters

A list has one stable sort (`StablySorted.unique`), and a filter of it is the stable sort of the
filtered list (`StablySorted.filter`). So it makes no difference whether a list is filtered before
it is sorted or afterwards.
-/

open Std

namespace DocStore.StableSort

variable {V W : Type} {cmp : V → V → Ordering} {given sorted sorted' : List V}

/-- Ascending lists of the same elements are equal if they list ties in the same order. -/
theorem eq_of_ascending [TransCmp cmp] {xs ys : List V} (hperm : xs.Perm ys)
    (hxs : xs.Pairwise fun v w => (cmp v w).isLE) (hys : ys.Pairwise fun v w => (cmp v w).isLE)
    (hties : ∀ v, xs.filter (cmp v · == .eq) = ys.filter (cmp v · == .eq)) : xs = ys := by
  induction xs generalizing ys with
  | nil => exact hperm.nil_eq
  | cons x xs ih =>
    cases ys with
    | nil => exact hperm.symm.nil_eq.symm
    | cons y ys =>
      obtain ⟨hx, hxrest⟩ := List.pairwise_cons.mp hxs
      obtain ⟨hy, hyrest⟩ := List.pairwise_cons.mp hys
      -- Neither of the first elements stands after the other one, so they tie; and the first of the
      -- ties is the same in both lists.
      have hle : (cmp x y).isLE := by
        rcases List.mem_cons.mp (hperm.mem_iff.mpr List.mem_cons_self) with rfl | hmem
        · exact ReflCmp.isLE_rfl
        · exact hx y hmem
      have hge : (cmp y x).isLE := by
        rcases List.mem_cons.mp (hperm.mem_iff.mp List.mem_cons_self) with rfl | hmem
        · exact ReflCmp.isLE_rfl
        · exact hy x hmem
      have htie : cmp x y = .eq := OrientedCmp.isLE_antisymm hle hge
      have hhead := hties x
      rw [List.filter_cons_of_pos (by simp [ReflCmp.compare_self]),
        List.filter_cons_of_pos (by simp [htie]), List.cons.injEq] at hhead
      obtain ⟨rfl, -⟩ := hhead
      refine congrArg (x :: ·) (ih hperm.cons_inv hxrest hyrest fun v => ?_)
      have htail := hties v
      by_cases hv : cmp v x = .eq
      · rwa [List.filter_cons_of_pos (by simp [hv]), List.filter_cons_of_pos (by simp [hv]),
          List.cons.injEq, eq_self, true_and] at htail
      · rwa [List.filter_cons_of_neg (by simp [hv]),
          List.filter_cons_of_neg (by simp [hv])] at htail

namespace StablySorted

/-- **A list has one stable sort.** -/
theorem unique [TransCmp cmp] (h : StablySorted cmp given sorted)
    (h' : StablySorted cmp given sorted') :
    sorted = sorted' :=
  eq_of_ascending (h.perm.symm.trans h'.perm) h.ascending h'.ascending fun v =>
    (h.ties v).trans (h'.ties v).symm

/-- **A filter of a stable sort is the stable sort of what passes.** -/
theorem filter (h : StablySorted cmp given sorted) (p : V → Bool) :
    StablySorted cmp (given.filter p) (sorted.filter p) where
  perm := h.perm.filter p
  ascending := h.ascending.filter p
  ties v := by
    rw [List.filter_comm, h.ties, List.filter_comm]

/-- Elements may be sorted by keys that stand for them. -/
theorem of_map {cmp : W → W → Ordering} (key : V → W) (hkey : Function.Injective key)
    (h : StablySorted cmp (given.map key) (sorted.map key)) :
    StablySorted (fun v w => cmp (key v) (key w)) given sorted where
  perm := (List.map_perm_map_iff hkey).mp h.perm
  ascending := List.pairwise_map.mp h.ascending
  ties v := by
    have hties := h.ties (key v)
    rw [List.filter_map, List.filter_map] at hties
    exact hkey.list_map hties

end StablySorted

end DocStore.StableSort
