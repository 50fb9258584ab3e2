import DocStore.StableSort
import Mathlib.Data.List.Forall2
/-!
# Records with values that come to be known

A record that changes when it is read stands for every value that it still admits; reading it leaves
fewer. `Ranking.Before` and `Ranking.NotAfter` say what is certain about two records: it holds for
all values that they admit, and reading cannot undo it.

Sorting such records may only do two things to a list, and `Ranking.Rearranges` is generated by
them: read a record, and exchange neighbours of which the second is certain to stand before the
first. `Ranking.Sorts.stablySorted` says what comes of it: whatever values the sorted records are
found to have, they are a stable sort of values that the given records admitted.
-/

open Std

namespace DocStore

/-! ## What a computation ensures -/

section

variable {τ α β : Type}

/-- The result of a computation has a property, whatever state it starts in. -/
def Ensures (c : StateM τ α) (post : α → Prop) : Prop := ∀ t, post (c t).1

namespace Ensures

variable {post : α → Prop} {post' : β → Prop}

theorem pure {a : α} (h : post a) : Ensures (pure a : StateM τ α) post := fun _ => h

theorem bind {c : StateM τ α} {f : α → StateM τ β} (hc : Ensures c post)
    (hf : ∀ a, post a → Ensures (f a) post') : Ensures (c >>= f) post' :=
  fun t => hf _ (hc t) _

theorem mono {c : StateM τ α} {post' : α → Prop} (hc : Ensures c post)
    (h : ∀ a, post a → post' a) : Ensures c post' :=
  fun t => h _ (hc t)

end Ensures

end

namespace StableSort

/-- A list with its stable sort: it is permuted into ascending order, and what ties keeps its
order. -/
structure StablySorted {V : Type} (cmp : V → V → Ordering) (given sorted : List V) : Prop where
  perm : given.Perm sorted
  ascending : sorted.Pairwise fun v w => (cmp v w).isLE
  ties : ∀ v, sorted.filter (cmp v · == .eq) = given.filter (cmp v · == .eq)

/-- Records, the values that they admit, and an order of the values. -/
structure Ranking (ρ V : Type) where
  admits : ρ → V → Prop
  cmp : V → V → Ordering
  [transCmp : TransCmp cmp]
  admits_some : ∀ x, ∃ v, admits x v

namespace Ranking

variable {ρ V : Type} (R : Ranking ρ V)

instance : TransCmp R.cmp := R.transCmp

/-- The second record is the first one at a later time, when more is known. -/
def Later (x x' : ρ) : Prop := ∀ v, R.admits x' v → R.admits x v

/-- The first record is certain to stand strictly before the second. -/
def Before (x y : ρ) : Prop := ∀ v w, R.admits x v → R.admits y w → R.cmp v w = .lt

/-- The first record is certain not to stand after the second. -/
def NotAfter (x y : ρ) : Prop := ∀ v w, R.admits x v → R.admits y w → (R.cmp v w).isLE

variable {R} {x x' y y' z : ρ}

theorem Later.refl (x : ρ) : R.Later x x := fun _ hv => hv

theorem Later.trans (h : R.Later x y) (h' : R.Later y z) : R.Later x z := fun v hv => h v (h' v hv)

theorem Before.later (h : R.Before x y) (hx : R.Later x x') (hy : R.Later y y') : R.Before x' y' :=
  fun v w hv hw => h v w (hx v hv) (hy w hw)

theorem NotAfter.later (h : R.NotAfter x y) (hx : R.Later x x') (hy : R.Later y y') :
    R.NotAfter x' y' :=
  fun v w hv hw => h v w (hx v hv) (hy w hw)

theorem Before.notAfter (h : R.Before x y) : R.NotAfter x y := fun v w hv hw => by
  rw [h v w hv hw]
  rfl

theorem NotAfter.trans (h : R.NotAfter x y) (h' : R.NotAfter y z) : R.NotAfter x z :=
  fun u w hu hw =>
    have ⟨v, hv⟩ := R.admits_some y
    TransCmp.isLE_trans (h u v hu hv) (h' v w hv hw)

theorem NotAfter.trans_before (h : R.NotAfter x y) (h' : R.Before y z) : R.Before x z :=
  fun u w hu hw =>
    have ⟨v, hv⟩ := R.admits_some y
    TransCmp.lt_of_isLE_of_lt (h u v hu hv) (h' v w hv hw)

theorem Before.trans_notAfter (h : R.Before x y) (h' : R.NotAfter y z) : R.Before x z :=
  fun u w hu hw =>
    have ⟨v, hv⟩ := R.admits_some y
    TransCmp.lt_of_lt_of_isLE (h u v hu hv) (h' v w hv hw)

theorem Before.trans (h : R.Before x y) (h' : R.Before y z) : R.Before x z :=
  h.trans_notAfter h'.notAfter

/-! ## Rearranging a list -/

variable (R)

/-- A list after records were read, and neighbours exchanged that certainly stood the wrong way
round. -/
inductive Rearranges : List ρ → List ρ → Prop
  | nil : Rearranges [] []
  | cons {x x' : ρ} {xs xs' : List ρ} (later : R.Later x x') (rest : Rearranges xs xs') :
    Rearranges (x :: xs) (x' :: xs')
  | swap {x y : ρ} (xs : List ρ) (before : R.Before y x) : Rearranges (x :: y :: xs) (y :: x :: xs)
  | trans {xs ys zs : List ρ} (first : Rearranges xs ys) (second : Rearranges ys zs) :
    Rearranges xs zs

/-- Every record is certain not to stand after one that follows. -/
def InOrder (xs : List ρ) : Prop := xs.Pairwise R.NotAfter

/-- The second list is a sort of the first. -/
structure Sorts (xs ys : List ρ) : Prop where
  rearranges : R.Rearranges xs ys
  inOrder : R.InOrder ys

variable {R} {xs xs' ys ys' zs : List ρ}

namespace Rearranges

theorem refl : (xs : List ρ) → R.Rearranges xs xs
  | [] => .nil
  | x :: xs => .cons (.refl x) (refl xs)

theorem append_left (xs : List ρ) (h : R.Rearranges ys ys') :
    R.Rearranges (xs ++ ys) (xs ++ ys') := by
  induction xs with
  | nil => exact h
  | cons x xs ih => exact .cons (.refl x) ih

theorem append_right (ys : List ρ) (h : R.Rearranges xs xs') :
    R.Rearranges (xs ++ ys) (xs' ++ ys) := by
  induction h with
  | nil => exact refl ys
  | cons later _ ih => exact .cons later ih
  | swap xs before => exact .swap (xs ++ ys) before
  | trans _ _ ih ih' => exact .trans ih ih'

theorem append (h : R.Rearranges xs xs') (h' : R.Rearranges ys ys') :
    R.Rearranges (xs ++ ys) (xs' ++ ys') :=
  .trans (h.append_right ys) (h'.append_left xs')

/-- Reading the first record of a list. -/
theorem head (xs : List ρ) (h : R.Later x x') : R.Rearranges (x :: xs) (x' :: xs) :=
  .cons h (refl xs)

/-- A record moves to the back of a list of records that stand before it. -/
theorem move_back (h : ∀ y ∈ ys, R.Before y x) : R.Rearranges (x :: ys) (ys ++ [x]) := by
  induction ys with
  | nil => exact refl [x]
  | cons y ys ih =>
    have hrest := ih fun z hz => h z (List.mem_cons_of_mem y hz)
    exact .trans (.swap ys (h y List.mem_cons_self)) (.cons (.refl y) hrest)

/-- Two neighbouring lists are exchanged. -/
theorem exchange (h : ∀ x ∈ xs, ∀ y ∈ ys, R.Before y x) : R.Rearranges (xs ++ ys) (ys ++ xs) := by
  induction xs with
  | nil =>
    rw [List.append_nil]
    exact refl ys
  | cons x xs ih =>
    have hrest : R.Rearranges (x :: (xs ++ ys)) (x :: (ys ++ xs)) :=
      .cons (.refl x) (ih fun z hz => h z (List.mem_cons_of_mem x hz))
    have hx := (move_back (h x List.mem_cons_self)).append_right xs
    rw [List.append_assoc] at hx
    exact .trans hrest hx

/-- A strictly descending list is turned round. -/
theorem reverse (h : xs.Pairwise fun x y => R.Before y x) : R.Rearranges xs xs.reverse := by
  induction h with
  | nil => exact .nil
  | @cons x xs hx _ ih =>
    rw [List.reverse_cons]
    exact .trans (move_back hx) (ih.append_right [x])

theorem set {i : Nat} (h : xs[i]? = some x) (hx : R.Later x x') :
    R.Rearranges xs (xs.set i x') := by
  induction xs generalizing i with
  | nil => exact .nil
  | cons y ys ih =>
    cases i with
    | zero =>
      cases h
      exact .cons hx (refl ys)
    | succ i => exact .cons (.refl y) (ih h)

/-- Every record of the rearranged list was there before. -/
theorem exists_later (h : R.Rearranges xs ys) : ∀ y ∈ ys, ∃ x ∈ xs, R.Later x y := by
  induction h with
  | nil => exact fun y hy => absurd hy List.not_mem_nil
  | cons later _ ih =>
    intro y hy
    rcases List.mem_cons.mp hy with rfl | hy
    · exact ⟨_, List.mem_cons_self, later⟩
    · obtain ⟨x, hx, hlater⟩ := ih y hy
      exact ⟨x, List.mem_cons_of_mem _ hx, hlater⟩
  | swap xs before => exact fun y hy => ⟨y, (List.Perm.swap _ _ xs).mem_iff.mp hy, .refl y⟩
  | trans _ _ ih ih' =>
    intro z hz
    obtain ⟨y, hy, hyz⟩ := ih' z hz
    obtain ⟨x, hx, hxy⟩ := ih y hy
    exact ⟨x, hx, hxy.trans hyz⟩

/-- **A list that is rearranged keeps its values, and the order of those that tie.** -/
theorem values (h : R.Rearranges xs ys) :
    ∀ ws, List.Forall₂ R.admits ys ws → ∃ vs, List.Forall₂ R.admits xs vs ∧ vs.Perm ws ∧
      ∀ v, ws.filter (R.cmp v · == .eq) = vs.filter (R.cmp v · == .eq) := by
  induction h with
  | nil => exact fun ws hws => ⟨ws, hws, .refl ws, fun _ => rfl⟩
  | cons later _ ih =>
    intro _ h
    obtain ⟨w, ws, hw, hws, rfl⟩ := List.forall₂_cons_left_iff.mp h
    obtain ⟨vs, hvs, hperm, hties⟩ := ih ws hws
    refine ⟨w :: vs, .cons (later w hw) hvs, hperm.cons w, fun v => ?_⟩
    rw [List.filter_cons, List.filter_cons, hties]
  | swap xs before =>
    intro _ h
    obtain ⟨b, _, hb, hrest, rfl⟩ := List.forall₂_cons_left_iff.mp h
    obtain ⟨a, ws, ha, hws, rfl⟩ := List.forall₂_cons_left_iff.mp hrest
    refine ⟨a :: b :: ws, .cons ha (.cons hb hws), .swap b a ws, fun v => ?_⟩
    have hlt := before b a hb ha
    -- a value that tied with both would make them tie with each other
    by_cases hv : R.cmp v b = .eq
    · have hva : R.cmp v a = .lt := (TransCmp.congr_left hv).trans hlt
      simp only [List.filter_cons, hv, hva, reduceCtorEq, beq_iff_eq, if_false]
    · simp only [List.filter_cons, beq_iff_eq, hv, if_false]
  | trans _ _ ih ih' =>
    intro ws hws
    obtain ⟨vs, hvs, hperm, hties⟩ := ih' ws hws
    obtain ⟨us, hus, hperm', hties'⟩ := ih vs hvs
    exact ⟨us, hus, hperm'.trans hperm, fun v => (hties v).trans (hties' v)⟩

/-- What does not stand after the records of a list does not stand after them when it is
rearranged. -/
theorem forall_notAfter (h : R.Rearranges xs ys) (hx : ∀ y ∈ xs, R.NotAfter x y) :
    ∀ y ∈ ys, R.NotAfter x y := fun y' hy' =>
  have ⟨y, hy, hlater⟩ := h.exists_later y' hy'
  (hx y hy).later (.refl x) hlater

theorem forall_notAfter' (h : R.Rearranges xs ys) (hx : ∀ y ∈ xs, R.NotAfter y x) :
    ∀ y ∈ ys, R.NotAfter y x := fun y' hy' =>
  have ⟨y, hy, hlater⟩ := h.exists_later y' hy'
  (hx y hy).later hlater (.refl x)

end Rearranges

/-! ## Lists in order -/

theorem inOrder_append :
    R.InOrder (xs ++ ys) ↔ R.InOrder xs ∧ R.InOrder ys ∧ ∀ x ∈ xs, ∀ y ∈ ys, R.NotAfter x y :=
  List.pairwise_append

theorem InOrder.later (h : R.InOrder (x :: xs)) (hx : R.Later x x') : R.InOrder (x' :: xs) :=
  have ⟨hhead, htail⟩ := List.pairwise_cons.mp h
  List.pairwise_cons.mpr ⟨fun y hy => (hhead y hy).later hx (.refl y), htail⟩

theorem InOrder.later_last (h : R.InOrder (xs ++ [x])) (hx : R.Later x x') :
    R.InOrder (xs ++ [x']) :=
  have ⟨hxs, _, hlast⟩ := inOrder_append.mp h
  inOrder_append.mpr ⟨hxs, List.pairwise_singleton _ x', fun y hy =>
    List.forall_mem_singleton.mpr ((hlast y hy x List.mem_cons_self).later (.refl y) hx)⟩

theorem exists_admits {ws : List V} (h : List.Forall₂ R.admits xs ws) :
    ∀ w ∈ ws, ∃ x ∈ xs, R.admits x w := by
  induction h with
  | nil => exact fun w hw => absurd hw List.not_mem_nil
  | cons hhead _ ih =>
    intro w hw
    rcases List.mem_cons.mp hw with rfl | hw
    · exact ⟨_, List.mem_cons_self, hhead⟩
    · obtain ⟨x, hx, hadmits⟩ := ih w hw
      exact ⟨x, List.mem_cons_of_mem _ hx, hadmits⟩

theorem InOrder.ascending {ws : List V} (h : R.InOrder xs) (hws : List.Forall₂ R.admits xs ws) :
    ws.Pairwise fun v w => (R.cmp v w).isLE := by
  induction hws with
  | nil => exact .nil
  | cons hw hws ih =>
    obtain ⟨hhead, htail⟩ := List.pairwise_cons.mp h
    refine List.pairwise_cons.mpr ⟨fun v hv => ?_, ih htail⟩
    obtain ⟨y, hy, hadmits⟩ := exists_admits hws v hv
    exact hhead y hy _ v hw hadmits

theorem Sorts.of_inOrder (h : R.InOrder xs) : R.Sorts xs xs := ⟨.refl xs, h⟩

theorem Rearranges.sorts (h : R.Rearranges xs ys) (h' : R.Sorts ys zs) : R.Sorts xs zs :=
  ⟨.trans h h'.rearranges, h'.inOrder⟩

/-- A sorted list and one whose records do not stand before it. -/
theorem Sorts.append (h : R.Sorts xs xs') (h' : R.Sorts ys ys')
    (hpairs : ∀ x ∈ xs, ∀ y ∈ ys, R.NotAfter x y) : R.Sorts (xs ++ ys) (xs' ++ ys') where
  rearranges := h.rearranges.append h'.rearranges
  inOrder := inOrder_append.mpr ⟨h.inOrder, h'.inOrder, fun x hx =>
    h'.rearranges.forall_notAfter fun y hy =>
      h.rearranges.forall_notAfter' (fun x hx => hpairs x hx y hy) x hx⟩

theorem Sorts.cons (h : R.Sorts xs xs') (hx : ∀ y ∈ xs, R.NotAfter x y) :
    R.Sorts (x :: xs) (x :: xs') :=
  .append (.of_inOrder (List.pairwise_singleton _ x)) h (List.forall_mem_singleton.mpr hx)

theorem Sorts.concat (h : R.Sorts xs xs') (hx : ∀ y ∈ xs, R.NotAfter y x) :
    R.Sorts (xs ++ [x]) (xs' ++ [x]) :=
  .append h (.of_inOrder (List.pairwise_singleton _ x)) fun y hy =>
    List.forall_mem_singleton.mpr (hx y hy)

/-- **The values of sorted records are a stable sort of values of the given ones.** -/
theorem Sorts.stablySorted (h : R.Sorts xs ys) {ws : List V} (hws : List.Forall₂ R.admits ys ws) :
    ∃ vs, List.Forall₂ R.admits xs vs ∧ StablySorted R.cmp vs ws := by
  obtain ⟨vs, hvs, hperm, hties⟩ := h.rearranges.values ws hws
  exact ⟨vs, hvs, hperm, h.inOrder.ascending hws, hties⟩

/-! ## Tests -/

variable (R) {τ : Type}

/-- A test of two records finds out which of two relations is certain between them. -/
def Decides (test : Precedes (StateM τ) ρ) (yes no : ρ → ρ → Prop) : Prop :=
  ∀ x y, Ensures (test x y) fun (passes, x', y') =>
    R.Later x x' ∧ R.Later y y' ∧ (passes = true → yes x' y') ∧ (passes = false → no x' y')

/-- A comparison finds out whether the first record stands strictly before the second one. -/
def Compares (less : Precedes (StateM τ) ρ) : Prop :=
  R.Decides less R.Before fun x y => R.NotAfter y x

end Ranking

end StableSort

end DocStore
