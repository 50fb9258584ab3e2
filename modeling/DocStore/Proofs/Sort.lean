import DocStore.Proofs.Field.Order
import DocStore.Proofs.StableSort.Partition
import DocStore.Sort
/-!
# Sorting by keys

`SortOrder.transCmp_order` says that the comparison by the keys of a sort is a total preorder on
records with fixed values, whatever the schema and the keys are.

A comparison that reads its records finds the same order, as soon as each reading makes the value
known that it finds (`SortOrder.orderByM_decides`); so the sort of records that are read is stable
and in the order of the keys (`SortOrder.sortM_sorts`).

A comparison preserves what its reads preserve (`SortOrder.orderByM_preserves`), and it is the same
on records that hold more, if its reads are (`SortOrder.orderByM_erases`).
-/

open Std

namespace DocStore.SortOrder

open StableSort

variable {σ : Type}

/-! ## Comparing values -/

theorem transCmp_orderKey (key : SortKey × Field σ) : TransCmp (orderKey key) := by
  obtain ⟨⟨path, direction⟩, field⟩ := key
  cases direction with
  | ascending => exact inferInstanceAs (TransCmp field.order)
  | descending =>
    have : TransCmp fun a b => field.order b a := .opposite
    exact transCmp_of_eq (fun a b => field.order b a) fun a b =>
      (@OrientedCmp.eq_swap _ field.order _ b a).symm

/-- Keys are criteria one after the other. -/
theorem transCmp_orderBy (keys : List (SortKey × Field σ)) : TransCmp (orderBy keys) := by
  induction keys with
  | nil => exact transCmp_of_eq (compareOn fun _ => 0) fun _ _ => rfl
  | cons key keys ih =>
    have hkey := transCmp_orderKey key
    have hvalue := transCmp_comap (orderKey key)
      fun (values : String → Option Value) => values key.1.path
    exact inferInstanceAs (TransCmp (compareLex
      (fun a b => orderKey key (a key.1.path) (b key.1.path)) (orderBy keys)))

/-- **The comparison by keys is a total preorder.** -/
instance transCmp_order (sort : SortOrder σ) : TransCmp sort.order := transCmp_orderBy sort.keys

/-! ## Reading the values -/

variable {τ ρ V : Type}

/-- Records that admit values at all paths, in the order of a sort. -/
def ranking (sort : SortOrder σ) (admits : ρ → V → Prop) (values : V → String → Option Value)
    (hsome : ∀ x, ∃ v, admits x v) : Ranking ρ V where
  admits := admits
  cmp v w := sort.order (values v) (values w)
  transCmp := transCmp_comap sort.order values
  admits_some := hsome

/-- A reading makes the value known that it finds. -/
def Learns (R : Ranking ρ V) (values : V → String → Option Value)
    (read : String → ρ → StateM τ (Option Value × ρ)) : Prop :=
  ∀ path x, Ensures (read path x) fun (found, x') =>
    R.Later x x' ∧ ∀ v, R.admits x' v → values v path = found

variable {R : Ranking ρ V} {values : V → String → Option Value}
  {read : String → ρ → StateM τ (Option Value × ρ)}

theorem orderByM_decides (hread : Learns R values read)
    (keys : List (SortKey × Field σ)) (a b : ρ) :
    Ensures (orderByM read keys a b) fun (o, a', b') =>
      R.Later a a' ∧ R.Later b b' ∧ ∀ v w, R.admits a' v → R.admits b' w →
        orderBy keys (values v) (values w) = o := by
  induction keys generalizing a b with
  | nil => exact .pure ⟨.refl a, .refl b, fun _ _ _ _ => rfl⟩
  | cons key keys ih =>
    rw [orderByM]
    refine .bind (hread key.1.path a) ?_
    rintro ⟨x, a₁⟩ ⟨ha, hx⟩
    refine .bind (hread key.1.path b) ?_
    rintro ⟨y, b₁⟩ ⟨hb, hy⟩
    dsimp only
    split
    · next heq =>
      refine (ih a₁ b₁).mono ?_
      rintro ⟨o, a₂, b₂⟩ ⟨ha', hb', horder⟩
      refine ⟨ha.trans ha', hb.trans hb', fun v w hv hw => ?_⟩
      rw [orderBy, hx v (ha' v hv), hy w (hb' w hw), heq]
      exact horder v w hv hw
    · next hne =>
      refine .pure ⟨ha, hb, fun v w hv hw => ?_⟩
      rw [orderBy, hx v hv, hy w hw]
      cases h : orderKey key x y with
      | eq => exact absurd h hne
      | _ => rfl

/-- **The stable sort by keys sorts.** -/
theorem sortM_sorts (sort : SortOrder σ) {admits : ρ → V → Prop} {hsome : ∀ x, ∃ v, admits x v}
    (hread : Learns (sort.ranking admits values hsome) values read) (records : List ρ) :
    Ensures (sort.sortM read records) ((sort.ranking admits values hsome).Sorts records) := by
  refine stableSort_sorts (fun a b => ?_) records
  refine .bind (orderByM_decides hread sort.keys a b) ?_
  rintro ⟨o, a', b'⟩ ⟨ha, hb, horder⟩
  refine .pure ⟨ha, hb, fun hlt v w hv hw => ?_, fun hnot v w hv hw => ?_⟩
  · exact (horder v w hv hw).trans (beq_iff_eq.mp hlt)
  · have hne : o ≠ .lt := fun h => by rw [h] at hnot; cases hnot
    have hcmp : sort.order (values w) (values v) = o := horder w v hw hv
    show (sort.order (values v) (values w)).isLE
    rw [@OrientedCmp.eq_swap _ sort.order, hcmp]
    cases o with
    | lt => exact absurd rfl hne
    | _ => rfl

/-! ## What a comparison preserves -/

/-- A comparison reads both records at a key, and goes on if the key does not decide. -/
theorem run_orderByM_cons (read : String → ρ → StateM τ (Option Value × ρ))
    (key : SortKey × Field σ) (keys : List (SortKey × Field σ)) (a b : ρ) (t : τ) :
    orderByM read (key :: keys) a b t =
      (let left := read key.1.path a t
      let right := read key.1.path b left.2
      let order := orderKey key left.1.1 right.1.1
      if order = .eq then orderByM read keys left.1.2 right.1.2 right.2
      else ((order, left.1.2, right.1.2), right.2)) := by
  rcases hleft : read key.1.path a t with ⟨⟨x, a'⟩, left⟩
  rcases hright : read key.1.path b left with ⟨⟨y, b'⟩, right⟩
  rw [orderByM]
  simp only [bind, StateT.bind, hleft, hright]
  cases orderKey key x y <;> rfl

/-- What the reads of both records preserve, the comparison preserves. -/
theorem orderByM_preserves (read : String → ρ → StateM τ (Option Value × ρ)) {P : ρ → ρ → τ → Prop}
    (hleft : ∀ path a b t, P a b t → P (read path a t).1.2 b (read path a t).2)
    (hright : ∀ path a b t, P a b t → P a (read path b t).1.2 (read path b t).2)
    (keys : List (SortKey × Field σ)) {a b : ρ} {t : τ} (h : P a b t) :
    P (orderByM read keys a b t).1.2.1 (orderByM read keys a b t).1.2.2
      (orderByM read keys a b t).2 := by
  induction keys generalizing a b t with
  | nil => exact h
  | cons key keys ih =>
    have hread := hright key.1.path _ _ _ (hleft key.1.path _ _ _ h)
    rw [run_orderByM_cons]
    dsimp only
    split
    · exact ih hread
    · exact hread

/-- A comparison is the same on records and states that hold more, if its reads are. -/
theorem orderByM_erases {τ' ρ' : Type} {read' : String → ρ' → StateM τ' (Option Value × ρ')}
    (forget : τ' → τ) (strip : ρ' → ρ)
    (hread : ∀ path a s, read path (strip a) (forget s) =
      (((read' path a s).1.1, strip (read' path a s).1.2), forget (read' path a s).2))
    (keys : List (SortKey × Field σ)) (a b : ρ') (s : τ') :
    orderByM read keys (strip a) (strip b) (forget s) =
      (((orderByM read' keys a b s).1.1, strip (orderByM read' keys a b s).1.2.1,
        strip (orderByM read' keys a b s).1.2.2), forget (orderByM read' keys a b s).2) := by
  induction keys generalizing a b s with
  | nil => rfl
  | cons key keys ih =>
    rw [run_orderByM_cons, run_orderByM_cons, hread]
    dsimp only
    rw [hread]
    dsimp only
    split
    · exact ih _ _ _
    · rfl

end DocStore.SortOrder
