import DocStore.Value.Order
import Mathlib.Algebra.Group.Int.Defs
import Mathlib.Order.Defs.LinearOrder
/-!
# The order of values is total

`Value.transCmp_order` says that the order of values is a total preorder: the comparison of two
values turned round is the reverse, and what does not stand after a value does not stand after
anything that follows it. The proof goes over the tree of the first value; `Chained` is what it
carries, because it passes through lexicographic comparisons.
-/

open Std

namespace DocStore

/-! ## Comparisons -/

/-- What the comparisons of neighbours in an ascending row of three say of the outer two. -/
def Chained (ab bc ac : Ordering) : Prop := ab.isLE → bc.isLE → ac = ab.then bc

/-- A second criterion counts only where the first one ties. -/
theorem Chained.then {ab bc ac ab' bc' ac' : Ordering} (h : Chained ab bc ac)
    (h' : ab = .eq → bc = .eq → Chained ab' bc' ac') :
    Chained (ab.then ab') (bc.then bc') (ac.then ac') := by
  intro hab hbc
  have hab₁ : ab.isLE := by cases ab <;> first | rfl | exact hab
  have hbc₁ : bc.isLE := by cases bc <;> first | rfl | exact hbc
  rw [h hab₁ hbc₁]
  cases ab with
  | lt => rfl
  | gt => cases hab
  | eq =>
    cases bc with
    | lt =>
      cases ab' with
      | gt => cases hab
      | _ => rfl
    | gt => cases hbc
    | eq => exact h' rfl rfl hab hbc

/-- A comparison that is fair to one element, against all others. -/
structure OrderedAt {α : Type} (cmp : α → α → Ordering) (a : α) : Prop where
  swap : ∀ b, cmp a b = (cmp b a).swap
  chained : ∀ b c, Chained (cmp a b) (cmp b c) (cmp a c)

section

variable {α β : Type}

theorem OrderedAt.comap {cmp : β → β → Ordering} {key : α → β} {a : α} (h : OrderedAt cmp (key a)) :
    OrderedAt (fun a b => cmp (key a) (key b)) a :=
  ⟨fun b => h.swap (key b), fun b c => h.chained (key b) (key c)⟩

theorem OrderedAt.lex {cmp cmp' : α → α → Ordering} {a : α} (h : OrderedAt cmp a)
    (h' : OrderedAt cmp' a) : OrderedAt (compareLex cmp cmp') a where
  swap b := by
    simp only [compareLex, Ordering.swap_then, ← h.swap b, ← h'.swap b]
  chained b c := (h.chained b c).then fun _ _ => h'.chained b c

/-- Lists in lexicographic order, by their items. -/
theorem OrderedAt.compareLex {cmp : α → α → Ordering} :
    {xs : List α} → (∀ x ∈ xs, OrderedAt cmp x) → OrderedAt (List.compareLex cmp) xs
  | [], _ =>
    { swap := fun
        | [] => rfl
        | _ :: _ => rfl
      chained := fun
        | [], [], _, _ => rfl
        | [], _ :: _, _, _ => rfl
        | _ :: _, _ :: _, _, _ => by rw [List.compareLex_nil_cons, List.compareLex_nil_cons]; rfl
        | _ :: _, [], _, h => by rw [List.compareLex_cons_nil] at h; cases h }
  | x :: xs, h =>
    have hx := h x List.mem_cons_self
    have hxs := OrderedAt.compareLex fun y hy => h y (List.mem_cons_of_mem x hy)
    { swap := fun
        | [] => rfl
        | y :: ys => by
          rw [List.compareLex_cons_cons, List.compareLex_cons_cons, Ordering.swap_then, ← hx.swap,
            ← hxs.swap]
      chained := fun
        | [], _, h, _ => by rw [List.compareLex_cons_nil] at h; cases h
        | _ :: _, [], _, h => by rw [List.compareLex_cons_nil] at h; cases h
        | y :: ys, z :: zs, hxy, hyz => by
          rw [List.compareLex_cons_cons] at hxy hyz ⊢
          rw [List.compareLex_cons_cons, List.compareLex_cons_cons]
          exact (hx.chained y z).then (fun _ _ => hxs.chained ys zs) hxy hyz }

theorem transCmp_of_orderedAt {cmp : α → α → Ordering} (h : ∀ a, OrderedAt cmp a) :
    TransCmp cmp where
  eq_swap {a b} := (h a).swap b
  isLE_trans {a b c} hab hbc := by
    rw [(h a).chained b c hab hbc]
    revert hab hbc
    cases cmp a b <;> cases cmp b c <;> decide

theorem orderedAt_of_transCmp (cmp : α → α → Ordering) [TransCmp cmp] (a : α) :
    OrderedAt cmp a where
  swap b := OrientedCmp.eq_swap
  chained b c hab hbc := by
    cases h : cmp a b with
    | lt => exact TransCmp.lt_of_lt_of_isLE h hbc
    | eq => exact TransCmp.congr_left h
    | gt =>
      rw [h] at hab
      cases hab

/-- Elements may be compared by what they are mapped to. -/
theorem transCmp_comap (cmp : β → β → Ordering) [TransCmp cmp] (key : α → β) :
    TransCmp fun a b => cmp (key a) (key b) where
  eq_swap {a b} := @OrientedCmp.eq_swap _ cmp _ (key a) (key b)
  isLE_trans {a b c} := @TransCmp.isLE_trans _ cmp _ (key a) (key b) (key c)

theorem transCmp_of_eq {cmp : α → α → Ordering} (cmp' : α → α → Ordering) [TransCmp cmp']
    (h : ∀ a b, cmp a b = cmp' a b) : TransCmp cmp := by
  rwa [show cmp = cmp' from funext fun a => funext (h a)]

end

/-! ## Numbers -/

namespace Number

/-- The NaN, the negative infinity, finite numbers and the positive infinity, in this order. -/
def tier : Number → Nat
  | .float .nan => 0
  | .float (.infinity true) => 1
  | .float (.finite ..) | .int _ => 2
  | .float (.infinity false) => 3

/-- The exact value in units of the smallest double. -/
def exactUnits : Number → Int
  | .int n => n.toInt * Double.unitsPerOne
  | .float x => x.units

theorem unitsPerOne_pos : (0 : Int) < Double.unitsPerOne := by
  decide +kernel

/-- Whole parts are compared first, and a fraction makes the count the greater one. -/
theorem compare_whole_then (n count : Int) :
    (compare n (count / Double.unitsPerOne)).then
        (if count / Double.unitsPerOne * Double.unitsPerOne < count then .lt else .eq) =
      compare (n * Double.unitsPerOne) count := by
  have hbelow : count / Double.unitsPerOne * Double.unitsPerOne ≤ count :=
    Int.ediv_mul_le count (Int.ne_of_gt unitsPerOne_pos)
  have habove : count < (count / Double.unitsPerOne + 1) * Double.unitsPerOne :=
    Int.lt_ediv_add_one_mul_self count unitsPerOne_pos
  rcases Int.lt_trichotomy n (count / Double.unitsPerOne) with hlt | heq | hgt
  · have hcount : n * Double.unitsPerOne < count :=
      Int.lt_of_lt_of_le (Int.mul_lt_mul_of_pos_right hlt unitsPerOne_pos) hbelow
    rw [Int.compare_eq_lt.mpr hlt, Int.compare_eq_lt.mpr hcount]
    rfl
  · rw [heq, Int.compare_eq_eq.mpr rfl, Ordering.eq_then]
    split
    · next hfraction => exact (Int.compare_eq_lt.mpr hfraction).symm
    · next hwhole =>
        exact (Int.compare_eq_eq.mpr (Int.le_antisymm hbelow (Int.not_lt.mp hwhole))).symm
  · have hcount : count < n * Double.unitsPerOne :=
      Int.lt_of_lt_of_le habove (Int.mul_le_mul_of_nonneg_right hgt (Int.le_of_lt unitsPerOne_pos))
    rw [Int.compare_eq_gt.mpr hgt, Int.compare_eq_gt.mpr hcount]
    rfl

theorem units_int64Limit : int64Limit.units = 2 ^ 63 * Double.unitsPerOne := by decide +kernel

theorem units_neg_int64Limit : int64Limit.neg.units = -2 ^ 63 * Double.unitsPerOne := by
  decide +kernel

/-- A finite double is compared with an integer by its exact value. -/
theorem compareIntDouble_of_isFinite (n : Int64) {x : Double} (hfinite : x.isFinite = true) :
    compareIntDouble n x = compare (n.toInt * Double.unitsPerOne) x.units := by
  obtain ⟨hnan, hcompare, hfloor⟩ : x.isNaN = false ∧
      (∀ negative significand shift canonical,
        x.compare? (.finite negative significand shift canonical) =
          some (compare x.units (Double.finite negative significand shift canonical).units)) ∧
      x.floor? = some (x.units.fdiv Double.unitsPerOne) := by
    cases x with
    | finite => exact ⟨rfl, fun _ _ _ _ => rfl, rfl⟩
    | _ => cases hfinite
  have hleast : -2 ^ 63 * (Double.unitsPerOne : Int) ≤ n.toInt * Double.unitsPerOne :=
    Int.mul_le_mul_of_nonneg_right n.le_toInt (Int.le_of_lt unitsPerOne_pos)
  have hgreatest : n.toInt * Double.unitsPerOne < 2 ^ 63 * (Double.unitsPerOne : Int) :=
    Int.mul_lt_mul_of_pos_right n.toInt_lt unitsPerOne_pos
  have hunder : x.compare? int64Limit.neg =
      some (compare x.units (-2 ^ 63 * Double.unitsPerOne)) := by
    rw [← units_neg_int64Limit]
    exact hcompare _ _ _ _
  have hover : x.compare? int64Limit = some (compare x.units (2 ^ 63 * Double.unitsPerOne)) := by
    rw [← units_int64Limit]
    exact hcompare _ _ _ _
  rw [compareIntDouble, hnan, hunder, hover, hfloor]
  simp only [Bool.false_or, Option.some_beq_some, beq_iff_eq, Int.compare_eq_lt, Option.any_some,
    Option.getD_some, Int.fdiv_eq_ediv_of_nonneg _ (Int.le_of_lt unitsPerOne_pos),
    compare_whole_then]
  split
  · next hlow => exact (Int.compare_eq_gt.mpr (Int.lt_of_lt_of_le hlow hleast)).symm
  · split
    · next hhigh =>
      have hle : 2 ^ 63 * (Double.unitsPerOne : Int) ≤ x.units :=
        Int.not_lt.mp (mt Int.compare_eq_lt.mpr (Ordering.isGE_iff_ne_lt.mp hhigh))
      exact (Int.compare_eq_lt.mpr (Int.lt_of_lt_of_le hgreatest hle)).symm
    · rfl

theorem compare_mul_unitsPerOne (m n : Int) :
    compare (m * Double.unitsPerOne) (n * Double.unitsPerOne) = compare m n := by
  simp only [Int.compare_eq_ite_lt, Int.mul_lt_mul_right unitsPerOne_pos]

theorem totalOrder_eq (a b : Number) :
    a.totalOrder b = (compare a.tier b.tier).then (compare a.exactUnits b.exactUnits) := by
  cases a with
  | int m =>
    cases b with
    | int n => exact (compare_mul_unitsPerOne m.toInt n.toInt).symm
    | float y =>
      rcases y with _ | (_ | _) | _
      · rfl
      · rfl
      · rfl
      · exact compareIntDouble_of_isFinite m rfl
  | float x =>
    cases b with
    | int n =>
      rcases x with _ | (_ | _) | _
      · rfl
      · rfl
      · rfl
      · rw [totalOrder, compareIntDouble_of_isFinite n rfl]
        exact (@OrientedCmp.eq_swap _ compare _ _ _).symm
    | float y => rcases x with _ | (_ | _) | _ <;> rcases y with _ | (_ | _) | _ <;> rfl

instance : TransCmp totalOrder :=
  transCmp_of_eq (compareLex (compareOn tier) (compareOn exactUnits)) totalOrder_eq

end Number
namespace Value

/-- The order of two values of one rank. -/
def orderWithin : Value → Value → Ordering
  | .array xs, .array ys => orderItems xs ys
  | .document xs, .document ys => orderEntries xs ys
  | a, b => orderScalars a b

/-- Values go by rank first. -/
theorem order_eq (a b : Value) : a.order b = (compare a.rank b.rank).then (orderWithin a b) := by
  rw [order.eq_def]
  split
  · rw [orderWithin, rank, rank]
    rfl
  · rw [orderWithin, rank, rank]
    rfl
  · next harray hdocument =>
    rw [orderWithin.eq_def]
    split
    · next xs ys => exact absurd rfl (harray xs ys rfl)
    · next xs ys => exact absurd rfl (hdocument xs ys rfl)
    · rfl

theorem orderItems_eq (xs ys : List Value) : orderItems xs ys = List.compareLex order xs ys := by
  induction xs generalizing ys with
  | nil => cases ys <;> rfl
  | cons x xs ih =>
    cases ys with
    | nil => rfl
    | cons y ys => rw [orderItems, ih, List.compareLex_cons_cons]

/-- The order of two entries of documents. -/
def orderEntry : String × Value → String × Value → Ordering :=
  compareLex (compareOn Prod.fst) fun a b => order a.2 b.2

theorem orderEntries_eq (xs ys : List (String × Value)) :
    orderEntries xs ys = List.compareLex orderEntry xs ys := by
  induction xs generalizing ys with
  | nil => cases ys <;> rfl
  | cons x xs ih =>
    cases ys with
    | nil => rfl
    | cons y ys =>
      rw [orderEntries, ih, List.compareLex_cons_cons]
      rfl

theorem orderBytes_eq (xs ys : List UInt8) :
    orderBytes xs ys = List.compareLex (compareOn UInt8.toNat) xs ys := by
  induction xs generalizing ys with
  | nil => cases ys <;> rfl
  | cons x xs ih =>
    cases ys with
    | nil => rfl
    | cons y ys =>
      rw [orderBytes, ih, List.compareLex_cons_cons]
      rfl

instance : TransCmp orderBytes := transCmp_of_eq _ orderBytes_eq

/-- Ranks are compared first, so a value may be compared by a key that tells the values of its rank
apart. -/
theorem orderedAt_of_key {κ : Type} {cmp : κ → κ → Ordering} (key : Value → κ) {a : Value}
    (hkey : OrderedAt cmp (key a))
    (h : ∀ b c, b.rank = a.rank → c.rank = a.rank → orderWithin b c = cmp (key b) (key c)) :
    OrderedAt order a where
  swap b := by
    rw [order_eq, order_eq b, Ordering.swap_then, ← @OrientedCmp.eq_swap _ compare _ a.rank b.rank]
    by_cases hrank : b.rank = a.rank
    · rw [h a b rfl hrank, h b a hrank rfl, hkey.swap]
    · cases hcompare : compare a.rank b.rank with
      | eq => exact absurd (Nat.compare_eq_eq.mp hcompare).symm hrank
      | _ => rfl
  chained b c := by
    rw [order_eq a b, order_eq b c, order_eq a c]
    refine ((orderedAt_of_transCmp compare a.rank).chained b.rank c.rank).then fun hab hbc => ?_
    have hb := (Nat.compare_eq_eq.mp hab).symm
    have hc := (Nat.compare_eq_eq.mp hbc).symm.trans hb
    rw [h a b rfl hb, h b c hb hc, h a c rfl hc]
    exact hkey.chained (key b) (key c)

mutual

theorem orderedAt_order : (a : Value) → OrderedAt order a
  | .array xs => by
    refine orderedAt_of_key (fun a => a.asArray?.getD []) (.compareLex (orderedAt_items xs)) ?_
    intro b c hb hc
    cases b <;> cases hb
    cases c <;> cases hc
    exact orderItems_eq _ _
  | .document xs => by
    have hentries (x : String × Value) (hx : x ∈ xs) : OrderedAt orderEntry x :=
      (orderedAt_of_transCmp (compareOn Prod.fst) x).lex (orderedAt_entries xs x hx).comap
    refine orderedAt_of_key (fun a => a.asDocument?.getD []) (.compareLex hentries) ?_
    intro b c hb hc
    cases b <;> cases hb
    cases c <;> cases hc
    exact orderEntries_eq _ _
  | .int32 _ | .int64 _ | .double _ => by
    refine orderedAt_of_key (fun a => (Number.ofValue? a).getD (.int 0))
      (orderedAt_of_transCmp Number.totalOrder _) ?_
    intro b c hb hc
    cases b <;> cases hb <;> cases c <;> cases hc <;> rfl
  | .string _ => by
    refine orderedAt_of_key (fun a => a.asString?.getD "") (orderedAt_of_transCmp compare _) ?_
    intro b c hb hc
    cases b <;> cases hb
    cases c <;> cases hc
    rfl
  | .binary _ _ => by
    refine orderedAt_of_key (fun | .binary _ bytes => bytes | _ => [])
      (orderedAt_of_transCmp orderBytes _) ?_
    intro b c hb hc
    cases b <;> cases hb
    cases c <;> cases hc
    rfl
  | .bool _ => by
    refine orderedAt_of_key (fun | .bool flag => flag.toNat | _ => 0)
      (orderedAt_of_transCmp compare _) ?_
    intro b c hb hc
    cases b <;> cases hb
    cases c <;> cases hc
    rfl
  | .dateTime _ => by
    refine orderedAt_of_key (fun a => a.asDateTime?.elim 0 Int64.toInt)
      (orderedAt_of_transCmp compare _) ?_
    intro b c hb hc
    cases b <;> cases hb
    cases c <;> cases hc
    rfl
  | .null | .undefined | .minKey | .maxKey | .objectId _ => by
    refine orderedAt_of_key (fun _ => 0) (orderedAt_of_transCmp compare _) ?_
    intro b c hb hc
    cases b <;> cases hb <;> cases c <;> cases hc <;> rfl

theorem orderedAt_items : (xs : List Value) → ∀ x ∈ xs, OrderedAt order x
  | [], _, h => absurd h List.not_mem_nil
  | x :: xs, _, h =>
    (List.mem_cons.mp h).elim (fun heq => heq ▸ orderedAt_order x) (orderedAt_items xs _)

theorem orderedAt_entries : (xs : List (String × Value)) → ∀ x ∈ xs, OrderedAt order x.2
  | [], _, h => absurd h List.not_mem_nil
  | (_, x) :: xs, _, h =>
    (List.mem_cons.mp h).elim (fun heq => heq ▸ orderedAt_order x) (orderedAt_entries xs _)

end

/-- **The order of values is a total preorder.** -/
instance transCmp_order : TransCmp order := transCmp_of_orderedAt orderedAt_order

end Value

instance : Ord Value := ⟨Value.order⟩

instance : TransOrd Value := Value.transCmp_order

theorem orderOptional_eq (a b : Option Value) : orderOptional a b = compareOn present a b := by
  rw [orderOptional, compareOn]
  cases present a <;> cases present b <;> rfl

/-- **The order of values that may be absent is a total preorder.** -/
instance transCmp_orderOptional : TransCmp orderOptional := transCmp_of_eq _ orderOptional_eq

end DocStore
