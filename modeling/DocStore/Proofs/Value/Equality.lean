import DocStore.Proofs.Value.Place
import DocStore.Proofs.Value.RealOrder
import DocStore.Value.Equality
import Mathlib.Data.List.Perm.Subperm
/-!
# Loose equality, place by place

Two values are loosely equal if and only if whatever stands at the same place in both is equal
there: lists by length, documents by their sets of keys, everything else as scalars
(`Value.looseEq_iff`). So loose equality is reflexive and symmetric as its scalars are. It is
transitive but for one thing: a double equals every integer that rounds to it, while integers are
compared exactly (`Value.looseEq_equivalence_up_to_integers`).
-/

namespace DocStore

/-! ## Numbers -/

/-- Doubles are equal when their real values are. -/
theorem Double.equals_iff (x y : Double) :
    x.equals y = true ↔ x ≠ .nan ∧ (Number.float x).realValue = (Number.float y).realValue := by
  rw [← Number.totalOrder_eq_eq_iff, Double.equals, beq_iff_eq]
  rcases x with _ | (_ | _) | _ <;> rcases y with _ | (_ | _) | _ <;>
    simp [Double.compare?, Number.totalOrder, Double.isNaN]

theorem Number.eq_nan_of_realValue {x : Double} (h : (Number.float x).realValue = ⊥) :
    x = .nan := by
  rcases x with _ | (_ | _) | _
  · rfl
  all_goals cases h

theorem Double.ofInt_ne_nan (n : Int) : Double.ofInt n ≠ .nan := by
  have hparts (negative : Bool) (significand shift : Nat) :
      ofParts negative significand shift ≠ .nan := by
    rw [ofParts]
    split <;> exact Double.noConfusion
  rw [ofInt, nearest]
  split <;> exact hparts _ _ _

namespace Number

/-- Numbers are equal when they are the same double, or rounded to the same; two integers must be
one. -/
theorem equals_iff (a b : Number) : a.equals b = true ↔
    a.toDouble.equals b.toDouble = true ∧ ∀ m n, a = .int m → b = .int n → m = n := by
  cases a with
  | float x => exact (and_iff_left fun m n h => by cases h).symm
  | int m =>
    cases b with
    | float y => exact (and_iff_left fun m n _ h => by cases h).symm
    | int n =>
      rw [equals, compare?, beq_iff_eq, Option.some.injEq, Int.compare_eq_eq, Int64.toInt_inj]
      constructor
      · rintro rfl
        refine ⟨(Double.equals_iff _ _).mpr ⟨Double.ofInt_ne_nan _, rfl⟩, ?_⟩
        rintro k l ⟨⟩ ⟨⟩
        rfl
      · exact fun h => h.2 m n rfl rfl

theorem equals_refl {a : Number} (h : a ≠ .float .nan) : a.equals a = true := by
  refine (equals_iff a a).mpr ⟨(Double.equals_iff _ _).mpr ⟨?_, rfl⟩, fun m n hm hn => ?_⟩
  · cases a with
    | int n => exact Double.ofInt_ne_nan n.toInt
    | float x => exact fun hnan => h (congrArg Number.float hnan)
  · exact Number.int.inj (hm.symm.trans hn)

theorem equals_symm {a b : Number} (h : a.equals b = true) : b.equals a = true := by
  obtain ⟨hdouble, hint⟩ := (equals_iff a b).mp h
  obtain ⟨hnan, hreal⟩ := (Double.equals_iff _ _).mp hdouble
  refine (equals_iff b a).mpr ⟨(Double.equals_iff _ _).mpr ⟨fun hb => hnan ?_, hreal.symm⟩, ?_⟩
  · exact eq_nan_of_realValue (hreal.trans (congrArg (fun x => (Number.float x).realValue) hb))
  · exact fun m n hm hn => (hint n m hn hm).symm

theorem equals_trans {a b c : Number} (hab : a.equals b = true) (hbc : b.equals c = true)
    (hint : ∀ m n, a = .int m → c = .int n → m = n) : a.equals c = true := by
  obtain ⟨hnan, hreal⟩ := (Double.equals_iff _ _).mp ((equals_iff a b).mp hab).1
  obtain ⟨-, hreal'⟩ := (Double.equals_iff _ _).mp ((equals_iff b c).mp hbc).1
  exact (equals_iff a c).mpr ⟨(Double.equals_iff _ _).mpr ⟨hnan, hreal.trans hreal'⟩, hint⟩

end Number

namespace Value

/-! ## Equality at one place -/

/-- What the equality of two values asks of themselves, when their parts are left aside. -/
inductive LevelEq : Value → Value → Prop where
  | numbers {a b : Value} {x y : Number} : Number.ofValue? a = some x → Number.ofValue? b = some y →
    x.equals y = true → LevelEq a b
  | scalars {a : Value} : a.IsScalar → Number.ofValue? a = none → LevelEq a a
  | lists {xs ys : List Value} : xs.length = ys.length → LevelEq (.array xs) (.array ys)
  | documents {xs ys : Document} : (OrderedMap.keys xs).Perm (OrderedMap.keys ys) →
    LevelEq (.document xs) (.document ys)

/-- Scalars other than numbers are compared by kind and value. -/
theorem scalarLooseEq_iff_eq {a : Value} (h : a.IsScalar) (hnumber : Number.ofValue? a = none)
    (b : Value) : scalarLooseEq a b = true ↔ a = b := by
  rw [scalarLooseEq, hnumber]
  cases a with
  | array => cases h
  | document => cases h
  | int32 | int64 | double => cases hnumber
  | _ => cases b <;> simp [scalarEq]

/-- A number equals numbers only. -/
theorem scalarLooseEq_iff_number {a : Value} {x : Number}
    (ha : Number.ofValue? a = some x) (b : Value) :
    scalarLooseEq a b = true ↔ ∃ y, Number.ofValue? b = some y ∧ x.equals y = true := by
  rw [scalarLooseEq, ha]
  cases hb : Number.ofValue? b with
  | some y => simp
  | none => cases a <;> cases ha <;> cases b <;> cases hb <;> simp [scalarEq]

theorem levelEq_of_isScalar {a : Value} (h : a.IsScalar) (b : Value) :
    LevelEq a b ↔ scalarLooseEq a b = true := by
  cases ha : Number.ofValue? a with
  | some x =>
    rw [scalarLooseEq_iff_number ha]
    constructor
    · intro hlevel
      cases hlevel with
      | numbers ha' hb hequal =>
        rw [ha, Option.some.injEq] at ha'
        exact ⟨_, hb, ha' ▸ hequal⟩
      | scalars _ hnone => rw [ha] at hnone; cases hnone
      | lists => cases h
      | documents => cases h
    · rintro ⟨y, hb, hequal⟩
      exact .numbers ha hb hequal
  | none =>
    rw [scalarLooseEq_iff_eq h ha]
    constructor
    · intro hlevel
      cases hlevel with
      | numbers ha' => rw [ha] at ha'; cases ha'
      | scalars => rfl
      | lists => cases h
      | documents => cases h
    · rintro rfl
      exact .scalars h ha

theorem looseEq_of_isScalar {a : Value} (h : a.IsScalar) (b : Value) :
    looseEq a b = scalarLooseEq a b := by
  cases a with
  | array => cases h
  | document => cases h
  | _ => rfl

/-- Lists of one length are equal when the items of one index are. -/
theorem eqItems_iff (xs ys : List Value) : eqItems scalarLooseEq xs ys = true ↔
    ∀ (i : Nat) x y, xs[i]? = some x → ys[i]? = some y → looseEq x y = true := by
  induction xs generalizing ys with
  | nil => simp [eqItems]
  | cons x xs ih =>
    cases ys with
    | nil => simp [eqItems]
    | cons y ys =>
      rw [eqItems, Bool.and_eq_true, ih ys]
      constructor
      · rintro ⟨hhead, htail⟩ (_ | i) x' y' hx hy
        · cases hx
          cases hy
          exact hhead
        · exact htail i x' y' hx hy
      · exact fun h => ⟨h 0 x y rfl rfl, fun i => h (i + 1)⟩

/-- Every entry needs an equal one under its key. -/
theorem eqEntries_iff (xs : List (String × Value)) (other : Document) :
    eqEntries scalarLooseEq xs other = true ↔
      ∀ entry ∈ xs, ∃ y, OrderedMap.get? other entry.1 = some y ∧ looseEq entry.2 y = true := by
  induction xs with
  | nil => simp [eqEntries]
  | cons entry xs ih =>
    rw [eqEntries, Bool.and_eq_true, ih, List.forall_mem_cons]
    refine and_congr_left' ?_
    cases OrderedMap.get? other entry.1 with
    | none => simp
    | some y => simp [looseEq]

theorem looseEq_array_iff (xs ys : List Value) : looseEq (.array xs) (.array ys) = true ↔
    xs.length = ys.length ∧ ∀ (i : Nat) x y, xs[i]? = some x → ys[i]? = some y →
    looseEq x y = true := by
  rw [looseEq, eqBy, Bool.and_eq_true, beq_iff_eq, eqItems_iff]

/-- Documents are equal when they have the same keys, with equal values under each. -/
theorem looseEq_document_iff {xs : Document} (hxs : (OrderedMap.keys xs).Nodup) (ys : Document) :
    looseEq (.document xs) (.document ys) = true ↔
      (OrderedMap.keys xs).Perm (OrderedMap.keys ys) ∧ ∀ key x y,
        OrderedMap.get? xs key = some x → OrderedMap.get? ys key = some y → looseEq x y = true := by
  rw [looseEq, eqBy, Bool.and_eq_true, beq_iff_eq, eqEntries_iff]
  constructor
  · rintro ⟨hlength, hentries⟩
    have hsubset : OrderedMap.keys xs ⊆ OrderedMap.keys ys := by
      intro key hkey
      obtain ⟨entry, hentry, rfl⟩ := List.mem_map.mp hkey
      obtain ⟨y, hy, -⟩ := hentries entry hentry
      exact OrderedMap.exists_get?_iff.mp ⟨y, hy⟩
    have hperm : (OrderedMap.keys xs).Perm (OrderedMap.keys ys) :=
      (hxs.subperm hsubset).perm_of_length_le (by simp [OrderedMap.keys, hlength])
    refine ⟨hperm, fun key x y hx hy => ?_⟩
    obtain ⟨y', hy', hequal⟩ := hentries (key, x) (OrderedMap.mem_of_get? hx)
    rwa [← Option.some.inj (hy'.symm.trans hy)]
  · rintro ⟨hperm, hvalues⟩
    refine ⟨by simpa [OrderedMap.keys] using hperm.length_eq, fun entry hentry => ?_⟩
    have hkey : entry.1 ∈ OrderedMap.keys ys := hperm.mem_iff.mp (List.mem_map_of_mem hentry)
    obtain ⟨y, hy⟩ := OrderedMap.exists_get?_iff.mpr hkey
    exact ⟨y, hy, hvalues entry.1 entry.2 y (OrderedMap.get?_of_mem hxs hentry) hy⟩

/-- A list equals lists only. -/
theorem LevelEq.eq_array {xs : List Value} {b : Value} (h : LevelEq (.array xs) b) :
    ∃ ys, b = .array ys ∧ xs.length = ys.length := by
  cases h with
  | numbers ha => cases ha
  | scalars ha => cases ha
  | lists hlength => exact ⟨_, rfl, hlength⟩

/-- A document equals documents only. -/
theorem LevelEq.eq_document {xs : Document} {b : Value} (h : LevelEq (.document xs) b) :
    ∃ ys, b = .document ys ∧ (OrderedMap.keys xs).Perm (OrderedMap.keys ys) := by
  cases h with
  | numbers ha => cases ha
  | scalars ha => cases ha
  | documents hperm => exact ⟨_, rfl, hperm⟩

theorem levelwise_looseEq : Levelwise (fun a b => looseEq a b = true) LevelEq where
  scalar {a b} ha := by rw [looseEq_of_isScalar ha, levelEq_of_isScalar ha]
  array {xs b} := by
    constructor
    · intro h
      cases b with
      | array ys =>
        obtain ⟨hlength, hitems⟩ := (looseEq_array_iff xs ys).mp h
        exact ⟨ys, rfl, .lists hlength, hitems⟩
      | _ => cases h
    · rintro ⟨ys, rfl, hlevel, hitems⟩
      obtain ⟨_, heq, hlength⟩ := hlevel.eq_array
      cases heq
      exact (looseEq_array_iff xs ys).mpr ⟨hlength, hitems⟩
  document {xs b} hxs := by
    constructor
    · intro h
      cases b with
      | document ys =>
        obtain ⟨hperm, hvalues⟩ := (looseEq_document_iff hxs ys).mp h
        exact ⟨ys, rfl, .documents hperm, hvalues⟩
      | _ => cases h
    · rintro ⟨ys, rfl, hlevel, hvalues⟩
      obtain ⟨_, heq, hperm⟩ := hlevel.eq_document
      cases heq
      exact (looseEq_document_iff hxs ys).mpr ⟨hperm, hvalues⟩
  eq_array h := h.eq_array.imp fun _ => And.left
  eq_document h := h.eq_document.imp fun _ => And.left

/-- **Two values are loosely equal if and only if they are equal at each of their places.** -/
theorem looseEq_iff {a : Value} (hkeys : a.DistinctKeys) (b : Value) :
    looseEq a b = true ↔ ∀ u v, Facing a b u v → LevelEq u v :=
  levelwise_looseEq.iff_forall_facing hkeys b

/-! ## Reflexivity, symmetry and the limits of transitivity -/

theorem LevelEq.refl {a : Value} (h : a ≠ .double .nan) : LevelEq a a := by
  cases a with
  | array xs => exact .lists rfl
  | document xs => exact .documents (.refl _)
  | int32 | int64 => exact .numbers rfl rfl (Number.equals_refl Number.noConfusion)
  | double x =>
    exact .numbers rfl rfl (Number.equals_refl fun hnan => h (congrArg _ (Number.float.inj hnan)))
  | _ => exact .scalars trivial rfl

theorem LevelEq.symm {a b : Value} (h : LevelEq a b) : LevelEq b a := by
  cases h with
  | numbers ha hb hequal => exact .numbers hb ha (Number.equals_symm hequal)
  | scalars ha hnumber => exact .scalars ha hnumber
  | lists hlength => exact .lists hlength.symm
  | documents hperm => exact .documents hperm.symm

theorem looseEq_refl {a : Value} (hkeys : a.DistinctKeys) (hnan : a.NaNFree) :
    looseEq a a = true := by
  refine (looseEq_iff hkeys a).mpr fun u v hface => ?_
  obtain rfl := hface.eq rfl
  exact .refl (hnan u hface.part)

/-- Whether integers that stand at the same place in both values are the same integer. -/
def IntegersAgree (a c : Value) : Prop :=
  ∀ u w m n, Facing a c u w →
    Number.ofValue? u = some (.int m) → Number.ofValue? w = some (.int n) → m = n

/-- What equals a common value is equal, unless both are integers. -/
theorem LevelEq.trans {a b c : Value} (hab : LevelEq a b) (hbc : LevelEq b c)
    (hint : ∀ m n, Number.ofValue? a = some (.int m) → Number.ofValue? c = some (.int n) → m = n) :
    LevelEq a c := by
  cases hab with
  | scalars => exact hbc
  | lists hlength =>
    obtain ⟨zs, rfl, hlength'⟩ := hbc.eq_array
    exact .lists (hlength.trans hlength')
  | documents hperm =>
    obtain ⟨zs, rfl, hperm'⟩ := hbc.eq_document
    exact .documents (hperm.trans hperm')
  | numbers ha hb hequal =>
    cases hbc with
    | numbers hb' hc hequal' =>
      cases Option.some.inj (hb.symm.trans hb')
      refine .numbers ha hc (Number.equals_trans hequal hequal' ?_)
      rintro m n rfl rfl
      exact hint m n ha hc
    | scalars _ hnone => rw [hb] at hnone; cases hnone
    | lists => cases hb
    | documents => cases hb

theorem LevelEq.integers_agree {a c : Value} (h : LevelEq a c) {m n : Int64}
    (ha : Number.ofValue? a = some (.int m)) (hc : Number.ofValue? c = some (.int n)) : m = n := by
  cases h with
  | numbers ha' hc' hequal =>
    rw [ha, Option.some.injEq] at ha'
    rw [hc, Option.some.injEq] at hc'
    exact ((Number.equals_iff _ _).mp hequal).2 m n ha'.symm hc'.symm
  | scalars _ hnone => rw [ha] at hnone; cases hnone
  | lists => cases ha
  | documents => cases ha

/-- Between what stands at one place of two values stands something in any value that is equal to
the first one. -/
theorem Facing.between {a c u w : Value} (hface : Facing a c u w) :
    ∀ b, (∀ x y, Facing a b x y → LevelEq x y) → ∃ v, Facing a b u v ∧ Facing b c v w := by
  induction hface with
  | here a c => exact fun b _ => ⟨b, .here a b, .here b c⟩
  | @item xs zs i x z u w hx hz _ ih =>
    intro b hb
    obtain ⟨ys, rfl, hlength⟩ := (hb _ _ (.here _ b)).eq_array
    have hlt : i < ys.length := hlength ▸ (List.getElem?_eq_some_iff.mp hx).1
    have hy : ys[i]? = some ys[i] := List.getElem?_eq_getElem hlt
    obtain ⟨v, huv, hvw⟩ := ih ys[i] fun x y hinner => hb x y (.item hx hy hinner)
    exact ⟨v, .item hx hy huv, .item hy hz hvw⟩
  | @entry xs zs key x z u w hx hz _ ih =>
    intro b hb
    obtain ⟨ys, rfl, hperm⟩ := (hb _ _ (.here _ b)).eq_document
    have hkey : key ∈ OrderedMap.keys ys := hperm.mem_iff.mp (OrderedMap.exists_get?_iff.mp ⟨x, hx⟩)
    obtain ⟨y, hy⟩ := OrderedMap.exists_get?_iff.mpr hkey
    obtain ⟨v, huv, hvw⟩ := ih y fun x y hinner => hb x y (.entry hx hy hinner)
    exact ⟨v, .entry hx hy huv, .entry hy hz hvw⟩

/-- **Loose equality is reflexive and symmetric where no NaN stands, and transitive where integers
are not told apart.** Of two values that are loosely equal to a third, only two integers can tell:
they are compared exactly, but what they both are equal to may be a double, which equals every
integer that rounds to it. -/
theorem looseEq_equivalence_up_to_integers (a b c : Value) (ha : a.DistinctKeys)
    (hb : b.DistinctKeys) (hnan : a.NaNFree) :
    looseEq a a = true ∧ (looseEq a b = true → looseEq b a = true) ∧
      (looseEq a b = true → looseEq b c = true → (looseEq a c = true ↔ IntegersAgree a c)) := by
  rw [looseEq_iff ha a, looseEq_iff ha b, looseEq_iff hb a, looseEq_iff hb c, looseEq_iff ha c]
  refine ⟨fun u v hface => ?_, fun h u v hface => (h v u hface.symm).symm, fun hab hbc => ⟨?_, ?_⟩⟩
  · obtain rfl := hface.eq rfl
    exact .refl (hnan u hface.part)
  · exact fun h u w m n hface hm hn => (h u w hface).integers_agree hm hn
  · intro hagree u w hface
    obtain ⟨v, huv, hvw⟩ := hface.between b hab
    exact (hab u v huv).trans (hbc v w hvw) fun m n => hagree u w m n hface

/-- A count and a list with one reading, in this order of keys. -/
def measurement (count reading : Value) : Value :=
  .document [("count", count), ("readings", .array [reading])]

/-- Key order and the kinds of numbers do not matter, and the count meets itself again behind the
double that it rounds to. -/
theorem looseEq_equivalence_up_to_integers_measurement :
    let count := Value.int64 9007199254740993
    let rounded := Value.double (Double.ofInt 9007199254740992)
    let a := measurement count (.int32 1)
    let b := Value.document [("readings", .array [.double (Double.ofInt 1)]), ("count", rounded)]
    let c := measurement count (.int64 1)
    a.DistinctKeys ∧ b.DistinctKeys ∧ a.NaNFree ∧
      looseEq a a = true ∧ looseEq b a = true ∧ IntegersAgree a c := by
  intro count rounded a b c
  have ha : a.DistinctKeys := by
    simp (disch := decide) [DistinctKeys, throughout_document, throughout_array,
      throughout_of_isScalar, OrderedMap.keys, a, measurement, count]
  have hb : b.DistinctKeys := by
    simp (disch := decide) [DistinctKeys, throughout_document, throughout_array,
      throughout_of_isScalar, OrderedMap.keys, b, rounded]
  have hnan : a.NaNFree := by
    simp (disch := decide) [NaNFree, throughout_document, throughout_array, throughout_of_isScalar,
      a, measurement, count]
  obtain ⟨hrefl, hsymm, htrans⟩ := looseEq_equivalence_up_to_integers a b c ha hb hnan
  have hab : looseEq a b = true := by decide +kernel
  have hbc : looseEq b c = true := by decide +kernel
  have hac : looseEq a c = true := by decide +kernel
  exact ⟨ha, hb, hnan, hrefl, hsymm hab, (htrans hab hbc).mp hac⟩

/-- Two integers next to each other equal the double that both round to, but not each other. -/
theorem exists_looseEq_not_trans :
    ∃ a b c : Value, a.DistinctKeys ∧ b.DistinctKeys ∧ c.DistinctKeys ∧
      a.NaNFree ∧ b.NaNFree ∧ c.NaNFree ∧
      looseEq a b = true ∧ looseEq b c = true ∧ looseEq a c = false := by
  have hscalar {a : Value} (ha : a.IsScalar) (hnan : a ≠ .double .nan) :
      a.DistinctKeys ∧ a.NaNFree := by
    refine ⟨(throughout_of_isScalar ha).mpr ?_, (throughout_of_isScalar ha).mpr hnan⟩
    rintro xs rfl
    cases ha
  let first := Value.int64 9007199254740992
  let rounded := Value.double (Double.ofInt 9007199254740992)
  let second := Value.int64 9007199254740993
  have hfirst := @hscalar first trivial Value.noConfusion
  have hrounded := @hscalar rounded trivial fun h => Double.ofInt_ne_nan _ (Value.double.inj h)
  have hsecond := @hscalar second trivial Value.noConfusion
  exact ⟨first, rounded, second, hfirst.1, hrounded.1, hsecond.1, hfirst.2, hrounded.2, hsecond.2,
    by decide +kernel, by decide +kernel, by decide +kernel⟩

end Value

end DocStore
