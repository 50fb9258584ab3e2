import DocStore.Proofs.Field.Check
import DocStore.Proofs.Number.Rounding
import DocStore.Proofs.Update.Rename
import DocStore.Proofs.Value.RealOrder
/-!
# Extremes

Keeping the greater or the lesser of the current number and the argument is decided by
`Number.compare?`, which looks at a mixed pair as doubles, while values are ordered exactly. So what
is kept is extreme among doubles, in every order of the arguments, and falls behind exactly when it
ties with the argument only as a double (`extreme_update_iff`).
-/

open Std

namespace DocStore

variable {σ : Type}

/-- The two ends of the order of numbers. -/
inductive Extreme where
  | greatest
  | least

namespace Extreme

/-- The operator that keeps the extreme of the current number and the argument. -/
def operator : Extreme → UpdateOperator
  | .greatest => .max
  | .least => .min

/-- How a number stands to one nearer to the end. -/
def behind : Extreme → Ordering
  | .greatest => .lt
  | .least => .gt

/-- The number that is kept, of the current one and the argument. -/
def pick (side : Extreme) (current argument : Number) : Number :=
  if current.compare? argument = some side.behind then argument else current

variable {side : Extreme}

theorem behind_ne_eq : side.behind ≠ .eq := by cases side <;> decide

theorem swap_behind_ne : side.behind.swap ≠ side.behind := by cases side <;> decide

/-- What is not behind something is not behind what that is not behind. -/
theorem not_behind_trans {a b c : Number} (hab : a.totalOrder b ≠ side.behind)
    (hbc : b.totalOrder c ≠ side.behind) : a.totalOrder c ≠ side.behind := by
  cases side with
  | greatest =>
    exact Ordering.isGE_iff_ne_lt.mp
      (TransCmp.isGE_trans (Ordering.isGE_iff_ne_lt.mpr hab) (Ordering.isGE_iff_ne_lt.mpr hbc))
  | least =>
    exact Ordering.isLE_iff_ne_gt.mp
      (TransCmp.isLE_trans (Ordering.isLE_iff_ne_gt.mpr hab) (Ordering.isLE_iff_ne_gt.mpr hbc))

theorem not_behind_refl (a : Number) : a.totalOrder a ≠ side.behind := by
  rw [@ReflCmp.compare_self _ Number.totalOrder _ a]
  exact behind_ne_eq.symm

/-- One of two numbers is not behind the other. -/
theorem not_behind_swap {a b : Number} (h : a.totalOrder b = side.behind) :
    b.totalOrder a ≠ side.behind := by
  rw [@OrientedCmp.eq_swap _ Number.totalOrder _ b a, h]
  exact swap_behind_ne

/-- Neither of two numbers is behind the other when they tie. -/
theorem eq_of_not_behind {a b : Number} (hab : a.totalOrder b ≠ side.behind)
    (hba : b.totalOrder a ≠ side.behind) : a.totalOrder b = .eq := by
  rw [@OrientedCmp.eq_swap _ Number.totalOrder _ b a] at hba
  revert hab hba
  cases side <;> cases a.totalOrder b <;> decide

/-! ### One argument -/

theorem arithmetic?_eq {m n : Number} (hm : m ≠ .float .nan) (hn : n ≠ .float .nan) :
    Field.arithmetic? side.operator (some m) n = some (side.pick m n) := by
  obtain ⟨order, hcompare, -⟩ := Number.exists_compare? hm hn
  cases side <;> cases order <;> simp [operator, Field.arithmetic?, pick, behind, hcompare]

theorem pick_of_compare? {m n : Number} {order : Ordering} (h : m.compare? n = some order) :
    side.pick m n = if order = side.behind then n else m := by
  simp only [pick, h, Option.some.injEq]

theorem pick_eq_or (side : Extreme) (m n : Number) : side.pick m n = m ∨ side.pick m n = n := by
  rw [pick]
  split
  · exact .inr rfl
  · exact .inl rfl

/-- As a double, the number kept is behind neither. -/
theorem pick_rounded {m n : Number} (hm : m ≠ .float .nan) (hn : n ≠ .float .nan) :
    (side.pick m n).rounded.totalOrder m.rounded ≠ side.behind ∧
      (side.pick m n).rounded.totalOrder n.rounded ≠ side.behind := by
  obtain ⟨order, hcompare, -, hrounded⟩ := Number.exists_compare? hm hn
  rw [pick_of_compare? hcompare]
  split
  · next hbehind =>
    refine ⟨?_, not_behind_refl _⟩
    rcases hrounded with hsame | htie
    · exact not_behind_swap (hsame.trans hbehind)
    · rw [@OrientedCmp.eq_swap _ Number.totalOrder, htie]
      exact behind_ne_eq.symm
  · next hkept =>
    refine ⟨not_behind_refl _, ?_⟩
    rcases hrounded with hsame | htie
    · rwa [hsame]
    · rw [htie]
      exact behind_ne_eq.symm

/-- Exactly, the number kept is behind one of the two where the current one ties with the argument
only as a double, and is behind it. -/
theorem pick_not_behind_iff {m n : Number} (hm : m ≠ .float .nan) (hn : n ≠ .float .nan) :
    ((side.pick m n).totalOrder m ≠ side.behind ∧ (side.pick m n).totalOrder n ≠ side.behind) ↔
      ¬ (m.equals n = true ∧ m.totalOrder n = side.behind) := by
  obtain ⟨order, hcompare, hexact, -⟩ := Number.exists_compare? hm hn
  have hequals : m.equals n = true ↔ order = .eq := by
    rw [Number.equals, hcompare, Option.some_beq_some, beq_iff_eq]
  rw [pick_of_compare? hcompare, hequals]
  split
  · next hbehind =>
    have hne : order ≠ .eq := hbehind ▸ behind_ne_eq
    have hsame : m.totalOrder n = side.behind := (hexact.resolve_right hne).symm.trans hbehind
    simp [hne, not_behind_refl, not_behind_swap hsame]
  · next hkept =>
    rcases hexact with hsame | htie
    · simp [not_behind_refl, ← hsame, hkept]
    · simp [not_behind_refl, htie]

/-! ### One argument after another -/

/-- A choice between two that is behind neither is, taken along a list, behind nothing. -/
theorem foldl_pick {R : Number → Number → Prop} (hrefl : ∀ a, R a a)
    (htrans : ∀ {a b c}, R a b → R b c → R a c) {ns : List Number} {m : Number}
    (hpick : ∀ a ∈ m :: ns, ∀ b ∈ m :: ns, R (side.pick a b) a ∧ R (side.pick a b) b) :
    ns.foldl side.pick m ∈ m :: ns ∧ ∀ y ∈ m :: ns, R (ns.foldl side.pick m) y := by
  induction ns generalizing m with
  | nil => simp [hrefl]
  | cons n ns ih =>
    have hmem : ∀ a ∈ side.pick m n :: ns, a ∈ m :: n :: ns := by
      rintro a (_ | ⟨_, ha⟩)
      · rcases side.pick_eq_or m n with h | h <;> simp [h]
      · exact List.mem_cons_of_mem _ (List.mem_cons_of_mem _ ha)
    obtain ⟨hfold, hbest⟩ := ih fun a ha b hb => hpick a (hmem a ha) b (hmem b hb)
    have hpicked := hbest _ List.mem_cons_self
    obtain ⟨hm, hn⟩ := hpick m (by simp) n (by simp)
    refine ⟨hmem _ hfold, fun y hy => ?_⟩
    rcases List.mem_cons.mp hy with rfl | hy
    · exact htrans hpicked hm
    rcases List.mem_cons.mp hy with rfl | hy
    · exact htrans hpicked hn
    · exact hbest y (List.mem_cons_of_mem _ hy)

theorem foldl_pick_rounded (side : Extreme) {ns : List Number} {m : Number}
    (hnan : ∀ a ∈ m :: ns, a ≠ .float .nan) :
    ns.foldl side.pick m ∈ m :: ns ∧
      ∀ y ∈ m :: ns, (ns.foldl side.pick m).rounded.totalOrder y.rounded ≠ side.behind :=
  foldl_pick (R := fun a b => a.rounded.totalOrder b.rounded ≠ side.behind)
    (fun a => not_behind_refl a.rounded) not_behind_trans
    fun a ha b hb => pick_rounded (hnan a ha) (hnan b hb)

end Extreme

/-- Numbers that tie as doubles tie. -/
def Number.Untied (numbers : List Number) : Prop :=
  ∀ a ∈ numbers, ∀ b ∈ numbers, a.equals b = true → a.totalOrder b = .eq

theorem Number.Untied.perm {ns ns' : List Number} (h : Untied ns) (hperm : ns.Perm ns') :
    Untied ns' :=
  fun a ha b hb => h a (hperm.mem_iff.mpr ha) b (hperm.mem_iff.mpr hb)

theorem Extreme.foldl_pick_exact (side : Extreme) {ns : List Number} {m : Number}
    (hnan : ∀ a ∈ m :: ns, a ≠ .float .nan) (huntied : Number.Untied (m :: ns)) :
    ∀ y ∈ m :: ns, (ns.foldl side.pick m).totalOrder y ≠ side.behind := by
  refine (foldl_pick (R := fun a b => a.totalOrder b ≠ side.behind) not_behind_refl
    not_behind_trans fun a ha b hb => ?_).2
  refine (pick_not_behind_iff (hnan a ha) (hnan b hb)).mpr fun ⟨hequals, hbehind⟩ => ?_
  exact behind_ne_eq (hbehind.symm.trans (huntied a ha b hb hequals))

/-! ### The operators -/

/-- A number other than the NaN. -/
def Value.IsNumber (value : Value) : Prop :=
  ∃ n, Number.ofValue? value = some n ∧ n ≠ .float .nan

/-- The fields that compute with numbers. -/
def Field.IsNumeric (field : Field σ) : Prop := field.kind = .number ∨ field.kind = .integer

theorem Field.IsNumeric.update_eq {field : Field σ} (h : field.IsNumeric)
    (operator : UpdateOperator) (value : Option Value) (argument : Value) (data : Document) :
    field.update operator value argument data =
      updateNumber field.path operator value argument data := by
  rcases h with h | h <;> rw [Field.update, h]

theorem Field.IsNumeric.contains_operator {field : Field σ} (h : field.IsNumeric)
    (side : Extreme) : field.updateOperators.contains side.operator = true := by
  cases field with
  | scalar path kind options =>
    rcases h with h | h <;> cases kind <;> cases h <;> cases side <;> rfl
  | _ => rcases h with h | h <;> cases h

/-- A field stores the number that is kept. -/
theorem Field.IsNumeric.update_extreme {field : Field σ} (h : field.IsNumeric) (side : Extreme)
    {current argument : Value} {m n : Number} (hcurrent : Number.ofValue? current = some m)
    (hargument : Number.ofValue? argument = some n) (hm : m ≠ .float .nan) (hn : n ≠ .float .nan)
    (data : Document) :
    field.update side.operator (some current) argument data =
      .ok (some (side.pick m n).toValue, data) := by
  have harithmetic : Field.isArithmetic side.operator = true := by cases side <;> rfl
  rw [h.update_eq, updateNumber, harithmetic, hargument, Bool.not_true, if_neg Bool.false_ne_true]
  dsimp only
  rw [Option.bind_some, hcurrent, side.arithmetic?_eq hm hn, Option.map_some]

namespace Schema

/-- Updating the extreme at a path with one argument after another leaves a value there. -/
def LeavesExtreme (schema : Schema σ) (side : Extreme) (path : String) (doc : Document)
    (arguments : List Value) (value : Value) : Prop :=
  ∃ update after,
    schema.prepareUpdate (.mutations (arguments.map (.operator path side.operator))) = .ok update ∧
      update.apply doc = .ok after ∧ after.get? path = some value

variable {schema : Schema σ} {path : String}

theorem prepareUpdate_extreme (h : (schema.fieldOrMixed path).IsNumeric) (side : Extreme)
    (arguments : List Value) :
    schema.prepareUpdate (.mutations (arguments.map (.operator path side.operator))) =
      .ok ⟨arguments.map fun argument =>
        (.operator path side.operator argument, schema.fieldOrMixed path)⟩ := by
  have hresolve (argument : Value) :
      schema.compileMutation (.operator path side.operator argument) =
        .ok (.operator path side.operator argument, schema.fieldOrMixed path) :=
    if_pos (h.contains_operator side)
  have hsteps : (arguments.map (.operator path side.operator)).mapM schema.compileMutation =
      .ok (arguments.map fun argument =>
        (.operator path side.operator argument, schema.fieldOrMixed path)) :=
    mapM_map_eq_ok_iff.mpr fun argument _ => hresolve argument
  rw [prepareUpdate, compileUpdate, hsteps]
  rfl

/-- One argument leaves the number that is kept. -/
theorem applyStep_extreme {field : Field σ} (h : field.IsNumeric) (side : Extreme) {doc : Document}
    {current argument : Value} {m n : Number} (hget : doc.get? path = some current)
    (hcurrent : Number.ofValue? current = some m) (hargument : Number.ofValue? argument = some n)
    (hm : m ≠ .float .nan) (hn : n ≠ .float .nan) :
    CompiledUpdate.applyStep doc (.operator path side.operator argument, field) =
      .ok (doc.set path (side.pick m n).toValue) := by
  rw [CompiledUpdate.applyStep, hget, h.update_extreme side hcurrent hargument hm hn]
  rfl

/-- The arguments are taken in turn. -/
theorem foldlM_extreme {field : Field σ} (h : field.IsNumeric) (side : Extreme)
    {arguments : List Value} (harguments : ∀ argument ∈ arguments, argument.IsNumber)
    {doc : Document} {current : Value} {m : Number} (hget : doc.get? path = some current)
    (hcurrent : Number.ofValue? current = some m) (hm : m ≠ .float .nan) :
    ∃ after value,
      (arguments.map fun argument => (Mutation.operator path side.operator argument, field)).foldlM
          CompiledUpdate.applyStep doc = .ok after ∧
        after.get? path = some value ∧
        Number.ofValue? value = some ((arguments.filterMap Number.ofValue?).foldl side.pick m) := by
  induction arguments generalizing doc current m with
  | nil => exact ⟨doc, current, rfl, hget, hcurrent⟩
  | cons argument arguments ih =>
    obtain ⟨n, hn, hnan⟩ := harguments argument List.mem_cons_self
    have hpicked : side.pick m n ≠ .float .nan := by
      rcases side.pick_eq_or m n with hpick | hpick <;> rwa [hpick]
    obtain ⟨after, value, hrest, hafter, hvalue⟩ :=
      ih (fun other hother => harguments other (List.mem_cons_of_mem _ hother))
        (Document.get?_set_self doc path (side.pick m n).toValue) (Field.ofValue?_toValue _) hpicked
    refine ⟨after, value, ?_, hafter, ?_⟩
    · rw [List.map_cons, List.foldlM_cons, applyStep_extreme h side hget hcurrent hn hm hnan]
      exact hrest
    · rw [List.filterMap_cons, hn]
      exact hvalue

theorem leavesExtreme_foldl (h : (schema.fieldOrMixed path).IsNumeric) (side : Extreme)
    {arguments : List Value} (harguments : ∀ argument ∈ arguments, argument.IsNumber)
    {doc : Document} {current : Value} {m : Number} (hget : doc.get? path = some current)
    (hcurrent : Number.ofValue? current = some m) (hm : m ≠ .float .nan) :
    ∃ value, schema.LeavesExtreme side path doc arguments value ∧
      Number.ofValue? value =
        some ((arguments.filterMap Number.ofValue?).foldl side.pick m) := by
  obtain ⟨after, value, hrun, hafter, hvalue⟩ := foldlM_extreme h side harguments hget hcurrent hm
  exact ⟨value, ⟨_, after, prepareUpdate_extreme h side arguments, hrun, hafter⟩, hvalue⟩

/-- **What `$max` and `$min` keep is extreme, but for ties as doubles.** In a field of numbers, the
value stored is the current one or the argument, and it is behind neither of them in the order of
values exactly when they do not tie as doubles with the current one behind. Of one argument after
another, in any order, a number is left that is the same as a double; and when no two of the numbers
tie only as doubles, what is left ties in the order of values too, and is behind none of them. -/
theorem extreme_update_iff (side : Extreme) (schema : Schema σ) {path : String}
    (hnumeric : (schema.fieldOrMixed path).IsNumeric) {current : Value} {m : Number}
    (hcurrent : Number.ofValue? current = some m) (hm : m ≠ .float .nan) :
    (∀ argument n data, Number.ofValue? argument = some n → n ≠ .float .nan →
      ∃ stored,
        (schema.fieldOrMixed path).update side.operator (some current) argument data =
          .ok (some stored, data) ∧
        (stored = m.toValue ∨ stored = n.toValue) ∧
        ((stored.order current ≠ side.behind ∧ stored.order argument ≠ side.behind) ↔
          ¬ (m.equals n = true ∧ current.order argument = side.behind))) ∧
    ∀ doc xs ys, doc.get? path = some current → (∀ x ∈ xs, x.IsNumber) → xs.Perm ys →
      ∃ v w r r',
        schema.LeavesExtreme side path doc xs v ∧ schema.LeavesExtreme side path doc ys w ∧
        Number.ofValue? v = some r ∧ Number.ofValue? w = some r' ∧
        r ∈ m :: xs.filterMap Number.ofValue? ∧ r.toDouble.equals r'.toDouble = true ∧
        (Number.Untied (m :: xs.filterMap Number.ofValue?) →
          v.order w = .eq ∧ ∀ x ∈ current :: xs, v.order x ≠ side.behind) := by
  refine ⟨fun argument n data hargument hn => ?_, fun doc xs ys hget hxs hperm => ?_⟩
  · refine ⟨_, hnumeric.update_extreme side hcurrent hargument hm hn data, ?_, ?_⟩
    · exact (side.pick_eq_or m n).imp (congrArg Number.toValue) (congrArg Number.toValue)
    · have hstored := Field.ofValue?_toValue (side.pick m n)
      rw [Value.order_of_ofValue? hstored hcurrent, Value.order_of_ofValue? hstored hargument,
        Value.order_of_ofValue? hcurrent hargument]
      exact Extreme.pick_not_behind_iff hm hn
  · have hnumbers := hperm.filterMap Number.ofValue?
    have hcons := hnumbers.cons m
    have hys : ∀ y ∈ ys, y.IsNumber := fun y hy => hxs y (hperm.mem_iff.mpr hy)
    have hnan : ∀ a ∈ m :: xs.filterMap Number.ofValue?, a ≠ .float .nan := by
      rintro a (_ | ⟨_, ha⟩)
      · exact hm
      · obtain ⟨x, hx, hax⟩ := List.mem_filterMap.mp ha
        obtain ⟨n, hn, hne⟩ := hxs x hx
        rw [hn, Option.some.injEq] at hax
        exact hax ▸ hne
    have hnan' : ∀ a ∈ m :: ys.filterMap Number.ofValue?, a ≠ .float .nan :=
      fun a ha => hnan a (hcons.mem_iff.mpr ha)
    obtain ⟨v, hv, hr⟩ := leavesExtreme_foldl hnumeric side hxs hget hcurrent hm
    obtain ⟨w, hw, hr'⟩ := leavesExtreme_foldl hnumeric side hys hget hcurrent hm
    obtain ⟨hmem, hbest⟩ := side.foldl_pick_rounded hnan
    obtain ⟨hmem', hbest'⟩ := side.foldl_pick_rounded hnan'
    refine ⟨v, w, _, _, hv, hw, hr, hr', hmem, ?_, fun huntied => ?_⟩
    · rw [Double.equals, Number.compare?_float (Number.toDouble_ne_nan (hnan _ hmem))
        (Number.toDouble_ne_nan (hnan' _ hmem')), beq_iff_eq, Option.some.injEq]
      exact Extreme.eq_of_not_behind (hbest _ (hcons.mem_iff.mpr hmem'))
        (hbest' _ (hcons.mem_iff.mp hmem))
    · have hexact := side.foldl_pick_exact hnan huntied
      have hexact' := side.foldl_pick_exact hnan' (huntied.perm hcons)
      refine ⟨?_, fun x hx => ?_⟩
      · rw [Value.order_of_ofValue? hr hr']
        exact Extreme.eq_of_not_behind (hexact _ (hcons.mem_iff.mpr hmem'))
          (hexact' _ (hcons.mem_iff.mp hmem))
      · obtain ⟨n, hn, hmemn⟩ : ∃ n, Number.ofValue? x = some n ∧
            n ∈ m :: xs.filterMap Number.ofValue? := by
          rcases List.mem_cons.mp hx with rfl | hx
          · exact ⟨m, hcurrent, List.mem_cons_self⟩
          · obtain ⟨n, hn, -⟩ := hxs x hx
            exact ⟨n, hn, List.mem_cons_of_mem _ (List.mem_filterMap.mpr ⟨x, hx, hn⟩)⟩
        rw [Value.order_of_ofValue? hr hn]
        exact hexact n hmemn

/-- A schema that declares a number. -/
def scoreSchema : Schema Unit := empty.register "score" (.scalar "score" .number .none)

theorem extreme_update_iff_score :
    (∃ stored, (scoreSchema.fieldOrMixed "score").update .max (some (.int64 1)) (.int64 2) [] =
        .ok (some stored, []) ∧ stored.order (.int64 1) ≠ .lt ∧ stored.order (.int64 2) ≠ .lt) ∧
      ∃ v w,
        scoreSchema.LeavesExtreme .greatest "score" [("score", .int64 1)]
          [.int64 2, .int64 3] v ∧
        scoreSchema.LeavesExtreme .greatest "score" [("score", .int64 1)]
          [.int64 3, .int64 2] w := by
  obtain ⟨hone, hmany⟩ := @extreme_update_iff Unit .greatest scoreSchema "score" (.inl rfl)
    (.int64 1) (.int 1) rfl (by decide)
  obtain ⟨stored, hupdate, -, hextreme⟩ := hone (.int64 2) (.int 2) [] rfl (by decide)
  have hnumbers : ∀ x ∈ [Value.int64 2, .int64 3], x.IsNumber := by
    rintro x (_ | ⟨_, _ | ⟨_, ⟨⟩⟩⟩)
    · exact ⟨.int 2, rfl, by decide⟩
    · exact ⟨.int 3, rfl, by decide⟩
  obtain ⟨v, w, -, -, hv, hw, -⟩ := hmany [("score", .int64 1)] [.int64 2, .int64 3]
    [.int64 3, .int64 2] rfl hnumbers (.swap _ _ _)
  exact ⟨⟨stored, hupdate, hextreme.mpr (by decide)⟩, v, w, hv, hw⟩

/-- The double `2 ^ 53` is kept as the greater of itself and the integer after it. -/
theorem exists_greatest_that_is_less :
    ∃ current argument stored,
      (scoreSchema.fieldOrMixed "score").update .max (some current) argument [] =
        .ok (some stored, []) ∧ stored.order argument = .lt := by
  have hnumeric : (scoreSchema.fieldOrMixed "score").IsNumeric := .inl rfl
  have hkept : Extreme.greatest.pick (.float (Double.ofInt 9007199254740992))
      (.int 9007199254740993) = .float (Double.ofInt 9007199254740992) := by decide +kernel
  have hless :
      (Value.double (Double.ofInt 9007199254740992)).order (.int64 9007199254740993) = .lt := by
    decide +kernel
  have hupdate := hnumeric.update_extreme .greatest
    (Field.ofValue?_toValue (.float (Double.ofInt 9007199254740992)))
    (Field.ofValue?_toValue (.int 9007199254740993)) (by decide +kernel) (by decide) []
  rw [hkept] at hupdate
  exact ⟨_, _, _, hupdate, hless⟩

end Schema

end DocStore
