import DocStore.Field.Update
import DocStore.Proofs.Number.Whole
/-!
# Dates that are moved

`$inc` moves a date forward by milliseconds and `$dec` backward, within the supported years. The
milliseconds pass through a double: an integer beyond `2 ^ 53` may be rounded, and the date is moved
by what is left of it (`Field.update_date`). So a date is moved exactly, or refused where the exact
date is out of range, if and only if the integer is left alone or neither the exact nor the rounded
shift stays in range (`Field.date_shift_exact_iff`).
-/

namespace DocStore

variable {σ : Type}

/-- The ways in which a date is moved. -/
inductive DateShift where
  | later
  | earlier

namespace DateShift

def operator : DateShift → UpdateOperator
  | later => .inc
  | earlier => .dec

def sign : DateShift → Int
  | later => 1
  | earlier => -1

/-- The milliseconds by which an argument moves a date: the integer, rounded to 53 bits. Nothing
where these or their opposite, when the date is moved backward, are no 64-bit integer. -/
def millis? (way : DateShift) (n : Int64) : Option Int :=
  let rounded := Double.roundedUnits n.toInt
  if IsInt64 rounded ∧ IsInt64 (way.sign * rounded) then some (way.sign * rounded) else none

/-- Up to `2 ^ 53` milliseconds, a date is moved by what was asked for. -/
theorem millis?_of_natAbs_le {n : Int64} (h : n.toInt.natAbs ≤ 2 ^ 53) (way : DateShift) :
    way.millis? n = some (way.sign * n.toInt) := by
  have hin : IsInt64 n.toInt ∧ IsInt64 (way.sign * n.toInt) := by
    cases way <;> simp only [sign, IsInt64, int64Least, int64Greatest] <;> omega
  rw [millis?, Double.roundedUnits_of_natAbs_le h]
  exact if_pos hin

end DateShift

/-- The outcome of a move to an instant: a date where the instant lies in the supported years, and a
refusal of the query otherwise. -/
def MovesTo (outcome : Except StoreError (Option Value × Document)) (instant : Int)
    (data : Document) :
    Prop :=
  if Moment.inRange instant then outcome = .ok (some (.dateTime (Int64.ofInt instant)), data)
  else ∃ fault, outcome = .error (.invalidQuery fault)

theorem isInt64_of_inRange {instant : Int} (h : Moment.inRange instant = true) :
    IsInt64 instant := by
  have hleast : Moment.minMillis = -8334601228800000 := by decide
  have hgreatest : Moment.maxMillis = 8210266876799999 := by decide
  simp only [Moment.inRange, hleast, hgreatest, Bool.and_eq_true, decide_eq_true_eq] at h
  simp only [IsInt64, int64Least, int64Greatest]
  omega

theorem movesTo_ok_iff {a : Int} (ha : Moment.inRange a = true) (b : Int) (data : Document) :
    MovesTo (.ok (some (.dateTime (Int64.ofInt a)), data)) b data ↔ a = b := by
  rw [MovesTo]
  split
  · next hb =>
    simp only [Except.ok.injEq, Prod.mk.injEq, Option.some.injEq, Value.dateTime.injEq, and_true]
    refine ⟨fun hsame => ?_, congrArg Int64.ofInt⟩
    have ha' := int64?_eq_some_iff.mp (if_pos (isInt64_of_inRange ha))
    have hb' := int64?_eq_some_iff.mp (if_pos (isInt64_of_inRange hb))
    rw [← ha', ← hb', hsame]
  · next hb =>
    constructor
    · rintro ⟨fault, hfault⟩
      cases hfault
    · rintro rfl
      exact absurd ha hb

theorem movesTo_error_iff (fault : QueryFault) (b : Int) (data : Document) :
    MovesTo (.error (.invalidQuery fault)) b data ↔ Moment.inRange b = false := by
  rw [MovesTo]
  cases hb : Moment.inRange b with
  | true => simp
  | false => simp

namespace Field

/-- The milliseconds of an integer argument, as they are read. -/
theorem millis?_eq {argument : Value} {n : Int64} (h : Number.ofValue? argument = some (.int n))
    (way : DateShift) :
    way.millis? n =
      (wholeMillis? argument).bind fun millis => (int64? (way.sign * millis)).map Int64.toInt := by
  rw [wholeMillis?, h, Option.bind_some, Number.toDouble, Double.truncate?_ofInt,
    Option.filter_some, DateShift.millis?]
  by_cases hrounded : IsInt64 (Double.roundedUnits n.toInt)
  · rw [if_pos (decide_eq_true hrounded), Option.bind_some]
    by_cases hmoved : IsInt64 (way.sign * Double.roundedUnits n.toInt)
    · have hdelta : int64? (way.sign * Double.roundedUnits n.toInt) = some _ := if_pos hmoved
      rw [if_pos ⟨hrounded, hmoved⟩, hdelta, Option.map_some, int64?_eq_some_iff.mp hdelta]
    · rw [if_neg (mt And.right hmoved), int64?_eq_none_iff.mpr hmoved, Option.map_none]
  · rw [if_neg (mt of_decide_eq_true hrounded), if_neg (mt And.left hrounded), Option.bind_none]

section

variable {field : Field σ} (hdate : field.kind = .date) (way : DateShift) (start : Int64)
  {argument : Value} {n : Int64} (hargument : Number.ofValue? argument = some (.int n))
  (data : Document)

include hdate

theorem update_date (value : Option Value) (argument : Value) :
    field.update way.operator value argument data =
      (shiftDate field.path way.operator way.sign value argument).map fun value =>
        (value, data) := by
  rw [update, hdate]
  cases way <;> rfl

include hargument

/-- A date is moved by the milliseconds that are read, within the supported years. -/
theorem update_date_of_inRange {millis : Int} (hmillis : way.millis? n = some millis)
    (hrange : Moment.inRange (start.toInt + millis) = true) :
    field.update way.operator (some (.dateTime start)) argument data =
      .ok (some (.dateTime (Int64.ofInt (start.toInt + millis))), data) := by
  rw [millis?_eq hargument] at hmillis
  obtain ⟨whole, hwhole, hmillis⟩ := Option.bind_eq_some_iff.mp hmillis
  obtain ⟨delta, hdelta, rfl⟩ := Option.map_eq_some_iff.mp hmillis
  rw [update_date hdate, shiftDate, hwhole]
  simp only [Option.bind_some, Value.asDateTime?, hdelta, Option.map_some,
    Option.filter_some, hrange, if_true, Except.map]

/-- Where no milliseconds are read, or these lead out of the supported years, the query is
refused. -/
theorem update_date_refused
    (h : ∀ millis, way.millis? n = some millis → Moment.inRange (start.toInt + millis) = false) :
    ∃ fault, field.update way.operator (some (.dateTime start)) argument data =
      .error (.invalidQuery fault) := by
  rw [millis?_eq hargument] at h
  rw [update_date hdate, shiftDate]
  cases hwhole : wholeMillis? argument with
  | none => exact ⟨_, rfl⟩
  | some whole =>
    rw [hwhole, Option.bind_some] at h
    simp only [Option.bind_some, Value.asDateTime?]
    cases hdelta : int64? (way.sign * whole) with
    | none => exact ⟨_, rfl⟩
    | some delta =>
      rw [hdelta, Option.map_some] at h
      simp only [Option.map_some, Option.filter_some, h _ rfl, Bool.false_eq_true, if_false]
      exact ⟨_, rfl⟩

end

/-- **A date is moved exactly, but for the rounding of the milliseconds.** For every date and every
integer `n`, `$inc` moves the date to `n` milliseconds later and `$dec` to `n` milliseconds earlier,
where that lies in the supported years, and refuses the query where it does not, if and only if `n`
is read as it is, or neither it nor what is read of it leads to a supported year. Up to `2 ^ 53`
milliseconds are read as they are. -/
theorem date_shift_exact_iff {field : Field σ} (hdate : field.kind = .date) (way : DateShift)
    (start : Int64) {argument : Value} {n : Int64}
    (hargument : Number.ofValue? argument = some (.int n)) (data : Document) :
    (MovesTo (field.update way.operator (some (.dateTime start)) argument data)
        (start.toInt + way.sign * n.toInt) data ↔
      way.millis? n = some (way.sign * n.toInt) ∨
        Moment.inRange (start.toInt + way.sign * n.toInt) = false ∧
          ∀ millis, way.millis? n = some millis → Moment.inRange (start.toInt + millis) = false) ∧
    (n.toInt.natAbs ≤ 2 ^ 53 → way.millis? n = some (way.sign * n.toInt)) := by
  refine ⟨?_, fun hsmall => DateShift.millis?_of_natAbs_le hsmall way⟩
  by_cases hmoved :
      ∃ millis, way.millis? n = some millis ∧ Moment.inRange (start.toInt + millis) = true
  · obtain ⟨millis, hmillis, hrange⟩ := hmoved
    rw [update_date_of_inRange hdate way start hargument data hmillis hrange, movesTo_ok_iff hrange,
      hmillis, Option.some.injEq, Int.add_right_inj]
    refine ⟨Or.inl, fun h => h.resolve_right ?_⟩
    rintro ⟨-, hout⟩
    rw [hout millis rfl] at hrange
    cases hrange
  · have hout : ∀ millis, way.millis? n = some millis →
        Moment.inRange (start.toInt + millis) = false :=
      fun millis hmillis => Bool.eq_false_iff.mpr fun hrange => hmoved ⟨millis, hmillis, hrange⟩
    obtain ⟨fault, hrefused⟩ := update_date_refused hdate way start hargument data hout
    rw [hrefused, movesTo_error_iff]
    exact ⟨fun h => .inr ⟨h, hout⟩, fun h => h.elim (hout _) And.left⟩

/-- A date of any year. -/
def createdField : Field Unit := .scalar "created" .date .none

/-- From the first instant of the supported years by the last integer of which all before are read
as they are. -/
theorem date_shift_exact_iff_created :
    createdField.update .inc (some (.dateTime (-8334601228800000))) (.int64 9007199254740992) [] =
      .ok (some (.dateTime 672598025940992), []) := by
  obtain ⟨hexact, hread⟩ := @date_shift_exact_iff Unit createdField rfl .later (-8334601228800000)
    (.int64 9007199254740992) 9007199254740992 rfl []
  exact hexact.mpr (.inl (hread (by decide)))

/-- A date is moved by one millisecond less than was asked for, within the supported years. -/
theorem exists_date_shift_that_rounds :
    ∃ start n moved : Int64, Moment.inRange (start.toInt + n.toInt) = true ∧
      createdField.update .inc (some (.dateTime start)) (.int64 n) [] =
        .ok (some (.dateTime moved), []) ∧
      moved.toInt = start.toInt + n.toInt - 1 := by
  have hread : DateShift.later.millis? 9007199254740993 = some 9007199254740992 := by decide +kernel
  exact ⟨-1000000000000000, 9007199254740993, 8007199254740992, by decide,
    @update_date_of_inRange Unit createdField rfl .later (-1000000000000000)
      (.int64 9007199254740993) 9007199254740993 rfl [] _ hread (by decide), by decide⟩

end Field

end DocStore
