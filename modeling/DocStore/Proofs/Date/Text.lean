import DocStore.Date.Text
import DocStore.Proofs.Date.Calendar
import Mathlib.Algebra.Group.Nat.Defs
import Mathlib.Data.List.TakeWhile
/-!
# Dates read back from their text

A number with leading zeros is read back from its digits (`number_padded`), so the parts of an
instant of the years 0 to 9999 are read back from its text, and with them the instant
(`read?_format?`).
-/

namespace DocStore.Date

/-! ## Numbers with leading zeros -/

theorem toList_pushn (n : Nat) : ("".pushn '0' n).toList = List.replicate n '0' := by
  rw [String.pushn_eq_repeat_push]
  induction n with
  | zero => rfl
  | succ n ih => rw [Nat.repeat, String.toList_push, ih, List.replicate_succ']

/-- The digits of a number of at most `width` digits, with leading zeros. -/
theorem exists_digits (width : Nat) {n : Nat} (hwidth : 0 < width) (hn : n < 10 ^ width) :
    ∃ digits : List Char, (padded width n).toList = digits ∧ digits.length = width ∧
      (∀ c ∈ digits, c.isDigit = true) ∧
      digits.foldl (fun n c => 10 * n + (c.toNat - '0'.toNat)) 0 = n := by
  have hlength : (Nat.toDigits 10 n).length ≤ width :=
    (Nat.length_toDigits_le_iff (by decide) hwidth).mpr hn
  have htext : (padded width n).toList =
      List.replicate (width - (Nat.toDigits 10 n).length) '0' ++ Nat.toDigits 10 n := by
    rw [padded, String.toList_append, toList_pushn, Nat.toString_eq_repr, Nat.toList_repr,
      ← String.length_toList, Nat.toList_repr]
  refine ⟨_, htext, ?_, ?_, ?_⟩
  · rw [List.length_append, List.length_replicate]
    omega
  · intro c hc
    rcases List.mem_append.mp hc with hc | hc
    · rw [List.eq_of_mem_replicate hc]
      rfl
    · exact Nat.isDigit_of_mem_toDigits (by decide) (by decide) hc
  · rw [← Nat.ofDigitChars_eq_foldl, Nat.ofDigitChars_append, Nat.ofDigitChars_replicate_zero,
      Nat.mul_zero, Nat.ofDigitChars_ten_toDigits]

/-- **A number of a fixed width is read back.** -/
theorem number_padded (width : Nat) {n : Nat} (hwidth : 0 < width) (hn : n < 10 ^ width)
    (rest : List Char) : number width width ((padded width n).toList ++ rest) = some (n, rest) := by
  obtain ⟨digits, htext, hlength, hdigits, hvalue⟩ := exists_digits width hwidth hn
  rw [htext, number]
  have htake : (digits ++ rest).take width = digits := by
    rw [← hlength, List.take_left']
    rfl
  have hdrop : (digits ++ rest).drop width = rest := by
    rw [← hlength, List.drop_left']
    rfl
  rw [htake, List.takeWhile_eq_self_iff.mpr hdigits, hlength, if_neg (Nat.lt_irrefl width), hvalue,
    hdrop]

theorem within_padded (low high width : Nat) {n : Nat} (hwidth : 0 < width) (hn : n < 10 ^ width)
    (hlow : low ≤ n) (hhigh : n ≤ high) (rest : List Char) :
    within low high (number width width) ((padded width n).toList ++ rest) = some (n, rest) := by
  rw [within, number_padded width hwidth hn]
  exact if_pos ⟨hlow, hhigh⟩

theorem literal_cons (c : Char) (rest : List Char) : literal c (c :: rest) = some ((), rest) :=
  if_pos rfl

/-- A fraction of three digits is read back in front of what is no digit. -/
theorem fraction_padded {n : Nat} (hn : n < 1000) {c : Char} (hc : c.isDigit = false)
    (rest : List Char) :
    fraction ('.' :: ((padded 3 n).toList ++ c :: rest)) = some (n, c :: rest) := by
  obtain ⟨digits, htext, hlength, hdigits, hvalue⟩ := exists_digits 3 (by decide) hn
  have htake : (digits ++ c :: rest).takeWhile Char.isDigit = digits := by
    rw [List.takeWhile_append_of_pos hdigits, List.takeWhile_cons_of_neg (by simp [hc]),
      List.append_nil]
  have hdrop : (digits ++ c :: rest).dropWhile Char.isDigit = c :: rest := by
    rw [List.dropWhile_append_of_pos hdigits, List.dropWhile_cons_of_neg (by simp [hc])]
  have hnonempty : digits.isEmpty = false := by
    cases digits with
    | nil => cases hlength
    | cons d ds => rfl
  have hleading : (digits ++ ['0', '0', '0']).take 3 = digits := by
    rw [← hlength, List.take_left' rfl]
  rw [htext, fraction]
  simp only [htake, hdrop, hnonempty, hleading, hvalue, Bool.false_eq_true, if_false]

/-! ## The parts of an instant -/

theorem calendarDate_padded {year month day : Nat} (hyear : year < 10000)
    (hmonth : 1 ≤ month ∧ month ≤ 12) (hday : 1 ≤ day ∧ day ≤ 31) (rest : List Char) :
    calendarDate (fun cs => (number 4 4 cs).map fun (y, r) => ((y : Int), r)) (number 2 2)
        ((padded 4 year).toList ++ '-' :: ((padded 2 month).toList ++ '-' ::
          ((padded 2 day).toList ++ rest))) =
      some (⟨year, month, day⟩, rest) := by
  have hm := within_padded 1 12 2 (by decide) (by omega : month < 10 ^ 2) hmonth.1 hmonth.2
  have hd := within_padded 1 31 2 (by decide) (by omega : day < 10 ^ 2) hday.1 hday.2
  simp only [calendarDate, number_padded 4 (by decide) hyear, literal_cons, hm, hd,
    Option.map_some, Option.bind_eq_bind, Option.bind_some]

theorem timeOfDay_padded {hour minute second milli : Nat} (hhour : hour ≤ 23)
    (hminute : minute ≤ 59) (hsecond : second ≤ 59) (hmilli : milli < 1000) {c : Char}
    (hc : c.isDigit = false) (rest : List Char) :
    timeOfDay (number 2 2)
        ((padded 2 hour).toList ++ ':' :: ((padded 2 minute).toList ++ ':' ::
          ((padded 2 second).toList ++ '.' :: ((padded 3 milli).toList ++ c :: rest)))) =
      some (clock hour minute second milli, c :: rest) := by
  have hh := within_padded 0 23 2 (by decide)
    (by omega : hour < 10 ^ 2) (Nat.zero_le _) hhour
  have hm := within_padded 0 59 2 (by decide)
    (by omega : minute < 10 ^ 2) (Nat.zero_le _) hminute
  have hs := within_padded 0 60 2 (by decide)
    (by omega : second < 10 ^ 2) (Nat.zero_le _) (by omega)
  simp only [timeOfDay, hh, hm, hs, literal_cons, fraction_padded hmilli hc, Option.bind_eq_bind,
    Option.bind_some]

/-! ## The text of an instant -/

theorem isBlank_of_isDigit {c : Char} (h : c.isDigit = true) : isBlank c = false := by
  obtain ⟨hlow, hhigh⟩ := Char.isDigit_iff_toNat.mp h
  have hzero : '0'.toNat = 48 := rfl
  have hnine : '9'.toNat = 57 := rfl
  rw [hzero] at hlow
  rw [hnine] at hhigh
  simp only [isBlank]
  generalize c.toNat = n at hlow hhigh
  simp only [Bool.or_eq_false_iff, Bool.and_eq_false_iff, decide_eq_false_iff_not,
    beq_eq_false_iff_ne]
  omega

theorem dropWhile_of_head {cs : List Char} (h : ∀ c ∈ cs.head?, isBlank c = false) :
    cs.dropWhile isBlank = cs := by
  cases cs with
  | nil => rfl
  | cons c cs => rw [List.dropWhile_cons_of_neg (by simp [h c rfl])]

/-- Nothing is cut off where no white space stands at the ends. -/
theorem trim_of_ends {cs : List Char} (hhead : ∀ c ∈ cs.head?, isBlank c = false)
    (hlast : ∀ c ∈ cs.getLast?, isBlank c = false) : trim cs = cs := by
  rw [trim, trimStart, dropWhile_of_head hhead, dropWhile_of_head, List.reverse_reverse]
  rw [List.head?_reverse]
  exact hlast

/-- The characters of the text of an instant of the years 0 to 9999. -/
theorem toList_format {m : Moment} (hmin : 0 ≤ m.date.year) (hmax : m.date.year ≤ 9999) :
    (format m).toList =
      (padded 4 m.date.year.natAbs).toList ++ '-' :: ((padded 2 m.date.month).toList ++ '-' ::
        ((padded 2 m.date.day).toList ++ 'T' :: ((padded 2 m.hour).toList ++ ':' ::
          ((padded 2 m.minute).toList ++ ':' :: ((padded 2 m.second).toList ++ '.' ::
            ((padded 3 m.millisecond).toList ++ ['Z'])))))) := by
  have hneg : ¬ m.date.year < 0 := by omega
  have hbig : ¬ 9999 < m.date.year := by omega
  simp [format, yearText, hneg, hbig, String.toList_append]

theorem getLast?_format (m : Moment) : (format m).toList.getLast? = some 'Z' := by
  rw [format, String.toList_append]
  exact List.getLast?_concat

/-- Nothing is cut off a text that does not begin with white space. -/
theorem trim_format {m : Moment} (hhead : ∀ c ∈ (format m).toList.head?, isBlank c = false) :
    trim (format m).toList = (format m).toList := by
  apply trim_of_ends hhead
  rw [getLast?_format]
  rintro _ ⟨⟩
  decide

theorem clock_parts {m : Moment} :
    clock m.hour m.minute m.second m.millisecond = m.millisOfDay := by
  unfold clock Moment.hour Moment.minute Moment.second Moment.millisecond
  omega

/-- The characters of the text of an instant read as the instant. -/
theorem rfc3339?_format {m : Moment} (hmin : 0 ≤ m.date.year) (hmax : m.date.year ≤ 9999)
    (hmonth : 1 ≤ m.date.month ∧ m.date.month ≤ 12) (hday : 1 ≤ m.date.day ∧ m.date.day ≤ 31)
    (htime : m.millisOfDay < 86400000) (hvalid : m.date.isValid = true) :
    rfc3339? (format m).toList = some (m.date.toDays * millisPerDay + m.millisOfDay) := by
  have hdate := calendarDate_padded (show m.date.year.natAbs < 10000 by omega) hmonth hday
  have hhour : m.hour ≤ 23 := by
    unfold Moment.hour
    omega
  have hminute : m.minute ≤ 59 := by
    unfold Moment.minute
    omega
  have hsecond : m.second ≤ 59 := by
    unfold Moment.second
    omega
  have hmilli : m.millisecond < 1000 := by
    unfold Moment.millisecond
    omega
  have htimeOfDay := timeOfDay_padded hhour hminute hsecond hmilli (c := 'Z') rfl []
  have hyear : (m.date.year.natAbs : Int) = m.date.year := by omega
  rw [toList_format hmin hmax, rfc3339?]
  simp only [hdate, htimeOfDay, Option.bind_eq_bind, Option.bind_some, offset, hyear, instant?,
    clock_parts, List.isEmpty_nil, if_true, if_pos hvalid, Option.map_some]
  simp

variable {millis : Int}

/-- The years 0 to 9999 are supported. -/
theorem inRange_of_year (hmin : 0 ≤ (Moment.ofMillis millis).date.year)
    (hmax : (Moment.ofMillis millis).date.year ≤ 9999) : Moment.inRange millis = true := by
  obtain ⟨hmonth, hfirst, hlast⟩ := Civil.ofDays_bounds (millis / millisPerDay)
  have hdays := Civil.toDays_ofDays (millis / millisPerDay)
  have hleast : Moment.minMillis = -8334601228800000 := by decide
  have hgreatest : Moment.maxMillis = 8210266876799999 := by decide
  have hperDay : millisPerDay = 86400000 := rfl
  rw [Moment.inRange, hleast, hgreatest, Bool.and_eq_true, decide_eq_true_eq, decide_eq_true_eq]
  dsimp only [Moment.ofMillis] at hmin hmax
  rw [hperDay] at hmin hmax hmonth hfirst hlast hdays
  generalize Civil.ofDays (millis / 86400000) = date at *
  have hbounds : -800000 ≤ millis / 86400000 ∧ millis / 86400000 ≤ 3700000 := by
    rw [← hdays]
    unfold Civil.toDays
    dsimp only
    split <;> omega
  omega

/-- **The text of an instant of the years 0 to 9999 reads as the instant.** -/
theorem read?_format? (hmin : 0 ≤ (Moment.ofMillis millis).date.year)
    (hmax : (Moment.ofMillis millis).date.year ≤ 9999) :
    ∃ text, format? millis = some text ∧ read? text = some millis := by
  have hsupported : Civil.minYear = -262143 ∧ Civil.maxYear = 262142 := ⟨rfl, rfl⟩
  have hperDay : millisPerDay = 86400000 := rfl
  obtain ⟨hmonth, hday⟩ := Civil.ofDays_bounds (millis / millisPerDay)
  have hvalid : (Moment.ofMillis millis).date.isValid = true :=
    Civil.isValid_ofDays (by rw [hsupported.1]; exact Int.le_trans (by decide) hmin)
      (by rw [hsupported.2]; exact Int.le_trans hmax (by decide))
  have htime : (Moment.ofMillis millis).millisOfDay < 86400000 := by
    show (millis % millisPerDay).toNat < 86400000
    rw [hperDay]
    omega
  have hread := rfc3339?_format hmin hmax hmonth hday htime hvalid
  have hmillis : (Moment.ofMillis millis).date.toDays * millisPerDay +
      (Moment.ofMillis millis).millisOfDay = millis := by
    show (Civil.ofDays (millis / millisPerDay)).toDays * millisPerDay +
      ((millis % millisPerDay).toNat : Int) = millis
    rw [Civil.toDays_ofDays, hperDay]
    omega
  refine ⟨format (Moment.ofMillis millis), ?_, ?_⟩
  · rw [format?, Moment.ofMillis?, if_pos (inRange_of_year hmin hmax), Option.map_some]
  · obtain ⟨digits, htext, hlength, hdigits, -⟩ :=
      exists_digits 4 (n := (Moment.ofMillis millis).date.year.natAbs) (by decide) (by omega)
    have htrim : trim (format (Moment.ofMillis millis)).toList =
        (format (Moment.ofMillis millis)).toList := by
      apply trim_format
      rw [toList_format hmin hmax, htext]
      cases digits with
      | nil => cases hlength
      | cons c digits =>
        rintro _ ⟨⟩
        exact isBlank_of_isDigit (hdigits c List.mem_cons_self)
    rw [read?, htrim, hread, hmillis]
    rfl

end DocStore.Date
