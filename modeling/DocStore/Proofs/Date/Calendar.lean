import DocStore.Date.Calendar
/-!
# Dates of day counts

`Civil.ofDays` cuts a count of days into eras of 400 years, years and months. The number of the year
in its era grows with the day, so its values at the first and the last days of all years
(`yearOfEra_first`, `yearOfEra_last`) decide it everywhere. From this, `Civil.toDays` takes every
date back to its count of days (`toDays_ofDays`), and every date is a day of the calendar
(`isValid_ofDays`).
-/

namespace DocStore.Civil

/-- The number of the year of a day of an era, from March. -/
def yearOfEra (day : Int) : Int := (day - day / 1460 + day / 36524 - day / 146096) / 365

/-- The first day of a year of an era. -/
def firstDay (year : Int) : Int := 365 * year + year / 4 - year / 100

theorem yearOfEra_first : ∀ year ∈ List.range 400, yearOfEra (firstDay year) = year := by
  decide +kernel

theorem yearOfEra_last : ∀ year ∈ List.range 399, yearOfEra (firstDay (year + 1) - 1) = year := by
  decide +kernel

/-- Every hundred and forty-sixth thousandth day is also one of the fourth part of that. -/
theorem div_century (day : Int) : day / 36524 / 4 = day / 146096 := by
  rw [Int.ediv_ediv_of_nonneg (by decide)]
  rfl

theorem yearOfEra_le_succ (day : Int) : yearOfEra day ≤ yearOfEra (day + 1) := by
  have hquad : (day + 1) / 1460 ≤ day / 1460 + 1 := by omega
  have hcentury : (day + 1) / 36524 = day / 36524 ∨ (day + 1) / 36524 = day / 36524 + 1 := by
    omega
  have hera : (day + 1) / 146096 - day / 146096 ≤ (day + 1) / 36524 - day / 36524 := by
    rw [← div_century, ← div_century]
    omega
  apply Int.ediv_le_ediv (by decide)
  -- only the quotients matter from here on
  generalize (day + 1) / 1460 = a, day / 1460 = b, (day + 1) / 36524 = c, day / 36524 = d,
    (day + 1) / 146096 = e, day / 146096 = f at *
  omega

theorem yearOfEra_mono {a b : Int} (h : a ≤ b) : yearOfEra a ≤ yearOfEra b := by
  obtain ⟨n, rfl⟩ : ∃ n : Nat, b = a + n := ⟨(b - a).toNat, by omega⟩
  clear h
  induction n with
  | zero => simp
  | succ n ih =>
    have hstep := yearOfEra_le_succ (a + n)
    rw [Int.natCast_succ, ← Int.add_assoc]
    omega

/-- A day lies in the year that is computed for it. -/
theorem yearOfEra_spec {day : Int} (hfirst : 0 ≤ day) (hlast : day < 146097) :
    (0 ≤ yearOfEra day ∧ yearOfEra day < 400) ∧ firstDay (yearOfEra day) ≤ day ∧
      (day < firstDay (yearOfEra day + 1) ∨ yearOfEra day = 399) := by
  have hbounds : 0 ≤ yearOfEra day ∧ yearOfEra day < 400 := by
    unfold yearOfEra
    omega
  refine ⟨hbounds, ?_, ?_⟩
  · by_cases hzero : yearOfEra day = 0
    · rw [hzero]
      exact hfirst
    · by_cases hle : firstDay (yearOfEra day) ≤ day
      · exact hle
      · -- the last day of the year before would lie in this year
        obtain ⟨n, hn⟩ : ∃ n : Nat, yearOfEra day = n + 1 := ⟨(yearOfEra day - 1).toNat, by omega⟩
        have hbefore := yearOfEra_last n (List.mem_range.mpr (by omega))
        have hmono : yearOfEra day ≤ yearOfEra (firstDay (n + 1) - 1) := by
          apply yearOfEra_mono
          rw [← hn]
          omega
        omega
  · by_cases hend : yearOfEra day = 399
    · exact .inr hend
    · left
      by_cases hlt : day < firstDay (yearOfEra day + 1)
      · exact hlt
      · -- the first day of the year after would lie in this year
        obtain ⟨n, hn⟩ : ∃ n : Nat, yearOfEra day = n := ⟨(yearOfEra day).toNat, by omega⟩
        have hafter := yearOfEra_first (n + 1) (List.mem_range.mpr (by omega))
        have hmono : yearOfEra (firstDay (n + 1 : Nat)) ≤ yearOfEra day := by
          apply yearOfEra_mono
          rw [Int.natCast_succ, ← hn]
          omega
        omega

/-- The date of a day of a year of an era. -/
def ofParts (era year day : Int) : Civil :=
  let fromMarch := (5 * day + 2) / 153
  let month := if fromMarch < 10 then fromMarch + 3 else fromMarch - 9
  ⟨if month ≤ 2 then year + era * 400 + 1 else year + era * 400, month.toNat,
    (day - (153 * fromMarch + 2) / 5 + 1).toNat⟩

/-- Every count of days has its parts. -/
theorem exists_parts (days : Int) :
    ∃ era year day : Int, (0 ≤ year ∧ year < 400) ∧ (0 ≤ day ∧ day < 366) ∧
      (day < firstDay (year + 1) - firstDay year ∨ year = 399) ∧
      days = era * 146097 + firstDay year + day - 719468 ∧ ofDays days = ofParts era year day := by
  have hfirst : 0 ≤ days + 719468 - (days + 719468) / 146097 * 146097 := by omega
  have hlast : days + 719468 - (days + 719468) / 146097 * 146097 < 146097 := by omega
  generalize hday : days + 719468 - (days + 719468) / 146097 * 146097 = day at hfirst hlast
  obtain ⟨hyear, hle, hlt⟩ := yearOfEra_spec hfirst hlast
  have hnext : day < firstDay (yearOfEra day) + 366 := by
    generalize yearOfEra day = year at hyear hle hlt
    unfold firstDay at hlt ⊢
    omega
  refine ⟨(days + 719468) / 146097, yearOfEra day, day - firstDay (yearOfEra day), hyear,
    ⟨by omega, by omega⟩, ?_, by omega, ?_⟩
  · exact hlt.imp_left fun h => by omega
  · subst hday
    rfl

variable {era year day : Int}

/-- The month of a day, from March. -/
theorem fromMarch_bounds (hday : 0 ≤ day ∧ day < 366) :
    0 ≤ (5 * day + 2) / 153 ∧ (5 * day + 2) / 153 ≤ 11 := by
  omega

/-- A date goes back to the day that it was made from. -/
theorem toDays_ofParts (hyear : 0 ≤ year ∧ year < 400) (hday : 0 ≤ day ∧ day < 366) :
    (ofParts era year day).toDays = era * 146097 + firstDay year + day - 719468 := by
  have hbounds := fromMarch_bounds hday
  have hdayOfMonth : 0 ≤ day - (153 * ((5 * day + 2) / 153) + 2) / 5 := by omega
  have hera : (year + era * 400) / 400 = era := by omega
  unfold ofParts toDays firstDay
  dsimp only
  generalize (5 * day + 2) / 153 = fromMarch at *
  by_cases hten : fromMarch < 10
  · have hmonth : ¬ (fromMarch + 3).toNat ≤ 2 := by omega
    have hthree : ¬ fromMarch + 3 ≤ 2 := by omega
    have hback : ((fromMarch + 3).toNat : Int) - 3 = fromMarch := by omega
    have hdayBack : ((day - (153 * fromMarch + 2) / 5 + 1).toNat : Int) =
        day - (153 * fromMarch + 2) / 5 + 1 := by omega
    simp only [if_pos hten, if_neg hmonth, if_neg hthree, hback, hdayBack, hera]
    have hyearBack : year + era * 400 - era * 400 = year := by omega
    rw [hyearBack]
    omega
  · have hmonth : (fromMarch - 9).toNat ≤ 2 := by omega
    have hthree : fromMarch - 9 ≤ 2 := by omega
    have hback : ((fromMarch - 9).toNat : Int) + 9 = fromMarch := by omega
    have hdayBack : ((day - (153 * fromMarch + 2) / 5 + 1).toNat : Int) =
        day - (153 * fromMarch + 2) / 5 + 1 := by omega
    have hyearBack : year + era * 400 + 1 - 1 = year + era * 400 := by omega
    simp only [if_neg hten, if_pos hmonth, if_pos hthree, hback, hdayBack, hyearBack, hera]
    have hyearBack : year + era * 400 - era * 400 = year := by omega
    rw [hyearBack]
    omega

/-- **Every count of days is the one of its date.** -/
theorem toDays_ofDays (days : Int) : (ofDays days).toDays = days := by
  obtain ⟨era, year, day, hyear, hday, -, hdays, hparts⟩ := exists_parts days
  rw [hparts, toDays_ofParts hyear hday, ← hdays]

/-- A year from March that has a day more ends in February of a leap year. -/
theorem isLeap_of_last (hyear : 0 ≤ year ∧ year < 400)
    (hlast : 365 < firstDay (year + 1) - firstDay year ∨ year = 399) :
    isLeap (year + era * 400 + 1) = true := by
  have hfour : (year + era * 400 + 1) % 4 = (year + 1) % 4 := by omega
  have hhundred : (year + era * 400 + 1) % 100 = (year + 1) % 100 := by omega
  have hera : (year + era * 400 + 1) % 400 = (year + 1) % 400 := by omega
  rw [isLeap, hfour, hhundred, hera]
  rcases hlast with hlonger | rfl
  · unfold firstDay at hlonger
    have hdiv : (year + 1) % 4 = 0 := by omega
    have hnot : (year + 1) % 100 ≠ 0 := by omega
    simp [hdiv, hnot]
  · decide

/-- The number in the calendar of a month from March. -/
def monthOf (fromMarch : Nat) : Nat := if fromMarch < 10 then fromMarch + 3 else fromMarch - 9

/-- The months from March to January have the lengths that the count of days takes for them. -/
theorem daysInMonth_monthOf (year : Int) : ∀ {fromMarch : Nat}, fromMarch < 11 →
    daysInMonth year (monthOf fromMarch) =
      (153 * (fromMarch + 1) + 2) / 5 - (153 * fromMarch + 2) / 5
  | 0, _ | 1, _ | 2, _ | 3, _ | 4, _ | 5, _ | 6, _ | 7, _ | 8, _ | 9, _ | 10, _ => rfl
  | _ + 11, h => absurd h (by omega)

/-- The parts of a date name a month and a day of it. -/
theorem ofParts_bounds (era : Int) (hyear : 0 ≤ year ∧ year < 400) (hday : 0 ≤ day ∧ day < 366)
    (hlast : day < firstDay (year + 1) - firstDay year ∨ year = 399) :
    (1 ≤ (ofParts era year day).month ∧ (ofParts era year day).month ≤ 12) ∧
      1 ≤ (ofParts era year day).day ∧
      (ofParts era year day).day ≤
        daysInMonth (ofParts era year day).year (ofParts era year day).month := by
  obtain ⟨fromMarch, hfromMarch⟩ : ∃ n : Nat, (5 * day + 2) / 153 = n :=
    ⟨((5 * day + 2) / 153).toNat, by omega⟩
  have hmonth : (ofParts era year day).month = monthOf fromMarch := by
    simp only [ofParts, hfromMarch, monthOf]
    split <;> split <;> omega
  have hdayOfMonth : (ofParts era year day).day =
      (day - (153 * (fromMarch : Int) + 2) / 5 + 1).toNat := by
    rw [ofParts, hfromMarch]
  have hmonthBounds : 1 ≤ monthOf fromMarch ∧ monthOf fromMarch ≤ 12 := by
    unfold monthOf
    split <;> omega
  rw [hmonth, hdayOfMonth]
  refine ⟨hmonthBounds, by omega, ?_⟩
  by_cases hfebruary : fromMarch < 11
  · have hcast : (153 * (fromMarch : Int) + 2) / 5 = ((153 * fromMarch + 2) / 5 : Nat) := by
      simp
    rw [daysInMonth_monthOf _ hfebruary, hcast]
    omega
  · have helast : fromMarch = 11 := by omega
    subst helast
    have hyearOf : (ofParts era year day).year = year + era * 400 + 1 := by
      simp only [ofParts, hfromMarch]
      rfl
    rw [hyearOf]
    show _ ≤ if isLeap (year + era * 400 + 1) then 29 else 28
    by_cases hextra : day = 365
    · subst hextra
      rw [if_pos (isLeap_of_last hyear hlast)]
      decide
    · split <;> omega

/-- **Every date is a day of the calendar**, in the supported years. -/
theorem isValid_ofDays {days : Int} (hmin : minYear ≤ (ofDays days).year)
    (hmax : (ofDays days).year ≤ maxYear) : (ofDays days).isValid = true := by
  obtain ⟨era, year, day, hyear, hday, hlast, -, hparts⟩ := exists_parts days
  obtain ⟨hmonth, hfirst, hlength⟩ := ofParts_bounds era hyear hday hlast
  rw [hparts] at hmin hmax ⊢
  simp only [isValid, Bool.and_eq_true, decide_eq_true_eq]
  exact ⟨⟨⟨⟨⟨hmin, hmax⟩, hmonth.1⟩, hmonth.2⟩, hfirst⟩, hlength⟩

/-- The month and the day of a date, as they are written. -/
theorem ofDays_bounds (days : Int) :
    (1 ≤ (ofDays days).month ∧ (ofDays days).month ≤ 12) ∧
      1 ≤ (ofDays days).day ∧ (ofDays days).day ≤ 31 := by
  obtain ⟨era, year, day, hyear, hday, hlast, -, hparts⟩ := exists_parts days
  obtain ⟨hmonth, hfirst, hlength⟩ := ofParts_bounds era hyear hday hlast
  rw [hparts]
  refine ⟨hmonth, hfirst, Nat.le_trans hlength ?_⟩
  unfold daysInMonth
  split
  · split <;> decide
  · split <;> decide

end DocStore.Civil
