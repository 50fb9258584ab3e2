import DocStore.Proofs.Date.Text
/-!
# The years whose texts are read back

The text of an instant of the years 0 to 9999 reads as the instant. Outside these years it begins
with a sign, which the reader of offsets does not take, and it ends in `Z`, which no other reader
takes: each of them goes past parts that have no `Z` in them (`PastWithout`, `Foreign`), so it never
comes to the end of such a text (`local?_of_getLast?`, `dateOnly?_of_getLast?`).

So the instants that come back from their texts are those of the years 0 to 9999
(`read?_format?_iff`).
-/

namespace DocStore.Date

/-! ## Parts without a character -/

/-- What is left of a text after a part that has no `c` in it. -/
def PastWithout (c : Char) (cs rest : List Char) : Prop := ∃ part, cs = part ++ rest ∧ c ∉ part

variable {c : Char} {cs mid rest : List Char}

theorem PastWithout.refl (c : Char) (cs : List Char) : PastWithout c cs cs :=
  ⟨[], rfl, List.not_mem_nil⟩

theorem PastWithout.trans (h : PastWithout c cs mid) (h' : PastWithout c mid rest) :
    PastWithout c cs rest := by
  obtain ⟨part, rfl, hpart⟩ := h
  obtain ⟨part', rfl, hpart'⟩ := h'
  exact ⟨part ++ part', (List.append_assoc ..).symm, by simp [hpart, hpart']⟩

instance : Trans (PastWithout c) (PastWithout c) (PastWithout c) := ⟨PastWithout.trans⟩

/-- In front of a `c` that ends the text, the text is not at its end. -/
theorem PastWithout.getLast? (h : PastWithout c cs rest) (hlast : cs.getLast? = some c) :
    rest.getLast? = some c := by
  obtain ⟨part, rfl, hpart⟩ := h
  rcases List.eq_nil_or_concat rest with rfl | ⟨front, last, rfl⟩
  · rw [List.append_nil] at hlast
    exact absurd (List.mem_of_getLast? hlast) hpart
  · rw [List.concat_eq_append, ← List.append_assoc, List.getLast?_concat] at hlast
    rw [List.concat_eq_append, List.getLast?_concat, hlast]

theorem PastWithout.ne_nil (h : PastWithout c cs rest) (hlast : cs.getLast? = some c) :
    rest ≠ [] := by
  rintro rfl
  cases h.getLast? hlast

theorem pastWithout_literal {d : Char} (hne : c ≠ d) {u : Unit}
    (h : literal d cs = some (u, rest)) :
    PastWithout c cs rest := by
  cases cs with
  | nil => cases h
  | cons first cs =>
    rw [literal] at h
    split at h
    · next hfirst =>
      cases h
      exact ⟨[first], rfl, by simpa [hfirst] using hne⟩
    · cases h

/-! ## A character of no date and no time of day -/

/-- A character that the parts of a date and of a time of day do not have. -/
structure Foreign (c : Char) : Prop where
  digit : c.isDigit = false
  blank : isBlank c = false
  mark : c ∉ ['-', '+', ':', '.']

namespace Foreign

theorem zone : Foreign 'Z' := ⟨rfl, by decide, by decide⟩

variable (hc : Foreign c)

include hc

theorem literal {d : Char} (hd : d ∈ ['-', '+', ':', '.']) {u : Unit}
    (h : Date.literal d cs = some (u, rest)) : PastWithout c cs rest :=
  pastWithout_literal (by rintro rfl; exact hc.mark hd) h

theorem trimStart (cs : List Char) : PastWithout c cs (DocStore.trimStart cs) := by
  refine ⟨cs.takeWhile isBlank, List.takeWhile_append_dropWhile.symm, fun hmem => ?_⟩
  exact Bool.false_ne_true (hc.blank.symm.trans (List.mem_takeWhile_imp hmem))

theorem number {least most n : Nat} (h : Date.number least most cs = some (n, rest)) :
    PastWithout c cs rest := by
  rw [Date.number] at h
  split at h
  · cases h
  · cases h
    have hprefix : (cs.take most).takeWhile Char.isDigit <+: cs :=
      (List.takeWhile_prefix _).trans (List.take_prefix _ _)
    refine ⟨_, (List.prefix_iff_eq_append.mp hprefix).symm, fun hmem => ?_⟩
    exact Bool.false_ne_true (hc.digit.symm.trans (List.mem_takeWhile_imp hmem))

theorem fraction {n : Nat} (h : Date.fraction cs = some (n, rest)) : PastWithout c cs rest := by
  rw [Date.fraction.eq_def] at h
  split at h
  · next cs =>
    dsimp only at h
    split at h
    · cases h
    · cases h
      refine ⟨'.' :: cs.takeWhile Char.isDigit, by simp, fun hmem => ?_⟩
      rcases List.mem_cons.mp hmem with rfl | hmem
      · exact hc.mark (by decide)
      · exact Bool.false_ne_true (hc.digit.symm.trans (List.mem_takeWhile_imp hmem))
  · cases h
    exact .refl c cs

theorem part {low high n : Nat} (h : within low high loosePart cs = some (n, rest)) :
    PastWithout c cs rest := by
  obtain ⟨⟨m, after⟩, hread, h⟩ := Option.bind_eq_some_iff.mp h
  dsimp only at h
  split at h
  · cases h
    exact (hc.trimStart cs).trans (hc.number hread)
  · cases h

theorem timeOfDay {time : Int} (h : Date.timeOfDay loosePart cs = some (time, rest)) :
    PastWithout c cs rest := by
  obtain ⟨⟨hour, cs₁⟩, hhour, h⟩ := Option.bind_eq_some_iff.mp h
  obtain ⟨⟨⟨⟩, cs₂⟩, hcolon, h⟩ := Option.bind_eq_some_iff.mp h
  obtain ⟨⟨minute, cs₃⟩, hminute, h⟩ := Option.bind_eq_some_iff.mp h
  obtain ⟨⟨⟨⟩, cs₄⟩, hcolon', h⟩ := Option.bind_eq_some_iff.mp h
  obtain ⟨⟨second, cs₅⟩, hsecond, h⟩ := Option.bind_eq_some_iff.mp h
  obtain ⟨⟨milli, cs₆⟩, hfraction, h⟩ := Option.bind_eq_some_iff.mp h
  cases h
  calc
    PastWithout c cs cs₁ := hc.part hhour
    PastWithout c _ cs₂ := hc.literal (by decide) hcolon
    PastWithout c _ cs₃ := hc.part hminute
    PastWithout c _ cs₄ := hc.literal (by decide) hcolon'
    PastWithout c _ cs₅ := hc.part hsecond
    PastWithout c _ rest := hc.fraction hfraction

theorem looseYear {year : Int} (h : Date.looseYear cs = some (year, rest)) :
    PastWithout c cs rest := by
  have hstart := hc.trimStart cs
  rw [Date.looseYear] at h
  split at h
  · next digits heq =>
    obtain ⟨⟨n, after⟩, hread, h⟩ := Option.map_eq_some_iff.mp h
    cases h
    rw [heq] at hstart
    exact hstart.trans ((hc.literal (by decide) (literal_cons '-' digits)).trans (hc.number hread))
  · next digits heq =>
    obtain ⟨⟨n, after⟩, hread, h⟩ := Option.map_eq_some_iff.mp h
    cases h
    rw [heq] at hstart
    exact hstart.trans ((hc.literal (by decide) (literal_cons '+' digits)).trans (hc.number hread))
  · obtain ⟨⟨n, after⟩, hread, h⟩ := Option.map_eq_some_iff.mp h
    cases h
    exact hstart.trans (hc.number hread)

theorem calendarDate {date : Civil}
    (h : Date.calendarDate Date.looseYear loosePart cs = some (date, rest)) :
    PastWithout c cs rest := by
  obtain ⟨⟨year, cs₁⟩, hyear, h⟩ := Option.bind_eq_some_iff.mp h
  obtain ⟨⟨⟨⟩, cs₂⟩, hminus, h⟩ := Option.bind_eq_some_iff.mp h
  obtain ⟨⟨month, cs₃⟩, hmonth, h⟩ := Option.bind_eq_some_iff.mp h
  obtain ⟨⟨⟨⟩, cs₄⟩, hminus', h⟩ := Option.bind_eq_some_iff.mp h
  obtain ⟨⟨day, cs₅⟩, hday, h⟩ := Option.bind_eq_some_iff.mp h
  cases h
  calc
    PastWithout c cs cs₁ := hc.looseYear hyear
    PastWithout c _ cs₂ := hc.literal (by decide) hminus
    PastWithout c _ cs₃ := hc.part hmonth
    PastWithout c _ cs₄ := hc.literal (by decide) hminus'
    PastWithout c _ rest := hc.part hday

end Foreign

/-- A date and a time without an offset do not end in `Z`. -/
theorem local?_of_getLast? {gap : List Char → Option (List Char)}
    (hgap : ∀ {cs after}, gap cs = some after → PastWithout 'Z' cs after)
    (hlast : cs.getLast? = some 'Z') : local? gap cs = none := by
  by_contra hsome
  obtain ⟨millis, h⟩ := Option.ne_none_iff_exists'.mp hsome
  obtain ⟨⟨date, cs₁⟩, hdate, h⟩ := Option.bind_eq_some_iff.mp h
  obtain ⟨cs₂, hover, h⟩ := Option.bind_eq_some_iff.mp h
  obtain ⟨⟨time, cs₃⟩, htime, h⟩ := Option.bind_eq_some_iff.mp h
  have hpast : PastWithout 'Z' cs cs₃ := calc
    PastWithout 'Z' cs cs₁ := Foreign.zone.calendarDate hdate
    PastWithout 'Z' _ cs₂ := hgap hover
    PastWithout 'Z' _ cs₃ := Foreign.zone.timeOfDay htime
  cases cs₃ with
  | nil => exact hpast.ne_nil hlast rfl
  | cons => cases h

/-- A date alone does not end in `Z`. -/
theorem dateOnly?_of_getLast? (hlast : cs.getLast? = some 'Z') : dateOnly? cs = none := by
  by_contra hsome
  obtain ⟨millis, h⟩ := Option.ne_none_iff_exists'.mp hsome
  obtain ⟨⟨date, cs₁⟩, hdate, h⟩ := Option.bind_eq_some_iff.mp h
  have hrest := (Foreign.zone.calendarDate hdate).ne_nil hlast
  cases cs₁ with
  | nil => exact hrest rfl
  | cons => cases h

/-! ## Years with a sign -/

theorem number_of_head {d : Char} (hd : d.isDigit = false) {least most : Nat} (hleast : 0 < least)
    (rest : List Char) : number least most (d :: rest) = none := by
  have hdigits : ((d :: rest).take most).takeWhile Char.isDigit = [] := by
    cases most with
    | zero => rfl
    | succ most => exact List.takeWhile_cons_of_neg (by simp [hd])
  rw [number, hdigits]
  exact if_pos hleast

theorem rfc3339?_of_head {d : Char} (hd : d.isDigit = false) (rest : List Char) :
    rfc3339? (d :: rest) = none := by
  simp only [rfc3339?, calendarDate, number_of_head hd (by decide : 0 < 4), Option.map_none,
    Option.bind_eq_bind, Option.bind_none]

/-- The text of an instant outside the years 0 to 9999 begins with a sign. -/
theorem exists_toList_format_signed {m : Moment} (h : m.date.year < 0 ∨ 9999 < m.date.year) :
    ∃ sign rest, (sign = '-' ∨ sign = '+') ∧ (format m).toList = sign :: rest := by
  by_cases hneg : m.date.year < 0
  · refine ⟨'-', (format m).toList.tail, .inl rfl, ?_⟩
    simp [format, yearText, hneg, String.toList_append]
  · have hbig : 9999 < m.date.year := by omega
    refine ⟨'+', (format m).toList.tail, .inr rfl, ?_⟩
    simp [format, yearText, hneg, hbig, String.toList_append]

/-- Such a text is no date. -/
theorem read?_format_signed {m : Moment} (h : m.date.year < 0 ∨ 9999 < m.date.year) :
    read? (format m) = none := by
  obtain ⟨sign, rest, hsign, htext⟩ := exists_toList_format_signed h
  have hlast := getLast?_format m
  have htrim : trim (format m).toList = (format m).toList := by
    apply trim_format
    rw [htext]
    rintro _ ⟨⟩
    rcases hsign with rfl | rfl <;> decide
  have hdigit : sign.isDigit = false := by rcases hsign with rfl | rfl <;> rfl
  have hT {cs after : List Char} (h : (literal 'T' cs).map Prod.snd = some after) :
      PastWithout 'Z' cs after := by
    obtain ⟨⟨⟨⟩, after⟩, hread, rfl⟩ := Option.map_eq_some_iff.mp h
    exact pastWithout_literal (by decide) hread
  have hgap {cs after : List Char} (h : some (trimStart cs) = some after) :
      PastWithout 'Z' cs after := by
    cases h
    exact Foreign.zone.trimStart cs
  rw [read?, htrim, local?_of_getLast? hT hlast, local?_of_getLast? hgap hlast,
    dateOnly?_of_getLast? hlast, htext, rfc3339?_of_head hdigit]
  rfl

/-! ## The four-digit years -/

variable {millis : Int}

/-- The days of the years 0 to 9999. The years next to the bounds are told one by one, since the
days of two years that are further apart lie apart whatever the leap days. -/
theorem year_bounds_iff_toDays {date : Civil} (hmonth : 1 ≤ date.month ∧ date.month ≤ 12)
    (hday : 1 ≤ date.day ∧ date.day ≤ 31) :
    0 ≤ date.year ∧ date.year ≤ 9999 ↔ -719528 ≤ date.toDays ∧ date.toDays ≤ 2932896 := by
  obtain ⟨year, month, day⟩ := date
  have hyears : year ≤ -2 ∨ year = -1 ∨ year = 0 ∨ 1 ≤ year ∧ year ≤ 9998 ∨ year = 9999 ∨
      year = 10000 ∨ 10001 ≤ year := by omega
  dsimp only at *
  unfold Civil.toDays
  dsimp only
  rcases hyears with h | rfl | rfl | h | rfl | rfl | h <;> split <;> omega

/-- The first and the last instant of the years 0 to 9999. -/
theorem year_bounds_iff :
    0 ≤ (Moment.ofMillis millis).date.year ∧ (Moment.ofMillis millis).date.year ≤ 9999 ↔
      -62167219200000 ≤ millis ∧ millis ≤ 253402300799999 := by
  obtain ⟨hmonth, hday⟩ := Civil.ofDays_bounds (millis / millisPerDay)
  have hperDay : millisPerDay = 86400000 := rfl
  rw [Moment.ofMillis, year_bounds_iff_toDays hmonth hday, Civil.toDays_ofDays, hperDay]
  omega

/-- **The texts that are read back are those of the years 0 to 9999.** For every instant in
milliseconds: it has a text that reads as the instant if and only if its year in UTC lies in 0 to
9999, which makes the instants from 0000-01-01T00:00:00.000Z to 9999-12-31T23:59:59.999Z. -/
theorem read?_format?_iff (millis : Int) :
    ((∃ text, format? millis = some text ∧ read? text = some millis) ↔
      0 ≤ (Moment.ofMillis millis).date.year ∧ (Moment.ofMillis millis).date.year ≤ 9999) ∧
    (0 ≤ (Moment.ofMillis millis).date.year ∧ (Moment.ofMillis millis).date.year ≤ 9999 ↔
      -62167219200000 ≤ millis ∧ millis ≤ 253402300799999) := by
  refine ⟨⟨?_, fun hyear => read?_format? hyear.1 hyear.2⟩, year_bounds_iff⟩
  rintro ⟨text, htext, hread⟩
  by_contra hyear
  rw [format?, Moment.ofMillis?] at htext
  obtain ⟨m, hm, rfl⟩ := Option.map_eq_some_iff.mp htext
  split at hm
  · cases hm
    rw [read?_format_signed (by omega)] at hread
    cases hread
  · cases hm

end DocStore.Date
