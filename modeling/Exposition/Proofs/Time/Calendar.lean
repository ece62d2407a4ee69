import Exposition.Time.Calendar
import Mathlib.Tactic.IntervalCases

/-!
# Proofs/Time/Calendar — day numbers and dates

Every day number is that of a date which the calendar has (`isValid_ofDayNumber`,
`dayNumber_ofDayNumber`), and of no other (`ofDayNumber_dayNumber`).  The 146097 days of an era fall
into four centuries, each of these into spans of four years, and each span into years that begin in
March (`EraDay`); in these terms all the corrections of the formulas come to nothing but the day of
the year.
-/

namespace Exposition.Date

/-- **A day of an era**: its century, the span of four years in that, the year in that, and the day
of the year.  The day that a leap year adds is the last of the last year of a span, unless the span
ends a century and not the era. -/
structure EraDay where
  century : Nat
  span : Nat
  year : Nat
  day : Nat
  century_lt : century < 4
  span_lt : span < 25
  year_lt : year < 4
  day_lt : day < 365 ∨ day = 365 ∧ year = 3 ∧ (span < 24 ∨ century = 3)

namespace EraDay

/-- The number of a day in the era. -/
def number (e : EraDay) : Nat := 36524 * e.century + 1461 * e.span + 365 * e.year + e.day

/-- The year of the era. -/
def yearOfEra (e : EraDay) : Nat := 100 * e.century + 4 * e.span + e.year

/-- Every number of a day in an era is that of some day. -/
theorem exists_number (n : Nat) (small : n < 146097) : ∃ e : EraDay, e.number = n := by
  let century := min 3 (n / 36524)
  let left := n - 36524 * century
  let year := min 3 (left % 1461 / 365)
  have bound : left < 36525 := by omega
  refine ⟨⟨century, left / 1461, year, left % 1461 - 365 * year, ?_, ?_, ?_, ?_⟩, ?_⟩
  · omega
  · omega
  · omega
  · omega
  · simp only [number]
    omega

variable (e : EraDay)

theorem yearOfEra_lt : e.yearOfEra < 400 := by
  obtain ⟨c, a, s, k, hc, ha, hs, hk⟩ := e
  simp only [yearOfEra]
  omega

theorem number_lt : e.number < 146097 := by
  obtain ⟨c, a, s, k, hc, ha, hs, hk⟩ := e
  simp only [number]
  omega

theorem day_le : e.day ≤ 365 := by
  obtain ⟨c, a, s, k, hc, ha, hs, hk⟩ := e
  simp only
  omega

/-- The corrections for leap days take a day number to its year. -/
theorem yearOfEra_eq :
    (e.number - e.number / 1460 + e.number / 36524 - e.number / 146096) / 365 = e.yearOfEra := by
  obtain ⟨c, a, s, k, hc, ha, hs, hk⟩ := e
  simp only [number, yearOfEra]
  by_cases last : 36524 * c + 1461 * a + 365 * s + k = 146096
  · rw [last]
    omega
  · have bound : 1461 * a + 365 * s + k < 36524 := by omega
    have centuries : (36524 * c + 1461 * a + 365 * s + k) / 36524 = c := by omega
    have era : (36524 * c + 1461 * a + 365 * s + k) / 146096 = 0 := by omega
    have spans : (36524 * c + 1461 * a + 365 * s + k) / 1460
        = 25 * c + a + (24 * c + a + 365 * s + k) / 1460 := by omega
    rw [centuries, era, spans]
    -- the last quotient is 1 only late in the last year of a span
    by_cases late : 24 * c + a + 365 * s + k < 1460
    · omega
    · omega

/-- The days of the years before and the day of the year. -/
theorem number_eq :
    e.number = 365 * e.yearOfEra + e.yearOfEra / 4 - e.yearOfEra / 100 + e.day := by
  obtain ⟨c, a, s, k, hc, ha, hs, hk⟩ := e
  simp only [number, yearOfEra]
  omega

/-- The year after a year of 366 days from March on is a leap year. -/
theorem isLeap_of_day (long : e.day = 365) (era : Int) :
    isLeap (e.yearOfEra + era * 400 + 1) = true := by
  obtain ⟨c, a, s, k, hc, ha, hs, hk⟩ := e
  obtain rfl : k = 365 := long
  obtain ⟨rfl, place⟩ : s = 3 ∧ (a < 24 ∨ c = 3) := by omega
  have fourth : (((100 * c + 4 * a + 3 : Nat) : Int) + era * 400 + 1) % 4 = 0 := by omega
  have century : (((100 * c + 4 * a + 3 : Nat) : Int) + era * 400 + 1) % 100 ≠ 0
      ∨ (((100 * c + 4 * a + 3 : Nat) : Int) + era * 400 + 1) % 400 = 0 := by omega
  simp only [isLeap, yearOfEra, Bool.and_eq_true, Bool.or_eq_true, beq_iff_eq, bne_iff_ne]
  exact ⟨fourth, century⟩

end EraDay

/-! ## Dates -/

theorem isValid_iff {d : Date} : d.isValid = true
    ↔ (1 ≤ d.month ∧ d.month ≤ 12) ∧ 1 ≤ d.day ∧ d.day ≤ monthLength d.year d.month := by
  simp only [isValid, Bool.and_eq_true, decide_eq_true_eq, and_assoc]

/-- The date of a day of an era, its months counted from March. -/
theorem ofDayNumber_eq {n : Int} {e : EraDay} (number : ((n + 719468) % 146097).toNat = e.number) :
    ofDayNumber n =
      { year := e.yearOfEra + (n + 719468) / 146097 * 400
          + (if ((5 * e.day + 2) / 153 + 2) % 12 + 1 ≤ 2 then 1 else 0)
        month := ((5 * e.day + 2) / 153 + 2) % 12 + 1
        day := e.day - (153 * ((5 * e.day + 2) / 153) + 2) / 5 + 1 } := by
  have day : e.number - (365 * e.yearOfEra + e.yearOfEra / 4 - e.yearOfEra / 100) = e.day := by
    rw [e.number_eq, Nat.add_sub_cancel_left]
  simp only [ofDayNumber, number, e.yearOfEra_eq, day]

theorem exists_eraDay (n : Int) : ∃ e : EraDay, ((n + 719468) % 146097).toNat = e.number := by
  obtain ⟨e, same⟩ := EraDay.exists_number ((n + 719468) % 146097).toNat (by omega)
  exact ⟨e, same.symm⟩

/-- The year that began in March is that of the date, or the one before in January and February. -/
theorem march_year (early : Prop) [Decidable early] (year : Int) :
    (if early then year + (if early then 1 else 0) - 1 else year + (if early then 1 else 0))
      = year := by
  split
  · omega
  · omega

/-- **A day number is the number of its date.** -/
theorem dayNumber_ofDayNumber (n : Int) : (ofDayNumber n).dayNumber = n := by
  obtain ⟨e, number⟩ := exists_eraDay n
  have whole := e.number_eq
  have small := e.yearOfEra_lt
  have inYear := e.day_le
  rw [ofDayNumber_eq number, dayNumber]
  simp only [march_year]
  generalize e.yearOfEra = y at *
  generalize e.day = k at *
  generalize hm : (5 * k + 2) / 153 = m
  have month : ((m + 2) % 12 + 1 + 9) % 12 = m := by omega
  have before : (153 * m + 2) / 5 ≤ k := by omega
  have era : ((y : Int) + (n + 719468) / 146097 * 400) / 400 = (n + 719468) / 146097 := by omega
  have yearOfEra : ((y : Int) + (n + 719468) / 146097 * 400) % 400 = y := by omega
  rw [month, era, yearOfEra]
  omega

theorem monthLength_le (year : Int) (month : Nat) : monthLength year month ≤ 31 := by
  unfold monthLength
  split
  · split
    · omega
    · omega
  all_goals omega

/-- A day of the year falls within its month, where February may have its 29th only in leap
years. -/
theorem le_monthLength {k m : Nat} {year : Int} (month : (5 * k + 2) / 153 = m) (inYear : k ≤ 365)
    (leap : k = 365 → isLeap year = true) :
    k - (153 * m + 2) / 5 + 1 ≤ monthLength year ((m + 2) % 12 + 1) := by
  have last : m ≤ 11 := by omega
  by_cases february : m = 11
  · subst february
    change k - 337 + 1 ≤ if isLeap year then 29 else 28
    by_cases long : k = 365
    · rw [if_pos (leap long), long]
    · split
      · omega
      · omega
  · interval_cases m
    all_goals
      simp only [monthLength]
      omega

/-- **Every day number has a date in the calendar.** -/
theorem isValid_ofDayNumber (n : Int) : (ofDayNumber n).isValid = true := by
  obtain ⟨e, number⟩ := exists_eraDay n
  have inYear := e.day_le
  rw [ofDayNumber_eq number]
  refine isValid_iff.2 ⟨?_, Nat.succ_pos _, le_monthLength rfl inYear fun long => ?_⟩
  · simp only
    omega
  · rw [if_pos (by omega)]
    exact e.isLeap_of_day long _

/-! ## Day numbers of dates -/

section March

variable (d : Date)

/-- The year that began in March. -/
def marchYear : Int := if d.month ≤ 2 then d.year - 1 else d.year

/-- The month, counted from March. -/
def marchMonth : Nat := (d.month + 9) % 12

/-- The day of the year that began in March. -/
def marchDay : Nat := (153 * d.marchMonth + 2) / 5 + d.day - 1

end March

variable {d : Date}

/-- Month and day are known by the day of the year. -/
theorem marchDay_eq (valid : d.isValid = true) :
    (5 * d.marchDay + 2) / 153 = d.marchMonth
      ∧ d.marchDay - (153 * d.marchMonth + 2) / 5 + 1 = d.day := by
  obtain ⟨year, month, day⟩ := d
  obtain ⟨⟨january, december⟩, first, last⟩ :
      (1 ≤ month ∧ month ≤ 12) ∧ 1 ≤ day ∧ day ≤ monthLength year month := isValid_iff.1 valid
  have thirtyFirst := last.trans (monthLength_le year month)
  have february : month = 2 → day ≤ 29 := by
    rintro rfl
    simp only [monthLength] at last
    split at last
    · omega
    · omega
  simp only [marchDay, marchMonth]
  interval_cases month
  all_goals
    simp only [monthLength] at last
    omega

/-- Only the 29th of February is the 366th day of a year that began in March. -/
theorem marchDay_lt (valid : d.isValid = true) :
    d.marchDay < 365 ∨ d.marchDay = 365 ∧ isLeap (d.marchYear + 1) = true := by
  obtain ⟨year, month, day⟩ := d
  obtain ⟨⟨january, december⟩, first, last⟩ :
      (1 ≤ month ∧ month ≤ 12) ∧ 1 ≤ day ∧ day ≤ monthLength year month := isValid_iff.1 valid
  have thirtyFirst := last.trans (monthLength_le year month)
  simp only [marchDay, marchMonth, marchYear]
  by_cases february : month = 2
  · subst february
    simp only [monthLength] at last
    rw [if_pos (by omega), Int.sub_add_cancel]
    split at last
    · next leap =>
      simp only [leap, and_true]
      omega
    · omega
  · exact .inl (by omega)

theorem exists_eraDay_of_isValid (valid : d.isValid = true) :
    ∃ e : EraDay, e.yearOfEra = d.marchYear % 400 ∧ e.day = d.marchDay := by
  have leap : d.marchDay = 365 → (d.marchYear % 400).toNat % 4 = 3
      ∧ ((d.marchYear % 400).toNat % 100 / 4 < 24 ∨ (d.marchYear % 400).toNat / 100 = 3) := by
    intro last
    have leap := (marchDay_lt valid).resolve_left (by omega)
    simp only [isLeap, Bool.and_eq_true, Bool.or_eq_true, beq_iff_eq, bne_iff_ne] at leap
    omega
  have inYear := marchDay_lt valid
  refine ⟨⟨(d.marchYear % 400).toNat / 100, (d.marchYear % 400).toNat % 100 / 4,
    (d.marchYear % 400).toNat % 4, d.marchDay, by omega, by omega, by omega, by omega⟩, ?_, rfl⟩
  simp only [EraDay.yearOfEra]
  omega

/-- **A date is the date of its day number.** -/
theorem ofDayNumber_dayNumber (valid : d.isValid = true) : ofDayNumber d.dayNumber = d := by
  obtain ⟨e, year, day⟩ := exists_eraDay_of_isValid valid
  have small := e.number_lt
  have whole := e.number_eq
  have count : d.dayNumber + 719468 = d.marchYear / 400 * 146097 + e.number := by
    change d.marchYear / 400 * 146097 + d.marchYear % 400 * 365 + d.marchYear % 400 / 4
      - d.marchYear % 400 / 100 + d.marchDay - 719468 + 719468 = _
    rw [← year, ← day]
    omega
  have number : ((d.dayNumber + 719468) % 146097).toNat = e.number := by omega
  have era : (d.dayNumber + 719468) / 146097 = d.marchYear / 400 := by omega
  obtain ⟨month, inMonth⟩ := marchDay_eq valid
  rw [ofDayNumber_eq number, era, day, month, inMonth, year]
  obtain ⟨y, m, k⟩ := d
  obtain ⟨january, december⟩ : 1 ≤ m ∧ m ≤ 12 := (isValid_iff.1 valid).1
  have calendar : ((m + 9) % 12 + 2) % 12 + 1 = m := by omega
  simp only [marchMonth, marchYear, calendar, Int.emod_add_ediv_mul]
  split
  · rw [Int.sub_add_cancel]
  · rw [Int.add_zero]

end Exposition.Date
