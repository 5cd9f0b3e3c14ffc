import Mathlib.Tactic.IntervalCases
import ReplicaSync.Time.Date

/-!
# Day numbers and dates

A year that begins in March has its leap day at the end, so its months begin on the same days in
every year. The years of an era of 400 begin where the leap days before them have moved them to, and
the year of a day is the one that begins last before it. So each day number is that of its date, and
the date exists. Main statements: `toDays_ofDays` and `isValid_ofDays`.
-/

namespace ReplicaSync.Date

/-! ### The years of an era -/

/-- The first day of a year of an era; the year 400 begins the next era. -/
def yearStart (year : Int) : Int := 365 * year + year / 4 - year / 100 + year / 400

/-- The year of a day of an era. -/
def yearOfEra (dayOfEra : Int) : Int :=
  (dayOfEra - dayOfEra / 1460 + dayOfEra / 36524 - dayOfEra / 146096) / 365

theorem yearOfEra_mono {a b : Int} (h : a ≤ b) : yearOfEra a ≤ yearOfEra b := by
  have hfour : a - a / 1460 ≤ b - b / 1460 := by omega
  have hcentury : a / 36524 - a / 146096 ≤ b / 36524 - b / 146096 := by omega
  exact Int.ediv_le_ediv (by decide) (by omega)

theorem yearOfEra_ends : ∀ year : Nat, year < 400 →
    yearOfEra (yearStart year) = year ∧ yearOfEra (yearStart (year + 1) - 1) = year := by
  decide +kernel

theorem yearOfEra_eq {year : Nat} {day : Int} (hyear : year < 400) (hfirst : yearStart year ≤ day)
    (hlast : day < yearStart (year + 1)) : yearOfEra day = year := by
  obtain ⟨hstart, hend⟩ := yearOfEra_ends year hyear
  have hlow := yearOfEra_mono hfirst
  have hhigh := yearOfEra_mono (show day ≤ yearStart (year + 1) - 1 by omega)
  omega

theorem exists_year {day : Int} (hday : 0 ≤ day) (year : Nat) (h : day < yearStart year) :
    ∃ y < year, yearStart y ≤ day ∧ day < yearStart (y + 1) := by
  induction year with
  | zero =>
    have hzero : yearStart 0 = 0 := rfl
    have hnone : day < yearStart 0 := h
    omega
  | succ year ih =>
    by_cases hearlier : day < yearStart year
    · obtain ⟨y, hy, hin⟩ := ih hearlier
      exact ⟨y, Nat.lt_succ_of_lt hy, hin⟩
    · exact ⟨year, Nat.lt_succ_self year, by omega, by exact_mod_cast h⟩

theorem yearStart_bounds {year : Nat} (h : year < 400) :
    0 ≤ yearStart year ∧ yearStart (year + 1) ≤ 146097 := by
  unfold yearStart
  omega

/-! ### Days by era, year and day of the year -/

/-- The number of a day of a year of an era. -/
def dayNumber (era year day : Int) : Int := era * 146097 + yearStart year + day - 719468

/-- The days of a year, counted from 0. -/
structure IsDayOf (year : Nat) (day : Int) : Prop where
  year_lt : year < 400
  nonneg : 0 ≤ day
  lt : day < yearStart (year + 1) - yearStart year

theorem IsDayOf.le {year : Nat} {day : Int} (h : IsDayOf year day) : day ≤ 365 := by
  have hlt := h.lt
  unfold yearStart at hlt
  omega

theorem exists_dayNumber (days : Int) :
    ∃ era year day, IsDayOf year day ∧ days = dayNumber era year day := by
  have hnonneg : 0 ≤ (days + 719468) % 146097 := by omega
  have hlt : (days + 719468) % 146097 < yearStart 400 :=
    Int.emod_lt_of_pos (days + 719468) (by decide)
  obtain ⟨year, hyear, hfirst, hlast⟩ := exists_year hnonneg 400 hlt
  refine ⟨(days + 719468) / 146097, year, (days + 719468) % 146097 - yearStart year,
    ⟨hyear, by omega, by omega⟩, ?_⟩
  unfold dayNumber
  omega

/-! ### Months -/

/-- The month of a day of a year, counted from March. -/
def monthOf (day : Int) : Int := (5 * day + 2) / 153

/-- The first day of a month of a year. -/
def monthStart (month : Int) : Int := (153 * month + 2) / 5

theorem monthOf_bounds {year : Nat} {day : Int} (h : IsDayOf year day) :
    0 ≤ monthOf day ∧ monthOf day ≤ 11 := by
  have hnonneg := h.nonneg
  have hle := h.le
  unfold monthOf
  omega

theorem monthStart_bounds (day : Int) :
    monthStart (monthOf day) ≤ day ∧ day < monthStart (monthOf day + 1) := by
  unfold monthStart monthOf
  omega

/-! ### Dates -/

/-- A date of a year that begins in March, with the month counted from there. -/
def fromMarch (year month day : Int) : Date :=
  ⟨if month < 10 then year else year + 1, (if month < 10 then month + 3 else month - 9).toNat,
    day.toNat⟩

/-- The date of a day of a year. -/
def ofDayOfYear (year day : Int) : Date :=
  fromMarch year (monthOf day) (day - monthStart (monthOf day) + 1)

theorem ofDays_dayNumber {era : Int} {year : Nat} {day : Int} (h : IsDayOf year day) :
    ofDays (dayNumber era year day) = ofDayOfYear (era * 400 + year) day := by
  have hnonneg := h.nonneg
  have hlt := h.lt
  obtain ⟨hstart, hend⟩ := yearStart_bounds h.year_lt
  have hera : (dayNumber era year day + 719468) / 146097 = era := by
    unfold dayNumber
    omega
  have hday : (dayNumber era year day + 719468) % 146097 = yearStart year + day := by
    unfold dayNumber
    omega
  have hyear : (yearStart year + day - (yearStart year + day) / 1460 +
      (yearStart year + day) / 36524 - (yearStart year + day) / 146096) / 365 = year :=
    yearOfEra_eq h.year_lt (by omega) (by omega)
  have hrest : yearStart year + day - (365 * (year : Int) + year / 4 - year / 100) = day := by
    have hyear_lt := h.year_lt
    unfold yearStart
    omega
  have hmonth := monthOf_bounds h
  simp only [ofDays, hera, hday, hyear, hrest, ofDayOfYear, fromMarch, monthStart, monthOf]
  unfold monthOf at hmonth
  by_cases hspring : (5 * day + 2) / 153 < 10
  · simp only [hspring, if_true]
    rw [if_neg (by omega)]
    simp [Int.add_comm]
  · simp only [hspring, if_false]
    rw [if_pos (by omega)]
    simp [Int.add_comm]

theorem toDays_fromMarch {era : Int} {year : Nat} {month day : Int} (hyear : year < 400)
    (hmonth : 0 ≤ month ∧ month ≤ 11) (hday : 1 ≤ day) :
    toDays (fromMarch (era * 400 + year) month day) =
      dayNumber era year (monthStart month + day - 1) := by
  unfold toDays fromMarch dayNumber monthStart yearStart
  by_cases hspring : month < 10
  · simp only [hspring, if_true]
    rw [if_neg (by omega), if_neg (by omega)]
    omega
  · simp only [hspring, if_false]
    rw [if_pos (by omega), if_pos (by omega)]
    omega

theorem toDays_ofDays (days : Int) : toDays (ofDays days) = days := by
  obtain ⟨era, year, day, h, rfl⟩ := exists_dayNumber days
  have hfirst := (monthStart_bounds day).1
  rw [ofDays_dayNumber h, ofDayOfYear,
    toDays_fromMarch h.year_lt (monthOf_bounds h) (by omega)]
  congr 1
  omega

theorem isLeap_of_lastDay (era : Int) {year : Nat} (h : IsDayOf year 365) :
    isLeap (era * 400 + year + 1) = true := by
  -- the last month of a year that begins in March lies in the next year
  have hlt := h.lt
  unfold yearStart at hlt
  simp only [isLeap, Bool.and_eq_true, Bool.or_eq_true, decide_eq_true_eq]
  omega

theorem isValid_ofDays (days : Int) : (ofDays days).isValid = true := by
  obtain ⟨era, year, day, h, rfl⟩ := exists_dayNumber days
  obtain ⟨hfirst, hlast⟩ := monthStart_bounds day
  obtain ⟨hmonth, hmonth'⟩ := monthOf_bounds h
  have hle := h.le
  -- only the last month of the year asks whether it is a leap year
  have hleap : isLeap (era * 400 + year + 1) = false → day ≠ 365 := by
    rintro hcommon rfl
    exact absurd (isLeap_of_lastDay era h) (by simp [hcommon])
  rw [ofDays_dayNumber h, ofDayOfYear]
  generalize monthOf day = month at hfirst hlast hmonth hmonth'
  unfold monthStart at *
  cases hyear : isLeap (era * 400 + year + 1) with
  | false =>
    have hlt : day ≤ 364 := by
      have hne := hleap hyear
      omega
    interval_cases month <;> simp [isValid, fromMarch, daysInMonth, hyear] <;> omega
  | true => interval_cases month <;> simp [isValid, fromMarch, daysInMonth, hyear] <;> omega

theorem natAbs_year_ofDays (days : Int) :
    (ofDays days).year.natAbs ≤ days.natAbs + 1000000 := by
  obtain ⟨era, year, day, h, rfl⟩ := exists_dayNumber days
  obtain ⟨hstart, hend⟩ := yearStart_bounds h.year_lt
  have hyear := h.year_lt
  have hnonneg := h.nonneg
  have hlt := h.lt
  rw [ofDays_dayNumber h, ofDayOfYear, fromMarch, dayNumber]
  split <;> simp only <;> omega

end ReplicaSync.Date
