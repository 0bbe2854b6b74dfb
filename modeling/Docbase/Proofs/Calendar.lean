import Docbase.Clock
import Mathlib.Order.Monotone.Basic
import Mathlib.Tactic.IntervalCases

/-! # The calendar

The days are counted off by the rules of the Gregorian calendar: each date is followed by the next
day of its month, or else the first of the next month, and February has its leap day in the years
that four divides, except for the centuries that four hundred does not. A later day therefore has
a later date.
-/

namespace Docbase.Clock

/-! ## The rules -/

/-- Years with a leap day. -/
def IsLeap (year : Int) : Prop :=
  year % 4 = 0 ∧ (year % 100 ≠ 0 ∨ year % 400 = 0)

instance (year : Int) : Decidable (IsLeap year) :=
  inferInstanceAs (Decidable (_ ∧ _))

/-- The days of a month. -/
def monthLength (year : Int) (month : Nat) : Nat :=
  if month = 2 then (if IsLeap year then 29 else 28)
  else if month ∈ [4, 6, 9, 11] then 30
  else 31

/-- The date of the day after. -/
def Date.next (date : Date) : Date :=
  if date.day < monthLength date.year date.month then { date with day := date.day + 1 }
  else if date.month < 12 then ⟨date.year, date.month + 1, 1⟩
  else ⟨date.year + 1, 1, 1⟩

/-- A date comes before another one. -/
def Date.Before (date other : Date) : Prop :=
  date.year < other.year ∨ date.year = other.year ∧
    (date.month < other.month ∨ date.month = other.month ∧ date.day < other.day)

theorem Date.Before.trans {date other later : Date} (h : date.Before other)
    (h' : other.Before later) : date.Before later := by
  unfold Before at *
  omega

theorem Date.before_next (date : Date) : date.Before date.next := by
  unfold next Before
  split
  next => exact .inr ⟨rfl, .inr ⟨rfl, Nat.lt_succ_self _⟩⟩
  next =>
    split
    next => exact .inr ⟨rfl, .inl (Nat.lt_succ_self _)⟩
    next => exact .inl (Int.lt_succ _)

/-! ## Years that begin in March -/

/-- The days from the first of March of year zero to the first of March of a year. -/
def yearStart (year : Int) : Int :=
  365 * year + year / 4 - year / 100 + year / 400

/-- The days from the first of March to the first of the months that follow it. -/
def monthStart (monthOfYear : Nat) : Nat :=
  (153 * monthOfYear + 2) / 5

/-- The number by which the calendar calls a month that is counted from March. -/
def monthNumber (monthOfYear : Nat) : Nat :=
  if monthOfYear < 10 then monthOfYear + 3 else monthOfYear - 9

/-- The year to which the calendar reckons a month that is counted from March. -/
def yearNumber (year : Int) (monthOfYear : Nat) : Int :=
  year + (if monthNumber monthOfYear ≤ 2 then 1 else 0)

/-- The date with a place in a year that begins in March. -/
def marchDate (year : Int) (dayOfYear : Nat) : Date :=
  let monthOfYear := (5 * dayOfYear + 2) / 153
  ⟨yearNumber year monthOfYear, monthNumber monthOfYear, dayOfYear - monthStart monthOfYear + 1⟩

/-- The leap day is the last day of the year. -/
theorem yearStart_succ (year : Int) :
    yearStart (year + 1) = yearStart year + monthStart 11 + monthLength (year + 1) 2 := by
  have hfebruary : monthLength (year + 1) 2 = if IsLeap (year + 1) then 29 else 28 := rfl
  have hmarch : monthStart 11 = 337 := rfl
  rw [hfebruary, hmarch]
  by_cases hleap : IsLeap (year + 1)
  · rw [if_pos hleap]
    unfold IsLeap at hleap
    unfold yearStart
    omega
  · rw [if_neg hleap]
    unfold IsLeap at hleap
    unfold yearStart
    omega

/-- The other months follow each other without a gap. -/
theorem monthStart_succ (year : Int) {m : Nat} (hm : m < 11) :
    monthStart (m + 1) = monthStart m + monthLength (yearNumber year m) (monthNumber m) := by
  interval_cases m <;> rfl

/-- The days of an era of four hundred years, without one for each leap day before. -/
def withoutLeapDays (day : Nat) : Nat :=
  day - day / 1460 + day / 36524 - day / 146096

theorem withoutLeapDays_mono : Monotone withoutLeapDays := by
  refine monotone_nat_of_le_succ fun day => ?_
  have hfour : (day + 1) / 1460 ≤ day / 1460 + 1 := by omega
  -- The two terms for the centuries change on the same days, if both do.
  have hcenturies : (day + 1) / 146096 + day / 36524 ≤ day / 146096 + (day + 1) / 36524 := by
    have hdvd : 146096 ∣ day + 1 → 36524 ∣ day + 1 := Nat.dvd_trans (by decide)
    rw [Nat.succ_div, Nat.succ_div]
    split <;> split <;> omega
  unfold withoutLeapDays
  omega

/-- The first day of a year of the era. -/
def eraYearStart (year : Nat) : Nat :=
  365 * year + year / 4 - year / 100 + year / 400

theorem withoutLeapDays_bounds : ∀ year < 400,
    365 * year ≤ withoutLeapDays (eraYearStart year) ∧
      withoutLeapDays (eraYearStart (year + 1) - 1) < 365 * (year + 1) := by
  decide +kernel

/-- What is left are 365 days for each year. -/
theorem withoutLeapDays_div {year day : Nat} (hyear : year < 400) (hstart : eraYearStart year ≤ day)
    (hend : day < eraYearStart (year + 1)) : withoutLeapDays day / 365 = year := by
  obtain ⟨hfirst, hlast⟩ := withoutLeapDays_bounds year hyear
  have hfrom := withoutLeapDays_mono hstart
  have hto := withoutLeapDays_mono (Nat.le_sub_one_of_lt hend)
  omega

theorem yearStart_era (era : Int) {year : Nat} (hyear : year < 400) :
    yearStart (400 * era + year) = 146097 * era + eraYearStart year ∧
      yearStart (400 * era + year + 1) = 146097 * era + eraYearStart (year + 1) := by
  unfold yearStart eraYearStart
  omega

/-- A day has the date of its place in the year that it lies in. -/
theorem dateOfMarchDay_eq {year day : Int} (hstart : yearStart year ≤ day)
    (hend : day < yearStart (year + 1)) :
    dateOfMarchDay day = marchDate year (day - yearStart year).toNat := by
  obtain ⟨era, yearOfEra, hyear, hlt⟩ :
      ∃ (era : Int) (yearOfEra : Nat), year = 400 * era + yearOfEra ∧ yearOfEra < 400 :=
    ⟨year / 400, (year % 400).toNat, by omega, by omega⟩
  subst hyear
  obtain ⟨hfirst, hnext⟩ := yearStart_era era hlt
  have hfull : eraYearStart (yearOfEra + 1) ≤ 146097 := by
    unfold eraYearStart
    omega
  rw [hfirst] at hstart ⊢
  rw [hnext] at hend
  have hera : day.fdiv 146097 = era := by
    rw [Int.fdiv_eq_ediv_of_nonneg day (by decide)]
    omega
  have hday : (day.fmod 146097).toNat = (day - 146097 * era).toNat := by
    rw [Int.fmod_eq_emod_of_nonneg day (by decide)]
    omega
  -- The formula takes the leap days out of the era and divides what is left by 365.
  have hof : withoutLeapDays (day - 146097 * era).toNat / 365 = yearOfEra :=
    withoutLeapDays_div hlt (by omega) (by omega)
  have hplace : (day - 146097 * era).toNat - (365 * yearOfEra + yearOfEra / 4 - yearOfEra / 100) =
      (day - (146097 * era + eraYearStart yearOfEra)).toNat := by
    unfold eraYearStart
    omega
  unfold withoutLeapDays at hof
  simp only [dateOfMarchDay, hera, hday, hof, hplace, Int.mul_comm era 400]
  rfl

theorem exists_year_lt {day : Nat} (years : Nat) (h : day < eraYearStart years) :
    ∃ year < years, eraYearStart year ≤ day ∧ day < eraYearStart (year + 1) := by
  induction years with
  | zero => exact absurd h (Nat.not_lt_zero day)
  | succ years ih =>
      by_cases hbefore : day < eraYearStart years
      · obtain ⟨year, hlt, hyear⟩ := ih hbefore
        exact ⟨year, Nat.lt_succ_of_lt hlt, hyear⟩
      · exact ⟨years, Nat.lt_succ_self years, Nat.le_of_not_lt hbefore, h⟩

/-- Every day lies in a year. -/
theorem exists_year (day : Int) :
    ∃ year, yearStart year ≤ day ∧ day < yearStart (year + 1) := by
  have hday : (day % 146097).toNat < eraYearStart 400 := by
    rw [show eraYearStart 400 = 146097 from rfl]
    omega
  obtain ⟨year, hlt, hstart, hend⟩ := exists_year_lt 400 hday
  obtain ⟨hfirst, hnext⟩ := yearStart_era (day / 146097) hlt
  refine ⟨400 * (day / 146097) + year, ?_, ?_⟩
  · rw [hfirst]
    omega
  · rw [hnext]
    omega

/-! ## Dates that follow each other -/

/-- The day with a place in a month of a year that begins in March. -/
def placeDay (year : Int) (m k : Nat) : Int :=
  yearStart year + monthStart m + k

theorem monthLength_pos (year : Int) (month : Nat) : 0 < monthLength year month := by
  unfold monthLength
  split
  · split <;> decide
  · split <;> decide

theorem monthLength_le (year : Int) (month : Nat) : monthLength year month ≤ 31 := by
  unfold monthLength
  split
  · split <;> decide
  · split <;> decide

theorem monthLength_february_le (year : Int) : monthLength year 2 ≤ 29 := by
  change (if IsLeap year then 29 else 28) ≤ 29
  split <;> decide

section Place

variable {year : Int} {m k : Nat}

theorem monthStart_add_lt (hm : m < 12)
    (hk : k < monthLength (yearNumber year m) (monthNumber m)) :
    monthStart m + k < monthStart (m + 1) ∧ placeDay year m k < yearStart (year + 1) := by
  have hend := yearStart_succ year
  unfold placeDay
  by_cases hlast : m = 11
  · subst hlast
    have hfebruary : k < monthLength (year + 1) 2 := hk
    have hlength := monthLength_february_le (year + 1)
    refine ⟨?_, by omega⟩
    change 337 + k < 367
    omega
  · have hnext := monthStart_succ year (show m < 11 by omega)
    have hmarch : monthStart (m + 1) ≤ monthStart 11 := by
      unfold monthStart
      omega
    omega

/-- The date of a day tells its place. -/
theorem dateOfMarchDay_place (hm : m < 12)
    (hk : k < monthLength (yearNumber year m) (monthNumber m)) :
    dateOfMarchDay (placeDay year m k) = ⟨yearNumber year m, monthNumber m, k + 1⟩ := by
  obtain ⟨hmonth, hend⟩ := monthStart_add_lt hm hk
  have hplace : (placeDay year m k - yearStart year).toNat = monthStart m + k := by
    unfold placeDay
    omega
  have hday : (5 * (monthStart m + k) + 2) / 153 = m := by
    unfold monthStart at *
    omega
  rw [dateOfMarchDay_eq (by unfold placeDay; omega) hend, hplace, marchDate, hday,
    Nat.add_sub_cancel_left]

end Place

/-- Every day has a place. -/
theorem exists_place (day : Int) : ∃ (year : Int) (m k : Nat), m < 12 ∧
    k < monthLength (yearNumber year m) (monthNumber m) ∧ day = placeDay year m k := by
  obtain ⟨year, hstart, hend⟩ := exists_year day
  obtain ⟨place, hplace⟩ : ∃ place : Nat, day = yearStart year + place :=
    ⟨(day - yearStart year).toNat, by omega⟩
  obtain ⟨m, hm⟩ : ∃ m, (5 * place + 2) / 153 = m := ⟨_, rfl⟩
  have hmonth : monthStart m ≤ place ∧ place < monthStart (m + 1) := by
    unfold monthStart
    omega
  have hlength := monthLength_february_le (year + 1)
  rw [yearStart_succ, hplace, show monthStart 11 = 337 from rfl] at hend
  refine ⟨year, m, place - monthStart m, by omega, ?_, by unfold placeDay; omega⟩
  by_cases hlast : m = 11
  · subst hlast
    change place - 337 < monthLength (year + 1) 2
    omega
  · have hnext := monthStart_succ year (show m < 11 by omega)
    omega

/-- Months and days are counted as in a calendar. -/
theorem dateOfDay_valid (day : Int) : 1 ≤ (dateOfDay day).month ∧ (dateOfDay day).month ≤ 12 ∧
    1 ≤ (dateOfDay day).day ∧
    (dateOfDay day).day ≤ monthLength (dateOfDay day).year (dateOfDay day).month := by
  obtain ⟨year, m, k, hm, hk, hday⟩ := exists_place (day + epochDay)
  have hmonth : 1 ≤ monthNumber m ∧ monthNumber m ≤ 12 := by
    unfold monthNumber
    split <;> omega
  rw [dateOfDay, hday, dateOfMarchDay_place hm hk]
  exact ⟨hmonth.1, hmonth.2, Nat.succ_pos k, hk⟩

/-- The date of the day after is the next date. -/
theorem dateOfDay_succ (day : Int) : dateOfDay (day + 1) = (dateOfDay day).next := by
  obtain ⟨year, m, k, hm, hk, hday⟩ := exists_place (day + epochDay)
  have hsucc : day + 1 + epochDay = placeDay year m k + 1 := by omega
  rw [dateOfDay, dateOfDay, hsucc, hday, dateOfMarchDay_place hm hk]
  by_cases hinside : k + 1 < monthLength (yearNumber year m) (monthNumber m)
  · have hnext : placeDay year m k + 1 = placeDay year m (k + 1) := by
      unfold placeDay
      omega
    rw [hnext, dateOfMarchDay_place hm hinside, Date.next, if_pos hinside]
  · rw [Date.next, if_neg hinside]
    -- After the last day of February another year begins in March.
    by_cases hlast : m = 11
    · subst hlast
      have hnext : placeDay year 11 k + 1 = placeDay (year + 1) 0 0 := by
        have hfebruary : k + 1 = monthLength (year + 1) 2 := Nat.le_antisymm hk (not_lt.mp hinside)
        have hend := yearStart_succ year
        have hmarch : monthStart 0 = 0 := rfl
        unfold placeDay
        omega
      rw [hnext, dateOfMarchDay_place (by decide) (monthLength_pos _ _)]
      simp [yearNumber, monthNumber]
    · have hbefore : m < 11 := by omega
      have hnext : placeDay year m k + 1 = placeDay year (m + 1) 0 := by
        have hmonth := monthStart_succ year hbefore
        unfold placeDay
        omega
      rw [hnext, dateOfMarchDay_place (Nat.succ_lt_succ hbefore) (monthLength_pos _ _)]
      interval_cases m <;> simp [yearNumber, monthNumber]

/-- A later day has a later date. -/
theorem dateOfDay_before {day later : Int} (h : day < later) :
    (dateOfDay day).Before (dateOfDay later) := by
  obtain ⟨count, rfl⟩ : ∃ count : Nat, later = day + 1 + count :=
    ⟨(later - day - 1).toNat, by omega⟩
  induction count with
  | zero =>
      rw [Nat.cast_zero, Int.add_zero, dateOfDay_succ]
      exact Date.before_next _
  | succ count ih =>
      have hstep : day + 1 + (count + 1 : Nat) = day + 1 + count + 1 := by omega
      rw [hstep, dateOfDay_succ]
      exact (ih (by omega)).trans (Date.before_next _)

theorem Date.Before.irrefl (date : Date) : ¬ date.Before date := by
  unfold Before
  omega

/-- The dates are in the order of the days. -/
theorem dateOfDay_before_iff {day other : Int} :
    (dateOfDay day).Before (dateOfDay other) ↔ day < other := by
  refine ⟨fun h => ?_, dateOfDay_before⟩
  obtain hlt | rfl | hgt := lt_trichotomy day other
  · exact hlt
  · exact absurd h (Date.Before.irrefl _)
  · exact absurd (h.trans (dateOfDay_before hgt)) (Date.Before.irrefl _)

theorem dateOfDay_injective : Function.Injective dateOfDay := by
  intro day other h
  obtain hlt | heq | hgt := lt_trichotomy day other
  · exact absurd (h ▸ dateOfDay_before hlt) (Date.Before.irrefl _)
  · exact heq
  · exact absurd (h ▸ dateOfDay_before hgt) (Date.Before.irrefl _)

example : dateOfDay 0 = ⟨1970, 1, 1⟩ := by decide

end Docbase.Clock
