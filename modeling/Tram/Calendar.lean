/-
Tram/Calendar.lean

The proleptic Gregorian calendar.

Days are counted from 1 March of year 0, so that a leap day is the last day of
its year: a year is then found by division through the lengths of the cycles
of 400, 100, 4 and 1 years, and a month by division through five months of 153
days.  `gmtime` breaks an instant down, `timegm` puts it together again, and
`timegm_gmtime` is the round trip.
-/
import Mathlib.Tactic.Ring

namespace Tram

/-! ### Days and dates -/

/-- The days in front of a year that begins in March. -/
def daysBeforeYear (y : ℕ) : ℕ :=
  y / 400 * 146097 + y % 400 / 100 * 36524 + y % 100 / 4 * 1461 + y % 4 * 365

/-- The year, beginning in March, that a day lies in.  The last day of a long
century and of a leap year belongs to the same year as the day before. -/
def yearOfDay (z : ℕ) : ℕ :=
  let century := min (z % 146097 / 36524) 3
  let r := z % 146097 - century * 36524
  let leapCycle := r / 1461
  z / 146097 * 400 + century * 100 + leapCycle * 4 + min (r % 1461 / 365) 3

/-- A day lies in its year. -/
theorem daysBeforeYear_yearOfDay (z : ℕ) :
    daysBeforeYear (yearOfDay z) ≤ z ∧ z ≤ daysBeforeYear (yearOfDay z) + 365 := by
  have hcycle : z = z / 146097 * 146097 + z % 146097 := (Nat.div_add_mod' z 146097).symm
  have hlt : z % 146097 < 146097 := Nat.mod_lt z (by decide)
  -- name the digits of the year, then the claim is linear in them
  unfold yearOfDay daysBeforeYear
  dsimp only
  generalize z / 146097 = cycle at *
  generalize z % 146097 = rest at *
  generalize hcentury : min (rest / 36524) 3 = century
  generalize hr : rest - century * 36524 = r
  generalize hone : min (r % 1461 / 365) 3 = one
  have hr4 : r / 1461 ≤ 24 := by omega
  generalize hleap : r / 1461 = leap at *
  have h400 : (cycle * 400 + century * 100 + leap * 4 + one) / 400 = cycle := by omega
  have h100 : (cycle * 400 + century * 100 + leap * 4 + one) % 400 / 100 = century := by omega
  have h4 : (cycle * 400 + century * 100 + leap * 4 + one) % 100 / 4 = leap := by omega
  have h1 : (cycle * 400 + century * 100 + leap * 4 + one) % 4 = one := by omega
  rw [h400, h100, h4, h1]
  omega

/-- A date with a time of the day. -/
structure DateTime where
  year : ℕ
  month : ℕ
  day : ℕ
  hour : ℕ
  minute : ℕ
  second : ℕ
deriving DecidableEq, Repr

/-- Months counted from March. -/
def monthOfDay (dayOfYear : ℕ) : ℕ := (5 * dayOfYear + 2) / 153

/-- The days of a year in front of a month counted from March. -/
def daysBeforeMonth (month : ℕ) : ℕ := (153 * month + 2) / 5

/-- The date of a day of a year that begins in March, at a second of the day. -/
def dateInYear (y dayOfYear second : ℕ) : DateTime :=
  let m := monthOfDay dayOfYear
  { year := if m < 10 then y else y + 1
    month := if m < 10 then m + 3 else m - 9
    day := dayOfYear - daysBeforeMonth m + 1
    hour := second / 3600
    minute := second % 3600 / 60
    second := second % 60 }

/-- The date of a day, at a second of the day. -/
def dateTimeOfDay (z second : ℕ) : DateTime :=
  dateInYear (yearOfDay z) (z - daysBeforeYear (yearOfDay z)) second

/-- The day of a date. -/
def DateTime.dayNumber (c : DateTime) : ℕ :=
  if c.month ≤ 2 then
    daysBeforeYear (c.year - 1) + daysBeforeMonth (c.month + 9) + (c.day - 1)
  else daysBeforeYear c.year + daysBeforeMonth (c.month - 3) + (c.day - 1)

/-- The second of the day. -/
def DateTime.secondOfDay (c : DateTime) : ℕ := c.hour * 3600 + c.minute * 60 + c.second

/-- The months fill a year of 366 days, in order. -/
theorem daysBeforeMonth_monthOfDay {d : ℕ} (hd : d ≤ 365) :
    monthOfDay d ≤ 11 ∧ daysBeforeMonth (monthOfDay d) ≤ d ∧
      d < daysBeforeMonth (monthOfDay d) + 31 := by
  rw [daysBeforeMonth, monthOfDay]
  omega

theorem dayNumber_dateInYear (y second : ℕ) {d : ℕ} (hd : d ≤ 365) :
    (dateInYear y d second).dayNumber = daysBeforeYear y + d := by
  obtain ⟨hmonth, hday, -⟩ := daysBeforeMonth_monthOfDay hd
  simp only [dateInYear, DateTime.dayNumber]
  by_cases hm : monthOfDay d < 10
  · -- March to December
    have hmarch : ¬ monthOfDay d + 3 ≤ 2 := by omega
    simp only [hm, hmarch, if_true, if_false, Nat.add_sub_cancel]
    omega
  · -- January and February, which the calendar counts to the next year
    have hjanuary : monthOfDay d - 9 ≤ 2 := by omega
    have hback : monthOfDay d - 9 + 9 = monthOfDay d := by omega
    simp only [hm, hjanuary, if_true, if_false, hback, Nat.add_sub_cancel]
    omega

theorem dayNumber_dateTimeOfDay (z second : ℕ) : (dateTimeOfDay z second).dayNumber = z := by
  obtain ⟨hle, hge⟩ := daysBeforeYear_yearOfDay z
  rw [dateTimeOfDay, dayNumber_dateInYear _ _ (by omega)]
  omega

theorem secondOfDay_dateTimeOfDay (z second : ℕ) :
    (dateTimeOfDay z second).secondOfDay = second := by
  simp only [DateTime.secondOfDay, dateTimeOfDay, dateInYear]
  omega

/-! ### Instants -/

/-- The days between the origin of the day count and the epoch. -/
def epochDay : ℕ := 719468

/-- `gmtime_r`: the date of an instant, in s from the epoch. -/
def gmtime (t : ℤ) : DateTime :=
  let s := (t + epochDay * 86400).toNat
  dateTimeOfDay (s / 86400) (s % 86400)

/-- The instant of a date. -/
def timegm (c : DateTime) : ℤ := ((c.dayNumber : ℤ) - epochDay) * 86400 + c.secondOfDay

/-- An instant is recovered from its date. -/
theorem timegm_gmtime {t : ℤ} (ht : -(epochDay * 86400) ≤ t) : timegm (gmtime t) = t := by
  unfold timegm gmtime
  dsimp only
  rw [dayNumber_dateTimeOfDay, secondOfDay_dateTimeOfDay]
  unfold epochDay at *
  omega

/-- The fields of a date, for the years that are written with four digits. -/
structure DateTime.FourDigit (c : DateTime) : Prop where
  year_ge : 1000 ≤ c.year
  year_lt : c.year < 10000
  month : c.month < 100
  day : c.day < 100
  hour : c.hour < 100
  minute : c.minute < 100
  second : c.second < 100

/-- The last days of 1969, for the time zones west of Greenwich, up to the
year 3058. -/
def InCalendar (t : ℤ) : Prop := -2 ^ 17 ≤ t ∧ t < 2 ^ 35

/-- Between 365 and 366 days a year. -/
theorem daysBeforeYear_bounds (y : ℕ) :
    365 * y ≤ daysBeforeYear y ∧ daysBeforeYear y ≤ 366 * y := by
  rw [daysBeforeYear]
  omega

theorem dateTimeOfDay_fourDigit {z s : ℕ} (hlow : 719466 ≤ z) (hhigh : z < 1200000)
    (hs : s < 86400) : (dateTimeOfDay z s).FourDigit := by
  obtain ⟨hle, hge⟩ := daysBeforeYear_yearOfDay z
  obtain ⟨hyear, hyear'⟩ := daysBeforeYear_bounds (yearOfDay z)
  have hd : z - daysBeforeYear (yearOfDay z) ≤ 365 := by omega
  obtain ⟨hmonth, hday, hday'⟩ := daysBeforeMonth_monthOfDay hd
  refine ⟨?_, ?_, ?_, ?_, ?_, ?_, ?_⟩ <;> simp only [dateTimeOfDay, dateInYear]
  · split <;> omega
  · split <;> omega
  · split <;> omega
  · omega
  · omega
  · omega
  · omega

theorem gmtime_fourDigit {t : ℤ} (ht : InCalendar t) : (gmtime t).FourDigit := by
  obtain ⟨hlow, hhigh⟩ := ht
  refine dateTimeOfDay_fourDigit ?_ ?_ (Nat.mod_lt _ (by decide)) <;> unfold epochDay <;> omega

end Tram
