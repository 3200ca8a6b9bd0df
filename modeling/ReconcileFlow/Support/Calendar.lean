import Mathlib.Data.Int.ConditionallyCompleteOrder
import Mathlib.Order.ConditionallyCompleteLattice.Basic
import Mathlib.Order.ConditionallyCompletePartialOrder.Defs
import Mathlib.Order.Monotone.Basic

/-!
# Support — Calendar

The months of the proleptic Gregorian calendar.  Days and months are counted from 1 March of the
year 0, so that the leap day ends a year: the months of a year then have the lengths 31, 30, 31,
30, 31 twice over, and the last is cut short.  Every day is in one month (`monthOf_eq_iff`).

A `Period` cuts the time, in microseconds of Unix time, into days or months.
-/

namespace Support.Calendar

/-- The first day of a year. -/
def yearStart (year : ℤ) : ℤ := 365 * year + year / 4 - year / 100 + year / 400

/-- The first day of a month. -/
def monthStart (month : ℤ) : ℤ := yearStart (month / 12) + (153 * (month % 12) + 2) / 5

/-- The year of a day. -/
def yearOf (day : ℤ) : ℤ :=
  let guess := 400 * day / 146097
  if day < yearStart guess then guess - 1
  else if yearStart (guess + 1) ≤ day then guess + 1
  else guess

/-- The month of a day. -/
def monthOf (day : ℤ) : ℤ :=
  let year := yearOf day
  12 * year + (5 * (day - yearStart year) + 2) / 153

/-- 1 January 1970, when Unix time begins. -/
def unixEpoch : ℤ := 719468

example : monthStart (monthOf unixEpoch) = unixEpoch := by decide

/-- A year has 365 days or one more. -/
theorem yearStart_succ (year : ℤ) :
    yearStart year + 365 ≤ yearStart (year + 1) ∧ yearStart (year + 1) ≤ yearStart year + 366 := by
  unfold yearStart
  omega

theorem yearOf_spec (day : ℤ) :
    yearStart (yearOf day) ≤ day ∧ day < yearStart (yearOf day + 1) := by
  unfold yearOf
  dsimp only
  split
  · next h =>
    unfold yearStart at h ⊢
    omega
  · split
    · next h =>
      unfold yearStart at h ⊢
      omega
    · next hle hlt => exact ⟨not_lt.mp hle, not_le.mp hlt⟩

theorem monthStart_lt_succ (month : ℤ) : monthStart month < monthStart (month + 1) := by
  have hyear := yearStart_succ (month / 12)
  unfold monthStart
  by_cases hlast : month % 12 = 11
  · have hnext : (month + 1) / 12 = month / 12 + 1 := by omega
    have hfirst : (month + 1) % 12 = 0 := by omega
    rw [hnext, hfirst, hlast]
    omega
  · have hsame : (month + 1) / 12 = month / 12 := by omega
    have hnext : (month + 1) % 12 = month % 12 + 1 := by omega
    rw [hsame, hnext]
    omega

theorem monthStart_strictMono : StrictMono monthStart :=
  strictMono_int_of_lt_succ monthStart_lt_succ

/-- A day is in its month. -/
theorem monthOf_spec (day : ℤ) :
    monthStart (monthOf day) ≤ day ∧ day < monthStart (monthOf day + 1) := by
  obtain ⟨hfirst, hlast⟩ := yearOf_spec day
  have hyear := yearStart_succ (yearOf day)
  unfold monthOf
  dsimp only
  generalize yearOf day = year at hfirst hlast hyear
  -- the day of the year, and the month of it
  obtain ⟨month, hmonth⟩ : ∃ month, month = (5 * (day - yearStart year) + 2) / 153 := ⟨_, rfl⟩
  have hrange : 0 ≤ month ∧ month ≤ 11 := by omega
  have hstart : monthStart (12 * year + month) = yearStart year + (153 * month + 2) / 5 := by
    unfold monthStart
    rw [show (12 * year + month) / 12 = year by omega, show (12 * year + month) % 12 = month by omega]
  rw [← hmonth, hstart]
  refine ⟨by omega, ?_⟩
  by_cases hdecember : month = 11
  · have hnext : monthStart (12 * year + month + 1) = yearStart (year + 1) := by
      unfold monthStart
      rw [show (12 * year + month + 1) / 12 = year + 1 by omega,
        show (12 * year + month + 1) % 12 = 0 by omega]
      omega
    rw [hnext]
    exact hlast
  · have hnext : monthStart (12 * year + month + 1) =
        yearStart year + (153 * (month + 1) + 2) / 5 := by
      unfold monthStart
      rw [show (12 * year + month + 1) / 12 = year by omega,
        show (12 * year + month + 1) % 12 = month + 1 by omega]
    rw [hnext]
    omega

/-- **Every day is in one month.** -/
theorem monthOf_eq_iff {day month : ℤ} :
    monthOf day = month ↔ monthStart month ≤ day ∧ day < monthStart (month + 1) := by
  obtain ⟨hfirst, hlast⟩ := monthOf_spec day
  constructor
  · rintro rfl
    exact ⟨hfirst, hlast⟩
  · rintro ⟨hle, hlt⟩
    have hbefore : month < monthOf day + 1 := monthStart_strictMono.lt_iff_lt.mp (lt_of_le_of_lt hle hlast)
    have hafter : monthOf day < month + 1 := monthStart_strictMono.lt_iff_lt.mp (lt_of_le_of_lt hfirst hlt)
    omega

/-! ### Periods -/

/-- The microseconds of a day. -/
def dayLength : ℤ := 86400000000

/-- A way to cut the time into periods, each told by where it starts. -/
structure Period where
  index : ℤ → ℤ
  start : ℤ → ℤ
  start_le_iff : ∀ {s t}, s ≤ t → (start t ≤ s ↔ index s = index t)

/-- Days. -/
def Period.day : Period where
  index t := t / dayLength
  start t := t - t % dayLength
  start_le_iff := by
    intro s t hst
    unfold dayLength
    omega

/-- The day of the calendar. -/
def dayOf (t : ℤ) : ℤ := t / dayLength + unixEpoch

/-- Months. -/
def Period.month : Period where
  index t := monthOf (dayOf t)
  start t := (monthStart (monthOf (dayOf t)) - unixEpoch) * dayLength
  start_le_iff := by
    intro s t hst
    have hday : dayOf s ≤ dayOf t := by
      unfold dayOf dayLength
      omega
    have hlast := (monthOf_spec (dayOf t)).2
    rw [monthOf_eq_iff]
    have hstart : (monthStart (monthOf (dayOf t)) - unixEpoch) * dayLength ≤ s ↔
        monthStart (monthOf (dayOf t)) ≤ dayOf s := by
      unfold dayOf dayLength
      omega
    rw [hstart]
    exact ⟨fun h => ⟨h, lt_of_le_of_lt hday hlast⟩, fun h => h.1⟩

end Support.Calendar
