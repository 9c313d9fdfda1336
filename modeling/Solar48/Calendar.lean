/-
**The Gregorian calendar.**

A date is a year, a month of it and a day of that month, and carries the proof that it is one.

Main definitions:

* `Calendar.Leap`, `Calendar.monthLength` — leap years and the lengths of the months;
* `Calendar.Date`, `Calendar.Date.next` — a date and the one after it;
* `Calendar.Date.dayNumber` — the number of days since the beginning of a year.

Main results:

* `Calendar.daysInYears_add` — how many days there are in a number of years;
* `Calendar.Date.dayNumber_next` — **the next date is one day later**;
* `Calendar.Date.next_of_lt`, `Calendar.Date.next_of_month_lt`, `Calendar.Date.next_year` — the
  three ways in which a day follows another.
-/

import Mathlib.Data.Nat.Notation
import Mathlib.Tactic.Common

set_option relaxedAutoImplicit false
set_option autoImplicit false

namespace Calendar

/-- A year is a leap year if it is divisible by four, but not by a hundred unless by four
hundred. -/
def Leap (year : ℕ) : Prop := year % 4 = 0 ∧ (year % 100 = 0 → year % 400 = 0)

instance (year : ℕ) : Decidable (Leap year) := inferInstanceAs (Decidable (_ ∧ _))

/-- The number of days of a month, 1 for January to 12 for December. -/
def monthLength (year month : ℕ) : ℕ :=
  if month = 2 then if Leap year then 29 else 28
  else if month = 4 ∨ month = 6 ∨ month = 9 ∨ month = 11 then 30 else 31

theorem monthLength_pos (year month : ℕ) : 1 ≤ monthLength year month := by
  unfold monthLength
  split_ifs <;> omega

theorem monthLength_le (year month : ℕ) : monthLength year month ≤ 31 := by
  unfold monthLength
  split_ifs <;> omega

/-! ### Counting days -/

/-- The number of days of a year. -/
def yearLength (year : ℕ) : ℕ := if Leap year then 366 else 365

/-- The number of days of the `n` years from `start` on. -/
def daysInYears (start : ℕ) : ℕ → ℕ
  | 0 => 0
  | n + 1 => daysInYears start n + yearLength (start + n)

/-- The number of days of the first `m` months of a year. -/
def daysInMonths (year : ℕ) : ℕ → ℕ
  | 0 => 0
  | m + 1 => daysInMonths year m + monthLength year (m + 1)

/-- The number of leap years from the year 1 on, up to a year. -/
def leapYearsTo (year : ℕ) : ℕ := year / 4 - year / 100 + year / 400

theorem leap_iff_dvd (year : ℕ) : Leap year ↔ 4 ∣ year ∧ (100 ∣ year → 400 ∣ year) := by
  rw [Leap, Nat.dvd_iff_mod_eq_zero, Nat.dvd_iff_mod_eq_zero, Nat.dvd_iff_mod_eq_zero]

theorem leapYearsTo_succ (year : ℕ) :
    leapYearsTo (year + 1) = leapYearsTo year + if Leap (year + 1) then 1 else 0 := by
  have hle : year / 100 ≤ year / 4 := Nat.div_le_div_left (by decide) (by decide)
  have h100 : 100 ∣ year + 1 → 4 ∣ year + 1 := Nat.dvd_trans (by decide)
  have h400 : 400 ∣ year + 1 → 100 ∣ year + 1 := Nat.dvd_trans (by decide)
  rw [leapYearsTo, leapYearsTo, Nat.succ_div, Nat.succ_div, Nat.succ_div]
  by_cases hc : 100 ∣ year + 1
  · by_cases hd : 400 ∣ year + 1
    · have hleap : Leap (year + 1) := (leap_iff_dvd _).2 ⟨h100 hc, fun _ => hd⟩
      rw [if_pos (h100 hc), if_pos hc, if_pos hd, if_pos hleap]
      omega
    · have hleap : ¬ Leap (year + 1) := fun h => hd (((leap_iff_dvd _).1 h).2 hc)
      rw [if_pos (h100 hc), if_pos hc, if_neg hd, if_neg hleap]
      omega
  · have hd : ¬ 400 ∣ year + 1 := fun h => hc (h400 h)
    have hleap : Leap (year + 1) ↔ 4 ∣ year + 1 :=
      (leap_iff_dvd _).trans (and_iff_left fun h => absurd h hc)
    rw [if_neg hc, if_neg hd, if_congr hleap rfl rfl]
    omega

/-- **Every year has 365 days, and a leap year one more.** -/
theorem daysInYears_add (start n : ℕ) :
    daysInYears (start + 1) n + leapYearsTo start = 365 * n + leapYearsTo (start + n) := by
  induction n with
  | zero => simp [daysInYears]
  | succ n ih =>
      have hnext := leapYearsTo_succ (start + n)
      rw [daysInYears, yearLength, show start + 1 + n = start + n + 1 by omega,
        show start + (n + 1) = start + n + 1 by omega, hnext]
      split_ifs <;> omega

/-- The months make up the year. -/
theorem daysInMonths_twelve (year : ℕ) : daysInMonths year 12 = yearLength year := by
  unfold yearLength
  split_ifs with h <;> simp [daysInMonths, monthLength, h]

/-! ### Dates -/

/-- A day of the calendar. -/
@[ext]
structure Date where
  year : ℕ
  month : ℕ
  day : ℕ
  month_pos : 1 ≤ month
  month_le : month ≤ 12
  day_pos : 1 ≤ day
  day_le : day ≤ monthLength year month
  deriving DecidableEq

namespace Date

/-- The day after. -/
def next (d : Date) : Date :=
  if hday : d.day < monthLength d.year d.month then
    { d with day := d.day + 1, day_pos := by omega, day_le := hday }
  else if hmonth : d.month < 12 then
    { year := d.year, month := d.month + 1, day := 1
      month_pos := by omega, month_le := hmonth
      day_pos := Nat.le_refl _, day_le := monthLength_pos _ _ }
  else
    { year := d.year + 1, month := 1, day := 1
      month_pos := Nat.le_refl _, month_le := by omega
      day_pos := Nat.le_refl _, day_le := monthLength_pos _ _ }

variable {d e : Date}

/-- Within a month the day is counted up. -/
theorem next_of_lt (h : d.day < monthLength d.year d.month) :
    d.next = e ↔ e.year = d.year ∧ e.month = d.month ∧ e.day = d.day + 1 := by
  rw [next, dif_pos h, eq_comm]
  exact Date.ext_iff

/-- A month that is over is followed by the next. -/
theorem next_of_month_lt (h : d.day = monthLength d.year d.month) (hm : d.month < 12) :
    d.next = e ↔ e.year = d.year ∧ e.month = d.month + 1 ∧ e.day = 1 := by
  rw [next, dif_neg (by omega), dif_pos hm, eq_comm]
  exact Date.ext_iff

/-- The year ends with December. -/
theorem next_year (h : d.next.year ≠ d.year) :
    d.month = 12 ∧ d.day = monthLength d.year d.month := by
  unfold next at h
  split at h
  · exact absurd rfl h
  · split at h
    · exact absurd rfl h
    · have := d.month_le
      have := d.day_le
      omega

theorem year_le_next (d : Date) : d.year ≤ d.next.year := by
  unfold next
  split
  · exact Nat.le_refl _
  · split
    · exact Nat.le_refl _
    · exact Nat.le_succ _

/-- The number of days from the first of January of `start` on. -/
def dayNumber (d : Date) (start : ℕ) : ℕ :=
  daysInYears start (d.year - start) + daysInMonths d.year (d.month - 1) + (d.day - 1)

/-- **The next date is one day later.** -/
theorem dayNumber_next {start : ℕ} (h : start ≤ d.year) :
    d.next.dayNumber start = d.dayNumber start + 1 := by
  have hday := d.day_pos
  have hmonth := d.month_pos
  have hlast := d.day_le
  unfold next dayNumber
  split
  · dsimp only
    omega
  · rename_i hover
    obtain ⟨m, hm⟩ : ∃ m, d.month = m + 1 := ⟨d.month - 1, by omega⟩
    rw [hm] at hover hlast
    split
    · dsimp only
      rw [hm, Nat.add_sub_cancel, Nat.add_sub_cancel, daysInMonths]
      omega
    · have hm12 : m + 1 = 12 := by
        have := d.month_le
        omega
      obtain ⟨n, hn⟩ := Nat.exists_eq_add_of_le h
      have hyear := daysInMonths_twelve d.year
      rw [← hm12, daysInMonths] at hyear
      have hnext : d.year + 1 - start = n + 1 := by omega
      have hthis : d.year - start = n := by omega
      dsimp only
      rw [hm, hnext, hthis, daysInYears, ← hn, ← hyear, Nat.add_sub_cancel, Nat.sub_self,
        daysInMonths]
      omega

end Date

end Calendar
