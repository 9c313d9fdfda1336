/-
**The decoded date from one day to the next.**

`get_solar48_date` divides the timestamp by years of 365 days and looks the day of the year up in
the table of a common year; a leap year is known only by its sixtieth day.  What it finds is a
date of the calendar, whatever the timestamp, but the dates of successive days do not always
follow each other.

Main definitions:

* `calendarDate` — the decoded date as a date of the calendar;
* `AdvancesOneDay` — a day later the decoder shows the next date and the same time of day.

Main results:

* `monthAndDay_succ` — what the decoder finds on the day after;
* `advancesOneDay_iff` — **the date advances by one day except on the first and the last of the
  decoder's 365 days and on the leap day**.
-/

import Solar48.Calendar
import Solar48.Rtc

set_option relaxedAutoImplicit false
set_option autoImplicit false

namespace Solar48

open Calendar

/-! ### The tables and the calendar -/

theorem isLeapYear_eq (year : ℕ) : isLeapYear year = decide (Leap year) := by
  unfold isLeapYear Leap
  by_cases h4 : year % 4 = 0 <;> by_cases h100 : year % 100 = 0 <;> simp [h4, h100]

/-- The code's month lengths are those of the calendar. -/
theorem maxDay_eq_monthLength (year : ℕ) {month : ℕ} (h₁ : 1 ≤ month) (h₂ : month ≤ 12) :
    maxDay year month = monthLength year month := by
  unfold maxDay monthLength
  rw [isLeapYear_eq]
  by_cases hleap : Leap year <;> interval_cases month <;> simp [hleap, daysInMonth]

theorem monthTable_le {i : ℕ} (h : i < 12) : monthTable i ≤ 365 := by
  interval_cases i <;> decide

theorem toNat_monthTable {i : ℕ} (h : i < 12) :
    (UInt32.ofNat (monthTable i)).toNat = monthTable i := by
  have hsize : UInt32.size = 2 ^ 32 := rfl
  have := monthTable_le h
  exact UInt32.toNat_ofNat_of_lt' (by omega)

/-- The length of a month of a year that is a leap year or not. -/
def lengthOf (leap : Bool) (month : ℕ) : ℕ :=
  if month = 2 && leap then 29 else daysInMonth (month - 1)

theorem lengthOf_isLeapYear (year : ℕ) {month : ℕ} (h₁ : 1 ≤ month) (h₂ : month ≤ 12) :
    lengthOf (isLeapYear year) month = monthLength year month := by
  rw [← maxDay_eq_monthLength year h₁ h₂, lengthOf, maxDay]

/-! ### The day after, within the decoder's year -/

/-- A day past January of a common year, by its month and its day there. -/
theorem exists_month_day {days : ℕ} (h₁ : 31 < days) (h₂ : days ≤ 365) :
    ∃ j k, j < 11 ∧ 1 ≤ k ∧ k ≤ daysInMonth (j + 1) ∧ days = monthTable j + k := by
  obtain ⟨j, hj, hlt, hle⟩ := exists_month (show monthTable 0 < days from h₁) h₂
  have hsucc := monthTable_succ hj
  exact ⟨j, days - monthTable j, hj, by omega, by omega, by omega⟩

theorem monthAndDay_january (leap : Bool) {days : ℕ} (h : days ≤ 31) :
    monthAndDay leap days = (1, days) := by
  unfold monthAndDay
  exact if_pos h

/-- The decoder knows a leap year by its sixtieth day only. -/
theorem monthAndDay_leap {days : ℕ} (h : days ≠ 60) :
    monthAndDay true days = monthAndDay false days := by
  have h60 : ¬ monthTable 1 + 1 = days := fun heq => h heq.symm
  unfold monthAndDay
  simp [h60]

/-- **What the decoder finds on the day after in a common year.** -/
theorem monthAndDay_succ_common {days : ℕ} (h₁ : 1 ≤ days) (h₂ : days < 365) :
    ((monthAndDay false days).2 < daysInMonth ((monthAndDay false days).1 - 1) ∧
      monthAndDay false (days + 1) =
        ((monthAndDay false days).1, (monthAndDay false days).2 + 1)) ∨
    ((monthAndDay false days).2 = daysInMonth ((monthAndDay false days).1 - 1) ∧
      (monthAndDay false days).1 < 12 ∧
      monthAndDay false (days + 1) = ((monthAndDay false days).1 + 1, 1)) := by
  rcases Nat.lt_or_ge 31 days with hlater | hjan
  · obtain ⟨j, k, hj, hk, hk', rfl⟩ := exists_month_day hlater h₂.le
    rw [monthAndDay_table hj hk hk']
    dsimp only
    rw [show j + 2 - 1 = j + 1 by omega]
    rcases Nat.eq_or_lt_of_le hk' with heq | hlt
    · -- the last day of the month, which is not December
      have hsucc := monthTable_succ hj
      have hj' : j + 1 < 11 := by
        by_contra hge
        obtain rfl : j = 10 := by omega
        have hend : monthTable (10 + 1) = 365 := rfl
        omega
      refine Or.inr ⟨heq, by omega, ?_⟩
      rw [heq, ← hsucc]
      have hj'' : j < 10 := by omega
      exact monthAndDay_table hj' le_rfl (by interval_cases j <;> decide)
    · refine Or.inl ⟨hlt, ?_⟩
      rw [Nat.add_assoc]
      exact monthAndDay_table hj (by omega) hlt
  · rw [monthAndDay_january false hjan]
    rcases Nat.eq_or_lt_of_le hjan with rfl | hlt
    · exact Or.inr ⟨rfl, by decide, rfl⟩
    · exact Or.inl ⟨hlt, monthAndDay_january false hlt⟩

/-- **What the decoder finds on the day after**, in any year but for the day after a leap day. -/
theorem monthAndDay_succ {leap : Bool} {days : ℕ} (h₁ : 1 ≤ days) (h₂ : days < 365)
    (h60 : ¬ (leap = true ∧ days = 60)) :
    ((monthAndDay leap days).2 < lengthOf leap (monthAndDay leap days).1 ∧
      monthAndDay leap (days + 1) =
        ((monthAndDay leap days).1, (monthAndDay leap days).2 + 1)) ∨
    ((monthAndDay leap days).2 = lengthOf leap (monthAndDay leap days).1 ∧
      (monthAndDay leap days).1 < 12 ∧
      monthAndDay leap (days + 1) = ((monthAndDay leap days).1 + 1, 1)) := by
  have hcommon := monthAndDay_succ_common h₁ h₂
  cases leap with
  | false =>
      simp only [lengthOf, Bool.and_false, Bool.false_eq_true, if_false]
      exact hcommon
  | true =>
      have hne : days ≠ 60 := fun h => h60 ⟨rfl, h⟩
      rcases eq_or_ne days 59 with rfl | h59
      · exact Or.inl ⟨by decide, by decide⟩
      · rw [monthAndDay_leap hne, monthAndDay_leap (by omega)]
        have hspec := monthAndDay_spec false h₂
        by_cases hfeb : (monthAndDay false days).1 = 2
        · -- February goes on: its common end is day 59
          have hday : 31 + (monthAndDay false days).2 = days := by
            obtain ⟨h, -⟩ | ⟨-, -, -, -, hsum⟩ := hspec
            · omega
            · rwa [hfeb] at hsum
          have hlen : daysInMonth ((monthAndDay false days).1 - 1) = 28 := by
            rw [hfeb]
            rfl
          have hleap : lengthOf true (monthAndDay false days).1 = 29 := by
            rw [hfeb]
            rfl
          obtain ⟨hlt, hnext⟩ | ⟨heq, -, -⟩ := hcommon
          · exact Or.inl ⟨by omega, hnext⟩
          · omega
        · have hlen : lengthOf true (monthAndDay false days).1 =
              daysInMonth ((monthAndDay false days).1 - 1) := by
            simp [lengthOf, hfeb]
          rwa [hlen]

/-- The day found lies in the month found. -/
theorem monthAndDay_le (leap : Bool) {days : ℕ} (h : days < 365) :
    (monthAndDay leap days).2 ≤ lengthOf leap (monthAndDay leap days).1 := by
  rcases Nat.eq_zero_or_pos days with rfl | hpos
  · rw [monthAndDay_january leap (by decide)]
    exact Nat.zero_le _
  · by_cases h60 : leap = true ∧ days = 60
    · obtain ⟨rfl, rfl⟩ := h60
      decide
    · obtain ⟨hlt, -⟩ | ⟨heq, -⟩ := monthAndDay_succ hpos h h60
      · exact hlt.le
      · exact heq.le

/-! ### The decoded date -/

variable (t : UInt32)

/-- The day of the decoder's year, from 0 to 364. -/
def dayIndex : ℕ := t.toNat % yearsInSeconds / daysInSeconds

theorem dayIndex_lt : dayIndex t < 365 := by
  simp only [dayIndex, yearsInSeconds, daysInSeconds, hoursInSeconds, minutesInSeconds]
  omega

/-- Month and day of the decoded date, as numbers. -/
theorem month_day_toNat :
    (getSolar48Date t).month.toNat =
        (monthAndDay (isLeapYear (getSolar48Date t).year.toNat) (dayIndex t)).1 ∧
      (getSolar48Date t).day.toNat =
        max 1 (monthAndDay (isLeapYear (getSolar48Date t).year.toNat) (dayIndex t)).2 := by
  have hmonth : (getSolar48Date t).month = UInt8.ofNat
      (monthAndDay (isLeapYear (getSolar48Date t).year.toNat) (dayIndex t)).1 := rfl
  have hday : (getSolar48Date t).day = atLeastOne (UInt8.ofNat
      (monthAndDay (isLeapYear (getSolar48Date t).year.toNat) (dayIndex t)).2) := rfl
  have hspec := monthAndDay_spec (isLeapYear (getSolar48Date t).year.toNat) (dayIndex_lt t)
  rw [hmonth, hday]
  generalize monthAndDay (isLeapYear (getSolar48Date t).year.toNat) (dayIndex t) = md at hspec
  constructor
  · rw [UInt8.toNat_ofNat']
    omega
  · rcases Nat.eq_zero_or_pos md.2 with h0 | hpos
    · rw [h0]
      rfl
    · have hbyte : (UInt8.ofNat md.2).toNat = md.2 := by
        rw [UInt8.toNat_ofNat']
        omega
      rw [atLeastOne_of_pos (by omega), hbyte]
      omega

/-- **The decoded date is one of the calendar.** -/
theorem day_le_monthLength : (getSolar48Date t).day.toNat ≤
    monthLength (getSolar48Date t).year.toNat (getSolar48Date t).month.toNat := by
  obtain ⟨-, -, -, -, hpos, hle, -⟩ := getSolar48Date_valid t
  rw [← lengthOf_isLeapYear _ hpos hle, (month_day_toNat t).1, (month_day_toNat t).2]
  have hlen := monthAndDay_le (isLeapYear (getSolar48Date t).year.toNat) (dayIndex_lt t)
  have hone := monthLength_pos (getSolar48Date t).year.toNat (getSolar48Date t).month.toNat
  rw [← lengthOf_isLeapYear _ hpos hle, (month_day_toNat t).1] at hone
  omega

/-- The decoded date. -/
def calendarDate : Date where
  year := (getSolar48Date t).year.toNat
  month := (getSolar48Date t).month.toNat
  day := (getSolar48Date t).day.toNat
  month_pos := (getSolar48Date_valid t).2.2.2.2.1
  month_le := (getSolar48Date_valid t).2.2.2.2.2.1
  day_pos := (getSolar48Date_valid t).2.2.2.2.2.2.1
  day_le := day_le_monthLength t

/-- A day later the decoder shows the next date and the same time of day. -/
def AdvancesOneDay : Prop :=
  calendarDate (t + 86400) = (calendarDate t).next ∧
    (getSolar48Date (t + 86400)).hour = (getSolar48Date t).hour ∧
    (getSolar48Date (t + 86400)).minute = (getSolar48Date t).minute ∧
    (getSolar48Date (t + 86400)).second = (getSolar48Date t).second

instance : Decidable (AdvancesOneDay t) := inferInstanceAs (Decidable (_ ∧ _))

variable {t}

theorem toNat_add_day (h : t.toNat + 86400 ≤ 2 ^ 32 - 1) :
    (t + 86400).toNat = t.toNat + 86400 := by
  rw [UInt32.toNat_add]
  exact Nat.mod_eq_of_lt (by simp only [UInt32.reduceToNat]; omega)

/-- The time of day is the same a day later. -/
theorem time_add_day (h : t.toNat + 86400 ≤ 2 ^ 32 - 1) :
    (getSolar48Date (t + 86400)).hour = (getSolar48Date t).hour ∧
      (getSolar48Date (t + 86400)).minute = (getSolar48Date t).minute ∧
      (getSolar48Date (t + 86400)).second = (getSolar48Date t).second := by
  have hsame : (t + 86400).toNat % yearsInSeconds % daysInSeconds =
      t.toNat % yearsInSeconds % daysInSeconds := by
    rw [toNat_add_day h]
    simp only [yearsInSeconds, daysInSeconds, hoursInSeconds, minutesInSeconds]
    omega
  have hhour : ∀ u : UInt32, (getSolar48Date u).hour =
      UInt8.ofNat (u.toNat % yearsInSeconds % daysInSeconds / hoursInSeconds) := fun _ => rfl
  have hminute : ∀ u : UInt32, (getSolar48Date u).minute =
      UInt8.ofNat (u.toNat % yearsInSeconds % daysInSeconds % hoursInSeconds / 60) := fun _ => rfl
  have hsecond : ∀ u : UInt32, (getSolar48Date u).second =
      UInt8.ofNat (u.toNat % yearsInSeconds % daysInSeconds % hoursInSeconds % 60) := fun _ => rfl
  refine ⟨?_, ?_, ?_⟩
  · rw [hhour, hhour, hsame]
  · rw [hminute, hminute, hsame]
  · rw [hsecond, hsecond, hsame]

/-- A day later the decoder's day of the year is the next one, or the first of its next year. -/
theorem dayIndex_add_day (h : t.toNat + 86400 ≤ 2 ^ 32 - 1) :
    (dayIndex t < 364 ∧ dayIndex (t + 86400) = dayIndex t + 1 ∧
      (getSolar48Date (t + 86400)).year.toNat = (getSolar48Date t).year.toNat) ∨
    (dayIndex t = 364 ∧ dayIndex (t + 86400) = 0 ∧
      (getSolar48Date (t + 86400)).year.toNat = (getSolar48Date t).year.toNat + 1) := by
  have hlt := dayIndex_lt t
  rw [year_toNat, year_toNat]
  unfold dayIndex at *
  rw [toNat_add_day h]
  simp only [yearsInSeconds, daysInSeconds, hoursInSeconds, minutesInSeconds] at *
  omega

/-- Within the decoder's year it is month and day that matter. -/
theorem next_calendarDate_iff {m k m' k' : ℕ}
    (hyear : (getSolar48Date (t + 86400)).year.toNat = (getSolar48Date t).year.toNat)
    (h : monthAndDay (isLeapYear (getSolar48Date t).year.toNat) (dayIndex t) = (m, k))
    (h' : monthAndDay (isLeapYear (getSolar48Date t).year.toNat) (dayIndex (t + 86400)) =
      (m', k')) :
    calendarDate (t + 86400) = (calendarDate t).next ↔
      (max 1 k < lengthOf (isLeapYear (getSolar48Date t).year.toNat) m ∧
        m' = m ∧ max 1 k' = max 1 k + 1) ∨
      (max 1 k = lengthOf (isLeapYear (getSolar48Date t).year.toNat) m ∧ m < 12 ∧
        m' = m + 1 ∧ max 1 k' = 1) := by
  have hmonth : (calendarDate t).month = m := by
    have := (month_day_toNat t).1
    rwa [h] at this
  have hday : (calendarDate t).day = max 1 k := by
    have := (month_day_toNat t).2
    rwa [h] at this
  have hmonth' : (calendarDate (t + 86400)).month = m' := by
    have := (month_day_toNat (t + 86400)).1
    rwa [hyear, h'] at this
  have hday' : (calendarDate (t + 86400)).day = max 1 k' := by
    have := (month_day_toNat (t + 86400)).2
    rwa [hyear, h'] at this
  have hlen : monthLength (calendarDate t).year (calendarDate t).month =
      lengthOf (isLeapYear (getSolar48Date t).year.toNat) m := by
    rw [← hmonth]
    exact (lengthOf_isLeapYear _ (calendarDate t).month_pos (calendarDate t).month_le).symm
  have hle := (calendarDate t).day_le
  rw [hlen, hday] at hle
  rw [eq_comm, ← hlen, ← hday, ← hday', ← hmonth, ← hmonth']
  rw [← hlen, ← hday] at hle
  rcases Nat.eq_or_lt_of_le hle with heq | hlt
  · by_cases h12 : (calendarDate t).month < 12
    · rw [Date.next_of_month_lt heq h12]
      constructor
      · rintro ⟨-, hm, hd⟩
        exact Or.inr ⟨heq, h12, hm, hd⟩
      · rintro (⟨hlt, -⟩ | ⟨-, -, hm, hd⟩)
        · omega
        · exact ⟨hyear, hm, hd⟩
    · -- after 31 December the year changes
      refine iff_of_false (fun hnext => ?_) (by omega)
      have hy := congrArg Date.year hnext
      unfold Date.next at hy
      rw [dif_neg (by omega), dif_neg h12] at hy
      exact absurd (hy.trans hyear) (by simp [calendarDate])
  · rw [Date.next_of_lt hlt]
    constructor
    · rintro ⟨-, hm, hd⟩
      exact Or.inl ⟨hlt, hm, hd⟩
    · rintro (⟨-, hm, hd⟩ | ⟨heq, -⟩)
      · exact ⟨hyear, hm, hd⟩
      · omega

/-- The first day of the decoder's year and the second are both shown as 1 January. -/
theorem not_next_of_first
    (hyear : (getSolar48Date (t + 86400)).year.toNat = (getSolar48Date t).year.toNat)
    (hfirst : dayIndex t = 0) (hnext : dayIndex (t + 86400) = dayIndex t + 1) :
    calendarDate (t + 86400) ≠ (calendarDate t).next := by
  rw [hfirst] at hnext
  have hday : monthAndDay (isLeapYear (getSolar48Date t).year.toNat) (dayIndex t) = (1, 0) := by
    rw [hfirst]
    exact monthAndDay_january _ (by decide)
  have hday' : monthAndDay (isLeapYear (getSolar48Date t).year.toNat) (dayIndex (t + 86400)) =
      (1, 1) := by
    rw [hnext]
    exact monthAndDay_january _ (by decide)
  rw [ne_eq, next_calendarDate_iff hyear hday hday']
  omega

/-- The day after the leap day is shown as 2 March. -/
theorem not_next_of_leap_day
    (hyear : (getSolar48Date (t + 86400)).year.toNat = (getSolar48Date t).year.toNat)
    (hleap : isLeapYear (getSolar48Date t).year.toNat = true) (h60 : dayIndex t = 60)
    (hnext : dayIndex (t + 86400) = dayIndex t + 1) :
    calendarDate (t + 86400) ≠ (calendarDate t).next := by
  rw [h60] at hnext
  have hday : monthAndDay (isLeapYear (getSolar48Date t).year.toNat) (dayIndex t) = (2, 29) := by
    rw [hleap, h60]
    decide
  have hday' : monthAndDay (isLeapYear (getSolar48Date t).year.toNat) (dayIndex (t + 86400)) =
      (3, 2) := by
    rw [hleap, hnext]
    decide
  rw [ne_eq, next_calendarDate_iff hyear hday hday']
  omega

/-- The other days but the last follow each other. -/
theorem next_of_dayIndex
    (hyear : (getSolar48Date (t + 86400)).year.toNat = (getSolar48Date t).year.toNat)
    (hpos : 0 < dayIndex t) (hnext : dayIndex (t + 86400) = dayIndex t + 1)
    (h60 : ¬ (isLeapYear (getSolar48Date t).year.toNat = true ∧ dayIndex t = 60)) :
    calendarDate (t + 86400) = (calendarDate t).next := by
  have hsucc := monthAndDay_succ hpos (dayIndex_lt t) h60
  have hspec := monthAndDay_spec (isLeapYear (getSolar48Date t).year.toNat) (dayIndex_lt t)
  rw [← hnext] at hsucc
  rcases hday : monthAndDay (isLeapYear (getSolar48Date t).year.toNat) (dayIndex t) with ⟨m, k⟩
  rw [hday] at hsucc hspec
  dsimp only at hsucc hspec
  obtain ⟨hlt, hday'⟩ | ⟨hend, hm, hday'⟩ := hsucc
  · rw [next_calendarDate_iff hyear hday hday']
    exact Or.inl ⟨by omega, rfl, by omega⟩
  · rw [next_calendarDate_iff hyear hday hday']
    exact Or.inr ⟨by omega, hm, rfl, rfl⟩

/-- The decoder's year ends with 30 December. -/
theorem not_next_of_last
    (hyear : (getSolar48Date (t + 86400)).year.toNat = (getSolar48Date t).year.toNat + 1)
    (hlast : dayIndex t = 364) : calendarDate (t + 86400) ≠ (calendarDate t).next := by
  intro hadv
  have hdec : monthAndDay (isLeapYear (getSolar48Date t).year.toNat) (dayIndex t) = (12, 30) := by
    rw [hlast]
    cases isLeapYear (getSolar48Date t).year.toNat <;> decide
  have hyears : (calendarDate t).next.year ≠ (calendarDate t).year := by
    rw [← hadv]
    simp only [calendarDate]
    omega
  -- only the last of 31 days is followed by another year
  obtain ⟨h12, hend⟩ := Date.next_year hyears
  rw [h12] at hend
  have hlen : monthLength (calendarDate t).year 12 = 31 := rfl
  have hday := (month_day_toNat t).2
  rw [hdec] at hday
  have hthirty : (calendarDate t).day = 30 := hday
  omega

/-- **The date advances by one day except on the first and the last of the decoder's 365 days and
on the leap day.** -/
theorem advancesOneDay_iff (h : t.toNat + 86400 ≤ 2 ^ 32 - 1) :
    AdvancesOneDay t ↔ dayIndex t ≠ 0 ∧ dayIndex t ≠ 364 ∧
      ¬ (dayIndex t = 60 ∧ Leap (1970 + t.toNat / yearsInSeconds)) := by
  have hleap : isLeapYear (getSolar48Date t).year.toNat = true ↔
      Leap (1970 + t.toNat / yearsInSeconds) := by
    rw [isLeapYear_eq, year_toNat, Nat.add_comm, decide_eq_true_eq]
  rw [AdvancesOneDay, and_iff_left (time_add_day h), ← hleap]
  obtain ⟨hlt, hnext, hyear⟩ | ⟨hlast, -, hyear⟩ := dayIndex_add_day h
  · rcases Nat.eq_zero_or_pos (dayIndex t) with hfirst | hpos
    · exact iff_of_false (not_next_of_first hyear hfirst hnext) fun hok => hok.1 hfirst
    · by_cases h60 : isLeapYear (getSolar48Date t).year.toNat = true ∧ dayIndex t = 60
      · exact iff_of_false (not_next_of_leap_day hyear h60.1 h60.2 hnext) fun hok =>
          hok.2.2 h60.symm
      · exact iff_of_true (next_of_dayIndex hyear hpos hnext h60)
          ⟨Nat.ne_of_gt hpos, Nat.ne_of_lt hlt, fun hleap60 => h60 hleap60.symm⟩
  · exact iff_of_false (not_next_of_last hyear hlast) fun hok => hok.2.1 hlast

/-- 28 February 1972 is followed by the leap day. -/
theorem advancesOneDay_leap_day : AdvancesOneDay 68169600 :=
  (advancesOneDay_iff (by decide)).2 (by decide)

/-- The second day shows the same date as the first. -/
theorem advancesOneDay_epoch :
    ¬ ∀ t : UInt32, t.toNat + 86400 ≤ 2 ^ 32 - 1 → AdvancesOneDay t := by
  intro h
  exact absurd (h 0 (by decide)) (by decide)

end Solar48
