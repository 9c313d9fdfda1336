/-
**The clock: encoding a date as a timestamp and reading it back.**

`set_date` checks a date and writes seconds since 1970 into the real time clock;
`get_solar48_date` turns the clock's 32-bit value back into a date.  Both count days with the same
cumulative month table and years of 365 days, but they treat leap years differently: the encoder
adds a day from February on, the decoder knows of one extra day only, the sixtieth.

Main definitions:

* `setDate` — the value that `set_date` passes to `rtc_set_timestamp`, if it accepts;
* `getSolar48Date` — the date that `get_solar48_date` computes from a timestamp;
* `Solar48Date.SameMoment` — two dates agree in all but the derived week day.

Main results:

* `setDate_eq_some` — what an accepted date satisfies and which timestamp it gives;
* `getSolar48Date_valid` — **the decoder yields a time of day and a month and day in range, for
  every timestamp**;
* `sameMoment_getSolar48Date_iff` — **the round trip is the identity exactly for January and, in
  common years, for every day but the last**.
-/

import Mathlib.Tactic.IntervalCases
import Mathlib.Algebra.Group.Nat.Defs

set_option relaxedAutoImplicit false
set_option autoImplicit false

namespace Solar48

/-! ### The calendar -/

/-- `SOLAR48_DATE`. -/
structure Solar48Date where
  /-- the full year, as in 2025 -/
  year : UInt16
  /-- 1 for January to 12 for December -/
  month : UInt8
  /-- 1 to 31 -/
  day : UInt8
  hour : UInt8
  minute : UInt8
  second : UInt8
  /-- 0 for Sunday to 6 for Saturday -/
  weekDay : UInt8
  deriving DecidableEq, Repr

/-- `is_leap_year`. -/
def isLeapYear (year : ℕ) : Bool :=
  year % 4 = 0 && (year % 100 ≠ 0 || year % 400 = 0)

/-- `days_in_month`, indexed from 0. -/
def daysInMonth (i : ℕ) : ℕ :=
  [31, 28, 31, 30, 31, 30, 31, 31, 30, 31, 30, 31].getD i 0

/-- `month_table`: the day number of a month's last day in a common year, indexed from 0. -/
def monthTable (i : ℕ) : ℕ :=
  [31, 59, 90, 120, 151, 181, 212, 243, 273, 304, 334, 365].getD i 0

/-- `UNIX_YEAR_TIMESTAMP`. -/
def unixYearTimestamp : ℕ := 1970

/-- `MINUTES_IN_SECONDS`. -/
def minutesInSeconds : ℕ := 60

/-- `HOURS_IN_SECONDS`. -/
def hoursInSeconds : ℕ := 60 * minutesInSeconds

/-- `DAYS_IN_SECONDS`. -/
def daysInSeconds : ℕ := 24 * hoursInSeconds

/-- `YEARS_IN_SECONDS`: every year counts 365 days. -/
def yearsInSeconds : ℕ := 365 * daysInSeconds

/-- `MAX_TIMESTAMP_VALUE`. -/
def maxTimestampValue : ℤ := 0xFFFFFFFF

/-- `valid_time`. -/
def validTime (hour min sec : ℕ) : Bool :=
  hour < 24 && min < 60 && sec < 60

/-- The local `max_day` of `valid_date_util`. -/
def maxDay (year month : ℕ) : ℕ :=
  if month = 2 && isLeapYear year then 29 else daysInMonth (month - 1)

/-- `valid_date_util`: the returned day, 0 or error, and what is stored in `out_is_leap_year`. -/
def validDateUtil (year month day : ℕ) : ℤ × Bool :=
  if month < 1 ∨ month > 12 then (-1, false)
  else
    (if day ≤ maxDay year month then day else 0,
      (month = 2 && maxDay year month = 29) || isLeapYear year)

/-- `valid_date_in_unix_year`.  Before 1970 `out_is_leap_year` is left unwritten, and `set_date`
does not read it then. -/
def validDateInUnixYear (year month day : ℕ) : ℤ × Bool :=
  if year ≥ unixYearTimestamp then validDateUtil year month day else (-3, false)

/-- `get_day`, with C's division towards zero. -/
def getDay (y m d : ℤ) : ℤ :=
  let d := d + if m < 3 then y else y - 2
  let y := if m < 3 then y - 1 else y
  ((23 * m).tdiv 9 + d + 4 + y.tdiv 4 - y.tdiv 100 + y.tdiv 400).tmod 7

/-! ### `set_date` -/

/-- The `int64_t timestamp` of `set_date`, for a year from 1970 on. -/
def dateTimestamp (sd : Solar48Date) (leap : Bool) : ℤ :=
  let timestamp : ℤ :=
    (sd.year.toNat - unixYearTimestamp : ℕ) * yearsInSeconds + sd.day.toNat * daysInSeconds
      + sd.hour.toNat * hoursInSeconds + sd.minute.toNat * minutesInSeconds + sd.second.toNat
  -- in a leap year February already counts the extra day
  if sd.month.toNat > 1 then
    timestamp + monthTable (sd.month.toNat - 2) * daysInSeconds + if leap then daysInSeconds else 0
  else timestamp

/-- `set_date`: the value passed to `rtc_set_timestamp`, or `none` where it returns false. -/
def setDate (sd : Solar48Date) : Option UInt32 :=
  if !validTime sd.hour.toNat sd.minute.toNat sd.second.toNat then none
  else
    let checked := validDateInUnixYear sd.year.toNat sd.month.toNat sd.day.toNat
    if checked.1 < 1 then none
    else
      let timestamp := dateTimestamp sd checked.2
      if timestamp < 0 ∨ timestamp > maxTimestampValue then none
      else some (UInt32.ofNat timestamp.toNat)

/-! ### `get_solar48_date` -/

/-- The `do` loop over `month_table`: `left` entries remain from index `m` on. -/
def findMonth (days : ℕ) : ℕ → ℕ → ℕ
  | 0, m => m
  | left + 1, m => if monthTable m ≥ days then m + 1 else findMonth days left (m + 1)

/-- The month and day that `get_solar48_date` finds for a day number of the year, with the
`goto`s as the branches' ends. -/
def monthAndDay (leap : Bool) (days : ℕ) : ℕ × ℕ :=
  if monthTable 0 ≥ days then (1, days)
  else if monthTable 1 ≥ days ∨ (monthTable 1 + 1 = days ∧ leap) then (2, days - monthTable 0)
  else (findMonth days 10 2, days - monthTable (findMonth days 10 2 - 2))

/-- `if (!sd->day) sd->day = 1`. -/
def atLeastOne (day : UInt8) : UInt8 := if day = 0 then 1 else day

/-- `get_solar48_date` on a timestamp. -/
def getSolar48Date (timestamp : UInt32) : Solar48Date :=
  let year := UInt16.ofNat (timestamp.toNat / yearsInSeconds) + UInt16.ofNat unixYearTimestamp
  let secondsLeftInYear := timestamp.toNat % yearsInSeconds
  let days := secondsLeftInYear / daysInSeconds
  let md := monthAndDay (isLeapYear year.toNat) days
  let month := UInt8.ofNat md.1
  let day := atLeastOne (UInt8.ofNat md.2)
  let pastSecondsInOneDay := secondsLeftInYear % daysInSeconds
  let pastSecondInOneHour := pastSecondsInOneDay % hoursInSeconds
  { year, month, day
    hour := UInt8.ofNat (pastSecondsInOneDay / hoursInSeconds)
    minute := UInt8.ofNat (pastSecondInOneHour / 60)
    second := UInt8.ofNat (pastSecondInOneHour % 60)
    weekDay := UInt8.ofNat (getDay year.toNat month.toNat day.toNat).toNat }

/-- Two dates agree in year, month, day, hour, minute and second. -/
def Solar48Date.SameMoment (a b : Solar48Date) : Prop :=
  a.year = b.year ∧ a.month = b.month ∧ a.day = b.day ∧
    a.hour = b.hour ∧ a.minute = b.minute ∧ a.second = b.second

instance (a b : Solar48Date) : Decidable (a.SameMoment b) :=
  inferInstanceAs (Decidable (_ ∧ _))

/-! ### What an accepted date satisfies -/

/-- The date lies in the Gregorian calendar from 1970 on and the time within a day. -/
structure Solar48Date.Valid (sd : Solar48Date) : Prop where
  hour_lt : sd.hour.toNat < 24
  minute_lt : sd.minute.toNat < 60
  second_lt : sd.second.toNat < 60
  year_ge : 1970 ≤ sd.year.toNat
  month_pos : 1 ≤ sd.month.toNat
  month_le : sd.month.toNat ≤ 12
  day_pos : 1 ≤ sd.day.toNat
  day_le : sd.day.toNat ≤ maxDay sd.year.toNat sd.month.toNat

namespace Solar48Date

/-- The date lies in a leap year. -/
def leap (sd : Solar48Date) : Bool := isLeapYear sd.year.toNat

/-- The day number that the encoder counts: 1 on the first of January. -/
def dayOfYear (sd : Solar48Date) : ℕ :=
  sd.day.toNat + if sd.month.toNat > 1 then
    monthTable (sd.month.toNat - 2) + if sd.leap then 1 else 0 else 0

/-- The seconds since midnight. -/
def secondOfDay (sd : Solar48Date) : ℕ :=
  sd.hour.toNat * 3600 + sd.minute.toNat * 60 + sd.second.toNat

end Solar48Date

variable {sd : Solar48Date} {t : UInt32}

theorem validDateInUnixYear_pos {year month day : ℕ}
    (h : ¬ (validDateInUnixYear year month day).1 < 1) :
    1970 ≤ year ∧ 1 ≤ month ∧ month ≤ 12 ∧ 1 ≤ day ∧ day ≤ maxDay year month ∧
      (validDateInUnixYear year month day).2 = isLeapYear year := by
  unfold validDateInUnixYear validDateUtil unixYearTimestamp at *
  split at h
  · rename_i hy
    rw [if_pos hy]
    split at h
    · exact absurd (by decide) h
    · rename_i hm
      rw [if_neg hm]
      dsimp only at h ⊢
      split at h
      · rename_i hd
        refine ⟨hy, by omega, by omega, by omega, hd, ?_⟩
        -- a February of 29 days is one of a leap year
        cases hleap : isLeapYear year with
        | true => simp
        | false =>
            have hne : month = 2 → maxDay year month ≠ 29 := by
              rintro rfl
              simp [maxDay, hleap, daysInMonth]
            simpa using hne
      · exact absurd (by decide) h
  · exact absurd (by decide) h

/-- The encoder's sum, counted in days and seconds. -/
theorem dateTimestamp_eq (sd : Solar48Date) :
    dateTimestamp sd sd.leap =
      ((((sd.year.toNat - 1970) * 365 + sd.dayOfYear) * 86400 + sd.secondOfDay : ℕ) : ℤ) := by
  unfold dateTimestamp Solar48Date.dayOfYear Solar48Date.secondOfDay
  have hy' : yearsInSeconds = 31536000 := rfl
  have hd' : daysInSeconds = 86400 := rfl
  have hh' : hoursInSeconds = 3600 := rfl
  rw [hy', hd', hh', show minutesInSeconds = 60 from rfl, show unixYearTimestamp = 1970 from rfl]
  cases sd.leap
  · split <;> simp only [Bool.false_eq_true, if_false] <;> omega
  · split <;> simp only [if_true] <;> omega

/-- **What an accepted date satisfies.** -/
theorem setDate_eq_some (h : setDate sd = some t) :
    sd.Valid ∧ t.toNat =
      ((sd.year.toNat - 1970) * 365 + sd.dayOfYear) * 86400 + sd.secondOfDay := by
  unfold setDate at h
  split at h
  · cases h
  · rename_i htime
    dsimp only at h
    split at h
    · cases h
    · rename_i hdate
      obtain ⟨hy, hm, hm', hd, hd', hleap⟩ := validDateInUnixYear_pos hdate
      rw [hleap, show isLeapYear sd.year.toNat = sd.leap from rfl, dateTimestamp_eq] at h
      split at h
      · cases h
      · rename_i hrange
        have htime : (sd.hour.toNat < 24 ∧ sd.minute.toNat < 60) ∧ sd.second.toNat < 60 := by
          simpa [validTime] using htime
        refine ⟨⟨htime.1.1, htime.1.2, htime.2, hy, hm, hm', hd, hd'⟩, ?_⟩
        rw [← Option.some.inj h, Int.toNat_natCast, UInt32.toNat_ofNat']
        simp only [maxTimestampValue, not_or, not_lt] at hrange
        exact Nat.mod_eq_of_lt (by omega)

theorem Solar48Date.Valid.secondOfDay_lt (h : sd.Valid) : sd.secondOfDay < 86400 := by
  have := h.hour_lt
  have := h.minute_lt
  have := h.second_lt
  unfold secondOfDay
  omega

/-! ### Searching the month table -/

/-- The loop stops at the first entry that reaches the day. -/
theorem findMonth_eq {days j : ℕ} (hj : days ≤ monthTable j) :
    ∀ {left m : ℕ}, m ≤ j → j < m + left → (∀ i, m ≤ i → i < j → monthTable i < days) →
      findMonth days left m = j + 1
  | 0, m, hm, hlt, _ => by omega
  | left + 1, m, hm, hlt, hbelow => by
      rw [findMonth]
      rcases Nat.eq_or_lt_of_le hm with rfl | hm
      · rw [if_pos hj]
      · rw [if_neg (by have := hbelow m le_rfl hm; omega)]
        exact findMonth_eq hj hm (by omega) fun i hi => hbelow i (by omega)

theorem monthTable_lt_succ {i : ℕ} (hi : i < 11) : monthTable i < monthTable (i + 1) := by
  interval_cases i <;> decide

theorem monthTable_succ {i : ℕ} (hi : i < 11) :
    monthTable (i + 1) = monthTable i + daysInMonth (i + 1) := by
  interval_cases i <;> rfl

theorem monthTable_strictMono {i j : ℕ} (hij : i < j) (hj : j < 12) :
    monthTable i < monthTable j := by
  induction hij with
  | refl => exact monthTable_lt_succ (by omega)
  | step hle ih => exact (ih (by omega)).trans (monthTable_lt_succ (by omega))

/-- A day past February is found in its month. -/
theorem findMonth_of_between {days j : ℕ} (h₁ : monthTable j < days)
    (h₂ : days ≤ monthTable (j + 1)) (hj : 1 ≤ j) (hj' : j < 11) :
    findMonth days 10 2 = j + 2 := by
  refine findMonth_eq h₂ (by omega) (by omega) fun i _ hlt => ?_
  rcases Nat.eq_or_lt_of_le (Nat.le_of_lt_succ hlt) with rfl | hlt
  · exact h₁
  · exact (monthTable_strictMono hlt (by omega)).trans h₁

/-- Every day of a common year past January lies in a month. -/
theorem exists_month {days : ℕ} (h₁ : monthTable 0 < days) (h₂ : days ≤ 365) :
    ∃ j < 11, monthTable j < days ∧ days ≤ monthTable (j + 1) := by
  by_contra! hno
  have hall : ∀ i, i < 12 → monthTable i < days := by
    intro i
    induction i with
    | zero => exact fun _ => h₁
    | succ i ih => exact fun hi => hno i (by omega) (ih (by omega))
  have hlast : monthTable 11 < days := hall 11 (by omega)
  exact absurd h₂ (Nat.not_le.2 hlast)

/-- What the decoder finds: the month is a month, and past January the day is counted from the
end of the month before. -/
theorem monthAndDay_spec (leap : Bool) {days : ℕ} (h : days < 365) :
    ((monthAndDay leap days).1 = 1 ∧ (monthAndDay leap days).2 = days ∧ days ≤ 31) ∨
    (2 ≤ (monthAndDay leap days).1 ∧ (monthAndDay leap days).1 ≤ 12 ∧
      1 ≤ (monthAndDay leap days).2 ∧ (monthAndDay leap days).2 ≤ 31 ∧
      monthTable ((monthAndDay leap days).1 - 2) + (monthAndDay leap days).2 = days) := by
  have h0 : monthTable 0 = 31 := rfl
  have h1 : monthTable 1 = 59 := rfl
  unfold monthAndDay
  split
  · exact Or.inl ⟨rfl, rfl, by omega⟩
  · rename_i hjan
    right
    split
    · rw [show monthTable (2 - 2) = 31 from rfl]
      refine ⟨by omega, by omega, ?_, ?_, ?_⟩ <;> dsimp only <;> omega
    · rename_i hfeb
      have hfrom : monthTable 0 < days := by omega
      obtain ⟨j, hj, hlt, hle⟩ := exists_month hfrom (by omega)
      have hj1 : 1 ≤ j := by
        rcases Nat.eq_zero_or_pos j with rfl | hpos
        · exact absurd (Or.inl hle) hfeb
        · exact hpos
      have hlen : daysInMonth (j + 1) ≤ 31 := by interval_cases j <;> decide
      have := monthTable_succ hj
      rw [findMonth_of_between hlt hle hj1 hj, Nat.add_sub_cancel]
      refine ⟨by omega, by omega, ?_, ?_, ?_⟩ <;> dsimp only <;> omega

/-- A day of a common year decodes to the month and day it was counted from. -/
theorem monthAndDay_table {j d : ℕ} (hj : j < 11) (hd : 1 ≤ d) (hd' : d ≤ daysInMonth (j + 1)) :
    monthAndDay false (monthTable j + d) = (j + 2, d) := by
  have h0 : monthTable 0 = 31 := rfl
  have hnext := monthTable_succ hj
  have hjan : 31 ≤ monthTable j := by
    rcases Nat.eq_zero_or_pos j with rfl | hpos
    · exact le_rfl
    · exact (monthTable_strictMono hpos (by omega)).le
  unfold monthAndDay
  rw [if_neg (by omega)]
  rcases Nat.eq_zero_or_pos j with rfl | hpos
  · rw [if_pos (Or.inl (hnext ▸ by omega))]
    simp
  · have hfeb : monthTable 1 ≤ monthTable j := by
      rcases Nat.eq_or_lt_of_le hpos with rfl | hlt
      · exact le_rfl
      · exact (monthTable_strictMono hlt (by omega)).le
    rw [if_neg (by simp only [Bool.false_eq_true, and_false, or_false]; omega),
      findMonth_of_between (j := j) (by omega) (by omega) hpos hj]
    simp

/-! ### The decoder on a timestamp given in days and seconds -/

theorem uint8_ofNat_eq {n : ℕ} {b : UInt8} (h : n = b.toNat) : UInt8.ofNat n = b := by
  rw [h]
  exact UInt8.ofNat_toNat

theorem uint8_ofNat_eq_iff {n : ℕ} {b : UInt8} (h : n < 256) :
    UInt8.ofNat n = b ↔ n = b.toNat := by
  rw [← UInt8.toNat_inj, UInt8.toNat_ofNat', Nat.mod_eq_of_lt h]

theorem year_toNat (t : UInt32) :
    (getSolar48Date t).year.toNat = t.toNat / yearsInSeconds + 1970 := by
  have hlt : t.toNat / yearsInSeconds < 137 :=
    (Nat.div_lt_iff_lt_mul (by decide)).2 (lt_trans t.toNat_lt (by decide))
  change (UInt16.ofNat (t.toNat / yearsInSeconds) + UInt16.ofNat 1970).toNat = _
  generalize t.toNat / yearsInSeconds = y at hlt
  rw [UInt16.toNat_add, UInt16.toNat_ofNat', UInt16.toNat_ofNat', Nat.mod_eq_of_lt (a := y)]
  · exact Nat.mod_eq_of_lt (by omega)
  · omega

/-- The month and day are decoded from the day number alone. -/
theorem month_day_eq {y days s : ℕ} (ht : t.toNat = (y * 365 + days) * 86400 + s)
    (hdays : days < 365) (hs : s < 86400) :
    (getSolar48Date t).year.toNat = y + 1970 ∧
      (getSolar48Date t).month = UInt8.ofNat (monthAndDay (isLeapYear (y + 1970)) days).1 ∧
      (getSolar48Date t).day =
        atLeastOne (UInt8.ofNat (monthAndDay (isLeapYear (y + 1970)) days).2) := by
  have hyear : t.toNat / yearsInSeconds = y := by
    simp only [yearsInSeconds, daysInSeconds, hoursInSeconds, minutesInSeconds]
    omega
  have hday : t.toNat % yearsInSeconds / daysInSeconds = days := by
    simp only [yearsInSeconds, daysInSeconds, hoursInSeconds, minutesInSeconds]
    omega
  have hy : (getSolar48Date t).year.toNat = y + 1970 := by rw [year_toNat, hyear]
  refine ⟨hy, ?_, ?_⟩
  · change UInt8.ofNat (monthAndDay (isLeapYear (getSolar48Date t).year.toNat) _).1 = _
    rw [hy, hday]
  · change atLeastOne (UInt8.ofNat (monthAndDay (isLeapYear (getSolar48Date t).year.toNat) _).2) = _
    rw [hy, hday]

/-- The time of day always survives. -/
theorem time_eq {d : ℕ} (hsd : sd.Valid) (ht : t.toNat = d * 86400 + sd.secondOfDay) :
    (getSolar48Date t).hour = sd.hour ∧ (getSolar48Date t).minute = sd.minute ∧
      (getSolar48Date t).second = sd.second := by
  have hmod : t.toNat % yearsInSeconds % daysInSeconds = sd.secondOfDay := by
    have := hsd.secondOfDay_lt
    simp only [yearsInSeconds, daysInSeconds, hoursInSeconds, minutesInSeconds]
    omega
  have := hsd.minute_lt
  have := hsd.second_lt
  have hsec : sd.secondOfDay = sd.hour.toNat * 3600 + sd.minute.toNat * 60 + sd.second.toNat := rfl
  have hhour : hoursInSeconds = 3600 := rfl
  refine ⟨uint8_ofNat_eq ?_, uint8_ofNat_eq ?_, uint8_ofNat_eq ?_⟩ <;>
    rw [hmod, hhour, hsec] <;> omega

theorem atLeastOne_le {n : ℕ} (h : n ≤ 31) : (atLeastOne (UInt8.ofNat n)).toNat ≤ 31 := by
  unfold atLeastOne
  split
  · decide
  · rw [UInt8.toNat_ofNat']
    omega

theorem one_le_atLeastOne (day : UInt8) : 1 ≤ (atLeastOne day).toNat := by
  unfold atLeastOne
  split
  · decide
  · rename_i hne
    have : day.toNat ≠ 0 := fun h0 => hne (UInt8.toNat_inj.1 h0)
    omega

theorem atLeastOne_of_pos {day : UInt8} (h : 1 ≤ day.toNat) : atLeastOne day = day := by
  unfold atLeastOne
  split
  · rename_i h0
    rw [h0] at h
    exact absurd h (by decide)
  · rfl

/-- **The decoder's output is in range**, whatever the timestamp. -/
theorem getSolar48Date_valid (t : UInt32) :
    (getSolar48Date t).hour.toNat < 24 ∧ (getSolar48Date t).minute.toNat < 60 ∧
      (getSolar48Date t).second.toNat < 60 ∧ 1970 ≤ (getSolar48Date t).year.toNat ∧
      1 ≤ (getSolar48Date t).month.toNat ∧ (getSolar48Date t).month.toNat ≤ 12 ∧
      1 ≤ (getSolar48Date t).day.toNat ∧ (getSolar48Date t).day.toNat ≤ 31 := by
  have hsplit : t.toNat = (t.toNat / 31536000 * 365 + t.toNat % 31536000 / 86400) * 86400
      + t.toNat % 86400 := by omega
  obtain ⟨hyear, hmonth, hday⟩ := month_day_eq hsplit (by omega) (by omega)
  have hhour : (getSolar48Date t).hour =
      UInt8.ofNat (t.toNat % yearsInSeconds % daysInSeconds / hoursInSeconds) := rfl
  have hminute : (getSolar48Date t).minute =
      UInt8.ofNat (t.toNat % yearsInSeconds % daysInSeconds % hoursInSeconds / 60) := rfl
  have hsecond : (getSolar48Date t).second =
      UInt8.ofNat (t.toNat % yearsInSeconds % daysInSeconds % hoursInSeconds % 60) := rfl
  have hd : daysInSeconds = 86400 := rfl
  have hh : hoursInSeconds = 3600 := rfl
  refine ⟨?_, ?_, ?_, by omega, ?_⟩
  · rw [hhour, UInt8.toNat_ofNat', hd, hh]
    omega
  · rw [hminute, UInt8.toNat_ofNat', hd, hh]
    omega
  · rw [hsecond, UInt8.toNat_ofNat']
    omega
  · rw [hmonth, hday]
    obtain ⟨hm, hdays, hle⟩ | ⟨hm, hm', hdays, hdays', -⟩ :=
      monthAndDay_spec (isLeapYear (t.toNat / 31536000 + 1970))
        (show t.toNat % 31536000 / 86400 < 365 by omega)
    · rw [hm, hdays]
      exact ⟨by decide, by decide, one_le_atLeastOne _, atLeastOne_le (by omega)⟩
    · rw [UInt8.toNat_ofNat']
      exact ⟨by omega, by omega, one_le_atLeastOne _, atLeastOne_le hdays'⟩

/-! ### The round trip -/

/-- The dates that read back as they were set: January always, and every day of a common year
but the last. -/
def Solar48Date.ReadsBack (sd : Solar48Date) : Prop :=
  sd.month = 1 ∨ (sd.leap = false ∧ ¬ (sd.month = 12 ∧ sd.day = 31))

instance (sd : Solar48Date) : Decidable sd.ReadsBack :=
  inferInstanceAs (Decidable (_ ∨ _))

theorem maxDay_le (year month : ℕ) : maxDay year month ≤ 31 := by
  unfold maxDay
  split
  · decide
  · rcases Nat.lt_or_ge (month - 1) 12 with h | h
    · generalize month - 1 = i at h
      interval_cases i <;> decide
    · simp [daysInMonth, List.getD_eq_getElem?_getD, h]

theorem maxDay_of_common {year month : ℕ} (h : isLeapYear year = false) :
    maxDay year month = daysInMonth (month - 1) := by
  rw [maxDay, h, Bool.and_false]
  exact if_neg Bool.false_ne_true

namespace Solar48Date

theorem dayOfYear_january (h : sd.month.toNat = 1) : sd.dayOfYear = sd.day.toNat := by
  rw [dayOfYear, h]
  rfl

theorem dayOfYear_later (h : 1 < sd.month.toNat) : sd.dayOfYear =
    sd.day.toNat + (monthTable (sd.month.toNat - 2) + if sd.leap then 1 else 0) := by
  rw [dayOfYear, if_pos h]

theorem Valid.day_le_31 (h : sd.Valid) : sd.day.toNat ≤ 31 :=
  h.day_le.trans (maxDay_le _ _)

theorem Valid.dayOfYear_pos (h : sd.Valid) : 1 ≤ sd.dayOfYear := by
  have := h.day_pos
  unfold dayOfYear
  omega

theorem Valid.dayOfYear_le (h : sd.Valid) : sd.dayOfYear ≤ 366 := by
  have hday := h.day_le_31
  rcases Nat.eq_or_lt_of_le h.month_pos with hm | hm
  · rw [dayOfYear_january hm.symm]
    omega
  · have htable : monthTable (sd.month.toNat - 2) ≤ 334 := by
      have hle := h.month_le
      rcases Nat.eq_or_lt_of_le (show sd.month.toNat - 2 ≤ 10 by omega) with heq | hlt
      · rw [heq]
        decide
      · exact (monthTable_strictMono hlt (by omega)).le
    rw [dayOfYear_later hm]
    split <;> omega

/-- The encoder reaches day 365 of a common year on its last day only. -/
theorem Valid.last_day (h : sd.Valid) (hleap : sd.leap = false) (hdoy : 365 ≤ sd.dayOfYear) :
    sd.month.toNat = 12 ∧ sd.day.toNat = 31 := by
  have hday := h.day_le
  have hmonth := h.month_le
  have h31 := h.day_le_31
  rw [maxDay_of_common hleap] at hday
  rcases Nat.eq_or_lt_of_le h.month_pos with hm | hm
  · rw [dayOfYear_january hm.symm] at hdoy
    omega
  · rw [dayOfYear_later hm, hleap, if_neg Bool.false_ne_true] at hdoy
    have hsucc := monthTable_succ (i := sd.month.toNat - 2) (by omega)
    rw [show sd.month.toNat - 2 + 1 = sd.month.toNat - 1 by omega] at hsucc
    have h12 : sd.month.toNat = 12 := by
      by_contra hne
      have hlt : monthTable (sd.month.toNat - 1) < 365 :=
        monthTable_strictMono (j := 11) (by omega) (by omega)
      omega
    have htable : monthTable (sd.month.toNat - 2) = 334 := by rw [h12]; rfl
    omega

/-- The decoder finds a January date, and in a common year any date, and misses every later date
of a leap year by the day that the encoder added. -/
theorem Valid.monthAndDay_iff (h : sd.Valid) (hdoy : sd.dayOfYear < 365) :
    monthAndDay sd.leap sd.dayOfYear = (sd.month.toNat, sd.day.toNat) ↔ sd.ReadsBack := by
  rcases Nat.eq_or_lt_of_le h.month_pos with hm | hm
  · have hjan : monthAndDay sd.leap sd.dayOfYear = (1, sd.day.toNat) := by
      rw [dayOfYear_january hm.symm]
      exact if_pos h.day_le_31
    rw [hjan, hm]
    exact iff_of_true rfl (Or.inl (UInt8.toNat_inj.1 hm.symm))
  · have hne : sd.month ≠ 1 := by
      intro heq
      rw [heq] at hm
      exact absurd hm (by decide)
    cases hleap : sd.leap with
    -- both sides use the same table, and the last day is left out by `hdoy`
    | false =>
        have hday := h.day_le
        have hmonth := h.month_le
        rw [maxDay_of_common hleap] at hday
        have hdoy' : sd.dayOfYear = monthTable (sd.month.toNat - 2) + sd.day.toNat := by
          rw [dayOfYear_later hm, hleap, if_neg Bool.false_ne_true, Nat.add_zero, Nat.add_comm]
        rw [hdoy', monthAndDay_table (by omega) h.day_pos
          (by rwa [show sd.month.toNat - 2 + 1 = sd.month.toNat - 1 by omega]),
          Nat.sub_add_cancel hm]
        refine iff_of_true rfl (Or.inr ⟨hleap, ?_⟩)
        rintro ⟨h12, h31⟩
        rw [hdoy', h12, h31] at hdoy
        exact absurd hdoy (by decide)
    | true =>
        refine iff_of_false (fun heq => ?_) ?_
        -- month and day together count the days of a common year, one less than the encoder
        · obtain ⟨h1, -⟩ | ⟨-, -, -, -, hsum⟩ := monthAndDay_spec true hdoy
          · rw [heq] at h1
            omega
          · rw [heq, dayOfYear_later hm, hleap, if_pos rfl] at hsum
            dsimp only at hsum
            omega
        · rintro (h1 | ⟨h2, -⟩)
          · exact hne h1
          · rw [hleap] at h2
            cases h2

end Solar48Date

/-- As long as the day number stays within the decoder's year, only month and day matter. -/
theorem sameMoment_iff_monthAndDay (hsd : sd.Valid) (hlt : sd.dayOfYear < 365)
    (ht : t.toNat = ((sd.year.toNat - 1970) * 365 + sd.dayOfYear) * 86400 + sd.secondOfDay) :
    (getSolar48Date t).SameMoment sd ↔
      monthAndDay sd.leap sd.dayOfYear = (sd.month.toNat, sd.day.toNat) := by
  obtain ⟨hyear, hmonth, hday⟩ := month_day_eq ht hlt hsd.secondOfDay_lt
  rw [Nat.sub_add_cancel hsd.year_ge] at hyear hmonth hday
  have hpos := hsd.dayOfYear_pos
  have hrange : (monthAndDay sd.leap sd.dayOfYear).1 < 256 ∧
      1 ≤ (monthAndDay sd.leap sd.dayOfYear).2 ∧ (monthAndDay sd.leap sd.dayOfYear).2 < 256 := by
    obtain ⟨hm, hd, hle⟩ | ⟨-, hm, hd, hd', -⟩ := monthAndDay_spec sd.leap hlt
    · rw [hm, hd]
      omega
    · omega
  rw [show isLeapYear sd.year.toNat = sd.leap from rfl] at hmonth hday
  rw [atLeastOne_of_pos (by rw [UInt8.toNat_ofNat']; omega)] at hday
  rw [Solar48Date.SameMoment, hmonth, hday, uint8_ofNat_eq_iff hrange.1,
    uint8_ofNat_eq_iff hrange.2.2, Prod.ext_iff]
  constructor
  · rintro ⟨-, hm, hd, -⟩
    exact ⟨hm, hd⟩
  · rintro ⟨hm, hd⟩
    exact ⟨UInt16.toNat_inj.1 hyear, hm, hd, time_eq hsd ht⟩

/-- **A date that was set reads back as itself exactly if it lies in January, or in a common
year on a day before the last.** -/
theorem sameMoment_getSolar48Date_iff (h : setDate sd = some t) :
    (getSolar48Date t).SameMoment sd ↔ sd.ReadsBack := by
  obtain ⟨hsd, ht⟩ := setDate_eq_some h
  rcases Nat.lt_or_ge sd.dayOfYear 365 with hlt | hge
  · rw [sameMoment_iff_monthAndDay hsd hlt ht, hsd.monthAndDay_iff hlt]
  · -- the date spills over into the next of the decoder's years
    obtain ⟨d, hd⟩ := Nat.exists_eq_add_of_le hge
    have hd' : d < 365 := by
      have := hsd.dayOfYear_le
      omega
    have hspill : (sd.year.toNat - 1970) * 365 + sd.dayOfYear =
        (sd.year.toNat - 1970 + 1) * 365 + d := by omega
    rw [hspill] at ht
    have hyear := (month_day_eq ht hd' hsd.secondOfDay_lt).1
    have hy := hsd.year_ge
    refine iff_of_false ?_ ?_
    · rintro ⟨heq, -⟩
      have hyear' := congrArg UInt16.toNat heq
      omega
    · rintro (h1 | ⟨hleap, hlast⟩)
      · have hjan := Solar48Date.dayOfYear_january (congrArg UInt8.toNat h1)
        have hday := hsd.day_le_31
        omega
      · obtain ⟨h12, h31⟩ := hsd.last_day hleap hge
        exact hlast ⟨UInt8.toNat_inj.1 h12, UInt8.toNat_inj.1 h31⟩

/-- The longest day of 2025 reads back. -/
theorem sameMoment_getSolar48Date_june : ∃ t,
    setDate ⟨2025, 6, 21, 12, 30, 15, 0⟩ = some t ∧
      (getSolar48Date t).SameMoment ⟨2025, 6, 21, 12, 30, 15, 0⟩ := by
  have h : setDate ⟨2025, 6, 21, 12, 30, 15, 0⟩ = some 1749385815 := by decide
  exact ⟨_, h, (sameMoment_getSolar48Date_iff h).2 (by decide)⟩

/-- The first of February 2024 is accepted, and reads back as the second. -/
theorem sameMoment_getSolar48Date_february : ¬ ∀ sd t, setDate sd = some t →
    (getSolar48Date t).SameMoment sd := by
  intro h
  exact absurd (h ⟨2024, 2, 1, 0, 0, 0, 0⟩ 1705795200 (by decide)) (by decide)

end Solar48
