/-
**The decoder, access by access.**

`get_solar48_date` finds the month of a day in three ways: January, February with its leap day, and
a search through the rest of `month_table`.  Here the table is looked up entry by entry, an index
outside of it being an error, the day is what 32-bit subtraction makes it, and the search says
whether it found an entry or ran out of them.

Main definitions:

* `Solar48.monthTableAt` — an entry of the table, if there is one;
* `Solar48.searchMonth`, `Solar48.decodeMonth` — the search, and the three ways together;
* `Solar48.decodeDate` — `get_solar48_date` over them.

Main results:

* `Solar48.decodeMonth_eq` — the ways cover the 365 days of the decoder's year;
* `Solar48.decodeDate_real` — **every timestamp decodes to a real date**, with the table read inside
  its bounds and the search successful.
-/

import Solar48.RtcAdvance

set_option relaxedAutoImplicit false
set_option autoImplicit false

namespace Solar48

open Calendar

/-! ### The code -/

/-- `month_table[i]`. -/
def monthTableAt (i : ℕ) : Option UInt32 :=
  ([31, 59, 90, 120, 151, 181, 212, 243, 273, 304, 334, 365] : List UInt32)[i]?

/-- The `do` loop, from the index `m` on: the index behind the last entry that was looked at, and
whether it is the one searched for. -/
def searchMonth (days : UInt32) (m : ℕ) : Option (ℕ × Bool) :=
  match monthTableAt m with
  | none => none
  | some entry =>
      if entry ≥ days then some (m + 1, true)
      else if m + 1 < 12 then searchMonth days (m + 1)
      else some (m + 1, false)
  termination_by 12 - m

/-- The month and the day, and whether the search was successful, if there was one. -/
def decodeMonth (leap : Bool) (days : UInt32) : Option (ℕ × UInt32 × Bool) :=
  match monthTableAt 0, monthTableAt 1 with
  | some january, some specialCase =>
      if january ≥ days then some (1, days, true)
      else if specialCase ≥ days ∨ (specialCase + 1 = days ∧ leap) then
        some (2, days - january, true)
      else
        match searchMonth days 2 with
        | none => none
        | some (m, found) =>
            match monthTableAt (m - 2) with
            | none => none
            | some before => some (m, days - before, found)
  | _, _ => none

/-- `get_solar48_date` on a timestamp. -/
def decodeDate (timestamp : UInt32) : Option (Solar48Date × Bool) :=
  let year := UInt16.ofNat (timestamp.toNat / yearsInSeconds) + UInt16.ofNat unixYearTimestamp
  let secondsLeftInYear := timestamp.toNat % yearsInSeconds
  let days := UInt32.ofNat (secondsLeftInYear / daysInSeconds)
  match decodeMonth (isLeapYear year.toNat) days with
  | none => none
  | some (m, d, found) =>
      let month := UInt8.ofNat m
      let day := atLeastOne d.toUInt8
      let pastSecondsInOneDay := secondsLeftInYear % daysInSeconds
      let pastSecondInOneHour := pastSecondsInOneDay % hoursInSeconds
      some
        ({ year, month, day
           hour := UInt8.ofNat (pastSecondsInOneDay / hoursInSeconds)
           minute := UInt8.ofNat (pastSecondInOneHour / 60)
           second := UInt8.ofNat (pastSecondInOneHour % 60)
           weekDay := UInt8.ofNat (getDay year.toNat month.toNat day.toNat).toNat }, found)

/-! ### The table -/

/-- Inside its bounds the table has its entries. -/
theorem monthTableAt_eq {i : ℕ} (h : i < 12) :
    monthTableAt i = some (UInt32.ofNat (monthTable i)) := by
  interval_cases i <;> rfl

theorem monthTable_ge_iff {i : ℕ} (h : i < 12) (days : UInt32) :
    UInt32.ofNat (monthTable i) ≥ days ↔ days.toNat ≤ monthTable i := by
  rw [ge_iff_le, UInt32.le_iff_toNat_le, toNat_monthTable h]

/-- **The search stops at the first entry that reaches the day.** -/
theorem searchMonth_eq {days : UInt32} {j m : ℕ} (hj : j < 12) (hreach : days.toNat ≤ monthTable j)
    (hm : m ≤ j) (hbelow : ∀ i, m ≤ i → i < j → monthTable i < days.toNat) :
    searchMonth days m = some (j + 1, true) := by
  induction hk : j - m generalizing m with
  | zero =>
      obtain rfl : m = j := by omega
      rw [searchMonth, monthTableAt_eq hj]
      simp [monthTable_ge_iff hj, hreach]
  | succ k ih =>
      have hbelow_m := hbelow m (Nat.le_refl _) (by omega)
      have hm12 : m < 12 := by omega
      have hnext : m + 1 < 12 := by omega
      rw [searchMonth, monthTableAt_eq hm12]
      simp only [monthTable_ge_iff hm12, Nat.not_le.2 hbelow_m, if_false, hnext, if_true]
      exact ih (by omega) (fun i hi hlt => hbelow i (by omega) hlt) (by omega)

/-- The search for a day past February. -/
theorem searchMonth_of_between {days : UInt32} {j : ℕ} (h₁ : monthTable j < days.toNat)
    (h₂ : days.toNat ≤ monthTable (j + 1)) (hj : 1 ≤ j) (hj' : j < 11) :
    searchMonth days 2 = some (j + 2, true) := by
  refine searchMonth_eq (by omega) h₂ (by omega) ?_
  intro i _ hlt
  rcases Nat.eq_or_lt_of_le (Nat.le_of_lt_succ hlt) with rfl | hlt
  · exact h₁
  · exact (monthTable_strictMono hlt (by omega)).trans h₁

/-- The day of the month does not wrap around. -/
theorem sub_monthTable {days : UInt32} {i : ℕ} (hi : i < 12) (hle : monthTable i ≤ days.toNat) :
    days - UInt32.ofNat (monthTable i) = UInt32.ofNat (days.toNat - monthTable i) := by
  have hle' : UInt32.ofNat (monthTable i) ≤ days := by
    rwa [UInt32.le_iff_toNat_le, toNat_monthTable hi]
  rw [← UInt32.toNat_inj, UInt32.toNat_sub_of_le _ _ hle', toNat_monthTable hi,
    UInt32.toNat_ofNat_of_lt']
  exact (Nat.sub_le _ _).trans_lt days.toNat_lt

/-- **The three ways cover the decoder's year**: every day of it is found, in the month and on the
day that `Solar48.monthAndDay` says. -/
theorem decodeMonth_eq (leap : Bool) {days : UInt32} (h : days.toNat < 365) :
    decodeMonth leap days = some ((monthAndDay leap days.toNat).1,
      UInt32.ofNat (monthAndDay leap days.toNat).2, true) := by
  have h0 : monthTable 0 = 31 := rfl
  have h1 : monthTable 1 = 59 := rfl
  have hfeb : UInt32.ofNat (monthTable 1) + 1 = days ↔ monthTable 1 + 1 = days.toNat := by
    rw [← UInt32.toNat_inj]
    exact Iff.rfl
  unfold decodeMonth monthAndDay
  rw [monthTableAt_eq (by decide), monthTableAt_eq (by decide)]
  simp only [monthTable_ge_iff (show 0 < 12 by decide), monthTable_ge_iff (show 1 < 12 by decide),
    hfeb, ge_iff_le]
  split
  · simp
  · rename_i hjan
    split
    · rw [sub_monthTable (by decide) (by omega)]
    · rename_i hother
      obtain ⟨j, hj, hlt, hle⟩ : ∃ j < 11, monthTable j < days.toNat ∧
          days.toNat ≤ monthTable (j + 1) := exists_month (by omega) (by omega)
      have hj1 : 1 ≤ j := by
        rcases Nat.eq_zero_or_pos j with rfl | hpos
        · exact absurd (Or.inl hle) hother
        · exact hpos
      rw [searchMonth_of_between hlt hle hj1 hj, findMonth_of_between hlt hle hj1 hj]
      simp only [Nat.add_sub_cancel, monthTableAt_eq (show j < 12 by omega)]
      rw [sub_monthTable (by omega) hlt.le]

/-! ### The decoded date -/

/-- The decoder is the one that looks entries up without a check. -/
theorem decodeDate_eq (t : UInt32) : decodeDate t = some (getSolar48Date t, true) := by
  have hdays : (UInt32.ofNat (dayIndex t)).toNat = dayIndex t := by
    have hsize : UInt32.size = 2 ^ 32 := rfl
    have := dayIndex_lt t
    exact UInt32.toNat_ofNat_of_lt' (by omega)
  have hlt : (UInt32.ofNat (dayIndex t)).toNat < 365 := by
    rw [hdays]
    exact dayIndex_lt t
  have hmonth := decodeMonth_eq (isLeapYear (getSolar48Date t).year.toNat) hlt
  rw [hdays] at hmonth
  change (match decodeMonth (isLeapYear (getSolar48Date t).year.toNat)
    (UInt32.ofNat (dayIndex t)) with | none => _ | some (m, d, found) => _) = _
  rw [hmonth]
  dsimp only
  rw [UInt32.toUInt8_ofNat']
  rfl

/-- **Every timestamp decodes to a real date and a time of day.**  The table is never read outside
of its entries, and the search ends with the entry that it looked for. -/
theorem decodeDate_real (t : UInt32) : ∃ sd, decodeDate t = some (sd, true) ∧
    1 ≤ sd.month.toNat ∧ sd.month.toNat ≤ 12 ∧ 1 ≤ sd.day.toNat ∧
    sd.day.toNat ≤ monthLength sd.year.toNat sd.month.toNat ∧
    sd.hour.toNat < 24 ∧ sd.minute.toNat < 60 ∧ sd.second.toNat < 60 := by
  obtain ⟨hhour, hminute, hsecond, -, hmonth, hmonth', hday, -⟩ := getSolar48Date_valid t
  exact ⟨getSolar48Date t, decodeDate_eq t, hmonth, hmonth', hday, day_le_monthLength t,
    hhour, hminute, hsecond⟩

end Solar48
