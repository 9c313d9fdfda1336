/-
**Setting the clock.**

`set_date` adds up the seconds of a date in numbers of 8, 16, 32 and 64 bits, with and without a
sign, and refuses what the clock cannot hold.  Here the sum is made in the types that it is made in,
and what matters of the call is whether it returns true and what it hands to `rtc_set_timestamp`.

Main definitions:

* `Solar48.setDate64` — the code, in the integer types that it uses;
* `Solar48.dateSeconds` — the number that the sum stands for;
* `Solar48.Representable` — a date of the calendar, and a number that the clock can hold.

Main results:

* `Solar48.toNat_timestamp64` — nothing overflows on the way;
* `Solar48.setDate64_eq` — the sum in the types of the code is the exact one;
* `Solar48.setDate64_spec` — **exactly the representable dates are accepted, and the clock is set
  once with the exact number, or not at all**.
-/

import Solar48.RtcAdvance
import Mathlib.Data.Nat.Cast.Order.Basic

set_option relaxedAutoImplicit false
set_option autoImplicit false

namespace Solar48

open Calendar

/-! ### The code -/

/-- A table entry as a `uint32_t`. -/
def monthTable32 (i : ℕ) : UInt32 := UInt32.ofNat (monthTable i)

/-- The sum that `timestamp` is initialized with.  The products of the day, the hour and the minute
are ones of 32 bits, and the sums from the hour on are unsigned. -/
def timestampBase (sd : Solar48Date) : Int64 :=
  let years : Int64 := (sd.year.toUInt32 - 1970).toUInt64.toInt64 * 31536000
  let days : Int64 := (sd.day.toUInt32 * 86400).toUInt64.toInt64
  let hours : UInt64 := (sd.hour.toUInt32 * 3600).toUInt64
  let minutes : UInt64 := (sd.minute.toUInt32 * 60).toUInt64
  ((years + days).toUInt64 + hours + minutes + sd.second.toUInt64).toInt64

/-- `timestamp`, with the months. -/
def timestamp64 (sd : Solar48Date) (leap : Bool) : Int64 :=
  let timestamp := timestampBase sd
  if sd.month > 1 then
    let timestamp := timestamp + (monthTable32 (sd.month.toNat - 2)).toUInt64.toInt64 * 86400
    if leap then timestamp + 86400 else timestamp
  else timestamp

/-- `set_date`: what it returns, and the values that it calls `rtc_set_timestamp` with. -/
def setDate64 (sd : Solar48Date) : Bool × List UInt32 :=
  if !validTime sd.hour.toNat sd.minute.toNat sd.second.toNat then (false, [])
  else
    let checked := validDateInUnixYear sd.year.toNat sd.month.toNat sd.day.toNat
    if checked.1 < 1 then (false, [])
    else
      let timestamp := timestamp64 sd checked.2
      if timestamp < 0 ∨ timestamp > 0xFFFFFFFF then (false, [])
      else (true, [timestamp.toUInt64.toUInt32])

/-! ### What the sum stands for -/

/-- The exact number of seconds. -/
def dateSeconds (sd : Solar48Date) : ℕ :=
  31536000 * (sd.year.toNat - 1970) + 86400 * sd.day.toNat + 3600 * sd.hour.toNat +
    60 * sd.minute.toNat + sd.second.toNat +
    if sd.month.toNat > 1 then
      86400 * monthTable (sd.month.toNat - 2) + if Leap sd.year.toNat then 86400 else 0
    else 0

/-- A time of day, on a date of the calendar from 1970 on, and not too late for the clock. -/
structure Representable (sd : Solar48Date) : Prop where
  hour_lt : sd.hour.toNat < 24
  minute_lt : sd.minute.toNat < 60
  second_lt : sd.second.toNat < 60
  year_ge : 1970 ≤ sd.year.toNat
  month_pos : 1 ≤ sd.month.toNat
  month_le : sd.month.toNat ≤ 12
  day_pos : 1 ≤ sd.day.toNat
  day_le : sd.day.toNat ≤ monthLength sd.year.toNat sd.month.toNat
  seconds_le : dateSeconds sd ≤ 2 ^ 32 - 1

variable {sd : Solar48Date}

/-- The exact number, as it was counted before. -/
theorem dateSeconds_eq (sd : Solar48Date) : (dateSeconds sd : ℤ) = dateTimestamp sd sd.leap := by
  have hleap : sd.leap = true ↔ Leap sd.year.toNat := by
    rw [Solar48Date.leap, isLeapYear_eq, decide_eq_true_iff]
  rw [dateTimestamp_eq]
  refine congrArg (Nat.cast : ℕ → ℤ) ?_
  unfold dateSeconds Solar48Date.dayOfYear Solar48Date.secondOfDay
  simp only [hleap]
  split
  · split <;> omega
  · omega

theorem Solar48Date.Valid.representable_iff (h : sd.Valid) :
    Representable sd ↔ dateSeconds sd ≤ 2 ^ 32 - 1 := by
  constructor
  · exact Representable.seconds_le
  · intro hle
    refine ⟨h.hour_lt, h.minute_lt, h.second_lt, h.year_ge, h.month_pos, h.month_le, h.day_pos,
      ?_, hle⟩
    rw [← maxDay_eq_monthLength _ h.month_pos h.month_le]
    exact h.day_le

theorem Representable.valid (h : Representable sd) : sd.Valid := by
  refine ⟨h.hour_lt, h.minute_lt, h.second_lt, h.year_ge, h.month_pos, h.month_le, h.day_pos, ?_⟩
  rw [maxDay_eq_monthLength _ h.month_pos h.month_le]
  exact h.day_le

/-! ### The sum in its types -/

/-- Below the sign bit a signed number is the unsigned one. -/
theorem toInt_of_small {x : Int64} (h : x.toUInt64.toNat < 2 ^ 63) :
    x.toInt = x.toUInt64.toNat := by
  change x.toBitVec.toInt = _
  rw [BitVec.toInt_eq_toNat_of_lt]
  · rfl
  · change 2 * x.toUInt64.toNat < 2 ^ 64
    omega

/-- A byte times a factor that leaves room for it. -/
theorem toNat_toUInt32_mul (c : UInt8) {k : UInt32} (hk : k.toNat ≤ 2 ^ 24) :
    (c.toUInt32 * k).toNat = c.toNat * k.toNat := by
  have hlt : c.toNat * k.toNat < 2 ^ 8 * 2 ^ 24 :=
    Nat.mul_lt_mul_of_lt_of_le c.toNat_lt hk (by decide)
  rw [UInt32.toNat_mul, UInt8.toNat_toUInt32]
  exact Nat.mod_eq_of_lt hlt

/-- **The sum without the months does not overflow**, from 1970 on. -/
theorem toNat_timestampBase (h : 1970 ≤ sd.year.toNat) :
    (timestampBase sd).toUInt64.toNat =
      31536000 * (sd.year.toNat - 1970) + 86400 * sd.day.toNat + 3600 * sd.hour.toNat +
        60 * sd.minute.toNat + sd.second.toNat := by
  have hy := sd.year.toNat_lt
  have hd := sd.day.toNat_lt
  have hh := sd.hour.toNat_lt
  have hm := sd.minute.toNat_lt
  have hs := sd.second.toNat_lt
  have hyear : (sd.year.toUInt32 - 1970).toNat = sd.year.toNat - 1970 :=
    UInt32.toNat_sub_of_le _ _ (UInt32.le_iff_toNat_le.2 h)
  have hdays : (sd.day.toUInt32 * 86400).toNat = sd.day.toNat * 86400 :=
    toNat_toUInt32_mul sd.day (by decide)
  have hhours : (sd.hour.toUInt32 * 3600).toNat = sd.hour.toNat * 3600 :=
    toNat_toUInt32_mul sd.hour (by decide)
  have hminutes : (sd.minute.toUInt32 * 60).toNat = sd.minute.toNat * 60 :=
    toNat_toUInt32_mul sd.minute (by decide)
  have hyears : (Int64.toUInt64 31536000).toNat = 31536000 := rfl
  simp only [timestampBase, UInt64.toUInt64_toInt64, Int64.toUInt64_add, Int64.toUInt64_mul,
    UInt64.toNat_add, UInt64.toNat_mul, UInt32.toNat_toUInt64,
    UInt8.toNat_toUInt64, hyear, hdays, hhours, hminutes, hyears]
  omega

/-- Far below the sign bit. -/
theorem dateSeconds_lt (hm : sd.month.toNat ≤ 12) : dateSeconds sd < 2 ^ 63 := by
  have hy := sd.year.toNat_lt
  have hd := sd.day.toNat_lt
  have hh := sd.hour.toNat_lt
  have hmin := sd.minute.toNat_lt
  have hs := sd.second.toNat_lt
  have hentry : monthTable (sd.month.toNat - 2) ≤ 365 := monthTable_le (by omega)
  unfold dateSeconds
  split
  · split <;> omega
  · omega

/-- **Nothing overflows**: the timestamp is the exact number. -/
theorem toNat_timestamp64 (h : 1970 ≤ sd.year.toNat) (hm : sd.month.toNat ≤ 12) :
    (timestamp64 sd (isLeapYear sd.year.toNat)).toUInt64.toNat = dateSeconds sd := by
  have hbound := dateSeconds_lt hm
  have hbase := toNat_timestampBase h
  have hmonth : sd.month > 1 ↔ sd.month.toNat > 1 := UInt8.lt_iff_toNat_lt
  have hleap : isLeapYear sd.year.toNat = true ↔ Leap sd.year.toNat := by
    rw [isLeapYear_eq, decide_eq_true_iff]
  have hentry : monthTable (sd.month.toNat - 2) ≤ 365 := monthTable_le (by omega)
  have htable : (monthTable32 (sd.month.toNat - 2)).toNat = monthTable (sd.month.toNat - 2) :=
    toNat_monthTable (by omega)
  have hday : (Int64.toUInt64 86400).toNat = 86400 := rfl
  unfold timestamp64
  unfold dateSeconds at hbound ⊢
  simp only [hmonth, hleap]
  split
  · split
    · simp only [Int64.toUInt64_add, Int64.toUInt64_mul, UInt64.toUInt64_toInt64,
        UInt64.toNat_add, UInt64.toNat_mul, UInt32.toNat_toUInt64, htable,
        hbase, hday]
      omega
    · simp only [Int64.toUInt64_add, Int64.toUInt64_mul, UInt64.toUInt64_toInt64,
        UInt64.toNat_add, UInt64.toNat_mul, UInt32.toNat_toUInt64, htable,
        hbase, hday]
      omega
  · rw [hbase, Nat.add_zero]

/-- **The sum in the types of the code is the exact one.** -/
theorem setDate64_eq (sd : Solar48Date) : setDate64 sd =
    match setDate sd with
    | some t => (true, [t])
    | none => (false, []) := by
  unfold setDate64 setDate
  split
  · rfl
  · dsimp only
    split
    · rfl
    · rename_i hdate
      obtain ⟨hy, -, hm, -, -, hleap⟩ := validDateInUnixYear_pos hdate
      have hnat := toNat_timestamp64 hy hm
      have hint : (timestamp64 sd (isLeapYear sd.year.toNat)).toInt = dateSeconds sd := by
        rw [toInt_of_small (by rw [hnat]; exact dateSeconds_lt hm), hnat]
      have hneg : timestamp64 sd (isLeapYear sd.year.toNat) < 0 ↔
          dateTimestamp sd (isLeapYear sd.year.toNat) < 0 := by
        rw [Int64.lt_iff_toInt_lt, hint, dateSeconds_eq]
        exact Iff.rfl
      have hmax : timestamp64 sd (isLeapYear sd.year.toNat) > 0xFFFFFFFF ↔
          dateTimestamp sd (isLeapYear sd.year.toNat) > maxTimestampValue := by
        rw [gt_iff_lt, Int64.lt_iff_toInt_lt, hint, dateSeconds_eq]
        exact Iff.rfl
      rw [hleap]
      simp only [hneg, hmax]
      split
      · rfl
      · have hsec : dateTimestamp sd (isLeapYear sd.year.toNat) = dateSeconds sd :=
          (dateSeconds_eq sd).symm
        have htruncate : (timestamp64 sd (isLeapYear sd.year.toNat)).toUInt64.toUInt32 =
            UInt32.ofNat (dateSeconds sd) := by
          rw [← UInt32.toNat_inj, UInt64.toNat_toUInt32, UInt32.toNat_ofNat', hnat]
        rw [hsec, Int.toNat_natCast, htruncate]

/-! ### What is accepted -/

/-- A representable date passes every check. -/
theorem Representable.setDate_eq (h : Representable sd) :
    setDate sd = some (UInt32.ofNat (dateSeconds sd)) := by
  have hday : sd.day.toNat ≤ maxDay sd.year.toNat sd.month.toNat := h.valid.day_le
  have htime : validTime sd.hour.toNat sd.minute.toNat sd.second.toNat = true := by
    simp [validTime, h.hour_lt, h.minute_lt, h.second_lt]
  have hchecked : ¬ (validDateInUnixYear sd.year.toNat sd.month.toNat sd.day.toNat).1 < 1 := by
    have hmonth : ¬ (sd.month.toNat < 1 ∨ sd.month.toNat > 12) := by
      have := h.month_pos
      have := h.month_le
      omega
    have hpos := h.day_pos
    have hyear : sd.year.toNat ≥ unixYearTimestamp := h.year_ge
    rw [validDateInUnixYear, if_pos hyear, validDateUtil, if_neg hmonth, if_pos hday]
    dsimp only
    omega
  have hsec : dateTimestamp sd (validDateInUnixYear sd.year.toNat sd.month.toNat sd.day.toNat).2 =
      dateSeconds sd := by
    rw [(validDateInUnixYear_pos hchecked).2.2.2.2.2]
    exact (dateSeconds_eq sd).symm
  have hle := h.seconds_le
  unfold setDate
  simp only [htime, Bool.not_true, Bool.false_eq_true, if_false, hchecked, hsec, maxTimestampValue]
  rw [if_neg (by omega), Int.toNat_natCast]

/-- An accepted date is representable, and its timestamp is the exact number. -/
theorem representable_of_setDate {t : UInt32} (h : setDate sd = some t) :
    Representable sd ∧ t.toNat = dateSeconds sd := by
  obtain ⟨hvalid, ht⟩ := setDate_eq_some h
  have hsec : dateSeconds sd = t.toNat := by
    have := dateSeconds_eq sd
    rw [dateTimestamp_eq, ← ht] at this
    exact Int.ofNat.inj this
  have hlt := t.toNat_lt
  exact ⟨hvalid.representable_iff.2 (by omega), hsec.symm⟩

/-- **`set_date` accepts exactly the representable dates**; it then sets the clock once, with the
exact number of seconds, and otherwise never. -/
theorem setDate64_spec (sd : Solar48Date) :
    ((setDate64 sd).1 = true ↔ Representable sd) ∧
      ((setDate64 sd).1 = true → ∃ t, (setDate64 sd).2 = [t] ∧ t.toNat = dateSeconds sd) ∧
      ((setDate64 sd).1 = false → (setDate64 sd).2 = []) := by
  rw [setDate64_eq]
  cases hset : setDate sd with
  | none =>
      refine ⟨iff_of_false Bool.false_ne_true ?_, nofun, fun _ => rfl⟩
      intro h
      rw [h.setDate_eq] at hset
      cases hset
  | some t =>
      obtain ⟨hrep, ht⟩ := representable_of_setDate hset
      exact ⟨iff_of_true rfl hrep, fun _ => ⟨t, rfl, ht⟩, nofun⟩

end Solar48
