/-
**The day of the week.**

`get_day` is a formula: the year, its leap days, a multiple of the month that runs like the lengths
of the months, and the day, all modulo seven.  January and February are counted with the year
before.

Main definitions:

* `Solar48.getDay32` — the code, in the 32 bits of an `int`.

Main results:

* `Solar48.toInt_getDay32` — nothing overflows up to the year 65535;
* `Solar48.getDay_eq_dayNumber`, `Solar48.getDay32_eq_dayNumber` — **the formula counts the days
  since 1970**;
* `Solar48.getDay_next` — a day later it is the next day of the week.
-/

import Solar48.RtcAdvance

set_option relaxedAutoImplicit false
set_option autoImplicit false

namespace Solar48

open Calendar

/-! ### The formula in 32 bits -/

/-- `get_day`. -/
def getDay32 (y m d : Int32) : Int32 :=
  let d := d + if m < 3 then y else y - 2
  let y := if m < 3 then y - 1 else y
  (23 * m / 9 + d + 4 + y / 4 - y / 100 + y / 400) % 7

theorem bmod_of_small {n : ℤ} (h₁ : -2147483648 ≤ n) (h₂ : n < 2147483648) :
    n.bmod (2 ^ 32) = n :=
  Int.bmod_eq_of_le (by omega) (by omega)

theorem toInt_add_small {a b : Int32} (h₁ : -2147483648 ≤ a.toInt + b.toInt)
    (h₂ : a.toInt + b.toInt < 2147483648) : (a + b).toInt = a.toInt + b.toInt := by
  rw [Int32.toInt_add, bmod_of_small h₁ h₂]

theorem toInt_sub_small {a b : Int32} (h₁ : -2147483648 ≤ a.toInt - b.toInt)
    (h₂ : a.toInt - b.toInt < 2147483648) : (a - b).toInt = a.toInt - b.toInt := by
  rw [Int32.toInt_sub, bmod_of_small h₁ h₂]

/-- The sum of the formula, with the year that counts and the days with the year added. -/
theorem toInt_sum {m d y : Int32} (hm : 0 ≤ m.toInt) (hm' : m.toInt ≤ 12) (hd : 0 ≤ d.toInt)
    (hd' : d.toInt ≤ 100000) (hy : 0 ≤ y.toInt) (hy' : y.toInt ≤ 100000) :
    (23 * m / 9 + d + 4 + y / 4 - y / 100 + y / 400).toInt =
      (23 * m.toInt).tdiv 9 + d.toInt + 4 + y.toInt.tdiv 4 - y.toInt.tdiv 100
        + y.toInt.tdiv 400 := by
  have h23 : (23 * m).toInt = 23 * m.toInt := by
    rw [Int32.toInt_mul]
    exact bmod_of_small (by change _ ≤ 23 * m.toInt; omega) (by change 23 * m.toInt < _; omega)
  have hmonth : (23 * m / 9).toInt = (23 * m.toInt).tdiv 9 := by
    rw [Int32.toInt_div_of_ne_right _ _ (by decide), h23]
    rfl
  have h4 : (y / 4).toInt = y.toInt.tdiv 4 := Int32.toInt_div_of_ne_right _ _ (by decide)
  have h100 : (y / 100).toInt = y.toInt.tdiv 100 := Int32.toInt_div_of_ne_right _ _ (by decide)
  have h400 : (y / 400).toInt = y.toInt.tdiv 400 := Int32.toInt_div_of_ne_right _ _ (by decide)
  have hfour : (4 : Int32).toInt = 4 := rfl
  have hbound : 0 ≤ (23 * m.toInt).tdiv 9 ∧ (23 * m.toInt).tdiv 9 ≤ 100 := by
    rw [Int.tdiv_eq_ediv_of_nonneg (by omega)]
    omega
  have hquot : ∀ k : ℤ, 0 < k → 0 ≤ y.toInt.tdiv k ∧ y.toInt.tdiv k ≤ 100000 := by
    intro k hk
    rw [Int.tdiv_eq_ediv_of_nonneg hy]
    exact ⟨Int.ediv_nonneg hy hk.le, (Int.ediv_le_self k hy).trans hy'⟩
  obtain ⟨a₁, a₂⟩ := hquot 4 (by decide)
  obtain ⟨b₁, b₂⟩ := hquot 100 (by decide)
  obtain ⟨c₁, c₂⟩ := hquot 400 (by decide)
  have s₁ : (23 * m / 9 + d).toInt = (23 * m.toInt).tdiv 9 + d.toInt := by
    rw [toInt_add_small, hmonth] <;> rw [hmonth] <;> omega
  have s₂ : (23 * m / 9 + d + 4).toInt = (23 * m.toInt).tdiv 9 + d.toInt + 4 := by
    rw [toInt_add_small, s₁, hfour] <;> rw [s₁, hfour] <;> omega
  have s₃ : (23 * m / 9 + d + 4 + y / 4).toInt =
      (23 * m.toInt).tdiv 9 + d.toInt + 4 + y.toInt.tdiv 4 := by
    rw [toInt_add_small, s₂, h4] <;> rw [s₂, h4] <;> omega
  have s₄ : (23 * m / 9 + d + 4 + y / 4 - y / 100).toInt =
      (23 * m.toInt).tdiv 9 + d.toInt + 4 + y.toInt.tdiv 4 - y.toInt.tdiv 100 := by
    rw [toInt_sub_small, s₃, h100] <;> rw [s₃, h100] <;> omega
  rw [toInt_add_small, s₄, h400] <;> rw [s₄, h400] <;> omega

/-- **Nothing overflows**, up to the year 65535. -/
theorem toInt_getDay32 {y m d : ℕ} (hy : 2 ≤ y) (hy' : y ≤ 65535) (hm : m ≤ 12) (hd : d ≤ 31) :
    (getDay32 (Int32.ofNat y) (Int32.ofNat m) (Int32.ofNat d)).toInt = getDay y m d := by
  have hyi : (Int32.ofNat y).toInt = y := Int32.toInt_ofNat_of_lt (by omega)
  have hmi : (Int32.ofNat m).toInt = m := Int32.toInt_ofNat_of_lt (by omega)
  have hdi : (Int32.ofNat d).toInt = d := Int32.toInt_ofNat_of_lt (by omega)
  have hone : (1 : Int32).toInt = 1 := rfl
  have htwo : (2 : Int32).toInt = 2 := rfl
  have hlt : Int32.ofNat m < 3 ↔ (m : ℤ) < 3 := by
    rw [Int32.lt_iff_toInt_lt, hmi]
    rfl
  unfold getDay32 getDay
  rw [Int32.toInt_mod]
  by_cases hm3 : (m : ℤ) < 3
  · have hday : (Int32.ofNat d + Int32.ofNat y).toInt = d + y := by
      rw [toInt_add_small, hyi, hdi] <;> rw [hyi, hdi] <;> omega
    have hyear : (Int32.ofNat y - 1).toInt = y - 1 := by
      rw [toInt_sub_small, hyi, hone] <;> rw [hyi, hone] <;> omega
    simp only [hlt.2 hm3, hm3, if_true]
    rw [toInt_sum (by omega) (by omega) (by omega) (by omega) (by omega) (by omega), hmi, hday,
      hyear]
    rfl
  · have hnlt : ¬ Int32.ofNat m < 3 := fun h => hm3 (hlt.1 h)
    have hless : (Int32.ofNat y - 2).toInt = y - 2 := by
      rw [toInt_sub_small, hyi, htwo] <;> rw [hyi, htwo] <;> omega
    have hday : (Int32.ofNat d + (Int32.ofNat y - 2)).toInt = d + (y - 2) := by
      rw [toInt_add_small, hless, hdi] <;> rw [hless, hdi] <;> omega
    simp only [hnlt, hm3, if_false]
    rw [toInt_sum (by omega) (by omega) (by omega) (by omega) (by omega) (by omega), hmi, hday,
      hyi]
    rfl

/-! ### The formula and the calendar -/

/-- The divisions are not truncated, and the year counts its leap days so far. -/
theorem tmod_sum (m d y : ℕ) :
    ((23 * (m : ℤ)).tdiv 9 + d + 4 + (y : ℤ).tdiv 4 - (y : ℤ).tdiv 100 + (y : ℤ).tdiv 400).tmod 7 =
      ((23 * m / 9 + d + 4 + leapYearsTo y : ℕ) : ℤ) % 7 := by
  have hle : y / 100 ≤ y / 4 := Nat.div_le_div_left (by decide) (by decide)
  rw [Int.tdiv_eq_ediv_of_nonneg (by omega), Int.tdiv_eq_ediv_of_nonneg (by omega),
    Int.tdiv_eq_ediv_of_nonneg (by omega), Int.tdiv_eq_ediv_of_nonneg (by omega),
    Int.tmod_eq_emod_of_nonneg (by omega), leapYearsTo]
  congr 1
  omega

/-- The formula without its truncated divisions. -/
theorem getDay_eq {y m d : ℕ} (hy : 2 ≤ y) :
    getDay y m d =
      ((23 * m / 9 + d + 4 + (if m < 3 then y + leapYearsTo (y - 1)
        else y - 2 + leapYearsTo y) : ℕ) : ℤ) % 7 := by
  have hlt : (m : ℤ) < 3 ↔ m < 3 := by omega
  unfold getDay
  simp only [hlt]
  split
  · have hday : (d : ℤ) + y = (d + y : ℕ) := by omega
    have hyear : (y : ℤ) - 1 = (y - 1 : ℕ) := by omega
    rw [hday, hyear, tmod_sum]
    congr 1
    omega
  · have hday : (d : ℤ) + (y - 2) = (d + (y - 2) : ℕ) := by omega
    rw [hday, tmod_sum]
    congr 1
    omega

/-- The multiple of the month runs like the lengths of the months before it, modulo seven. -/
theorem daysInMonths_mod (year : ℕ) {m : ℕ} (h₁ : 1 ≤ m) (h₂ : m ≤ 12) :
    (daysInMonths year (m - 1) + if m < 3 then 2 else 0) % 7 =
      (23 * m / 9 + if m < 3 then 0 else if Leap year then 4 else 3) % 7 := by
  by_cases hleap : Leap year <;> interval_cases m <;> simp [daysInMonths, monthLength, hleap]

/-- **The formula counts the days since 1970**, which began on a Thursday. -/
theorem getDay_eq_dayNumber (date : Date) (h : 1970 ≤ date.year) :
    getDay date.year date.month date.day = ((date.dayNumber 1970 + 4) % 7 : ℕ) := by
  obtain ⟨n, hn⟩ := Nat.exists_eq_add_of_le h
  have hyears : daysInYears 1970 n + 477 = 365 * n + leapYearsTo (1969 + n) :=
    daysInYears_add 1969 n
  have hprev : leapYearsTo (date.year - 1) = leapYearsTo (1969 + n) := by
    rw [hn]
    congr 1
    omega
  have hthis : leapYearsTo date.year =
      leapYearsTo (1969 + n) + if Leap date.year then 1 else 0 := by
    rw [hn, show 1970 + n = 1969 + n + 1 by omega]
    exact leapYearsTo_succ _
  have hmonths := daysInMonths_mod date.year date.month_pos date.month_le
  have hday := date.day_pos
  rw [getDay_eq (by omega), Date.dayNumber, hn, Nat.add_sub_cancel_left, ← hn, hprev, hthis]
  by_cases hm3 : date.month < 3
  · simp only [hm3, if_true] at hmonths ⊢
    omega
  · simp only [hm3, if_false] at hmonths ⊢
    split at hmonths
    · rename_i hleap
      rw [if_pos hleap]
      omega
    · rename_i hleap
      rw [if_neg hleap]
      omega

/-- **A day later it is the next day of the week.** -/
theorem getDay_next (date : Date) (h : 1970 ≤ date.year) :
    getDay date.next.year date.next.month date.next.day =
      (getDay date.year date.month date.day + 1) % 7 := by
  have hnext : 1970 ≤ date.next.year := h.trans date.year_le_next
  rw [getDay_eq_dayNumber _ hnext, getDay_eq_dayNumber _ h, Date.dayNumber_next h]
  omega

/-- **The day of the week is right for all dates** that the code takes for valid, up to the last
year that a record can hold. -/
theorem getDay32_eq_dayNumber {y m d : ℕ} (hy : 1970 ≤ y) (hy' : y ≤ 65535) (hm : 1 ≤ m)
    (hm' : m ≤ 12) (hd : 1 ≤ d) (hd' : d ≤ maxDay y m) :
    (getDay32 (Int32.ofNat y) (Int32.ofNat m) (Int32.ofNat d)).toInt =
      ((daysInYears 1970 (y - 1970) + daysInMonths y (m - 1) + (d - 1) + 4) % 7 : ℕ) := by
  rw [maxDay_eq_monthLength y hm hm'] at hd'
  have hday : d ≤ 31 := hd'.trans (monthLength_le _ _)
  rw [toInt_getDay32 (by omega) hy' hm' hday]
  exact getDay_eq_dayNumber ⟨y, m, d, hm, hm', hd, hd'⟩ hy

/-- The leap day of 2024 was a Thursday. -/
theorem getDay32_leap_day : (getDay32 (Int32.ofNat 2024) (Int32.ofNat 2) (Int32.ofNat 29)).toInt =
    ((daysInYears 1970 (2024 - 1970) + daysInMonths 2024 (2 - 1) + (29 - 1) + 4) % 7 : ℕ) :=
  getDay32_eq_dayNumber (by decide) (by decide) (by decide) (by decide) (by decide) (by decide)

end Solar48
