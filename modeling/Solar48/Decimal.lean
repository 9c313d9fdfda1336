/-
**Decimal numerals.**

A numeral is a string of ASCII digits, and its value is what the digits are worth by their places.
A fixed-point numeral is two of them with a point between; the second is worth as many tenths of
tenths as it has digits, so a leading zero there counts.

Main definitions:

* `Decimal.numeral` — how a number is written, without leading zeros;
* `Decimal.IsNumeral`, `Decimal.value` — reading a numeral;
* `Decimal.ReadsAs` — reading a fixed-point numeral as a fraction.

Main results:

* `Decimal.value_numeral` — what is written is read back;
* `Decimal.length_numeral` — how long it is;
* `Decimal.ReadsAs.value_eq` — there is one way to read a fixed-point numeral.
-/

import Mathlib.Data.List.Basic
import Mathlib.Data.Nat.Digits.Lemmas

set_option relaxedAutoImplicit false
set_option autoImplicit false

namespace Decimal

/-! ### Digits -/

/-- The character of a digit. -/
def digit (d : ℕ) : UInt8 := UInt8.ofNat (0x30 + d)

/-- The characters `'0'` to `'9'`. -/
def IsDigit (c : UInt8) : Prop := 0x30 ≤ c ∧ c ≤ 0x39

instance (c : UInt8) : Decidable (IsDigit c) := inferInstanceAs (Decidable (_ ∧ _))

/-- What a digit is worth. -/
def digitVal (c : UInt8) : ℕ := c.toNat - 0x30

/-- The decimal point. -/
def point : UInt8 := 0x2E

theorem toNat_digit {d : ℕ} (h : d < 10) : (digit d).toNat = 0x30 + d := by
  have hlt : 0x30 + d < 256 := by omega
  exact UInt8.toNat_ofNat_of_lt' hlt

theorem digitVal_digit {d : ℕ} (h : d < 10) : digitVal (digit d) = d := by
  rw [digitVal, toNat_digit h]
  omega

theorem isDigit_digit {d : ℕ} (h : d < 10) : IsDigit (digit d) := by
  have h₀ : (0x30 : UInt8).toNat = 0x30 := rfl
  have h₉ : (0x39 : UInt8).toNat = 0x39 := rfl
  rw [IsDigit, UInt8.le_iff_toNat_le, UInt8.le_iff_toNat_le, toNat_digit h]
  omega

theorem IsDigit.ne_point {c : UInt8} (h : IsDigit c) : c ≠ point := by
  rintro rfl
  exact absurd h.1 (by decide)

/-! ### Numerals -/

/-- How a number is written. -/
def numeral (n : ℕ) : List UInt8 :=
  if n = 0 then [digit 0] else ((Nat.digits 10 n).map digit).reverse

/-- A numeral has digits, and nothing else. -/
def IsNumeral (s : List UInt8) : Prop := s ≠ [] ∧ ∀ c ∈ s, IsDigit c

/-- What a numeral is worth. -/
def value (s : List UInt8) : ℕ := Nat.ofDigits 10 (s.reverse.map digitVal)

/-- What is written is a numeral. -/
theorem isNumeral_numeral (n : ℕ) : IsNumeral (numeral n) := by
  unfold numeral
  split
  · refine ⟨by simp, ?_⟩
    intro c hc
    rw [List.mem_singleton.1 hc]
    exact isDigit_digit (by decide)
  · rename_i hn
    refine ⟨by simp [Nat.digits_ne_nil_iff_ne_zero, hn], ?_⟩
    intro c hc
    obtain ⟨d, hd, rfl⟩ := List.mem_map.1 (List.mem_reverse.1 hc)
    exact isDigit_digit (Nat.digits_lt_base (by decide) hd)

/-- **What is written is read back.** -/
theorem value_numeral (n : ℕ) : value (numeral n) = n := by
  unfold numeral
  split
  · rename_i hn
    rw [hn]
    rfl
  · have hdigit : ∀ d ∈ Nat.digits 10 n, (digitVal ∘ digit) d = id d := by
      intro d hd
      exact digitVal_digit (Nat.digits_lt_base (by decide) hd)
    rw [value, List.reverse_reverse, List.map_map, List.map_congr_left hdigit, List.map_id,
      Nat.ofDigits_digits]

/-- How many digits there are. -/
theorem length_numeral (n : ℕ) : (numeral n).length = Nat.log 10 n + 1 := by
  unfold numeral
  split
  · rename_i hn
    rw [hn, Nat.log_zero_right]
    rfl
  · rename_i hn
    rw [List.length_reverse, List.length_map, Nat.length_digits 10 n (by decide) hn]

/-- So many digits are enough for it. -/
theorem length_numeral_le {n k : ℕ} (h : n < 10 ^ (k + 1)) : (numeral n).length ≤ k + 1 := by
  rw [length_numeral]
  rcases Nat.eq_zero_or_pos n with rfl | hpos
  · simp
  · exact Nat.log_lt_of_lt_pow hpos.ne' h

/-- There is no zero in front. -/
theorem numeral_head {n : ℕ} (h : (numeral n).head? = some 0x30) : numeral n = [0x30] := by
  unfold numeral at h ⊢
  split at h
  · rw [if_pos ‹_›]
    rfl
  · rename_i hn
    have hne : Nat.digits 10 n ≠ [] := Nat.digits_ne_nil_iff_ne_zero.2 hn
    rw [List.head?_reverse, List.getLast?_map, List.getLast?_eq_getLast_of_ne_nil hne,
      Option.map_some, Option.some.injEq] at h
    have hlast := Nat.getLast_digit_ne_zero 10 hn
    have hlt := Nat.digits_lt_base (b := 10) (by decide) (List.getLast_mem hne)
    have hval := congrArg UInt8.toNat h
    rw [toNat_digit hlt] at hval
    have hzero : (0x30 : UInt8).toNat = 0x30 := rfl
    omega

/-! ### Fixed-point numerals -/

/-- A numeral, a point and a numeral: read as the fraction `n / den`, the first is the integer part
and the second is what is left. -/
def ReadsAs (s : List UInt8) (n den : ℕ) : Prop :=
  ∃ whole frac, IsNumeral whole ∧ IsNumeral frac ∧ s = whole ++ point :: frac ∧
    value whole = n / den ∧ value frac * den = n % den * 10 ^ frac.length

/-- A numeral has no point. -/
theorem IsNumeral.point_not_mem {s : List UInt8} (h : IsNumeral s) : point ∉ s := by
  intro hp
  exact (h.2 point hp).ne_point rfl

/-- **A fixed-point numeral is read in one way.** -/
theorem ReadsAs.value_eq {whole frac : List UInt8} {n den : ℕ}
    (h : ReadsAs (whole ++ point :: frac) n den) (hw : IsNumeral whole) (hf : IsNumeral frac) :
    value whole = n / den ∧ value frac * den = n % den * 10 ^ frac.length := by
  obtain ⟨whole', frac', -, -, heq, hval⟩ := h
  obtain ⟨rfl, -, rfl⟩ :=
    (List.append_cons_inj_of_notMem hw.point_not_mem hf.point_not_mem).1 heq
  exact hval

end Decimal
