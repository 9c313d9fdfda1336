/-
**The numeral of a 64-bit value.**

`printf` on the target does not print a `uint64_t`, so `u64toa` does it.  The digits are found from
the last one to the first, in an array of 21 bytes on the stack, and then copied the other way round
into the buffer of the caller, if they and a NUL fit.

Both arrays are checked here: the model is none if an index is outside of one of them.

Main definitions:

* `Solar48.digitLoop`, `Solar48.reverseLoop` — the loops;
* `Solar48.u64toa` — the code;
* `Solar48.IsCanonical` — the numeral that a number has.

Main results:

* `Solar48.digitLoop_eq` — the digits, from the last one on;
* `Solar48.reverseLoop_eq` — they are turned round;
* `Solar48.length_numeral_lt` — the numeral and a NUL fit in 21 bytes;
* `Solar48.u64toa_roundTrips` — **the numeral is in the buffer if it fits, and else the buffer is
  left alone**.
-/

import Solar48.BuildArgc
import Solar48.Decimal

set_option relaxedAutoImplicit false
set_option autoImplicit false

namespace Solar48

open ByteMem Decimal

/-! ### The code -/

/-- `MIN_U64TOA_SIZE`: the size of `temp`. -/
def minU64toaSize : ℕ := 21

/-- `U64TOA_OVERFLOW`: `[u64toa_ovfw]`. -/
def u64toaOverflow : List UInt8 :=
  [0x5B, 0x75, 0x36, 0x34, 0x74, 0x6F, 0x61, 0x5F, 0x6F, 0x76, 0x66, 0x77, 0x5D]

/-- The text that is returned: the buffer that was passed, or a literal. -/
inductive ReturnedText
  | str
  | literal (text : List UInt8)
  deriving DecidableEq

theorem toNat_div_ten (value : UInt64) : (value / 10).toNat = value.toNat / 10 :=
  UInt64.toNat_div value 10

theorem toNat_pos {value : UInt64} (h : value > 0) : 0 < value.toNat :=
  UInt64.lt_iff_toNat_lt.1 h

/-- The loop `while (value > 0)`, with `i` digits in `temp`. -/
def digitLoop (temp : Mem) (i : ℕ) (value : UInt64) : Option (Mem × ℕ) :=
  if value > 0 then
    if i < minU64toaSize then
      digitLoop (write temp i [0x30 + (value % 10).toUInt8]) (i + 1) (value / 10)
    else none
  else some (temp, i)
termination_by value.toNat
decreasing_by
  rw [toNat_div_ten]
  exact Nat.div_lt_self (toNat_pos ‹value > 0›) (by decide)

/-- The loop on `j`, with so many digits left of `i`. -/
def reverseLoop (temp str : Mem) (strSz i j : ℕ) : ℕ → Option Mem
  | 0 => some str
  | left + 1 =>
      if i - j - 1 < minU64toaSize ∧ j < strSz then
        reverseLoop temp (write str j [temp (i - j - 1)]) strSz i (j + 1) left
      else none

/-- `u64toa`; in `temp` is what the stack holds. -/
def u64toa (temp str : Mem) (strSz : ℕ) (value : UInt64) : Option (Mem × ReturnedText) :=
  if value = 0 then
    if 2 ≤ strSz then some (write (write str 0 [0x30]) 1 [0], .str)
    else some (str, .literal u64toaOverflow)
  else
    (digitLoop temp 0 value).bind fun (temp, i) =>
      if i < strSz then
        (reverseLoop temp str strSz i 0 i).map fun str => (write str i [0], .str)
      else some (str, .literal u64toaOverflow)

/-! ### The numeral of a number -/

/-- The numeral that a number has: it is read back as the number, and has no zero in front. -/
def IsCanonical (s : List UInt8) (n : ℕ) : Prop :=
  IsNumeral s ∧ value s = n ∧ (s.head? = some 0x30 → s = [0x30])

/-- What `u64toa` leaves, of a value and a buffer: the numeral and a NUL at the beginning of the
buffer if they fit, and else the overflow text and the buffer as it was. -/
def RoundTrips (str : Mem) (strSz : ℕ) (value : UInt64) (result : Mem × ReturnedText) : Prop :=
  ∃ s, IsCanonical s value.toNat ∧
    (s.length + 1 ≤ strSz ∧ result.2 = .str ∧ HoldsString result.1 0 s ∧
        (∀ i, s.length + 1 ≤ i → result.1 i = str i) ∨
      strSz < s.length + 1 ∧ result = (str, .literal u64toaOverflow))

variable {temp str : Mem} {strSz i j : ℕ} {value : UInt64} {s : List UInt8} {n : ℕ}

theorem isCanonical_numeral (n : ℕ) : IsCanonical (numeral n) n :=
  ⟨isNumeral_numeral n, value_numeral n, numeral_head⟩

/-- A numeral has no NUL in it. -/
theorem zero_notMem_of_isNumeral (h : IsNumeral s) : (0 : UInt8) ∉ s := by
  intro hz
  exact absurd (h.2 0 hz) (by decide)

/-- **The numeral and a NUL fit in `temp`.** -/
theorem length_numeral_lt (value : UInt64) : (numeral value.toNat).length < minU64toaSize := by
  have hlt : value.toNat < 10 ^ 20 := value.toNat_lt.trans (by decide)
  unfold numeral
  split
  · decide
  · rw [List.length_reverse, List.length_map]
    exact Nat.lt_succ_of_le ((Nat.digits_length_le_iff (by decide) _).2 hlt)

/-! ### The loops -/

/-- The character of a digit. -/
theorem add_toUInt8_mod (value : UInt64) :
    0x30 + (value % 10).toUInt8 = digit (value.toNat % 10) := by
  have hmod : (value % 10).toNat = value.toNat % 10 := UInt64.toNat_mod value 10
  have hlt : value.toNat % 10 < 10 := Nat.mod_lt _ (by decide)
  have hbase : (0x30 : UInt8).toNat = 0x30 := rfl
  refine UInt8.toNat_inj.1 ?_
  rw [toNat_digit hlt, UInt8.toNat_add, UInt64.toNat_toUInt8, hmod, hbase]
  omega

/-- **The digits**, from the last one on; `temp` has room for them. -/
theorem digitLoop_eq (h : i + (Nat.digits 10 value.toNat).length ≤ minU64toaSize) :
    digitLoop temp i value =
      some (write temp i ((Nat.digits 10 value.toNat).map digit),
        i + (Nat.digits 10 value.toNat).length) := by
  induction temp, i, value using digitLoop.induct with
  | case1 temp i value hpos hi ih =>
      have hdigits : Nat.digits 10 value.toNat =
          value.toNat % 10 :: Nat.digits 10 (value.toNat / 10) :=
        Nat.digits_def' (by decide) (toNat_pos hpos)
      rw [hdigits, List.length_cons] at h
      rw [digitLoop, if_pos hpos, if_pos hi, ih (by rw [toNat_div_ten]; omega), toNat_div_ten,
        add_toUInt8_mod, write_write_of_eq _ i (i + 1) [_] _ rfl, hdigits, List.map_cons,
        List.length_cons, Nat.add_assoc, Nat.add_comm 1]
      rfl
  | case2 temp i value hpos hi =>
      have hdigits : Nat.digits 10 value.toNat ≠ [] :=
        Nat.digits_ne_nil_iff_ne_zero.2 (toNat_pos hpos).ne'
      have hlength := List.length_pos_of_ne_nil hdigits
      omega
  | case3 temp i value hzero =>
      have hnat : value.toNat = 0 := by
        have hle : value.toNat ≤ 0 := UInt64.le_iff_toNat_le.1 (UInt64.not_lt.1 hzero)
        omega
      rw [digitLoop, if_neg hzero, hnat, Nat.digits_zero, List.map_nil, write_nil]
      rfl

/-- **The copy turns them round.** -/
theorem reverseLoop_eq {left : ℕ} (hi : i ≤ minU64toaSize) (hsize : i ≤ strSz) (h : j + left = i) :
    reverseLoop temp str strSz i j left = some (write str j (read temp 0 left).reverse) := by
  induction left generalizing str j with
  | zero => rw [reverseLoop, read_zero, List.reverse_nil, write_nil]
  | succ left ih =>
      have hlast : read temp left 1 = [temp left] := read_succ temp left 0
      have hindex : i - j - 1 = left := by omega
      rw [reverseLoop, hindex, if_pos (by omega), ih (by omega),
        write_write_of_eq _ j (j + 1) [_] _ rfl, read_add, Nat.zero_add, hlast, List.reverse_append]
      rfl

/-- Both loops: the numeral is at the beginning of the buffer. -/
theorem digitLoop_reverseLoop (temp str : Mem) (strSz : ℕ) (hpos : value ≠ 0) :
    ∃ temp', digitLoop temp 0 value = some (temp', (numeral value.toNat).length) ∧
      ((numeral value.toNat).length < strSz →
        reverseLoop temp' str strSz (numeral value.toNat).length 0 (numeral value.toNat).length =
          some (write str 0 (numeral value.toNat))) := by
  have hne : value.toNat ≠ 0 := fun h0 => hpos (UInt64.toNat_inj.1 h0)
  have hnum : numeral value.toNat = ((Nat.digits 10 value.toNat).map digit).reverse := if_neg hne
  have hlength : (numeral value.toNat).length = (Nat.digits 10 value.toNat).length := by
    rw [hnum, List.length_reverse, List.length_map]
  have hlt := length_numeral_lt value
  refine ⟨write temp 0 ((Nat.digits 10 value.toNat).map digit), ?_, ?_⟩
  · rw [digitLoop_eq (by omega), Nat.zero_add, hlength]
  · intro hfit
    rw [reverseLoop_eq (by omega) (by omega) (Nat.zero_add _),
      read_write_take _ _ _ (by rw [List.length_map, hlength]),
      List.take_of_length_le (by rw [List.length_map, hlength]), hnum]

/-! ### The whole function -/

/-- A numeral that is stored, and a NUL behind it. -/
theorem roundTrips_of_le (str : Mem) (h : (numeral value.toNat).length + 1 ≤ strSz) :
    RoundTrips str strSz value
      (write (write str 0 (numeral value.toNat)) (numeral value.toNat).length [0], .str) := by
  refine ⟨numeral value.toNat, isCanonical_numeral _, Or.inl ⟨h, rfl, ?_, ?_⟩⟩
  · refine ⟨?_, zero_notMem_of_isNumeral (isNumeral_numeral _)⟩
    rw [write_write_of_eq _ _ _ _ _ (Nat.zero_add _).symm,
      read_write_take _ _ _ (by rw [List.length_append]; rfl),
      List.take_of_length_le (by rw [List.length_append]; rfl)]
  · intro i hi
    have hnumeral : 0 + (numeral value.toNat).length ≤ i := by omega
    exact (write_of_ge _ _ _ hi).trans (write_of_ge _ _ _ hnumeral)

/-- A numeral that is not. -/
theorem roundTrips_of_lt (h : strSz < (numeral value.toNat).length + 1) :
    RoundTrips str strSz value (str, .literal u64toaOverflow) :=
  ⟨numeral value.toNat, isCanonical_numeral _, Or.inr ⟨h, rfl⟩⟩

/-- **`u64toa` round-trips**, for all values and all sizes of the buffer, and stays inside of both
arrays. -/
theorem u64toa_roundTrips (temp str : Mem) (strSz : ℕ) (value : UInt64) :
    ∃ result, u64toa temp str strSz value = some result ∧ RoundTrips str strSz value result := by
  by_cases hzero : value = 0
  · have hnum : numeral value.toNat = [0x30] := by
      rw [hzero]
      rfl
    rw [u64toa, if_pos hzero]
    by_cases hfit : 2 ≤ strSz
    · have h := roundTrips_of_le str (show (numeral value.toNat).length + 1 ≤ strSz by rwa [hnum])
      rw [hnum] at h
      exact ⟨_, if_pos hfit, h⟩
    · exact ⟨_, if_neg hfit, roundTrips_of_lt (by rw [hnum]; simpa using hfit)⟩
  · obtain ⟨temp', hdigits, hreverse⟩ := digitLoop_reverseLoop temp str strSz hzero
    rw [u64toa, if_neg hzero, hdigits, Option.bind_some]
    by_cases hfit : (numeral value.toNat).length < strSz
    · refine ⟨_, ?_, roundTrips_of_le str hfit⟩
      simp only [if_pos hfit, hreverse hfit]
      rfl
    · exact ⟨_, if_neg hfit, roundTrips_of_lt (by omega)⟩

end Solar48
