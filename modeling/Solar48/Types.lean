/-
**Numbers as text.**

`real_u32_prec` prints a 32-bit number of hundredths, or of any other fraction, as a fixed-point
numeral.  It takes the remainder first and keeps it in the variable that held the divisor, so the
quotient it prints is the quotient by the remainder: there is none when the division is exact
(`Solar48.realU32Prec_eq_none_iff`), and it is too large when it is not
(`Solar48.realU32Prec_not_printsExactly`).

Main definitions:

* `Solar48.snprintf` — the text of a format in a buffer;
* `Solar48.realU32Prec`, `Solar48.RealU32Prec.text` — the code, and what it prints;
* `Solar48.PrintsExactly` — the value is printed as the fraction that it is.

Main results:

* `Solar48.realU32Prec_text` — what is printed;
* `Solar48.realU32Prec_not_printsExactly` — **no value is printed as the fraction that it is**.
-/

import Solar48.ByteMem
import Solar48.Decimal
import Mathlib.Data.Int.Notation

set_option relaxedAutoImplicit false
set_option autoImplicit false

namespace Solar48

open ByteMem Decimal

/-! ### The code -/

/-- `E_REAL_U32_PREC_STRING_BUFFER_TOO_SHORT`. -/
def eRealU32PrecStringBufferTooShort : ℤ := 700

/-- `E_REAL_U32_PREC_STRING_FORMAT_ERROR`. -/
def eRealU32PrecStringFormatError : ℤ := 701

/-- `snprintf`, for a format that expands to `text`: what fits is stored with a NUL behind it, and
the length of the whole is returned. -/
def snprintf (buf : Mem) (bufSz : ℕ) (text : List UInt8) : Mem × ℤ :=
  (if bufSz = 0 then buf else write buf 0 (text.take (bufSz - 1) ++ [0]), text.length)

/-- What `real_u32_prec` leaves: the buffer, `*len`, and the code `error_handler` is called with,
if it is. -/
structure RealU32Prec where
  buf : Mem
  len : ℕ
  error : Option ℤ

/-- `real_u32_prec` behind the formats. -/
def realU32PrecLen (printed : Mem × ℤ) (bufSz : ℕ) : RealU32Prec :=
  let (buf, lenOrError) := printed
  let (lenOrError, error) :=
    if lenOrError < 0 then (0, some eRealU32PrecStringFormatError)
    else if lenOrError.toNat ≥ bufSz then (0, some eRealU32PrecStringBufferTooShort)
    else (lenOrError.toNat, none)
  ⟨write buf lenOrError [0], lenOrError, error⟩

/-- `real_u32_prec`, which is none if it divides by zero. -/
def realU32Prec (buf : Mem) (bufSz : ℕ) (value prec : UInt32) : Option RealU32Prec :=
  if prec > 1 then
    let prec := value % prec
    -- `value /= prec`
    if prec = 0 then none
    else
      let value := value / prec
      let text := numeral value.toNat ++ point :: numeral prec.toNat
      some (realU32PrecLen (snprintf buf bufSz text) bufSz)
  else if prec ≠ 0 then
    some (realU32PrecLen (snprintf buf bufSz (numeral value.toNat ++ [point, digit 0])) bufSz)
  else some (realU32PrecLen (snprintf buf bufSz (numeral value.toNat)) bufSz)

/-- What is printed. -/
def RealU32Prec.text (r : RealU32Prec) : List UInt8 := read r.buf 0 r.len

/-- The number `value / prec` is printed: there is no division by zero, and the text is its integer
part, a point, and digits that are worth the rest. -/
def PrintsExactly (buf : Mem) (bufSz : ℕ) (value prec : UInt32) : Prop :=
  ∃ r, realU32Prec buf bufSz value prec = some r ∧ ReadsAs r.text value.toNat prec.toNat

/-! ### What is printed -/

/-- A text that fits, with the NUL that is stored behind it once more. -/
theorem read_snprintf (buf : Mem) {bufSz : ℕ} {text : List UInt8} (h : text.length < bufSz) :
    read (write (snprintf buf bufSz text).1 text.length [0]) 0 text.length = text := by
  have hsz : bufSz ≠ 0 := by omega
  have htake : text.take (bufSz - 1) = text := List.take_of_length_le (by omega)
  rw [snprintf, if_neg hsz, htake, read_write_of_le _ _ _ (by omega),
    read_write_take _ _ _ (by simp), List.take_left]

/-- **A text that fits is printed whole; of any other, nothing is left**, and the error handler is
called. -/
theorem realU32PrecLen_snprintf (buf : Mem) (bufSz : ℕ) (text : List UInt8) :
    (realU32PrecLen (snprintf buf bufSz text) bufSz).text =
        (if text.length < bufSz then text else []) ∧
      (realU32PrecLen (snprintf buf bufSz text) bufSz).error =
        if text.length < bufSz then none else some eRealU32PrecStringBufferTooShort := by
  have hneg : ¬ (text.length : ℤ) < 0 := by omega
  by_cases hlt : text.length < bufSz
  · have hge : ¬ text.length ≥ bufSz := by omega
    have hread := read_snprintf buf hlt
    simp only [snprintf] at hread
    simp only [realU32PrecLen, snprintf, hneg, Int.toNat_natCast, hge, if_false,
      RealU32Prec.text, hlt, if_true, and_true, hread]
  · have hge : text.length ≥ bufSz := by omega
    simp only [realU32PrecLen, snprintf, hneg, Int.toNat_natCast, hge, if_true, if_false,
      RealU32Prec.text, hlt, read_zero, and_true]

/-- A division by zero is made exactly when the division by `prec` is exact. -/
theorem realU32Prec_eq_none_iff (buf : Mem) (bufSz : ℕ) (value prec : UInt32) :
    realU32Prec buf bufSz value prec = none ↔ 1 < prec ∧ value % prec = 0 := by
  unfold realU32Prec
  by_cases hp : prec > 1
  · by_cases hr : value % prec = 0
    · simp [hp, hr]
    · simp [hp, hr]
  · by_cases h₀ : prec ≠ 0
    · simp [hp, h₀]
    · simp [hp, h₀]

/-- **What is printed** of a fraction: the remainder, and the quotient by the remainder. -/
theorem realU32Prec_text {buf : Mem} {bufSz : ℕ} {value prec : UInt32} {r : RealU32Prec}
    (hp : 1 < prec) (hr : realU32Prec buf bufSz value prec = some r) :
    value % prec ≠ 0 ∧ (r.text = [] ∨ r.text =
      numeral (value / (value % prec)).toNat ++ point :: numeral (value % prec).toNat) := by
  have hne : value % prec ≠ 0 := by
    intro h₀
    rw [(realU32Prec_eq_none_iff buf bufSz value prec).2 ⟨hp, h₀⟩] at hr
    cases hr
  refine ⟨hne, ?_⟩
  simp only [realU32Prec, gt_iff_lt, hp, if_true, hne, if_false, Option.some.injEq] at hr
  rw [← hr, (realU32PrecLen_snprintf _ _ _).1]
  split
  · exact Or.inr rfl
  · exact Or.inl rfl

/-- The quotient by the remainder is larger than the quotient. -/
theorem div_lt_div_mod {v p : ℕ} (hr : v % p ≠ 0) (hp : 0 < p) : v / p < v / (v % p) := by
  have hpos : 0 < v % p := Nat.pos_of_ne_zero hr
  have hlt : v % p < p := Nat.mod_lt v hp
  have hle : (v / p + 1) * (v % p) ≤ v := by
    calc (v / p + 1) * (v % p) = v / p * (v % p) + v % p := Nat.succ_mul _ _
      _ ≤ v / p * p + v % p := by
        exact Nat.add_le_add_right (Nat.mul_le_mul_left _ (Nat.le_of_lt hlt)) _
      _ = v := Nat.div_add_mod' v p
  exact (Nat.le_div_iff_mul_le hpos).2 hle

/-- The integer part is wrong, if the division is made at all. -/
theorem not_printsExactly_of_one_lt {buf : Mem} {bufSz : ℕ} {value prec : UInt32}
    (hp : 1 < prec) : ¬ PrintsExactly buf bufSz value prec := by
  rintro ⟨r, hr, hreads⟩
  obtain ⟨hne, htext⟩ := realU32Prec_text hp hr
  rcases htext with htext | htext
  · obtain ⟨whole, frac, -, -, heq, -⟩ := hreads
    rw [htext] at heq
    simp at heq
  · rw [htext] at hreads
    have hwhole := (hreads.value_eq (isNumeral_numeral _) (isNumeral_numeral _)).1
    rw [value_numeral, UInt32.toNat_div, UInt32.toNat_mod] at hwhole
    have hne' : value.toNat % prec.toNat ≠ 0 := by
      rw [← UInt32.toNat_mod]
      exact fun h => hne (UInt32.toNat_inj.1 h)
    have hpos : 0 < prec.toNat := by
      have := UInt32.lt_iff_toNat_lt.1 hp
      omega
    have hlt := div_lt_div_mod hne' hpos
    omega

/-- **No value is printed as the fraction that it is**, whatever power of ten it is a fraction
of. -/
theorem realU32Prec_not_printsExactly (buf : Mem) (bufSz : ℕ) (value : UInt32) {prec : UInt32}
    (hprec : ∃ k, 1 ≤ k ∧ prec.toNat = 10 ^ k) : ¬ PrintsExactly buf bufSz value prec := by
  obtain ⟨k, hk, hten⟩ := hprec
  have hle : 10 ^ 1 ≤ 10 ^ k := Nat.pow_le_pow_right (by decide) hk
  have hone : (1 : UInt32).toNat = 1 := rfl
  refine not_printsExactly_of_one_lt (UInt32.lt_iff_toNat_lt.2 ?_)
  rw [hone, hten]
  omega

/-- Twelve volts. -/
theorem realU32Prec_twelve : ¬ PrintsExactly (fun _ => 0) 16 1200 100 :=
  realU32Prec_not_printsExactly _ _ _ ⟨2, by decide, rfl⟩

/-- 12.34 volts are printed as `36.34`. -/
theorem realU32Prec_twelve_thirty_four : ¬ PrintsExactly (fun _ => 0) 16 1234 100 :=
  not_printsExactly_of_one_lt (by decide)

end Solar48
