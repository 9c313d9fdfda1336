/-
**Hexadecimal numerals of a fixed width.**

So many digits of a number, from the top one on, with leading zeros; what they are worth is the
number modulo the power of sixteen that has one more digit.

Main definitions:

* `Hexadecimal.numeral` — how a number is written;
* `Hexadecimal.IsNumeral`, `Hexadecimal.value` — reading a numeral.

Main results:

* `Hexadecimal.value_numeral` — what is written is read back;
* `Hexadecimal.numeral_congr`, `Hexadecimal.numeral_inj` — only the number modulo the power is
  written, and that is told apart.
-/

import Mathlib.Algebra.Group.Nat.Defs
import Mathlib.Data.List.Basic

set_option relaxedAutoImplicit false
set_option autoImplicit false

namespace Hexadecimal

/-- The character of a digit. -/
def digit (d : ℕ) : UInt8 := if d < 10 then UInt8.ofNat (0x30 + d) else UInt8.ofNat (0x37 + d)

/-- The characters `'0'` to `'9'` and `'A'` to `'F'`. -/
def IsDigit (c : UInt8) : Prop := 0x30 ≤ c ∧ c ≤ 0x39 ∨ 0x41 ≤ c ∧ c ≤ 0x46

/-- What a digit is worth. -/
def digitVal (c : UInt8) : ℕ := if c ≤ 0x39 then c.toNat - 0x30 else c.toNat - 0x37

/-- The `k` lowest digits of a number, from the top one on. -/
def numeral : ℕ → ℕ → List UInt8
  | 0, _ => []
  | k + 1, n => digit (n / 16 ^ k % 16) :: numeral k n

def IsNumeral (s : List UInt8) : Prop := ∀ c ∈ s, IsDigit c

/-- What a numeral is worth. -/
def value : List UInt8 → ℕ
  | [] => 0
  | c :: s => digitVal c * 16 ^ s.length + value s

theorem toNat_digit {d : ℕ} (h : d < 16) :
    (digit d).toNat = if d < 10 then 0x30 + d else 0x37 + d := by
  unfold digit
  split
  · exact UInt8.toNat_ofNat_of_lt' (show 0x30 + d < 256 by omega)
  · exact UInt8.toNat_ofNat_of_lt' (show 0x37 + d < 256 by omega)

theorem isDigit_digit {d : ℕ} (h : d < 16) : IsDigit (digit d) := by
  have h₀ : (0x30 : UInt8).toNat = 0x30 := rfl
  have h₉ : (0x39 : UInt8).toNat = 0x39 := rfl
  have hA : (0x41 : UInt8).toNat = 0x41 := rfl
  have hF : (0x46 : UInt8).toNat = 0x46 := rfl
  simp only [IsDigit, UInt8.le_iff_toNat_le, toNat_digit h]
  split <;> omega

theorem digitVal_digit {d : ℕ} (h : d < 16) : digitVal (digit d) = d := by
  have h₉ : (0x39 : UInt8).toNat = 0x39 := rfl
  simp only [digitVal, UInt8.le_iff_toNat_le, toNat_digit h]
  split <;> split <;> omega

@[simp] theorem length_numeral (k n : ℕ) : (numeral k n).length = k := by
  induction k with
  | zero => rfl
  | succ k ih => rw [numeral, List.length_cons, ih]

theorem isNumeral_numeral (k n : ℕ) : IsNumeral (numeral k n) := by
  induction k with
  | zero => exact fun _ h => absurd h List.not_mem_nil
  | succ k ih =>
      intro c hc
      rcases List.mem_cons.1 hc with rfl | hc
      · exact isDigit_digit (Nat.mod_lt _ (by decide))
      · exact ih c hc

/-- **What is written is read back.** -/
theorem value_numeral (k n : ℕ) : value (numeral k n) = n % 16 ^ k := by
  induction k with
  | zero => rw [Nat.pow_zero, Nat.mod_one]; rfl
  | succ k ih =>
      rw [numeral, value, length_numeral, ih, digitVal_digit (Nat.mod_lt _ (by decide)),
        Nat.pow_succ, Nat.mod_mul, Nat.mul_comm, Nat.add_comm]

/-- Only so many digits are written. -/
theorem numeral_congr {k n n' : ℕ} (h : n % 16 ^ k = n' % 16 ^ k) : numeral k n = numeral k n' := by
  induction k with
  | zero => rfl
  | succ k ih =>
      have hlow : n % 16 ^ k = n' % 16 ^ k := by
        rw [← Nat.mod_mul_right_mod n (16 ^ k) 16, ← Nat.pow_succ, h, Nat.pow_succ,
          Nat.mod_mul_right_mod]
      have htop : n / 16 ^ k % 16 = n' / 16 ^ k % 16 := by
        rw [← Nat.mod_mul_right_div_self, ← Nat.pow_succ, h, Nat.pow_succ,
          Nat.mod_mul_right_div_self]
      rw [numeral, numeral, ih hlow, htop]

/-- Numbers that have room in a numeral are told apart. -/
theorem numeral_inj {k n n' : ℕ} (h : n < 16 ^ k) (h' : n' < 16 ^ k) :
    numeral k n = numeral k n' ↔ n = n' := by
  refine ⟨fun heq => ?_, fun heq => heq ▸ rfl⟩
  have hvalue := congrArg value heq
  rwa [value_numeral, value_numeral, Nat.mod_eq_of_lt h, Nat.mod_eq_of_lt h'] at hvalue

end Hexadecimal
