/-
**Copying a record out of a block.**

A program that takes a record out of a block of bytes copies one field after the other from where
a cursor stands, and then advances the cursor, by the size of the field or by more where bytes are
to be left out.  Such a program is a list of copies.  It reads the ranges of the block that
`CursorCopy.ranges` lists and nothing else (`CursorCopy.run_congr`).

A block of half-words is read by half-words, or by words of two of them.

Main definitions:

* `CursorCopy.Copy`, `CursorCopy.run` — a copy, and a list of them;
* `CursorCopy.ranges` — what they read;
* `CursorCopy.halfWords` — a block of half-words, as bytes.

Main results:

* `CursorCopy.run_congr` — **only the ranges matter**;
* `CursorCopy.read16_write_halfWords` — the half-words of a block.
-/

import Solar48.ByteMem
import Mathlib.Data.List.OfFn

set_option relaxedAutoImplicit false
set_option autoImplicit false

namespace CursorCopy

open ByteMem

variable {ρ : Type*}

/-! ### Copies -/

/-- A copy of `size` bytes, and the advance of the cursor behind it. -/
structure Copy (ρ : Type*) where
  size : ℕ
  advance : ℕ
  /-- what becomes of the record, by the bytes copied -/
  store : List UInt8 → ρ → ρ

/-- The copy of a half-word, to the end of it. -/
def half (set : UInt16 → ρ → ρ) : Copy ρ where
  size := 2
  advance := 2
  store bytes := set (le16 (bytes.getD 0 0) (bytes.getD 1 0))

/-- The copy of a word. -/
def word (set : UInt32 → ρ → ρ) : Copy ρ where
  size := 4
  advance := 4
  store bytes :=
    set (le32 (bytes.getD 0 0) (bytes.getD 1 0) (bytes.getD 2 0) (bytes.getD 3 0))

/-- The copies one after the other, from a cursor at offset `p` on. -/
def run (m : Mem) (p : ℕ) : List (Copy ρ) → ρ → ρ
  | [], r => r
  | c :: cs, r => run m (p + c.advance) cs (c.store (read m p c.size) r)

/-- The ranges of the block that are read: an offset and a size each. -/
def ranges (p : ℕ) : List (Copy ρ) → List (ℕ × ℕ)
  | [] => []
  | c :: cs => (p, c.size) :: ranges (p + c.advance) cs

/-- **Nothing else is read.** -/
theorem run_congr {m m' : Mem} {p : ℕ} {cs : List (Copy ρ)} (r : ρ)
    (h : ∀ x ∈ ranges p cs, read m x.1 x.2 = read m' x.1 x.2) :
    run m p cs r = run m' p cs r := by
  induction cs generalizing p r with
  | nil => rfl
  | cons c cs ih =>
      have hc : read m p c.size = read m' p c.size := h (p, c.size) List.mem_cons_self
      rw [run, run, hc]
      exact ih _ fun x hx => h x (List.mem_cons_of_mem _ hx)

/-! ### Half-words -/

/-- The bytes of a block of half-words. -/
def halfWords {n : ℕ} (R : Fin n → UInt16) : List UInt8 := (List.ofFn R).flatMap bytes16

theorem length_flatMap_bytes16 (xs : List UInt16) :
    (xs.flatMap bytes16).length = 2 * xs.length := by
  induction xs with
  | nil => rfl
  | cons x xs ih =>
      rw [List.flatMap_cons, List.length_append, length_bytes16, ih, List.length_cons]
      omega

@[simp] theorem length_halfWords {n : ℕ} (R : Fin n → UInt16) : (halfWords R).length = 2 * n := by
  rw [halfWords, length_flatMap_bytes16, List.length_ofFn]

theorem read16_write_flatMap (m : Mem) (p : ℕ) {xs : List UInt16} {i : ℕ} (h : i < xs.length) :
    read16 (write m p (xs.flatMap bytes16)) (p + 2 * i) = xs[i] := by
  induction xs generalizing m p i with
  | nil => cases h
  | cons x xs ih =>
      have hsplit : write m p ((x :: xs).flatMap bytes16) =
          write (write m p (bytes16 x)) (p + 2) (xs.flatMap bytes16) := by
        rw [List.flatMap_cons, write_write_of_eq m p (p + 2) _ _ rfl]
      rw [hsplit]
      cases i with
      | zero =>
          have hp : p + 2 * 0 = p := rfl
          have h₀ : write m p (bytes16 x) p = lo x :=
            write_getElem m p (bytes16 x) (i := 0) (by simp)
          have h₁ : write m p (bytes16 x) (p + 1) = hi x :=
            write_getElem m p (bytes16 x) (i := 1) (by simp)
          rw [hp, read16, write_of_lt _ (p + 2) _ (by omega), write_of_lt _ (p + 2) _ (by omega),
            h₀, h₁, le16_lo_hi]
          rfl
      | succ i =>
          have hp : p + 2 * (i + 1) = p + 2 + 2 * i := by omega
          rw [hp, ih _ _ (by simpa using h)]
          rfl

/-- **A block of half-words is read by half-words.** -/
theorem read16_write_halfWords (m : Mem) {n : ℕ} (R : Fin n → UInt16) (i : Fin n) :
    read16 (write m 0 (halfWords R)) (2 * i) = R i := by
  have hi : (i : ℕ) < (List.ofFn R).length := by simp
  have h := read16_write_flatMap m 0 hi
  rw [Nat.zero_add] at h
  rw [halfWords, h]
  simp

/-- Behind the block is what was there. -/
theorem read16_write_of_length_le (m : Mem) {bs : List UInt8} {p : ℕ} (h : bs.length ≤ p) :
    read16 (write m 0 bs) p = read16 m p := by
  rw [read16, write_of_ge _ _ _ (by omega), write_of_ge _ _ _ (by omega), read16]

/-- A word of two half-words, the low one first. -/
def ofHalves (l h : UInt16) : UInt32 := UInt32.ofNat (l.toNat + 2 ^ 16 * h.toNat)

theorem toNat_ofHalves (l h : UInt16) : (ofHalves l h).toNat = l.toNat + 2 ^ 16 * h.toNat := by
  have hl := l.toNat_lt
  have hh := h.toNat_lt
  rw [ofHalves, UInt32.toNat_ofNat']
  omega

/-- A word is read as two half-words. -/
theorem read32_eq_ofHalves (m : Mem) (p : ℕ) :
    read32 m p = ofHalves (read16 m p) (read16 m (p + 2)) := by
  refine UInt32.toNat_inj.1 ?_
  have hp : p + 2 + 1 = p + 3 := rfl
  rw [toNat_ofHalves, read16, read16, toNat_le16, toNat_le16, read32, toNat_le32, hp]
  omega

/-- The half-words of a word. -/
theorem ofHalves_inj {l h l' h' : UInt16} : ofHalves l h = ofHalves l' h' ↔ l = l' ∧ h = h' := by
  constructor
  · intro heq
    have hnat := congrArg UInt32.toNat heq
    have hl := l.toNat_lt
    have hl' := l'.toNat_lt
    rw [toNat_ofHalves, toNat_ofHalves] at hnat
    exact ⟨UInt16.toNat_inj.1 (by omega), UInt16.toNat_inj.1 (by omega)⟩
  · rintro ⟨rfl, rfl⟩
    rfl

end CursorCopy
