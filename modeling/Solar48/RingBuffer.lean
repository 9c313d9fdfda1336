/-
**Ring buffers.**

A ring of `size` slots holds a window of a sequence that only grows: the element of index `i`
lies in slot `i % size`.  The sequence is the list of all elements ever stored, and the window
begins at the first one not yet taken out.

A device that stores what it gets at a pointer, which goes on and begins again behind the last slot,
fills its slots in the same way, from wherever the pointer is.

Main definitions:

* `RingBuffer.Holds` — the slots hold the elements from an index on;
* `RingBuffer.storeFrom` — elements stored one after the other from a pointer on.

Main results:

* `RingBuffer.Holds.push` — storing into the slot after the window adds an element;
* `RingBuffer.Holds.write_head`, `RingBuffer.Holds.write_tail` — the slots outside the window may
  be written;
* `RingBuffer.storeFrom_append`, `RingBuffer.storeFrom_apply` — what is stored in two parts, and
  where it lies.
-/

import Mathlib.Data.List.Basic
import Mathlib.Data.Nat.ModEq
import Mathlib.Logic.Function.Basic

set_option relaxedAutoImplicit false
set_option autoImplicit false

namespace RingBuffer

variable {α : Type*}

/-- The slots hold the elements of `xs` from index `lo` on. -/
def Holds (slots : ℕ → α) (size : ℕ) (xs : List α) (lo : ℕ) : Prop :=
  ∀ i (h : i < xs.length), lo ≤ i → slots (i % size) = xs[i]

variable {slots : ℕ → α} {size : ℕ} {xs : List α} {lo : ℕ}

theorem holds_nil (slots : ℕ → α) (size lo : ℕ) : Holds slots size [] lo := nofun

/-- Indices less than a turn apart have slots of their own. -/
theorem mod_ne_mod {i j : ℕ} (h₁ : i < j) (h₂ : j < i + size) : i % size ≠ j % size := by
  intro heq
  obtain ⟨k, hk⟩ := (Nat.modEq_iff_dvd' h₁.le).1 heq
  rcases Nat.eq_zero_or_pos k with rfl | hpos
  · omega
  · have := Nat.le_mul_of_pos_right size hpos
    omega

/-- Taking an element out leaves the others. -/
theorem Holds.mono (h : Holds slots size xs lo) {lo' : ℕ} (hle : lo ≤ lo') :
    Holds slots size xs lo' := fun i hi hlo => h i hi (hle.trans hlo)

theorem Holds.get (h : Holds slots size xs lo) (hlo : lo < xs.length) :
    slots (lo % size) = xs[lo] := h lo hlo le_rfl

/-- The slot after the window is free. -/
theorem Holds.write_head (h : Holds slots size xs lo) (hroom : xs.length < lo + size) (x : α) :
    Holds (Function.update slots (xs.length % size) x) size xs lo := by
  intro i hi hlo
  rw [Function.update_of_ne (mod_ne_mod hi (by omega))]
  exact h i hi hlo

/-- The slot before the window is free. -/
theorem Holds.write_tail (h : Holds slots size xs (lo + 1)) (hroom : xs.length ≤ lo + size)
    (x : α) : Holds (Function.update slots (lo % size) x) size xs (lo + 1) := by
  intro i hi hlo
  rw [Function.update_of_ne (mod_ne_mod hlo (by omega)).symm]
  exact h i hi hlo

/-- **An element stored in the slot after the window joins it.** -/
theorem Holds.push (h : Holds slots size xs lo) {x : α} (hx : slots (xs.length % size) = x) :
    Holds slots size (xs ++ [x]) lo := by
  intro i hi hlo
  rcases Nat.lt_or_ge i xs.length with hlt | hge
  · rw [List.getElem_append_left hlt]
    exact h i hlt hlo
  · obtain rfl : i = xs.length := by
      rw [List.length_append, List.length_singleton] at hi
      omega
    rw [hx, List.getElem_concat_length rfl]

/-! ### A pointer that goes round -/

/-- Storing the elements one after the other from the slot `p` on. -/
def storeFrom (size : ℕ) (slots : ℕ → α) (p : ℕ) : List α → ℕ → α
  | [] => slots
  | x :: xs => storeFrom size (Function.update slots p x) ((p + 1) % size) xs

@[simp] theorem storeFrom_nil (size : ℕ) (slots : ℕ → α) (p : ℕ) :
    storeFrom size slots p [] = slots := rfl

theorem storeFrom_cons (size : ℕ) (slots : ℕ → α) (p : ℕ) (x : α) (xs : List α) :
    storeFrom size slots p (x :: xs) =
      storeFrom size (Function.update slots p x) ((p + 1) % size) xs := rfl

variable {p k : ℕ}

/-- Elements that are stored in two parts. -/
theorem storeFrom_append (hp : p < size) (slots : ℕ → α) (xs ys : List α) :
    storeFrom size slots p (xs ++ ys) =
      storeFrom size (storeFrom size slots p xs) ((p + xs.length) % size) ys := by
  induction xs generalizing slots p with
  | nil => rw [List.nil_append, storeFrom_nil, List.length_nil, Nat.add_zero, Nat.mod_eq_of_lt hp]
  | cons x xs ih =>
      have hnext : (p + 1) % size < size := Nat.mod_lt _ (Nat.zero_lt_of_lt hp)
      rw [List.cons_append, storeFrom_cons, ih hnext, storeFrom_cons, Nat.mod_add_mod,
        List.length_cons, Nat.add_right_comm, Nat.add_assoc]

/-- **Elements of no more than a turn lie one behind the other**, and the other slots are as they
were. -/
theorem storeFrom_apply (hp : p < size) (hk : k < size) (slots : ℕ → α) {xs : List α}
    (hxs : xs.length ≤ size) : storeFrom size slots p xs ((p + k) % size) =
      xs.getD k (slots ((p + k) % size)) := by
  induction xs generalizing slots p k with
  | nil => rfl
  | cons x xs ih =>
      have hnext : (p + 1) % size < size := Nat.mod_lt _ (Nat.zero_lt_of_lt hp)
      have hlen : xs.length ≤ size - 1 := Nat.le_sub_one_of_lt hxs
      rw [storeFrom_cons]
      cases k with
      | zero =>
          -- the last slot of the turn that begins behind this one
          have hlast : ((p + 1) % size + (size - 1)) % size = p := by
            rw [Nat.mod_add_mod, Nat.add_assoc, Nat.add_sub_cancel' (Nat.one_le_of_lt hp),
              Nat.add_mod_right, Nat.mod_eq_of_lt hp]
          have hrest := ih hnext (k := size - 1) (by omega) (Function.update slots p x) (by omega)
          rw [hlast, List.getD_eq_getElem?_getD, List.getElem?_eq_none hlen, Option.getD_none,
            Function.update_self] at hrest
          rw [Nat.add_zero p, Nat.mod_eq_of_lt hp, hrest, List.getD_cons_zero]
      | succ k =>
          have hplace : (p + (k + 1)) % size = ((p + 1) % size + k) % size := by
            rw [Nat.mod_add_mod, Nat.add_assoc, Nat.add_comm 1 k]
          have hne := mod_ne_mod (i := p) (j := p + (k + 1)) (by omega) (Nat.add_lt_add_left hk p)
          rw [Nat.mod_eq_of_lt hp] at hne
          have hsame := Function.update_of_ne hne.symm x slots
          rw [List.getD_cons_succ, ← hsame, hplace]
          exact ih hnext (by omega) _ (by omega)

end RingBuffer
