/-
**Counters that count down and are reloaded.**

A counter goes down by one with every tick, and from zero to the value it is loaded with.  Nobody
sees the reloads: what can be seen is the count, now and then.  If it has gone up, there was a
reload; and if no more ticks have passed than the load, it has gone up exactly if there was one.

Main definitions:

* `DownCounter.Counter` — a load, and a count up to it;
* `DownCounter.Counter.after`, `DownCounter.Counter.reloads` — the counter after some ticks, and
  how often it was reloaded in the meantime.

Main results:

* `DownCounter.Counter.after_val_add` — ticks and reloads account for the count;
* `DownCounter.Counter.reloads_pos_of_lt` — **a count that has gone up was reloaded**;
* `DownCounter.Counter.reloads_eq_one_of_lt`, `DownCounter.Counter.reloads_eq_zero_of_le` — **seen
  often enough, the count tells whether it was reloaded**;
* `DownCounter.Counter.after_load_succ_val` — seen once a round it tells nothing.
-/

import Mathlib.Data.Nat.Notation
import Mathlib.Tactic.Common

set_option relaxedAutoImplicit false
set_option autoImplicit false

namespace DownCounter

/-- A counter: what it is loaded with, and where it is. -/
structure Counter where
  load : ℕ
  val : ℕ
  val_le : val ≤ load

namespace Counter

/-- One tick. -/
def tick (c : Counter) : Counter :=
  if c.val = 0 then { c with val := c.load, val_le := Nat.le_refl _ }
  else { c with val := c.val - 1, val_le := Nat.le_trans (Nat.sub_le _ _) c.val_le }

/-- The counter after `n` ticks. -/
def after (c : Counter) : ℕ → Counter
  | 0 => c
  | n + 1 => (c.after n).tick

/-- The number of reloads in the next `n` ticks. -/
def reloads (c : Counter) : ℕ → ℕ
  | 0 => 0
  | n + 1 => c.reloads n + if (c.after n).val = 0 then 1 else 0

@[simp] theorem after_zero (c : Counter) : c.after 0 = c := rfl

@[simp] theorem reloads_zero (c : Counter) : c.reloads 0 = 0 := rfl

theorem val_tick (c : Counter) : c.tick.val = if c.val = 0 then c.load else c.val - 1 := by
  unfold tick
  split <;> rfl

@[simp] theorem load_tick (c : Counter) : c.tick.load = c.load := by
  unfold tick
  split <;> rfl

@[simp] theorem load_after (c : Counter) (n : ℕ) : (c.after n).load = c.load := by
  induction n with
  | zero => rfl
  | succ n ih => rw [after, load_tick, ih]

theorem after_add (c : Counter) (m n : ℕ) : c.after (m + n) = (c.after m).after n := by
  induction n with
  | zero => rfl
  | succ n ih => rw [← Nat.add_assoc, after, after, ih]

/-- Reloads add up. -/
theorem reloads_add (c : Counter) (m n : ℕ) :
    c.reloads (m + n) = c.reloads m + (c.after m).reloads n := by
  induction n with
  | zero => rfl
  | succ n ih => rw [← Nat.add_assoc, reloads, reloads, ih, after_add, Nat.add_assoc]

/-- **Ticks and reloads account for the count**: a tick takes one off, and a reload puts the load
and the one that it takes back on. -/
theorem after_val_add (c : Counter) (n : ℕ) :
    (c.after n).val + n = c.val + (c.load + 1) * c.reloads n := by
  induction n with
  | zero => simp
  | succ n ih =>
      rw [after, reloads, val_tick, load_after]
      split
      · rename_i h
        rw [h] at ih
        rw [Nat.mul_add, ← Nat.add_assoc c.val, ← ih]
        omega
      · rename_i h
        rw [Nat.add_zero (c.reloads n), ← ih]
        omega

variable {c : Counter} {n : ℕ}

/-- **A count that has gone up was reloaded.** -/
theorem reloads_pos_of_lt (h : c.val < (c.after n).val) : 0 < c.reloads n := by
  have hsum := c.after_val_add n
  rcases Nat.eq_zero_or_pos (c.reloads n) with h₀ | hpos
  · rw [h₀] at hsum
    omega
  · exact hpos

/-- Within one round there is at most one reload. -/
theorem reloads_le_one (h : n ≤ c.load) : c.reloads n ≤ 1 := by
  have hsum := c.after_val_add n
  have hle := (c.after n).val_le
  rw [load_after] at hle
  by_contra hgt
  have htwo : (c.load + 1) * 2 ≤ (c.load + 1) * c.reloads n :=
    Nat.mul_le_mul_left _ (by omega)
  omega

/-- Within one round, a count that has gone up was reloaded once. -/
theorem reloads_eq_one_of_lt (h : n ≤ c.load) (hlt : c.val < (c.after n).val) :
    c.reloads n = 1 := by
  have := reloads_le_one h
  have := reloads_pos_of_lt hlt
  omega

/-- Within one round, a count that has not gone up was not reloaded. -/
theorem reloads_eq_zero_of_le (h : n ≤ c.load) (hle : (c.after n).val ≤ c.val) :
    c.reloads n = 0 := by
  have hsum := c.after_val_add n
  have hone := reloads_le_one h
  rcases Nat.eq_zero_or_pos (c.reloads n) with h₀ | hpos
  · exact h₀
  · have hr : c.reloads n = 1 := by omega
    rw [hr] at hsum
    omega

/-- A whole round has one reload. -/
theorem reloads_load_succ (c : Counter) : c.reloads (c.load + 1) = 1 := by
  have hsum := c.after_val_add (c.load + 1)
  have hle := (c.after (c.load + 1)).val_le
  have hval := c.val_le
  rw [load_after] at hle
  rcases Nat.lt_trichotomy (c.reloads (c.load + 1)) 1 with hlt | heq | hgt
  · have h₀ : c.reloads (c.load + 1) = 0 := by omega
    rw [h₀] at hsum
    omega
  · exact heq
  · have htwo : (c.load + 1) * 2 ≤ (c.load + 1) * c.reloads (c.load + 1) :=
      Nat.mul_le_mul_left _ hgt
    omega

/-- **After a whole round the count is the same**, though there was a reload. -/
theorem after_load_succ_val (c : Counter) : (c.after (c.load + 1)).val = c.val := by
  have hsum := c.after_val_add (c.load + 1)
  rw [reloads_load_succ] at hsum
  omega

end Counter

end DownCounter
