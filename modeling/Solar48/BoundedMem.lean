/-
**Programs on a memory object of known size.**

A program reads and writes one object, and has no result if it does so outside of it.  That a
program returns is thus the statement that all its accesses are inside; what it returns, and what it
leaves in the object, are found along its statements.

Main definitions:

* `BoundedMem.Access` — the programs;
* `BoundedMem.load`, `BoundedMem.load8`, `BoundedMem.load16`, `BoundedMem.load32`,
  `BoundedMem.store` — the accesses;
* `BoundedMem.Returns` — a program returns.

Main results:

* `BoundedMem.Returns.bind`, `BoundedMem.Returns.ite`, `BoundedMem.Returns.words` — the rules for
  sequences, branches and loops.
-/

import Solar48.ByteMem

set_option relaxedAutoImplicit false
set_option autoImplicit false

namespace BoundedMem

open ByteMem

/-- A program on an object of `size` bytes. -/
def Access (_ : ℕ) (α : Type) : Type := StateT Mem Option α

variable {size : ℕ} {α β : Type}

instance : Monad (Access size) := inferInstanceAs (Monad (StateT Mem Option))

/-! ### Accesses -/

/-- The bytes from `p` to `p + n` are accessed. -/
def access (p n : ℕ) (f : Mem → α × Mem) : Access size α := fun m =>
  if p + n ≤ size then some (f m) else none

/-- Reading `n` bytes. -/
def load (p n : ℕ) : Access size (List UInt8) := access p n fun m => (ByteMem.read m p n, m)

/-- Reading a byte, a half-word, or a word. -/
def load8 (p : ℕ) : Access size UInt8 := access p 1 fun m => (m p, m)

def load16 (p : ℕ) : Access size UInt16 := access p 2 fun m => (read16 m p, m)

def load32 (p : ℕ) : Access size UInt32 := access p 4 fun m => (read32 m p, m)

/-- Writing bytes. -/
def store (p : ℕ) (bs : List UInt8) : Access size Unit :=
  access p bs.length fun m => ((), ByteMem.write m p bs)

/-- A loop over `n` elements of `stride` bytes, from `p` on. -/
def words (stride : ℕ) (body : ℕ → α → Access size α) (p : ℕ) : ℕ → α → Access size α
  | 0, a => pure a
  | n + 1, a => do
      let a ← body p a
      words stride body (p + stride) n a

/-! ### Returning -/

/-- From an object `m` on, the program returns `a` and leaves `m'`. -/
def Returns (x : Access size α) (m : Mem) (a : α) (m' : Mem) : Prop := x m = some (a, m')

variable {x y : Access size α} {f : α → Access size β} {m m' m'' : Mem} {a a' : α} {b : β} {p n : ℕ}

namespace Returns

theorem pure : Returns (Pure.pure a : Access size α) m a m := rfl

/-- **One statement after the other.** -/
theorem bind (hx : Returns x m a m') (hf : Returns (f a) m' b m'') : Returns (x >>= f) m b m'' := by
  show (x m).bind (fun s => f s.1 s.2) = some (b, m'')
  rw [hx, Option.bind_some]
  exact hf

/-- **A branch** on which the result depends, or what is left in the object. -/
theorem ite {c : Prop} [Decidable c] (h₁ : c → Returns x m a m') (h₂ : ¬ c → Returns y m a' m') :
    Returns (if c then x else y) m (if c then a else a') m' := by
  by_cases hc : c
  · rw [if_pos hc, if_pos hc]
    exact h₁ hc
  · rw [if_neg hc, if_neg hc]
    exact h₂ hc

theorem ite_mem {c : Prop} [Decidable c] (h₁ : c → Returns x m a m')
    (h₂ : ¬ c → Returns y m a m'') :
    Returns (if c then x else y) m a (if c then m' else m'') := by
  by_cases hc : c
  · rw [if_pos hc, if_pos hc]
    exact h₁ hc
  · rw [if_neg hc, if_neg hc]
    exact h₂ hc

theorem load (h : p + n ≤ size) :
    Returns (BoundedMem.load p n : Access size _) m (ByteMem.read m p n) m := if_pos h

theorem load8 (h : p + 1 ≤ size) :
    Returns (BoundedMem.load8 p : Access size _) m (m p) m := if_pos h

theorem load16 (h : p + 2 ≤ size) :
    Returns (BoundedMem.load16 p : Access size _) m (read16 m p) m := if_pos h

theorem load32 (h : p + 4 ≤ size) :
    Returns (BoundedMem.load32 p : Access size _) m (read32 m p) m := if_pos h

theorem store {bs : List UInt8} (h : p + bs.length ≤ size) :
    Returns (BoundedMem.store p bs : Access size _) m () (ByteMem.write m p bs) := if_pos h

/-- **A loop**, of which `g` is what the elements do and `run` what they do together. -/
theorem words {stride : ℕ} {body : ℕ → α → Access size α} (g : ℕ → α → Mem → α × Mem)
    (run : ℕ → ℕ → α → Mem → α × Mem) (h₀ : ∀ p a m, run p 0 a m = (a, m))
    (hsucc : ∀ p n a m, run p (n + 1) a m = run (p + stride) n (g p a m).1 (g p a m).2)
    (hbody : ∀ p a m, p + stride ≤ size → Returns (body p a) m (g p a m).1 (g p a m).2)
    (h : p + stride * n ≤ size) :
    Returns (BoundedMem.words stride body p n a) m (run p n a m).1 (run p n a m).2 := by
  induction n generalizing p a m with
  | zero =>
      rw [h₀]
      exact Returns.pure
  | succ n ih =>
      have hfirst : p + stride ≤ size := by
        rw [Nat.mul_succ] at h
        omega
      have hrest : p + stride + stride * n ≤ size := by
        rw [Nat.mul_succ] at h
        omega
      rw [hsucc]
      exact bind (hbody p a m hfirst) (ih hrest)

end Returns

end BoundedMem
