/-
**Templates.**

A template is a text with holes in it, and a hole is a `%` and a letter.  The holes cut the
template into pieces, and what it expands to is the pieces with the arguments between them.

Main definitions:

* `Template.pieces` — what is between the holes;
* `Template.fill` — the arguments, put between the pieces.

Main results:

* `Template.length_fill` — **the length of the whole is the sum of the lengths**.
-/

import Mathlib.Data.List.Basic
import Mathlib.Tactic.Common

set_option relaxedAutoImplicit false
set_option autoImplicit false

namespace Template

/-- `'%'`. -/
def percent : UInt8 := 0x25

/-- A character in front of the first piece. -/
def consHead (c : UInt8) : List (List UInt8) → List (List UInt8)
  | [] => [[c]]
  | p :: ps => (c :: p) :: ps

/-- The pieces of a template. -/
def pieces : List UInt8 → List (List UInt8)
  | [] => [[]]
  | [c] => [[c]]
  | c :: d :: template =>
      if c = percent then [] :: pieces template else consHead c (pieces (d :: template))

/-- The arguments between the pieces. -/
def fill : List (List UInt8) → List (List UInt8) → List UInt8
  | [], _ => []
  | p :: ps, [] => p ++ fill ps []
  | p :: ps, a :: args => p ++ (a ++ fill ps args)

/-- **The length of the whole.** -/
theorem length_fill {ps args : List (List UInt8)} (h : args.length ≤ ps.length) :
    (fill ps args).length = ps.flatten.length + args.flatten.length := by
  induction ps generalizing args with
  | nil =>
      obtain rfl := List.length_eq_zero_iff.1 (Nat.le_zero.1 h)
      rfl
  | cons p ps ih =>
      cases args with
      | nil =>
          have hrest : (fill ps []).length = ps.flatten.length + [].flatten.length :=
            ih (Nat.zero_le _)
          simp only [fill, List.length_append, List.flatten_cons, hrest]
          omega
      | cons a args =>
          have hrest := ih (Nat.le_of_succ_le_succ h)
          simp only [fill, List.length_append, List.flatten_cons, hrest]
          omega

end Template
