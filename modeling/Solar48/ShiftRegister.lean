/-
**Feedback shift registers and the bursts they detect.**

A register of `w` bits takes in a string of bits, one at a time, at its low end; when the bit that
falls out is set, a fixed word is added to what is left.  Addition is exclusive or, so the register
is linear, and if the top bit of that word is set a step loses nothing.  From these two facts it
follows that the register tells apart any two strings that differ within `w` consecutive bits.

Main definitions:

* `ShiftRegister.shift` — one step without input;
* `ShiftRegister.residue` — what a string of bits leaves in the register;
* `ShiftRegister.word` — the register whose low bits are a string.

Main results:

* `ShiftRegister.residue_xor` — the residue is linear;
* `ShiftRegister.residue_eq_iterate` — a string that fits into the register may be added to it at
  once;
* `ShiftRegister.residue_ne_zero_of_burst` — **a burst of at most `w` bits leaves a residue**;
* `ShiftRegister.residue_ne_residue` — so two strings that differ by a burst leave different ones.
-/

import Mathlib.Data.List.GetD
import Mathlib.Logic.Function.Iterate

set_option relaxedAutoImplicit false
set_option autoImplicit false

namespace ShiftRegister

variable {w : ℕ}

/-! ### One step -/

/-- The register moves down by one bit; a bit that falls out brings the word `poly` in. -/
def shift (poly c : BitVec w) : BitVec w :=
  if c.getLsbD 0 then (c >>> 1) ^^^ poly else c >>> 1

/-- The register that holds one bit. -/
def bit (b : Bool) : BitVec w := (BitVec.ofBool b).setWidth w

/-- One step with an input bit. -/
def feed (poly c : BitVec w) (b : Bool) : BitVec w := shift poly (c ^^^ bit b)

/-- What a string of bits leaves in the register, the first bit first. -/
def residue (poly c : BitVec w) (bs : List Bool) : BitVec w := bs.foldl (feed poly) c

/-- The register whose low bits are a string, the first bit lowest. -/
def word : List Bool → BitVec w
  | [] => 0#w
  | b :: bs => (word bs <<< 1) ^^^ bit b

variable (poly : BitVec w)

@[simp] theorem residue_nil (c : BitVec w) : residue poly c [] = c := rfl

theorem residue_cons (c : BitVec w) (b : Bool) (bs : List Bool) :
    residue poly c (b :: bs) = residue poly (feed poly c b) bs := rfl

theorem residue_append (c : BitVec w) (bs cs : List Bool) :
    residue poly c (bs ++ cs) = residue poly (residue poly c bs) cs := List.foldl_append

@[simp] theorem bit_false : (bit false : BitVec w) = 0#w := by simp [bit]

theorem getLsbD_bit (b : Bool) (i : ℕ) (hi : i < w) :
    (bit b : BitVec w).getLsbD i = (decide (i = 0) && b) := by
  cases b with
  | false => simp
  | true => simp [bit, hi, BitVec.getLsbD_one]

theorem bit_xor (a b : Bool) : (bit (a ^^ b) : BitVec w) = bit a ^^^ bit b := by
  apply BitVec.eq_of_getLsbD_eq
  intro i hi
  rw [BitVec.getLsbD_xor, getLsbD_bit _ i hi, getLsbD_bit _ i hi, getLsbD_bit _ i hi]
  cases decide (i = 0) <;> simp

/-! ### Linearity -/

@[simp] theorem shift_zero : shift poly 0#w = 0#w := by simp [shift]

theorem shift_xor (c d : BitVec w) : shift poly (c ^^^ d) = shift poly c ^^^ shift poly d := by
  unfold shift
  rw [BitVec.getLsbD_xor, BitVec.ushiftRight_xor_distrib]
  cases c.getLsbD 0 <;> cases d.getLsbD 0 <;> simp only [Bool.xor_false, Bool.xor_true,
    Bool.not_true, Bool.not_false, Bool.false_eq_true, if_true, if_false]
  · rw [BitVec.xor_assoc]
  · rw [BitVec.xor_assoc, BitVec.xor_assoc, BitVec.xor_comm poly]
  · rw [BitVec.xor_assoc (c >>> 1), BitVec.xor_comm (d >>> 1) poly, ← BitVec.xor_assoc poly,
      BitVec.xor_self, BitVec.zero_xor]

theorem iterate_shift_xor (n : ℕ) (c d : BitVec w) :
    (shift poly)^[n] (c ^^^ d) = (shift poly)^[n] c ^^^ (shift poly)^[n] d := by
  induction n generalizing c d with
  | zero => rfl
  | succ n ih => rw [Function.iterate_succ_apply, shift_xor, ih]; rfl

theorem feed_xor (c d : BitVec w) (a b : Bool) :
    feed poly (c ^^^ d) (a ^^ b) = feed poly c a ^^^ feed poly d b := by
  rw [feed, feed, feed, ← shift_xor, bit_xor]
  congr 1
  rw [BitVec.xor_assoc, BitVec.xor_assoc, ← BitVec.xor_assoc d, BitVec.xor_comm d,
    BitVec.xor_assoc (bit a)]

/-- **The residue is linear.** -/
theorem residue_xor (c d : BitVec w) (xs ys : List Bool) (h : xs.length = ys.length) :
    residue poly (c ^^^ d) (List.zipWith xor xs ys) = residue poly c xs ^^^ residue poly d ys := by
  induction xs generalizing c d ys with
  | nil =>
      obtain rfl : ys = [] := List.length_eq_zero_iff.1 h.symm
      rfl
  | cons x xs ih =>
      cases ys with
      | nil => cases h
      | cons y ys =>
          rw [List.zipWith_cons_cons, residue_cons, residue_cons, residue_cons, feed_xor]
          exact ih _ _ ys (Nat.succ.inj h)

/-- Zeros only move the register on. -/
theorem residue_replicate_false (c : BitVec w) (n : ℕ) :
    residue poly c (List.replicate n false) = (shift poly)^[n] c := by
  induction n generalizing c with
  | zero => rfl
  | succ n ih =>
      rw [List.replicate_succ, residue_cons, ih, Function.iterate_succ_apply, feed, bit_false,
        BitVec.xor_zero]

theorem residue_zero_replicate_false (n : ℕ) :
    residue poly 0#w (List.replicate n false) = 0#w := by
  rw [residue_replicate_false]
  exact Function.iterate_fixed (shift_zero poly) n

/-! ### A string as a word -/

theorem getLsbD_word (bs : List Bool) (i : ℕ) (hi : i < w) :
    (word bs : BitVec w).getLsbD i = bs.getD i false := by
  induction bs generalizing i with
  | nil => simp [word]
  | cons b bs ih =>
      rw [word, BitVec.getLsbD_xor, getLsbD_bit _ i hi, BitVec.getLsbD_shiftLeft]
      cases i with
      | zero => simp
      | succ i => simp [ih i (by omega), hi]

/-- A string that fits is lost only if it has no bit set. -/
theorem word_ne_zero {bs : List Bool} (hlen : bs.length ≤ w) (h : true ∈ bs) :
    (word bs : BitVec w) ≠ 0#w := by
  obtain ⟨i, hi, hget⟩ := List.getElem_of_mem h
  intro h0
  have hbit := getLsbD_word bs i (Nat.lt_of_lt_of_le hi hlen)
  rw [h0, List.getD_eq_getElem _ _ hi, hget] at hbit
  simp at hbit

/-- A word whose top bit is clear can be moved up and down again. -/
theorem shift_shiftLeft {c : BitVec w} (h : c.getLsbD (w - 1) = false) :
    shift poly (c <<< 1) = c := by
  have hlow : (c <<< 1).getLsbD 0 = false := by simp
  rw [shift, hlow, if_neg Bool.false_ne_true]
  apply BitVec.eq_of_getLsbD_eq
  intro i hi
  rw [BitVec.getLsbD_ushiftRight, BitVec.getLsbD_shiftLeft]
  rcases Nat.lt_or_ge (1 + i) w with hlt | hge
  · simp [hlt]
  · obtain rfl : i = w - 1 := by omega
    rw [h]
    simp only [decide_eq_false (Nat.not_lt.2 hge), Bool.false_and]

/-- A word that was moved up moves down again as long as no set bit was lost. -/
theorem iterate_shift_shiftLeft {c : BitVec w} (n : ℕ)
    (h : ∀ i, w - n ≤ i → c.getLsbD i = false) : (shift poly)^[n] (c <<< n) = c := by
  induction n with
  | zero => simp
  | succ n ih =>
      have htop : (c <<< n).getLsbD (w - 1) = false := by
        rw [BitVec.getLsbD_shiftLeft, h (w - 1 - n) (by omega), Bool.and_false]
      rw [Function.iterate_succ_apply, BitVec.shiftLeft_add, shift_shiftLeft poly htop]
      exact ih fun i hi => h i (by omega)

/-- **A string that fits into the register may be added to it at once.** -/
theorem residue_eq_iterate (c : BitVec w) (bs : List Bool) (hlen : bs.length ≤ w) :
    residue poly c bs = (shift poly)^[bs.length] (c ^^^ word bs) := by
  induction bs generalizing c with
  | nil => simp [word]
  | cons b bs ih =>
      rw [List.length_cons] at hlen
      have htop : (word bs : BitVec w).getLsbD (w - 1) = false := by
        rw [getLsbD_word _ _ (by omega), List.getD_eq_default _ _ (by omega)]
      have hword : feed poly c b ^^^ word bs = shift poly (c ^^^ word (b :: bs)) := by
        rw [feed, word, ← shift_shiftLeft poly htop, ← shift_xor, shift_shiftLeft poly htop,
          BitVec.xor_assoc, BitVec.xor_comm (bit b)]
      rw [residue_cons, ih _ (by omega), hword, List.length_cons, Function.iterate_succ_apply]

/-! ### Bursts -/

variable {poly}

/-- A step loses nothing if the word brought in marks the top bit. -/
theorem shift_injective (hpoly : poly.getLsbD (w - 1) = true) :
    Function.Injective (shift poly) := by
  intro c d h
  -- by linearity it is enough that nothing but zero goes to zero
  have hzero : ∀ e : BitVec w, shift poly e = 0#w → e = 0#w := by
    intro e he
    have hw : 0 < w := by
      rcases Nat.eq_zero_or_pos w with rfl | hpos
      · simp at hpoly
      · exact hpos
    unfold shift at he
    cases hlow : e.getLsbD 0 with
    | true =>
        rw [hlow, if_pos rfl] at he
        have htop := congrArg (fun x => BitVec.getLsbD x (w - 1)) he
        have hout : ¬ 1 + (w - 1) < w := by omega
        simp only [BitVec.getLsbD_xor, BitVec.getLsbD_ushiftRight, hpoly,
          BitVec.getLsbD_of_ge e (1 + (w - 1)) (by omega)] at htop
        simp at htop
    | false =>
        rw [hlow, if_neg Bool.false_ne_true] at he
        apply BitVec.eq_of_getLsbD_eq
        intro i hi
        cases i with
        | zero => simpa using hlow
        | succ i =>
            have hbit := congrArg (fun x => BitVec.getLsbD x i) he
            simpa [BitVec.getLsbD_ushiftRight, Nat.add_comm] using hbit
  have hcd := hzero (c ^^^ d) (by rw [shift_xor, h, BitVec.xor_self])
  exact BitVec.xor_eq_zero_iff.1 hcd

theorem iterate_shift_eq_zero_iff (hpoly : poly.getLsbD (w - 1) = true) (n : ℕ) (c : BitVec w) :
    (shift poly)^[n] c = 0#w ↔ c = 0#w := by
  have hfix : (shift poly)^[n] 0#w = 0#w := Function.iterate_fixed (shift_zero poly) n
  constructor
  · intro h
    exact (shift_injective hpoly).iterate n (h.trans hfix.symm)
  · rintro rfl
    exact hfix

/-- A string that fits into the register leaves no residue exactly if it is what was there. -/
theorem residue_eq_zero_iff (hpoly : poly.getLsbD (w - 1) = true) (c : BitVec w)
    {bs : List Bool} (hlen : bs.length ≤ w) : residue poly c bs = 0#w ↔ c = word bs := by
  rw [residue_eq_iterate poly c bs hlen, iterate_shift_eq_zero_iff hpoly, BitVec.xor_eq_zero_iff]

/-- A string without a set bit is a string of zeros. -/
theorem eq_replicate_false {bs : List Bool} (h : ∀ i, bs.getD i false = false) :
    bs = List.replicate bs.length false := by
  refine List.eq_replicate_of_mem fun b hb => ?_
  obtain ⟨i, hi, rfl⟩ := List.getElem_of_mem hb
  rw [← List.getD_eq_getElem _ false hi, h i]

/-- **A burst leaves a residue**: a string with a set bit, all of whose set bits lie within `w`
consecutive places. -/
theorem residue_ne_zero_of_burst (hpoly : poly.getLsbD (w - 1) = true) {bs : List Bool}
    {start : ℕ} (hburst : ∀ i, bs.getD i false = true → start ≤ i ∧ i < start + w)
    (hne : true ∈ bs) : residue poly 0#w bs ≠ 0#w := by
  have hbefore : ∀ i, (bs.take start).getD i false = false := by
    intro i
    by_contra hset
    rw [Bool.not_eq_false, List.getD_eq_getElem?_getD, List.getElem?_take] at hset
    split at hset
    · rename_i hi
      rw [← List.getD_eq_getElem?_getD] at hset
      exact absurd (hburst i hset).1 (by omega)
    · simp at hset
  have hafter : ∀ i, ((bs.drop start).drop w).getD i false = false := by
    intro i
    by_contra hset
    rw [Bool.not_eq_false, List.drop_drop, List.getD_eq_getElem?_getD, List.getElem?_drop,
      ← List.getD_eq_getElem?_getD] at hset
    have := (hburst _ hset).2
    omega
  -- the string is zeros, the burst, and zeros
  have hsplit : bs = List.replicate (bs.take start).length false ++
      ((bs.drop start).take w ++
        List.replicate ((bs.drop start).drop w).length false) := by
    rw [← eq_replicate_false hbefore, ← eq_replicate_false hafter, List.take_append_drop,
      List.take_append_drop]
  have hlen : ((bs.drop start).take w).length ≤ w := List.length_take_le _ _
  have hmem : true ∈ (bs.drop start).take w := by
    rw [hsplit] at hne
    simpa [List.mem_replicate] using hne
  intro hres
  rw [hsplit, residue_append, residue_append, residue_zero_replicate_false,
    residue_replicate_false, iterate_shift_eq_zero_iff hpoly,
    residue_eq_zero_iff hpoly _ hlen] at hres
  exact word_ne_zero hlen hmem hres.symm

/-- Where the sum of two strings has a bit set, they differ. -/
theorem getD_zipWith_xor (xs ys : List Bool) (h : xs.length = ys.length) (i : ℕ) :
    (List.zipWith xor xs ys).getD i false = xor (xs.getD i false) (ys.getD i false) := by
  rcases Nat.lt_or_ge i xs.length with hi | hi
  · rw [List.getD_eq_getElem _ _ (by simpa [← h] using hi), List.getD_eq_getElem _ _ hi,
      List.getD_eq_getElem _ _ (h ▸ hi), List.getElem_zipWith]
  · rw [List.getD_eq_default _ _ (by simp [← h, hi]), List.getD_eq_default _ _ hi,
      List.getD_eq_default _ _ (h ▸ hi), Bool.xor_false]

/-- **Two strings that differ, and differ within `w` consecutive places only, are told apart.** -/
theorem residue_ne_residue (hpoly : poly.getLsbD (w - 1) = true) (c : BitVec w)
    {xs ys : List Bool} (hlen : xs.length = ys.length) {start : ℕ}
    (hburst : ∀ i, xs.getD i false ≠ ys.getD i false → start ≤ i ∧ i < start + w)
    (hne : xs ≠ ys) : residue poly c xs ≠ residue poly c ys := by
  have hwithin : ∀ i, (List.zipWith xor xs ys).getD i false = true → start ≤ i ∧ i < start + w := by
    intro i hi
    rw [getD_zipWith_xor xs ys hlen] at hi
    exact hburst i (by simpa using hi)
  have hset : true ∈ List.zipWith xor xs ys := by
    by_contra hno
    refine hne (List.ext_getElem hlen fun i hi hi' => ?_)
    have hz : i < (List.zipWith xor xs ys).length := by
      rw [List.length_zipWith]
      exact Nat.lt_min.2 ⟨hi, hi'⟩
    have hfalse : (List.zipWith xor xs ys)[i] ≠ true := by
      intro htrue
      have hmem := List.getElem_mem hz
      rw [htrue] at hmem
      exact hno hmem
    simpa using hfalse
  have hxor := residue_xor poly c c xs ys hlen
  rw [BitVec.xor_self] at hxor
  intro heq
  rw [heq, BitVec.xor_self] at hxor
  exact residue_ne_zero_of_burst hpoly hwithin hset hxor

end ShiftRegister
