/-
**The CRC of `crc.c` is CRC-16/MODBUS, and detects every burst of up to sixteen bits.**

The table of `crc.c` holds what eight steps of a sixteen-bit shift register make of each byte, and
so one step of the code is eight steps of the register.  A receiver that compares the CRC of a
frame's bytes with the two bytes behind them asks in effect whether the whole frame, in the order
in which the UART sends its bits, leaves the register empty.

Main definitions:

* `Solar48.crcPoly` — the polynomial of the table;
* `Solar48.lineBits` — the bits of a byte string in the order of transmission;
* `Solar48.IsBurst` — an error pattern within so many consecutive bits;
* `Solar48.crcBitwise` — CRC-16/MODBUS, bit by bit.

Main results:

* `Solar48.crc16Initial_eq_bitwise` — **the code computes CRC-16/MODBUS**;
* `Solar48.toBitVec_foldl_crcStep` — **the table-driven loop is the shift register**;
* `Solar48.frameCrc_eq_le16_iff` — a frame passes the comparison exactly if it leaves no residue;
* `Solar48.crc16_ne_of_burst` — **a burst never passes**.
-/

import Solar48.Crc
import Solar48.ShiftRegister
import Mathlib.Tactic.IntervalCases

set_option relaxedAutoImplicit false
set_option autoImplicit false

namespace Solar48

open ByteMem ShiftRegister

/-! ### The order of transmission -/

/-- The polynomial of the table. -/
def crcPoly : BitVec 16 := 0xA001#16

/-- The bits of a byte, the least significant first. -/
def byteBits (b : UInt8) : List Bool := (List.range 8).map b.toBitVec.getLsbD

/-- The bits of a byte string as the UART sends them. -/
def lineBits (bs : List UInt8) : List Bool := bs.flatMap byteBits

/-- An error pattern: some bit is wrong, and all that are lie within `n` consecutive bits. -/
def IsBurst (n : ℕ) (e : List UInt8) : Prop :=
  true ∈ lineBits e ∧
    ∃ start, ∀ i, (lineBits e).getD i false = true → start ≤ i ∧ i < start + n

@[simp] theorem length_byteBits (b : UInt8) : (byteBits b).length = 8 := by simp [byteBits]

theorem lineBits_cons (b : UInt8) (bs : List UInt8) :
    lineBits (b :: bs) = byteBits b ++ lineBits bs := List.flatMap_cons

theorem lineBits_append (xs ys : List UInt8) :
    lineBits (xs ++ ys) = lineBits xs ++ lineBits ys := List.flatMap_append

@[simp] theorem length_lineBits (bs : List UInt8) : (lineBits bs).length = 8 * bs.length := by
  induction bs with
  | nil => rfl
  | cons b bs ih =>
      rw [lineBits_cons, List.length_append, length_byteBits, ih, List.length_cons]
      omega

/-- Adding an error to a byte adds it bit by bit. -/
theorem byteBits_xor (a b : UInt8) :
    byteBits (a ^^^ b) = List.zipWith xor (byteBits a) (byteBits b) := by
  simp [byteBits, List.zipWith_map]

theorem lineBits_zipWith_xor (xs ys : List UInt8) (h : xs.length = ys.length) :
    lineBits (List.zipWith (· ^^^ ·) xs ys) = List.zipWith xor (lineBits xs) (lineBits ys) := by
  induction xs generalizing ys with
  | nil =>
      obtain rfl : ys = [] := List.length_eq_zero_iff.1 h.symm
      rfl
  | cons x xs ih =>
      cases ys with
      | nil => cases h
      | cons y ys =>
          rw [List.zipWith_cons_cons, lineBits_cons, lineBits_cons, lineBits_cons, byteBits_xor,
            ih ys (Nat.succ.inj h), List.zipWith_append (by simp)]

/-! ### One byte -/

/-- **The table**: eight steps of the register from each byte. -/
theorem crc16Table_eq (temp : UInt8) :
    (crc16Table.getD temp.toNat 0).toBitVec =
      (shift crcPoly)^[8] (temp.toBitVec.setWidth 16) := by
  have htable : ∀ i : Fin 256, (crc16Table.getD i 0).toBitVec =
      (shift crcPoly)^[8] (BitVec.ofNat 16 i) := by decide +kernel
  have htemp := htable ⟨temp.toNat, temp.toNat_lt⟩
  have hbyte : BitVec.ofNat 16 temp.toNat = temp.toBitVec.setWidth 16 := by
    apply BitVec.eq_of_toNat_eq
    simp
  rw [htemp, hbyte]

theorem word_byteBits (b : UInt8) : (word (byteBits b) : BitVec 16) = b.toBitVec.setWidth 16 := by
  apply BitVec.eq_of_getLsbD_eq
  intro i hi
  rw [getLsbD_word _ i hi, BitVec.getLsbD_setWidth]
  rcases Nat.lt_or_ge i 8 with hlt | hge
  · simp [byteBits, hi, hlt]
  · rw [List.getD_eq_default _ _ (by simpa using hge), BitVec.getLsbD_of_ge _ _ hge, Bool.and_false]

/-- A register is what is in its low byte and what is above it. -/
theorem eq_low_xor_high (x : BitVec 16) :
    x = (x.setWidth 8).setWidth 16 ^^^ ((x >>> 8) <<< 8) := by
  apply BitVec.eq_of_getLsbD_eq
  intro i hi
  simp only [BitVec.getLsbD_xor, BitVec.getLsbD_setWidth, BitVec.getLsbD_shiftLeft,
    BitVec.getLsbD_ushiftRight]
  rcases Nat.lt_or_ge i 8 with hlt | hge
  · simp [hlt, hi]
  · simp [Nat.not_lt.2 hge, hi, Nat.add_sub_cancel' hge]

/-- Eight steps without input: those of the low byte, and the rest moved down. -/
theorem iterate_shift_eight (x : BitVec 16) :
    (shift crcPoly)^[8] x = (x >>> 8) ^^^ (shift crcPoly)^[8] ((x.setWidth 8).setWidth 16) := by
  have hhigh : (shift crcPoly)^[8] ((x >>> 8) <<< 8) = x >>> 8 := by
    refine iterate_shift_shiftLeft crcPoly 8 fun i hi => ?_
    rw [BitVec.getLsbD_ushiftRight]
    exact BitVec.getLsbD_of_ge _ _ (by omega)
  conv_lhs => rw [eq_low_xor_high x]
  rw [iterate_shift_xor, hhigh, BitVec.xor_comm]

/-- **One step of the code is eight steps of the register.** -/
theorem toBitVec_crcStep (c : UInt16) (b : UInt8) :
    (crcStep c b).toBitVec = residue crcPoly c.toBitVec (byteBits b) := by
  have hlow : ((c.toBitVec ^^^ b.toBitVec.setWidth 16).setWidth 8) =
      (b ^^^ (c &&& 0xFF).toUInt8).toBitVec := by
    rw [BitVec.xor_comm]
    apply BitVec.eq_of_getLsbD_eq
    intro i hi
    interval_cases i <;> simp
  have hhigh : (c.toBitVec ^^^ b.toBitVec.setWidth 16) >>> 8 = c.toBitVec >>> 8 := by
    apply BitVec.eq_of_getLsbD_eq
    intro i hi
    simp
  rw [residue_eq_iterate _ _ _ (by simp), length_byteBits, word_byteBits, iterate_shift_eight,
    hlow, hhigh, ← crc16Table_eq]
  simp [crcStep]

/-! ### Bit by bit -/

/-- One step of CRC-16/MODBUS: the register moves down by a bit, and a one that falls out brings
the polynomial in. -/
def crcBit (crc : UInt16) : UInt16 :=
  if crc &&& 1 = 1 then (crc >>> 1) ^^^ 0xA001 else crc >>> 1

/-- CRC-16/MODBUS: each byte is added to the low byte of the register, and eight steps follow. -/
def crcBitwise (inicial : UInt16) (bs : List UInt8) : UInt16 :=
  bs.foldl (fun crc byte => crcBit^[8] (crc ^^^ byte.toUInt16)) inicial

/-- The step is that of the shift register. -/
theorem toBitVec_crcBit (c : UInt16) : (crcBit c).toBitVec = shift crcPoly c.toBitVec := by
  have hlow : c &&& 1 = 1 ↔ c.toBitVec.getLsbD 0 = true := by
    rw [← UInt16.toNat_inj, UInt16.toNat_and, UInt16.toNat_one, Nat.and_one_is_mod,
      BitVec.getLsbD, UInt16.toNat_toBitVec, Nat.testBit_zero, decide_eq_true_eq]
  unfold crcBit shift
  by_cases h : c &&& 1 = 1
  · rw [if_pos h, if_pos (hlow.1 h), UInt16.toBitVec_xor]
    rfl
  · rw [if_neg h, if_neg (mt hlow.2 h)]
    rfl

theorem toBitVec_iterate_crcBit (n : ℕ) (c : UInt16) :
    (crcBit^[n] c).toBitVec = (shift crcPoly)^[n] c.toBitVec := by
  induction n generalizing c with
  | zero => rfl
  | succ n ih => rw [Function.iterate_succ_apply, Function.iterate_succ_apply, ih, toBitVec_crcBit]

/-- **One step of the code is eight steps of the definition.** -/
theorem crcStep_eq_iterate (c : UInt16) (b : UInt8) :
    crcStep c b = crcBit^[8] (c ^^^ b.toUInt16) := by
  refine UInt16.toBitVec_inj.1 ?_
  rw [toBitVec_crcStep, residue_eq_iterate _ _ _ (by simp), length_byteBits, word_byteBits,
    toBitVec_iterate_crcBit, UInt16.toBitVec_xor]
  rfl

/-- **The table-driven CRC is CRC-16/MODBUS**, from every initial value and for every length. -/
theorem crc16Initial_eq_bitwise (inicial : UInt16) (data : Mem) (p : ℕ) (length : UInt16) :
    crc16Initial inicial data p length = crcBitwise inicial (read data p length.toNat) := by
  rw [crc16Initial, crcLoop_eq, crcBitwise]
  induction read data p length.toNat generalizing inicial with
  | nil => rfl
  | cons b bs ih => rw [List.foldl_cons, List.foldl_cons, crcStep_eq_iterate, ih]

/-! ### A frame -/

/-- **The table-driven loop is the shift register**, fed with the bits in the order of
transmission. -/
theorem toBitVec_foldl_crcStep (c : UInt16) (bs : List UInt8) :
    (bs.foldl crcStep c).toBitVec = residue crcPoly c.toBitVec (lineBits bs) := by
  induction bs generalizing c with
  | nil => rfl
  | cons b bs ih =>
      rw [List.foldl_cons, ih, toBitVec_crcStep, lineBits_cons, residue_append]

theorem toBitVec_frameCrc (bs : List UInt8) :
    (frameCrc bs).toBitVec = residue crcPoly 0xFFFF#16 (lineBits bs) :=
  toBitVec_foldl_crcStep 0xFFFF bs

/-- Two bytes in the order of transmission are the half-word that they store. -/
theorem word_lineBits_pair (l h : UInt8) :
    (word (lineBits [l, h]) : BitVec 16) = (le16 l h).toBitVec := by
  apply BitVec.eq_of_getLsbD_eq
  intro i hi
  have hstored : (le16 l h).toBitVec.getLsbD i = (2 ^ 8 * h.toNat + l.toNat).testBit i := by
    rw [BitVec.getLsbD, UInt16.toNat_toBitVec, toNat_le16, Nat.add_comm,
      show (256 : ℕ) = 2 ^ 8 from rfl]
  rw [getLsbD_word _ i hi, hstored, Nat.testBit_two_pow_mul_add _ l.toNat_lt]
  rcases Nat.lt_or_ge i 8 with hlt | hge
  · simp [lineBits, byteBits, List.getD_eq_getElem?_getD, hlt, BitVec.getLsbD,
      List.getElem?_append_left]
  · have hlt : i - 8 < 8 := by omega
    rw [if_neg (Nat.not_lt.2 hge)]
    simp [lineBits, byteBits, List.getD_eq_getElem?_getD, hge, hlt, BitVec.getLsbD,
      List.getElem?_append_right]

/-- **A frame passes the receivers' comparison exactly if it leaves no residue.** -/
theorem frameCrc_eq_le16_iff (bs : List UInt8) (l h : UInt8) :
    frameCrc bs = le16 l h ↔ residue crcPoly 0xFFFF#16 (lineBits (bs ++ [l, h])) = 0#16 := by
  rw [lineBits_append, residue_append, residue_eq_zero_iff (by decide) _ (by simp),
    word_lineBits_pair, ← toBitVec_frameCrc, UInt16.toBitVec_inj]

/-- The residue of a frame that was hit by an error is the residue of the error. -/
theorem residue_zipWith_closeFrame (m e : List UInt8) (he : e.length = m.length + 2) :
    residue crcPoly 0xFFFF#16 (lineBits (List.zipWith (· ^^^ ·) (closeFrame m) e)) =
      residue crcPoly 0#16 (lineBits e) := by
  have hlen : (closeFrame m).length = e.length := by rw [length_closeFrame, he]
  have hclosed : residue crcPoly 0xFFFF#16 (lineBits (closeFrame m)) = 0#16 := by
    refine (frameCrc_eq_le16_iff m (lo (frameCrc m)) (hi (frameCrc m))).1 ?_
    rw [le16_lo_hi]
  have hxor := residue_xor crcPoly 0xFFFF#16 0#16 (lineBits (closeFrame m)) (lineBits e)
    (by rw [length_lineBits, length_lineBits, hlen])
  rw [BitVec.xor_zero, hclosed, BitVec.zero_xor] at hxor
  rw [lineBits_zipWith_xor _ _ hlen, hxor]

/-- What is compared in a frame of `k` bytes and their CRC. -/
theorem closedAt_write_iff_residue (mem : Mem) {xs : List UInt8} {k : ℕ}
    (hk : xs.length = k + 2) :
    ClosedAt (write mem 0 xs) k ↔ residue crcPoly 0xFFFF#16 (lineBits xs) = 0#16 := by
  have hread : read (write mem 0 xs) 0 (k + 2) = xs := by rw [← hk, read_write_self]
  have hxs : xs = read (write mem 0 xs) 0 k ++
      [write mem 0 xs k, write mem 0 xs (k + 1)] := by
    conv_lhs => rw [← hread, read_add, Nat.zero_add]
    simp [read_succ]
  rw [ClosedAt, read16, eq_comm, frameCrc_eq_le16_iff, ← hxs]

/-- **A burst of at most sixteen bits never passes the comparison**, wherever in the frame it
lies. -/
theorem crc16_ne_of_burst (mem : Mem) (m e : List UInt8) (hm : m.length ≤ 65533)
    (he : e.length = m.length + 2) (hburst : IsBurst 16 e) :
    crc16 (write mem 0 (List.zipWith (· ^^^ ·) (closeFrame m) e)) 0 (UInt16.ofNat m.length) ≠
      read16 (write mem 0 (List.zipWith (· ^^^ ·) (closeFrame m) e)) m.length := by
  obtain ⟨hne, start, hwithin⟩ := hburst
  have hlen : (List.zipWith (· ^^^ ·) (closeFrame m) e).length = m.length + 2 := by simp [he]
  intro hpass
  have hclosed := (crc16_eq_read16_iff _ (by omega)).1 hpass
  rw [closedAt_write_iff_residue mem hlen, residue_zipWith_closeFrame m e he] at hclosed
  exact residue_ne_zero_of_burst (by decide) hwithin hne hclosed

/-- A burst that straddles the end of the data: the last bit of the data and the fifteen after
it. -/
theorem crc16_ne_of_burst_straddling :
    crc16 (write (fun _ => 0) 0 (List.zipWith (· ^^^ ·) (closeFrame [0x01, 0x03])
        [0x00, 0x80, 0xFF, 0x7F])) 0 2 ≠
      read16 (write (fun _ => 0) 0 (List.zipWith (· ^^^ ·) (closeFrame [0x01, 0x03])
        [0x00, 0x80, 0xFF, 0x7F])) 2 := by
  refine crc16_ne_of_burst (fun _ => 0) [0x01, 0x03] [0x00, 0x80, 0xFF, 0x7F] (by decide)
    (by decide) ⟨by decide, 15, fun i hi => ?_⟩
  have hset : ∀ j < 32, (lineBits [0x00, 0x80, 0xFF, 0x7F]).getD j false = true →
      15 ≤ j ∧ j < 31 := by decide
  rcases Nat.lt_or_ge i 32 with hlt | hge
  · exact hset i hlt hi
  · rw [List.getD_eq_default _ _ (by simpa using hge)] at hi
    cases hi

end Solar48
