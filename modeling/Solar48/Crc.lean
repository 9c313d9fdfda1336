/-
**The table-driven CRC of `crc.c`.**

Every Modbus frame ends with the CRC of the bytes before it, low byte first.  The code computes
it one byte at a time from a table of 256 half-words.  What the rest of the development needs is
that the CRC of a buffer is a fold over its bytes, so that it depends on nothing else, and that a
frame is closed by exactly two bytes.

Main definitions:

* `Solar48.crc16Table`, `Solar48.crc16Initial`, `Solar48.crc16` — the code;
* `Solar48.frameCrc`, `Solar48.closeFrame` — the CRC of a byte string, and the string with it;
* `Solar48.ClosedAt` — a buffer that has the right CRC behind its first `k` bytes;
* `Solar48.Open` — a frame of which not enough has been received to tell.

Main results:

* `Solar48.crc16_eq` — **the CRC of a buffer is the CRC of the bytes read from it**;
* `Solar48.exists_closedAt_write`, `Solar48.closedAt_write_iff_of_not_open` — what the bytes behind
  a frame that was cut short can do to it.
-/

import Solar48.ByteMem

set_option relaxedAutoImplicit false
set_option autoImplicit false

namespace Solar48

open ByteMem

/-! ### The code -/

/-- `crc16_table`. -/
def crc16Table : List UInt16 := [
  0x0000, 0xC0C1, 0xC181, 0x0140, 0xC301, 0x03C0, 0x0280, 0xC241,
  0xC601, 0x06C0, 0x0780, 0xC741, 0x0500, 0xC5C1, 0xC481, 0x0440,
  0xCC01, 0x0CC0, 0x0D80, 0xCD41, 0x0F00, 0xCFC1, 0xCE81, 0x0E40,
  0x0A00, 0xCAC1, 0xCB81, 0x0B40, 0xC901, 0x09C0, 0x0880, 0xC841,
  0xD801, 0x18C0, 0x1980, 0xD941, 0x1B00, 0xDBC1, 0xDA81, 0x1A40,
  0x1E00, 0xDEC1, 0xDF81, 0x1F40, 0xDD01, 0x1DC0, 0x1C80, 0xDC41,
  0x1400, 0xD4C1, 0xD581, 0x1540, 0xD701, 0x17C0, 0x1680, 0xD641,
  0xD201, 0x12C0, 0x1380, 0xD341, 0x1100, 0xD1C1, 0xD081, 0x1040,
  0xF001, 0x30C0, 0x3180, 0xF141, 0x3300, 0xF3C1, 0xF281, 0x3240,
  0x3600, 0xF6C1, 0xF781, 0x3740, 0xF501, 0x35C0, 0x3480, 0xF441,
  0x3C00, 0xFCC1, 0xFD81, 0x3D40, 0xFF01, 0x3FC0, 0x3E80, 0xFE41,
  0xFA01, 0x3AC0, 0x3B80, 0xFB41, 0x3900, 0xF9C1, 0xF881, 0x3840,
  0x2800, 0xE8C1, 0xE981, 0x2940, 0xEB01, 0x2BC0, 0x2A80, 0xEA41,
  0xEE01, 0x2EC0, 0x2F80, 0xEF41, 0x2D00, 0xEDC1, 0xEC81, 0x2C40,
  0xE401, 0x24C0, 0x2580, 0xE541, 0x2700, 0xE7C1, 0xE681, 0x2640,
  0x2200, 0xE2C1, 0xE381, 0x2340, 0xE101, 0x21C0, 0x2080, 0xE041,
  0xA001, 0x60C0, 0x6180, 0xA141, 0x6300, 0xA3C1, 0xA281, 0x6240,
  0x6600, 0xA6C1, 0xA781, 0x6740, 0xA501, 0x65C0, 0x6480, 0xA441,
  0x6C00, 0xACC1, 0xAD81, 0x6D40, 0xAF01, 0x6FC0, 0x6E80, 0xAE41,
  0xAA01, 0x6AC0, 0x6B80, 0xAB41, 0x6900, 0xA9C1, 0xA881, 0x6840,
  0x7800, 0xB8C1, 0xB981, 0x7940, 0xBB01, 0x7BC0, 0x7A80, 0xBA41,
  0xBE01, 0x7EC0, 0x7F80, 0xBF41, 0x7D00, 0xBDC1, 0xBC81, 0x7C40,
  0xB401, 0x74C0, 0x7580, 0xB541, 0x7700, 0xB7C1, 0xB681, 0x7640,
  0x7200, 0xB2C1, 0xB381, 0x7340, 0xB101, 0x71C0, 0x7080, 0xB041,
  0x5000, 0x90C1, 0x9181, 0x5140, 0x9301, 0x53C0, 0x5280, 0x9241,
  0x9601, 0x56C0, 0x5780, 0x9741, 0x5500, 0x95C1, 0x9481, 0x5440,
  0x9C01, 0x5CC0, 0x5D80, 0x9D41, 0x5F00, 0x9FC1, 0x9E81, 0x5E40,
  0x5A00, 0x9AC1, 0x9B81, 0x5B40, 0x9901, 0x59C0, 0x5880, 0x9841,
  0x8801, 0x48C0, 0x4980, 0x8941, 0x4B00, 0x8BC1, 0x8A81, 0x4A40,
  0x4E00, 0x8EC1, 0x8F81, 0x4F40, 0x8D01, 0x4DC0, 0x4C80, 0x8C41,
  0x4400, 0x84C1, 0x8581, 0x4540, 0x8701, 0x47C0, 0x4680, 0x8641,
  0x8201, 0x42C0, 0x4380, 0x8341, 0x4100, 0x81C1, 0x8081, 0x4040]

/-- The body of the loop of `crc16_initial`. -/
def crcStep (inicial : UInt16) (byte : UInt8) : UInt16 :=
  let temp := byte ^^^ (inicial &&& 0xFF).toUInt8
  (inicial >>> 8) ^^^ crc16Table.getD temp.toNat 0

/-- The loop of `crc16_initial`, with the pointer and the count that are left. -/
def crcLoop (inicial : UInt16) (data : Mem) (p : ℕ) : ℕ → UInt16
  | 0 => inicial
  | length + 1 => crcLoop (crcStep inicial (data p)) data (p + 1) length

/-- `crc16_initial`. -/
def crc16Initial (inicial : UInt16) (data : Mem) (p : ℕ) (length : UInt16) : UInt16 :=
  crcLoop inicial data p length.toNat

/-- `crc16`. -/
def crc16 (data : Mem) (p : ℕ) (length : UInt16) : UInt16 := crc16Initial 0xFFFF data p length

/-! ### The CRC of a byte string -/

/-- The CRC of a byte string. -/
def frameCrc (bs : List UInt8) : UInt16 := bs.foldl crcStep 0xFFFF

theorem crcLoop_eq (inicial : UInt16) (data : Mem) (p n : ℕ) :
    crcLoop inicial data p n = (read data p n).foldl crcStep inicial := by
  induction n generalizing inicial p with
  | zero => rfl
  | succ n ih => rw [crcLoop, ih, read_succ, List.foldl_cons]

/-- **The CRC of a buffer is the CRC of the bytes read from it.** -/
theorem crc16_eq (data : Mem) (p : ℕ) (length : UInt16) :
    crc16 data p length = frameCrc (read data p length.toNat) :=
  crcLoop_eq _ _ _ _

/-- The CRC over a byte string that a buffer starts with. -/
theorem crc16_write (m : Mem) (p : ℕ) (bs : List UInt8) (length : UInt16)
    (h : length.toNat = bs.length) : crc16 (write m p bs) p length = frameCrc bs := by
  rw [crc16_eq, h, read_write_self]

/-- A byte string followed by its CRC, low byte first. -/
def closeFrame (bs : List UInt8) : List UInt8 := bs ++ bytes16 (frameCrc bs)

@[simp] theorem length_closeFrame (bs : List UInt8) :
    (closeFrame bs).length = bs.length + 2 := by simp [closeFrame]

/-- A frame determines what it carries. -/
theorem closeFrame_injective : Function.Injective closeFrame := by
  intro xs ys h
  exact (List.append_inj' h rfl).1

/-- Storing the CRC of a byte string behind it closes the frame. -/
theorem write_frameCrc (m : Mem) (bs : List UInt8) :
    write (write m 0 bs) bs.length (bytes16 (frameCrc bs)) = write m 0 (closeFrame bs) := by
  have h := write_append m 0 bs (bytes16 (frameCrc bs))
  rwa [Nat.zero_add] at h

/-- The CRC behind the first `k` bytes of a buffer is right. -/
def ClosedAt (buf : Mem) (k : ℕ) : Prop := read16 buf k = frameCrc (read buf 0 k)

instance (buf : Mem) (k : ℕ) : Decidable (ClosedAt buf k) :=
  inferInstanceAs (Decidable (_ = _))

/-- The CRC of the code is the one of the bytes in front of it. -/
theorem crc16_eq_read16_iff (buf : Mem) {k : ℕ} (hk : k < 2 ^ 16) :
    crc16 buf 0 (UInt16.ofNat k) = read16 buf k ↔ ClosedAt buf k := by
  have h : (UInt16.ofNat k).toNat = k := UInt16.toNat_ofNat_of_lt' hk
  rw [crc16_eq, h, ClosedAt, eq_comm]

/-- Whether a frame is closed depends on its bytes and its CRC only. -/
theorem closedAt_congr {m m' : Mem} {k : ℕ} (h : ∀ i < k + 2, m i = m' i) :
    ClosedAt m k ↔ ClosedAt m' k := by
  have hread : read m 0 k = read m' 0 k := read_congr fun i _ hi => h i (by omega)
  rw [ClosedAt, ClosedAt, hread, read16, read16, h k (by omega), h (k + 1) (by omega)]

/-- A frame is closed by the two bytes of its CRC. -/
theorem closedAt_iff (m : Mem) (k : ℕ) :
    ClosedAt m k ↔
      m k = lo (frameCrc (read m 0 k)) ∧ m (k + 1) = hi (frameCrc (read m 0 k)) := by
  rw [ClosedAt, read16, le16_eq_iff]

/-- A closed frame is what `closeFrame` makes of its bytes. -/
theorem closedAt_iff_read (m : Mem) (k : ℕ) :
    ClosedAt m k ↔ read m 0 (k + 2) = closeFrame (read m 0 k) := by
  rw [closedAt_iff, read_add, closeFrame, List.append_cancel_left_eq, Nat.zero_add]
  simp [read_succ, bytes16]

/-- Storing the CRC of its first bytes closes a buffer there. -/
theorem closedAt_write_frameCrc (m : Mem) (k : ℕ) :
    ClosedAt (write m k (bytes16 (frameCrc (read m 0 k)))) k := by
  rw [closedAt_iff, read_write_of_le _ _ _ (by omega)]
  exact ⟨write_getElem m k (bytes16 _) (by simp : 0 < 2), write_getElem m k (bytes16 _) (by simp)⟩

/-- A buffer that starts with a closed frame. -/
theorem closedAt_write_closeFrame (m : Mem) (bs : List UInt8) :
    ClosedAt (write m 0 (closeFrame bs)) bs.length := by
  have h := closedAt_write_frameCrc (write m 0 bs) bs.length
  rwa [read_write_self, write_frameCrc] at h

/-- The bytes of a frame that a buffer starts with. -/
theorem write_closeFrame_getElem (m : Mem) (bs : List UInt8) {i : ℕ} (h : i < bs.length) :
    write m 0 (closeFrame bs) i = bs[i] := by
  have hget := write_getElem m 0 (closeFrame bs) (i := i) (by simp; omega)
  rw [Nat.zero_add] at hget
  rw [hget]
  exact List.getElem_append_left h

/-! ### Frames that are cut short -/

/-- What has been received of a frame of `k` bytes leaves its CRC open: not all of the CRC is there,
and what is there of it is right. -/
def Open (r : List UInt8) (k : ℕ) : Prop :=
  r.length ≤ k ∨ (r.length = k + 1 ∧ r[k]? = some (lo (frameCrc (r.take k))))

instance (r : List UInt8) (k : ℕ) : Decidable (Open r k) := inferInstanceAs (Decidable (_ ∨ _))

/-- **A frame whose CRC is open can be completed** by what lies in the buffer behind it. -/
theorem exists_closedAt_write (m : Mem) {r : List UInt8} {k : ℕ} (h : Open r k) :
    ∃ b : Mem, (∀ i < k, write b 0 r i = write m 0 r i) ∧ ClosedAt (write b 0 r) k := by
  obtain ⟨crc, hcrc⟩ : ∃ crc, crc = frameCrc (read (write m 0 r) 0 k) := ⟨_, rfl⟩
  obtain ⟨b, hb⟩ : ∃ b, b = write (write m 0 r) k (bytes16 crc) := ⟨_, rfl⟩
  have hlow : ∀ i < k, b i = write m 0 r i := fun i hi => by rw [hb, write_of_lt _ _ _ hi]
  -- what was received agrees with the completed buffer
  have hagree : ∀ i, write b 0 r i = b i := by
    intro i
    rcases Nat.lt_or_ge i r.length with hi | hi
    · rcases Nat.lt_or_ge i k with hk | hk
      · rw [hlow i hk]
        exact write_eq_write _ _ hi
      · rcases h with hlen | ⟨hlen, hlast⟩
        · omega
        · obtain rfl : i = k := by omega
          have htake : read (write m 0 r) 0 i = r.take i := read_write_take m 0 r (by omega)
          have hr := write_getElem b 0 r hi
          rw [Nat.zero_add] at hr
          rw [List.getElem?_eq_getElem hi, Option.some.injEq] at hlast
          rw [hr, hlast, ← htake, ← hcrc, hb]
          exact (write_getElem _ i (bytes16 crc) (by simp : 0 < 2)).symm
    · exact write_of_ge _ _ _ (by omega)
  refine ⟨b, fun i hi => (hagree i).trans (hlow i hi), ?_⟩
  rw [closedAt_congr fun i _ => hagree i, hb, hcrc]
  exact closedAt_write_frameCrc _ _

/-- It can also be spoilt. -/
theorem exists_not_closedAt_write (m : Mem) {r : List UInt8} {k : ℕ} (h : r.length ≤ k + 1) :
    ∃ b : Mem, (∀ i < k, write b 0 r i = write m 0 r i) ∧ ¬ ClosedAt (write b 0 r) k := by
  obtain ⟨x, hx⟩ : ∃ x, x = hi (frameCrc (read (write m 0 r) 0 k)) := ⟨_, rfl⟩
  obtain ⟨b, hb⟩ : ∃ b, b = write m (k + 1) [x + 1] := ⟨_, rfl⟩
  have hlow : ∀ i < k, write b 0 r i = write m 0 r i := by
    intro i hi
    rcases Nat.lt_or_ge i r.length with hr | hr
    · exact write_eq_write _ _ hr
    · rw [write_of_ge _ _ _ (by omega), write_of_ge _ _ _ (by omega), hb,
        write_of_lt _ _ _ (by omega)]
  refine ⟨b, hlow, ?_⟩
  rw [closedAt_iff]
  rintro ⟨-, hhi⟩
  rw [read_congr fun i _ hi => hlow i (by omega), ← hx, write_of_ge _ _ _ (by omega), hb] at hhi
  have hx1 : write m (k + 1) [x + 1] (k + 1 + 0) = x + 1 := write_getElem _ _ [x + 1] (by simp)
  rw [Nat.add_zero, hhi] at hx1
  exact absurd hx1 (by simp)

/-- Otherwise the bytes that were received decide. -/
theorem closedAt_write_iff_of_not_open {r : List UInt8} {k : ℕ} (h : ¬ Open r k) (m m' : Mem) :
    ClosedAt (write m 0 r) k ↔ ClosedAt (write m' 0 r) k := by
  obtain ⟨hlen, hlast⟩ := not_or.1 h
  by_cases hk : r.length = k + 1
  · -- the low byte of the CRC was received, and it is wrong
    have hr : k < r.length := by omega
    have hwrong : ∀ b : Mem, ¬ ClosedAt (write b 0 r) k := by
      intro b hc
      have hlo := ((closedAt_iff _ _).1 hc).1
      have hget := write_getElem b 0 r hr
      rw [Nat.zero_add] at hget
      rw [hget, read_write_take _ _ _ (by omega)] at hlo
      exact hlast ⟨hk, by rw [List.getElem?_eq_getElem hr, hlo]⟩
    exact iff_of_false (hwrong m) (hwrong m')
  · exact closedAt_congr fun i hi => write_eq_write _ _ (by omega)

/-- A frame that is neither complete nor open is never closed. -/
theorem not_closedAt_write_of_not_open {r : List UInt8} {k : ℕ} (h : ¬ Open r k)
    (hk : r.length ≤ k + 1) (m : Mem) : ¬ ClosedAt (write m 0 r) k := by
  obtain ⟨b, -, hb⟩ := exists_not_closedAt_write m hk
  rwa [closedAt_write_iff_of_not_open h m b]

/-- The check value of the algorithm, over the digits `1` to `9`. -/
example : frameCrc [0x31, 0x32, 0x33, 0x34, 0x35, 0x36, 0x37, 0x38, 0x39] = 0x4B37 := by decide

end Solar48
