/-
**Byte swapping and the growing buffer of `memory.c`.**

The Modbus code never dereferences an unaligned half-word: it copies bytes with `memcpy` and
exchanges the bytes of each half-word with the `rev16` instruction.  This module translates those
helpers — the single-word ones, and the two array loops, of which the second one dispatches on
the alignment of its argument — together with `solar48_mem`, the buffer that only grows.

`rev16` is the one piece of hardware here: it exchanges the two bytes of each half-word of a
register.  A local that the source leaves uninitialised before copying two bytes into it is
started at zero; its upper half-word never reaches memory.

Main definitions:

* `Solar48.rev16` — the instruction;
* `Solar48.swap16ArrayFast`, `Solar48.swap16ArrayFastSafe` — the two array loops;
* `Solar48.swap16ArrayFastSafe32` — the second one, with its variables;
* `Solar48.Heap`, `Solar48.solar48Mem` — the allocator's answers, and the growing buffer.

Main results:

* `Solar48.swap16ArrayFast_eq`, `Solar48.swap16ArrayFastSafe_eq` — **both loops exchange the bytes
  of `len` half-words** and touch nothing else;
* `Solar48.swap16Arrays_agree` — the same for every length, byte by byte;
* `Solar48.solar48Mem_of_grants` — when the allocator answers, the buffer is there.
-/

import Solar48.ByteMem

set_option relaxedAutoImplicit false
set_option autoImplicit false

namespace Solar48

open ByteMem

/-! ### The instruction -/

/-- `rev16`: exchange the two bytes of each half-word of a register. -/
def rev16 (x : UInt32) : UInt32 := le32 (byte32 x 1) (byte32 x 0) (byte32 x 3) (byte32 x 2)

theorem byte32_le32 (a b c d : UInt8) :
    byte32 (le32 a b c d) 0 = a ∧ byte32 (le32 a b c d) 1 = b ∧
      byte32 (le32 a b c d) 2 = c ∧ byte32 (le32 a b c d) 3 = d := by
  have h := bytes32_le32 a b c d
  simpa [bytes32] using h

@[simp] theorem rev16_le32 (a b c d : UInt8) : rev16 (le32 a b c d) = le32 b a d c := by
  obtain ⟨h₀, h₁, h₂, h₃⟩ := byte32_le32 a b c d
  rw [rev16, h₀, h₁, h₂, h₃]

/-- A half-word widened to a word. -/
theorem toUInt32_eq_le32 (x : UInt16) : x.toUInt32 = le32 (lo x) (hi x) 0 0 := by
  refine UInt32.toNat_inj.1 ?_
  rw [toNat_le32, toNat_lo, toNat_hi, UInt16.toNat_toUInt32]
  simp only [UInt8.toNat_zero]
  omega

/-! ### Single words -/

/-- `move_uint8_safe`. -/
def moveUint8Safe (m : Mem) (dest : ℕ) (value : UInt8) : Mem := write m dest [value]

/-- `swap_and_move_uint16_safe`: two of the four bytes of the swapped register are copied. -/
def swapAndMoveUint16Safe (m : Mem) (dest : ℕ) (src : UInt16) : Mem :=
  write m dest ((bytes32 (rev16 src.toUInt32)).take 2)

/-- `swap_and_move_uint16_from_unaligned_to_unaligned_safe`. -/
def swapAndMoveUint16FromUnalignedToUnalignedSafe (m : Mem) (dest : ℕ) (sm : Mem) (src : ℕ) :
    Mem :=
  let y := le32 (sm src) (sm (src + 1)) 0 0
  write m dest ((bytes32 (rev16 y)).take 2)

/-- `swap_and_move_two_uint16_at_once_safe`. -/
def swapAndMoveTwoUint16AtOnceSafe (m : Mem) (dest : ℕ) (src : UInt32) : Mem :=
  write m dest (bytes32 (rev16 src))

/-- `read_and_swap_uint16_safe`: the low half-word of the swapped register. -/
def readAndSwapUint16Safe (m : Mem) (src : ℕ) : UInt16 :=
  (rev16 (le32 (m src) (m (src + 1)) 0 0)).toUInt16

/-- `swap_and_compare_uint16`: `memcmp` of two bytes with the swapped register. -/
def swapAndCompareUint16 (m : Mem) (a : ℕ) (b : UInt16) : Bool :=
  read m a 2 == (bytes32 (rev16 b.toUInt32)).take 2

/-- `read_uint8`. -/
def readUint8 (m : Mem) (a : ℕ) : UInt8 := m a

/-- What is stored is the half-word in network order. -/
@[simp] theorem swapAndMoveUint16Safe_eq (m : Mem) (dest : ℕ) (src : UInt16) :
    swapAndMoveUint16Safe m dest src = write m dest (beBytes16 src) := by
  rw [swapAndMoveUint16Safe, toUInt32_eq_le32, rev16_le32, bytes32_le32]
  rfl

@[simp] theorem swapAndMoveUint16FromUnalignedToUnalignedSafe_eq (m : Mem) (dest : ℕ) (sm : Mem)
    (src : ℕ) : swapAndMoveUint16FromUnalignedToUnalignedSafe m dest sm src =
      write m dest (swapPairs (read sm src 2)) := by
  rw [swapAndMoveUint16FromUnalignedToUnalignedSafe, rev16_le32, bytes32_le32]
  rfl

@[simp] theorem swapAndMoveTwoUint16AtOnceSafe_eq (m : Mem) (dest : ℕ) (sm : Mem) (src : ℕ) :
    swapAndMoveTwoUint16AtOnceSafe m dest (read32 sm src) =
      write m dest (swapPairs (read sm src 4)) := by
  rw [swapAndMoveTwoUint16AtOnceSafe, read32, rev16_le32, bytes32_le32]
  rfl

/-- What is read is the half-word in network order. -/
@[simp] theorem readAndSwapUint16Safe_eq (m : Mem) (src : ℕ) :
    readAndSwapUint16Safe m src = le16 (m (src + 1)) (m src) := by
  refine UInt16.toNat_inj.1 ?_
  have := (m src).toNat_lt
  have := (m (src + 1)).toNat_lt
  rw [readAndSwapUint16Safe, rev16_le32, toNat_le16, UInt32.toNat_toUInt16, toNat_le32]
  simp only [UInt8.toNat_zero]
  omega

@[simp] theorem swapAndCompareUint16_iff (m : Mem) (a : ℕ) (b : UInt16) :
    swapAndCompareUint16 m a b = true ↔ m a = hi b ∧ m (a + 1) = lo b := by
  rw [swapAndCompareUint16, toUInt32_eq_le32, rev16_le32, bytes32_le32, read_succ, read_succ]
  simp

/-! ### Arrays of half-words -/

/-- The loop of both array functions: `n` words from `p` on go through `rev16`. -/
def swap16Words (m : Mem) (p : ℕ) : ℕ → Mem
  | 0 => m
  | n + 1 => swap16Words (write m p (bytes32 (rev16 (read32 m p)))) (p + 4) n

/-- `swap16_array_fast`: words through `rev16`, an odd last half-word by shifting. -/
def swap16ArrayFast (m : Mem) (arr len : ℕ) : Mem :=
  let m' := swap16Words m arr (len >>> 1)
  let p := arr + 4 * (len >>> 1)
  if len &&& 1 = 0 then m'
  else
    let y := read16 m' p
    write m' p (bytes16 ((y >>> 8) ||| (y <<< 8)))

/-- `IS_ALIGNED_32`, on the address of the object and an offset into it. -/
def isAligned32 (base p : ℕ) : Bool := (base + p) &&& 3 == 0

/-- `swap16_array_fast_safe`: the fast loop on an aligned array, otherwise word by word through a
local.  `base` is the address of the object that holds the array. -/
def swap16ArrayFastSafe (base : ℕ) (m : Mem) (arr len : ℕ) : Mem :=
  if isAligned32 base arr then swap16ArrayFast m arr len
  else
    let m' := swap16Words m arr (len >>> 1)
    let p := arr + 4 * (len >>> 1)
    if len &&& 1 = 0 then m'
    else write m' p ((bytes32 (rev16 (le32 (m' p) (m' (p + 1)) 0 0))).take 2)

/-- One turn of the loop exchanges the bytes of two half-words. -/
theorem write_rev16_read32 (m : Mem) (p : ℕ) :
    write m p (bytes32 (rev16 (read32 m p))) = write m p (swapPairs (read m p 4)) := by
  rw [read32, rev16_le32, bytes32_le32]
  rfl

theorem swap16Words_eq (m : Mem) (p n : ℕ) :
    swap16Words m p n = write m p (swapPairs (read m p (4 * n))) := by
  induction n generalizing m p with
  | zero => simp [swap16Words]
  | succ n ih =>
      have hn : 4 * (n + 1) = 4 + 4 * n := by omega
      have hl : (swapPairs (read m p 4)).length = 4 := by simp
      -- the rest is read after the first word is written, and does not see it
      rw [swap16Words, write_rev16_read32, ih, read_write_of_ge _ _ _ (by omega), hn, read_add,
        swapPairs_append (by simp), ← write_append, hl]

/-- The odd last half-word of either loop, once the words before it are done. -/
theorem write_swap16Words_tail (m : Mem) (p n : ℕ) :
    write (swap16Words m p n) (p + 4 * n) (swapPairs (read (swap16Words m p n) (p + 4 * n) 2)) =
      write m p (swapPairs (read m p (4 * n + 2))) := by
  have hl : (swapPairs (read m p (4 * n))).length = 4 * n := by simp
  rw [swap16Words_eq, read_write_of_ge _ _ _ (by omega), read_add,
    swapPairs_append (by simp; omega), ← write_append, hl]

/-- Shifting a half-word both ways exchanges its bytes. -/
theorem shift_or_shift (y : UInt16) : (y >>> 8) ||| (y <<< 8) = le16 (hi y) (lo y) := by
  refine UInt16.toNat_inj.1 ?_
  have hy := y.toNat_lt
  rw [toNat_le16, toNat_hi, toNat_lo, UInt16.toNat_or, UInt16.toNat_shiftRight,
    UInt16.toNat_shiftLeft]
  have h8 : (8 : UInt16).toNat % 16 = 8 := rfl
  have hs : y.toNat <<< 8 % 2 ^ 16 = (y.toNat % 256) <<< 8 := by
    simp only [Nat.shiftLeft_eq]
    omega
  have hr : y.toNat >>> 8 < 2 ^ 8 := by
    simp only [Nat.shiftRight_eq_div_pow]
    omega
  rw [h8, hs, Nat.or_comm, ← Nat.shiftLeft_add_eq_or_of_lt hr]
  simp only [Nat.shiftLeft_eq, Nat.shiftRight_eq_div_pow]
  omega

theorem mod_two_cases (len : ℕ) :
    (len &&& 1 = 0 ∧ 4 * (len >>> 1) = 2 * len) ∨
      (¬ len &&& 1 = 0 ∧ 4 * (len >>> 1) + 2 = 2 * len) := by
  rw [Nat.and_one_is_mod, Nat.shiftRight_eq_div_pow]
  omega

/-- **The fast loop exchanges the bytes of `len` half-words.** -/
theorem swap16ArrayFast_eq (m : Mem) (arr len : ℕ) :
    swap16ArrayFast m arr len = write m arr (swapPairs (read m arr (2 * len))) := by
  rw [swap16ArrayFast]
  rcases mod_two_cases len with ⟨h₀, hl⟩ | ⟨h₀, hl⟩
  · rw [if_pos h₀, swap16Words_eq, hl]
  · rw [if_neg h₀, ← hl, ← write_swap16Words_tail]
    simp only [shift_or_shift]
    simp [bytes16, read16, read_succ]

/-- **So does the alignment-safe one**, wherever the object lies. -/
theorem swap16ArrayFastSafe_eq (base : ℕ) (m : Mem) (arr len : ℕ) :
    swap16ArrayFastSafe base m arr len = write m arr (swapPairs (read m arr (2 * len))) := by
  rw [swap16ArrayFastSafe]
  split
  · exact swap16ArrayFast_eq m arr len
  · rcases mod_two_cases len with ⟨h₀, hl⟩ | ⟨h₀, hl⟩
    · rw [if_pos h₀, swap16Words_eq, hl]
    · rw [if_neg h₀, rev16_le32, bytes32_le32, ← hl, ← write_swap16Words_tail]
      simp [read_succ]

/-- The fast loop on a whole buffer of bytes, of which an odd last one stays. -/
theorem swap16ArrayFast_write (m : Mem) (src : List UInt8) :
    swap16ArrayFast (write m 0 src) 0 (src.length / 2) = write m 0 (swapPairs src) := by
  have hlen : (src.take (2 * (src.length / 2))).length =
      (swapPairs (src.take (2 * (src.length / 2)))).length := (length_swapPairs _).symm
  rw [swap16ArrayFast_eq, read_write_take _ _ _ (by omega), ← swapPairs_append_drop src,
    ← write_write_prefix m 0 _ hlen, List.take_append_drop]

/-! ### The array loops, with their variables -/

/-- The loop of `swap16_array_fast_safe`: what it leaves in memory and in `two_swap16_at_once`. -/
def swap16WordsSafe (m : Mem) (p : ℕ) (twoSwap16AtOnce : UInt32) : ℕ → Mem × UInt32
  | 0 => (m, twoSwap16AtOnce)
  | n + 1 =>
      let twoSwap16AtOnce := rev16 (read32 m p)
      swap16WordsSafe (write m p (bytes32 twoSwap16AtOnce)) (p + 4) twoSwap16AtOnce n

/-- `swap16_array_fast_safe`, in the types of its variables.  `stale` is what is in
`two_swap16_at_once` before; of an odd last half-word only the lower half is copied into it. -/
def swap16ArrayFastSafe32 (base : ℕ) (m : Mem) (arr : ℕ) (len stale : UInt32) : Mem :=
  if isAligned32 base arr then swap16ArrayFast m arr len.toNat
  else
    let u32Len : Int32 := (len >>> 1).toInt32
    let n := u32Len.toInt.toNat
    let (m', twoSwap16AtOnce) := swap16WordsSafe m arr stale n
    let p := arr + 4 * n
    if len &&& 1 = 0 then m'
    else
      let twoSwap16AtOnce :=
        le32 (m' p) (m' (p + 1)) (byte32 twoSwap16AtOnce 2) (byte32 twoSwap16AtOnce 3)
      write m' p ((bytes32 (rev16 twoSwap16AtOnce)).take 2)

theorem swap16WordsSafe_fst (m : Mem) (p : ℕ) (twoSwap16AtOnce : UInt32) (n : ℕ) :
    (swap16WordsSafe m p twoSwap16AtOnce n).1 = swap16Words m p n := by
  induction n generalizing m p twoSwap16AtOnce with
  | zero => rfl
  | succ n ih => exact ih _ _ _

/-- Half of a length is not negative as a signed number. -/
theorem toNat_toInt_shiftRight_one (len : UInt32) :
    (len >>> 1).toInt32.toInt.toNat = len.toNat >>> 1 := by
  have hlen := len.toNat_lt
  have hshift : (len >>> 1).toNat = len.toNat >>> 1 := UInt32.toNat_shiftRight len 1
  have hhalf : len.toNat >>> 1 < 2 ^ 31 := by
    rw [Nat.shiftRight_eq_div_pow]
    omega
  have hint : (len >>> 1).toInt32.toInt = (len >>> 1).toNat := by
    change (len >>> 1).toBitVec.toInt = _
    rw [BitVec.toInt_eq_toNat_of_lt]
    · rfl
    · change 2 * (len >>> 1).toNat < 2 ^ 32
      omega
  rw [hint, hshift, Int.toNat_natCast]

/-- **The upper half of the local is never copied back.** -/
theorem swap16ArrayFastSafe32_eq (base : ℕ) (m : Mem) (arr : ℕ) (len stale : UInt32) :
    swap16ArrayFastSafe32 base m arr len stale = swap16ArrayFastSafe base m arr len.toNat := by
  have hodd : len &&& 1 = 0 ↔ len.toNat &&& 1 = 0 := by
    rw [← UInt32.toNat_inj, UInt32.toNat_and]
    rfl
  unfold swap16ArrayFastSafe32 swap16ArrayFastSafe
  split
  · rfl
  · simp only [toNat_toInt_shiftRight_one, swap16WordsSafe_fst, hodd, rev16_le32, bytes32_le32]
    rfl

/-- **The two swaps agree.**  The safe one exchanges the two bytes of every half-word and nothing
else, the fast one does the same to an aligned array, and either undoes itself; whatever is in the
local at first. -/
theorem swap16Arrays_agree (base : ℕ) (m : Mem) (arr : ℕ) (len stale stale' : UInt32) :
    (∀ i < len.toNat,
      swap16ArrayFastSafe32 base m arr len stale (arr + 2 * i) = m (arr + 2 * i + 1) ∧
        swap16ArrayFastSafe32 base m arr len stale (arr + 2 * i + 1) = m (arr + 2 * i)) ∧
      (∀ a, a < arr ∨ arr + 2 * len.toNat ≤ a →
        swap16ArrayFastSafe32 base m arr len stale a = m a) ∧
      (isAligned32 base arr = true →
        swap16ArrayFast m arr len.toNat = swap16ArrayFastSafe32 base m arr len stale) ∧
      swap16ArrayFastSafe32 base (swap16ArrayFastSafe32 base m arr len stale) arr len stale' = m ∧
      swap16ArrayFast (swap16ArrayFast m arr len.toNat) arr len.toNat = m := by
  simp only [swap16ArrayFastSafe32_eq, swap16ArrayFastSafe_eq, swap16ArrayFast_eq]
  refine ⟨fun i hi => write_swapPairs_apply m arr hi, ?_, fun _ => trivial,
    write_swapPairs_write_swapPairs m arr _, write_swapPairs_write_swapPairs m arr _⟩
  intro a ha
  rcases ha with hlt | hge
  · exact write_of_lt _ _ _ hlt
  · exact write_of_ge _ _ _ (by simpa using hge)

/-! ### The growing buffer -/

/-- The answers of the C library's allocator to one call: the new object, or `none` for `NULL`. -/
structure Heap where
  /-- `malloc`. -/
  malloc : ℕ → Option Mem
  /-- `realloc`, on the old object and the new size. -/
  realloc : Mem → ℕ → Option Mem

/-- The allocator has room for every request of at most `n` bytes. -/
structure Heap.Grants (heap : Heap) (n : ℕ) : Prop where
  /-- `malloc` answers. -/
  malloc : ∀ k ≤ n, (heap.malloc k).isSome
  /-- `realloc` answers. -/
  realloc : ∀ m, ∀ k ≤ n, (heap.realloc m k).isSome

/-- An allocator that has room for everything. -/
def Heap.roomy : Heap where
  malloc _ := some fun _ => 0
  realloc m _ := some m

theorem Heap.roomy_grants (n : ℕ) : Heap.roomy.Grants n := ⟨fun _ _ => rfl, fun _ _ _ => rfl⟩

/-- `SOLAR48_MEM`: the buffer, or `none` for a null pointer, and its size. -/
structure Solar48Mem where
  /-- `memory`. -/
  memory : Option Mem
  /-- `size`. -/
  size : ℕ

/-- `solar48_mem`.  The pointer it returns is the `memory` field it leaves behind; a call of
`app_panic` does not return and is the error. -/
def solar48Mem (heap : Heap) (mem : Solar48Mem) (memSize : ℕ) : Except String Solar48Mem :=
  match mem.memory with
  | some memory =>
      if memSize ≠ 0 then
        if mem.size ≥ memSize then .ok mem
        else
          match heap.realloc memory memSize with
          | some tmp => .ok { memory := some tmp, size := memSize }
          | none => .error "slr48:rllc"
      else .ok { memory := none, size := 0 }
  | none =>
      if memSize ≠ 0 then
        match heap.malloc memSize with
        | some memory => .ok { memory := some memory, size := memSize }
        | none => .error "slr48:mllc"
      else .ok mem

/-- A call that returns leaves a buffer, if it was asked for one. -/
theorem solar48Mem_ok {heap : Heap} {mem mem' : Solar48Mem} {memSize : ℕ} (h₀ : memSize ≠ 0)
    (h : solar48Mem heap mem memSize = .ok mem') : ∃ m, mem'.memory = some m := by
  unfold solar48Mem at h
  split at h
  · rename_i memory hm
    rw [if_pos h₀] at h
    split at h
    · obtain rfl := Except.ok.inj h
      exact ⟨memory, hm⟩
    · split at h
      · obtain rfl := Except.ok.inj h
        exact ⟨_, rfl⟩
      · cases h
  · rw [if_pos h₀] at h
    split at h
    · obtain rfl := Except.ok.inj h
      exact ⟨_, rfl⟩
    · cases h

/-- It has the size that was asked for, or more. -/
theorem le_size_of_solar48Mem {heap : Heap} {mem mem' : Solar48Mem} {memSize : ℕ}
    (h₀ : memSize ≠ 0) (h : solar48Mem heap mem memSize = .ok mem') : memSize ≤ mem'.size := by
  unfold solar48Mem at h
  split at h
  · rw [if_pos h₀] at h
    split at h
    · rename_i hsize
      obtain rfl := Except.ok.inj h
      exact hsize
    · split at h
      · obtain rfl := Except.ok.inj h
        exact Nat.le_refl _
      · cases h
  · rw [if_pos h₀] at h
    split at h
    · obtain rfl := Except.ok.inj h
      exact Nat.le_refl _
    · cases h

/-- A buffer that is large enough stays. -/
theorem solar48Mem_of_le (heap : Heap) {mem : Solar48Mem} {memSize : ℕ} {m : Mem}
    (hm : mem.memory = some m) (h₀ : memSize ≠ 0) (h : memSize ≤ mem.size) :
    solar48Mem heap mem memSize = .ok mem := by
  unfold solar48Mem
  simp only [hm]
  rw [if_pos h₀, if_pos h]

/-- When the allocator answers, the call returns. -/
theorem solar48Mem_of_grants {heap : Heap} {n : ℕ} (h : heap.Grants n) (mem : Solar48Mem)
    {memSize : ℕ} (h₀ : memSize ≠ 0) (hn : memSize ≤ n) :
    ∃ mem', solar48Mem heap mem memSize = .ok mem' := by
  unfold solar48Mem
  cases hm : mem.memory with
  | some memory =>
      simp only [h₀, ne_eq, not_false_eq_true, if_true]
      split
      · exact ⟨mem, rfl⟩
      · obtain ⟨tmp, ht⟩ := Option.isSome_iff_exists.1 (h.realloc memory memSize hn)
        rw [ht]
        exact ⟨_, rfl⟩
  | none =>
      obtain ⟨tmp, ht⟩ := Option.isSome_iff_exists.1 (h.malloc memSize hn)
      simp only [h₀, ne_eq, not_false_eq_true, if_true, ht]
      exact ⟨_, rfl⟩

end Solar48
