/-
**The peak of the stack.**

At the start all bytes from the end of the variables to the end of the memory are filled with a
pattern.  The stack grows downwards through them, so that the lowest byte that is not the pattern
any more tells how far it ever was.

`get_stack_peak_usage` does not stop there: it goes through all the words, counts for each word that
was overwritten the bytes that could still be the pattern, and then only looks at the bytes behind
the last whole word.

Main definitions:

* `Solar48.StackRegion` — the part of the memory that is filled;
* `Solar48.fillStackWithPattern`, `Solar48.getStackPeakUsage` — the code;
* `Solar48.ReportsPeak` — a figure that is not below the peak.

Main results:

* `Solar48.fillStackWithPattern_apply` — all bytes are filled, and none that is not in the region;
* `Solar48.wordLoop_snd_le` — what is counted is less than what the words take;
* `Solar48.getStackPeakUsage_fillStackWithPattern` — after the filling nothing is reported;
* `Solar48.getStackPeakUsage_of_pattern` — without an overwritten word the figure is the peak;
* `Solar48.getStackPeakUsage_lt` — with one it is below it;
* `Solar48.reportsPeak_iff` — **the peak is reported if and only if no whole word was overwritten**.
-/

import Solar48.ByteMem
import Mathlib.Algebra.Order.Group.Nat

set_option relaxedAutoImplicit false
set_option autoImplicit false

namespace Solar48

open ByteMem

/-! ### The code -/

/-- `U8_PATTERN`. -/
def u8Pattern : UInt8 := 0xAA

/-- `U32_MEM_PATTERN`. -/
def u32MemPattern : UInt32 := 0xAAAAAAAA

/-- From `_end` to `_estack`; `_end` is aligned to a word. -/
structure StackRegion where
  endAddr : ℕ
  estack : ℕ
  aligned : endAddr % 4 = 0
  endAddr_le : endAddr ≤ estack
  estack_lt : estack < 2 ^ 32

namespace StackRegion

/-- `aligned_end`. -/
def alignedEnd (r : StackRegion) : ℕ := r.estack - r.estack % 4

/-- How many whole words there are. -/
def words (r : StackRegion) : ℕ := (r.alignedEnd - r.endAddr) / 4

/-- The words, and the bytes behind them. -/
theorem endAddr_add (r : StackRegion) : r.endAddr + 4 * r.words = r.alignedEnd := by
  have haligned := r.aligned
  have hle := r.endAddr_le
  unfold words alignedEnd
  omega

theorem alignedEnd_le (r : StackRegion) : r.alignedEnd ≤ r.estack := Nat.sub_le _ _

end StackRegion

/-- The first loop of `fill_stack_with_pattern`, with so many words left. -/
def fillWords (m : Mem) (p32 : ℕ) : ℕ → Mem
  | 0 => m
  | left + 1 => fillWords (write m p32 (bytes32 u32MemPattern)) (p32 + 4) left

/-- The second one, with so many bytes left. -/
def fillBytes (m : Mem) (p8 : ℕ) : ℕ → Mem
  | 0 => m
  | left + 1 => fillBytes (write m p8 [u8Pattern]) (p8 + 1) left

/-- `fill_stack_with_pattern`. -/
def fillStackWithPattern (r : StackRegion) (m : Mem) : Mem :=
  fillBytes (fillWords m r.endAddr r.words) r.alignedEnd (r.estack - r.alignedEnd)

/-- `CHECK_U32_PATTERN` for one byte. -/
def checkU32Pattern (tmp : UInt32) (n : UInt32) : ℕ :=
  if tmp &&& (0xAA <<< n) = 0xAA <<< n then 1 else 0

/-- `CHECK_U32_PATTERN` for the bytes of a word. -/
def patternBytes (tmp : UInt32) : ℕ :=
  checkU32Pattern tmp 0 + checkU32Pattern tmp 8 + checkU32Pattern tmp 16 + checkU32Pattern tmp 24

/-- The first loop of `get_stack_peak_usage`, with so many words left: `p32` and `left`. -/
def wordLoop (m : Mem) (alignedEnd p32 left : ℕ) : ℕ → ℕ × ℕ
  | 0 => (p32, left)
  | words + 1 =>
      if read32 m p32 ≠ u32MemPattern then
        if p32 + 4 = alignedEnd then (p32 + 4, left)
        else wordLoop m alignedEnd (p32 + 4) (left + patternBytes (read32 m p32)) words
      else wordLoop m alignedEnd (p32 + 4) left words

/-- The second one, with so many bytes left: `p8`. -/
def byteLoop (m : Mem) (p8 : ℕ) : ℕ → ℕ
  | 0 => p8
  | left + 1 => if m p8 = u8Pattern then byteLoop m (p8 + 1) left else p8

/-- `get_stack_peak_usage`. -/
def getStackPeakUsage (r : StackRegion) (m : Mem) : ℕ :=
  let (p32, left) := wordLoop m r.alignedEnd r.endAddr 0 r.words
  let p8 := byteLoop m p32 (r.estack - p32)
  (r.estack - p8 + left) % 2 ^ 32

/-! ### The peak -/

/-- The lowest byte of the region that is not the pattern any more. -/
def IsLowest (r : StackRegion) (m : Mem) (a : ℕ) : Prop :=
  r.endAddr ≤ a ∧ a < r.estack ∧ m a ≠ u8Pattern ∧ ∀ b, r.endAddr ≤ b → b < a → m b = u8Pattern

/-- A figure that is not below the peak, and is zero only if nothing was overwritten. -/
def ReportsPeak (r : StackRegion) (m : Mem) (usage : ℕ) : Prop :=
  (∀ a, IsLowest r m a → r.estack - a ≤ usage) ∧
    (usage = 0 → ∀ a, r.endAddr ≤ a → a < r.estack → m a = u8Pattern)

variable {r : StackRegion} {m : Mem} {p q left words : ℕ}

/-- If a byte was overwritten there is a lowest one. -/
theorem exists_isLowest {a : ℕ} (hle : r.endAddr ≤ a) (hlt : a < r.estack)
    (hne : m a ≠ u8Pattern) : ∃ b ≤ a, IsLowest r m b := by
  induction a using Nat.strongRecOn with
  | ind a ih =>
      by_cases hlow : ∀ b, r.endAddr ≤ b → b < a → m b = u8Pattern
      · exact ⟨a, le_refl a, hle, hlt, hne, hlow⟩
      · push Not at hlow
        obtain ⟨b, hb, hba, hbne⟩ := hlow
        obtain ⟨c, hc, hlowest⟩ := ih b hba hb (hba.trans hlt) hbne
        exact ⟨c, hc.trans hba.le, hlowest⟩

/-! ### Filling -/

theorem bytes32_u32MemPattern : bytes32 u32MemPattern = List.replicate 4 u8Pattern := rfl

/-- The words are filled. -/
theorem fillWords_eq (m : Mem) (p left : ℕ) :
    fillWords m p left = write m p (List.replicate (4 * left) u8Pattern) := by
  induction left generalizing m p with
  | zero => rw [fillWords, Nat.mul_zero, List.replicate_zero, write_nil]
  | succ left ih =>
      rw [fillWords, ih, bytes32_u32MemPattern, write_write_of_eq _ p (p + 4) _ _ (by simp),
        List.replicate_append_replicate, Nat.mul_succ, Nat.add_comm 4]

/-- The bytes behind them are. -/
theorem fillBytes_eq (m : Mem) (p left : ℕ) :
    fillBytes m p left = write m p (List.replicate left u8Pattern) := by
  induction left generalizing m p with
  | zero => rw [fillBytes, List.replicate_zero, write_nil]
  | succ left ih =>
      rw [fillBytes, ih, write_write_of_eq _ p (p + 1) [_] _ rfl]
      rfl

/-- **All bytes of the region are filled**, and no others. -/
theorem fillStackWithPattern_apply (r : StackRegion) (m : Mem) (a : ℕ) :
    fillStackWithPattern r m a =
      if r.endAddr ≤ a ∧ a < r.estack then u8Pattern else m a := by
  have hend := r.endAddr_add
  have hle := r.alignedEnd_le
  have hall : fillStackWithPattern r m =
      write m r.endAddr (List.replicate (r.estack - r.endAddr) u8Pattern) := by
    rw [fillStackWithPattern, fillWords_eq, fillBytes_eq,
      write_write_of_eq _ r.endAddr _ _ _ (by rw [List.length_replicate, hend]),
      List.replicate_append_replicate]
    congr 2
    omega
  rw [hall]
  split
  · rename_i h
    obtain ⟨i, rfl⟩ := Nat.exists_eq_add_of_le h.1
    have hi : i < (List.replicate (r.estack - r.endAddr) u8Pattern).length := by
      rw [List.length_replicate]
      omega
    rw [write_getElem _ _ _ hi, List.getElem_replicate]
  · rename_i h
    by_cases hlt : a < r.endAddr
    · exact write_of_lt _ _ _ hlt
    · refine write_of_ge _ _ _ ?_
      rw [List.length_replicate]
      omega

/-! ### The loops -/

/-- Bytes that are all the pattern. -/
def HoldsPattern (m : Mem) (p n : ℕ) : Prop := ∀ i, p ≤ i → i < p + n → m i = u8Pattern

/-- A word is the pattern when its bytes are. -/
theorem read32_eq_u32MemPattern_iff : read32 m p = u32MemPattern ↔ HoldsPattern m p 4 := by
  constructor
  · intro h i hi hlt
    have hbytes : [m p, m (p + 1), m (p + 2), m (p + 3)] = List.replicate 4 u8Pattern := by
      rw [← bytes32_u32MemPattern, ← h, read32, bytes32_le32]
    simp only [List.replicate, List.cons.injEq, and_true] at hbytes
    obtain ⟨h₀, h₁, h₂, h₃⟩ := hbytes
    obtain rfl | rfl | rfl | rfl : i = p ∨ i = p + 1 ∨ i = p + 2 ∨ i = p + 3 := by omega
    · exact h₀
    · exact h₁
    · exact h₂
    · exact h₃
  · intro h
    rw [read32, h p (by omega) (by omega), h (p + 1) (by omega) (by omega),
      h (p + 2) (by omega) (by omega), h (p + 3) (by omega) (by omega)]
    rfl

/-- No more than the four bytes of a word are counted. -/
theorem patternBytes_le (tmp : UInt32) : patternBytes tmp ≤ 4 := by
  have hone : ∀ n, checkU32Pattern tmp n ≤ 1 := by
    intro n
    unfold checkU32Pattern
    split <;> simp
  have h₀ := hone 0
  have h₁ := hone 8
  have h₂ := hone 16
  have h₃ := hone 24
  unfold patternBytes
  omega

/-- The loop on the words ends behind the last one. -/
theorem wordLoop_fst (m : Mem) (left : ℕ) (h : p + 4 * words = q) :
    (wordLoop m q p left words).1 = q := by
  induction words generalizing p left with
  | zero => simpa [wordLoop] using h
  | succ words ih =>
      rw [wordLoop]
      split
      · split
        · assumption
        · exact ih _ (by omega)
      · exact ih _ (by omega)

/-- Words that are still the pattern are passed over. -/
theorem wordLoop_of_pattern (q left words : ℕ) {k : ℕ} (h : HoldsPattern m p (4 * k)) :
    wordLoop m q p left (k + words) = wordLoop m q (p + 4 * k) left words := by
  induction k generalizing p with
  | zero => rw [Nat.zero_add, Nat.mul_zero, Nat.add_zero]
  | succ k ih =>
      have hword : read32 m p = u32MemPattern := by
        refine read32_eq_u32MemPattern_iff.2 ?_
        intro i hi hlt
        exact h i hi (by omega)
      have hrest : HoldsPattern m (p + 4) (4 * k) := by
        intro i hi hlt
        exact h i (by omega) (by omega)
      have hnext : p + 4 + 4 * k = p + 4 * (k + 1) := by omega
      rw [Nat.add_right_comm, wordLoop, if_neg (not_not.2 hword), ih hrest, hnext]

/-- **What is counted is less than what the words take**: the last of them never counts. -/
theorem wordLoop_snd_le (m : Mem) (left : ℕ) (h : p + 4 * (words + 1) = q) :
    (wordLoop m q p left (words + 1)).2 ≤ left + 4 * words := by
  induction words generalizing p left with
  | zero =>
      have hlast : p + 4 = q := by omega
      rw [wordLoop, if_pos hlast]
      split <;> exact Nat.le_refl left
  | succ words ih =>
      have hlast : ¬ p + 4 = q := by omega
      rw [wordLoop, if_neg hlast]
      split
      · have hbytes := patternBytes_le (read32 m p)
        have hrest := @ih (p + 4) (left + patternBytes (read32 m p)) (by omega)
        omega
      · have hrest := @ih (p + 4) left (by omega)
        omega

/-- The loop on the bytes does not go back. -/
theorem le_byteLoop (m : Mem) (p left : ℕ) : p ≤ byteLoop m p left := by
  induction left generalizing p with
  | zero => exact Nat.le_refl p
  | succ left ih =>
      rw [byteLoop]
      split
      · exact (Nat.le_succ p).trans (ih _)
      · exact Nat.le_refl p

/-- It stops at the end, or at a byte that was overwritten; what is before is the pattern. -/
theorem byteLoop_spec (m : Mem) (p left : ℕ) : byteLoop m p left ≤ p + left ∧
    (∀ i, p ≤ i → i < byteLoop m p left → m i = u8Pattern) ∧
    (byteLoop m p left < p + left → m (byteLoop m p left) ≠ u8Pattern) := by
  induction left generalizing p with
  | zero =>
      rw [byteLoop]
      exact ⟨Nat.le_refl p, fun i hi hlt => by omega, fun hlt => by omega⟩
  | succ left ih =>
      rw [byteLoop]
      split
      · rename_i heq
        obtain ⟨hle, hall, hstop⟩ := ih (p + 1)
        refine ⟨by omega, ?_, fun hlt => hstop (by omega)⟩
        intro i hi hlt
        rcases Nat.eq_or_lt_of_le hi with rfl | hgt
        · exact heq
        · exact hall i hgt hlt
      · rename_i hne
        exact ⟨by omega, fun i hi hlt => by omega, fun _ => hne⟩

/-! ### The figure -/

/-- Without an overwritten word only the bytes behind the words tell the figure. -/
theorem getStackPeakUsage_eq (h : ∀ a, r.endAddr ≤ a → a < r.alignedEnd → m a = u8Pattern) :
    getStackPeakUsage r m = r.estack - byteLoop m r.alignedEnd (r.estack - r.alignedEnd) := by
  have hend := r.endAddr_add
  have hlt := r.estack_lt
  have hpattern : HoldsPattern m r.endAddr (4 * r.words) := by
    intro i hi hlt
    exact h i hi (by omega)
  have hloop := wordLoop_of_pattern r.alignedEnd 0 0 hpattern
  rw [Nat.add_zero, hend] at hloop
  rw [getStackPeakUsage, hloop]
  exact Nat.mod_eq_of_lt (by omega)

/-- **Without an overwritten word the figure is the peak.** -/
theorem getStackPeakUsage_of_pattern
    (h : ∀ a, r.endAddr ≤ a → a < r.alignedEnd → m a = u8Pattern) :
    ReportsPeak r m (getStackPeakUsage r m) := by
  have hle := r.alignedEnd_le
  obtain ⟨hbound, hbefore, hstop⟩ :=
    byteLoop_spec m r.alignedEnd (r.estack - r.alignedEnd)
  rw [getStackPeakUsage_eq h]
  constructor
  · rintro a ⟨hfrom, hto, hne, -⟩
    -- the bytes before the one at which the loop stops are the pattern
    have hge : byteLoop m r.alignedEnd (r.estack - r.alignedEnd) ≤ a := by
      by_contra hgt
      rcases Nat.lt_or_ge a r.alignedEnd with hword | hbyte
      · exact hne (h a hfrom hword)
      · exact hne (hbefore a hbyte (Nat.lt_of_not_le hgt))
    omega
  · intro hzero a hfrom hto
    rcases Nat.lt_or_ge a r.alignedEnd with hword | hbyte
    · exact h a hfrom hword
    · exact hbefore a hbyte (by omega)

/-- After the filling nothing is reported. -/
theorem getStackPeakUsage_fillStackWithPattern (r : StackRegion) (m : Mem) :
    getStackPeakUsage r (fillStackWithPattern r m) = 0 := by
  have hle := r.alignedEnd_le
  have hend := r.endAddr_add
  have hall : ∀ a, r.endAddr ≤ a → a < r.estack → fillStackWithPattern r m a = u8Pattern := by
    intro a hfrom hto
    rw [fillStackWithPattern_apply, if_pos ⟨hfrom, hto⟩]
  obtain ⟨hbound, -, hstop⟩ := byteLoop_spec (fillStackWithPattern r m) r.alignedEnd
    (r.estack - r.alignedEnd)
  rw [getStackPeakUsage_eq fun a hfrom hword => hall a hfrom (hword.trans_le hle)]
  have hge := le_byteLoop (fillStackWithPattern r m) r.alignedEnd (r.estack - r.alignedEnd)
  by_contra hpos
  exact hstop (by omega) (hall _ (by omega) (by omega))

/-- **With an overwritten word it is below the peak.** -/
theorem getStackPeakUsage_lt {a : ℕ} (h : IsLowest r m a) (hword : a < r.alignedEnd) :
    getStackPeakUsage r m < r.estack - a := by
  obtain ⟨hfrom, hto, hne, hlow⟩ := h
  have hend := r.endAddr_add
  have hle := r.alignedEnd_le
  have hlt := r.estack_lt
  -- `k` words are before the one of the lowest byte, and `words` behind it
  obtain ⟨k, hk⟩ : ∃ k, k = (a - r.endAddr) / 4 := ⟨_, rfl⟩
  obtain ⟨words, hwords⟩ := Nat.exists_eq_add_of_lt (show k < r.words by omega)
  have hpattern : HoldsPattern m r.endAddr (4 * k) := by
    intro i hi hlt
    exact hlow i hi (by omega)
  have hloop : wordLoop m r.alignedEnd r.endAddr 0 r.words =
      wordLoop m r.alignedEnd (r.endAddr + 4 * k) 0 (words + 1) := by
    rw [hwords, Nat.add_assoc, wordLoop_of_pattern _ _ _ hpattern]
  have hfst := wordLoop_fst m 0 hend
  have hsnd := wordLoop_snd_le m 0
    (show r.endAddr + 4 * k + 4 * (words + 1) = r.alignedEnd by omega)
  rw [← hloop] at hsnd
  have hbyte := le_byteLoop m r.alignedEnd (r.estack - r.alignedEnd)
  simp only [getStackPeakUsage, hfst]
  rw [Nat.mod_eq_of_lt (by omega)]
  omega

/-- The peak is reported only if no whole word was overwritten. -/
theorem pattern_of_reportsPeak (h : ReportsPeak r m (getStackPeakUsage r m)) {a : ℕ}
    (hfrom : r.endAddr ≤ a) (hword : a < r.alignedEnd) : m a = u8Pattern := by
  by_contra hne
  obtain ⟨b, hb, hlowest⟩ := exists_isLowest hfrom (hword.trans_le r.alignedEnd_le) hne
  have hlt := getStackPeakUsage_lt hlowest (hb.trans_lt hword)
  have hge := h.1 b hlowest
  omega

/-- **The peak is reported if and only if no whole word was overwritten.** -/
theorem reportsPeak_iff (r : StackRegion) (m : Mem) :
    ReportsPeak r m (getStackPeakUsage r m) ↔
      ∀ a, r.endAddr ≤ a → a < r.alignedEnd → m a = u8Pattern := by
  constructor
  · intro h a hfrom hword
    exact pattern_of_reportsPeak h hfrom hword
  · exact getStackPeakUsage_of_pattern

/-- The last word of the memory is overwritten, and zero is reported. -/
theorem not_reportsPeak : ¬ ∀ (r : StackRegion) (m : Mem),
    ReportsPeak r m (getStackPeakUsage r m) := by
  intro h
  have hbyte := pattern_of_reportsPeak
    (h ⟨0x2000F000, 0x20010000, by decide, by decide, by decide⟩
      (write (fillStackWithPattern ⟨0x2000F000, 0x20010000, by decide, by decide, by decide⟩
        fun _ => 0) 0x2000FFFC [0]))
    (a := 0x2000FFFC) (by decide) (by decide)
  exact absurd hbyte (by decide)

end Solar48
