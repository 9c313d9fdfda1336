/-
**Byte memories and little-endian words.**

A memory object is its contents by byte offset, a total function `ℕ → UInt8`.  Every copy a C
program makes is a `ByteMem.write` of a list of bytes at an offset, every fetch is a
`ByteMem.read`, and what a proof needs about either is proved here once: a write is seen inside
its range and nowhere else, adjacent writes join, a read splits at any point.

Words are little-endian.  `ByteMem.swapPairs` is the exchange of the two bytes of each half-word
of a byte string, the list form of what a `rev16` loop does to a buffer.

Main definitions:

* `ByteMem.read`, `ByteMem.write` — block fetch and block store;
* `ByteMem.lo`, `ByteMem.hi`, `ByteMem.le16` — a half-word and its two bytes;
* `ByteMem.bytes32`, `ByteMem.le32` — a word and its four bytes;
* `ByteMem.swapPairs` — exchanging the bytes of each half-word.

Main results:

* `ByteMem.write_append` — two adjacent writes are one;
* `ByteMem.read_write_self`, `ByteMem.read_write_of_le`, `ByteMem.read_write_of_ge` — what a read
  sees after a write;
* `ByteMem.swapPairs_append`, `ByteMem.swapPairs_swapPairs` — the exchange is local and involutive.
-/

import Mathlib.Algebra.Group.Nat.Defs
import Mathlib.Data.List.Basic
import Mathlib.Data.List.Induction
import Mathlib.Data.Nat.Notation
import Mathlib.Tactic.Common

set_option relaxedAutoImplicit false
set_option autoImplicit false

namespace ByteMem

/-- The contents of a memory object, by byte offset. -/
abbrev Mem := ℕ → UInt8

/-! ### Block reads and block writes -/

/-- The `n` bytes from offset `p` on. -/
def read (m : Mem) (p n : ℕ) : List UInt8 := (List.range n).map fun i => m (p + i)

/-- Storing the bytes `bs` from offset `p` on. -/
def write (m : Mem) (p : ℕ) (bs : List UInt8) : Mem := fun i =>
  if i < p then m i else bs.getD (i - p) (m i)

@[simp] theorem length_read (m : Mem) (p n : ℕ) : (read m p n).length = n := by simp [read]

@[simp] theorem getElem_read (m : Mem) (p n i : ℕ) (h : i < (read m p n).length) :
    (read m p n)[i] = m (p + i) := by simp [read]

@[simp] theorem read_zero (m : Mem) (p : ℕ) : read m p 0 = [] := rfl

theorem read_succ (m : Mem) (p n : ℕ) : read m p (n + 1) = m p :: read m (p + 1) n := by
  refine List.ext_getElem (by simp) ?_
  intro i h₁ h₂
  cases i with
  | zero => simp
  | succ i => simp [Nat.add_assoc, Nat.add_comm 1 i]

/-- A read splits at any point. -/
theorem read_add (m : Mem) (p k l : ℕ) : read m p (k + l) = read m p k ++ read m (p + k) l := by
  induction k generalizing p with
  | zero => simp
  | succ k ih =>
      have h : k + 1 + l = k + l + 1 := by omega
      rw [h, read_succ, read_succ, ih]
      simp [Nat.add_assoc, Nat.add_comm 1 k]

/-- The beginning of what is read. -/
theorem take_read (m : Mem) (p n k : ℕ) : (read m p n).take k = read m p (min k n) := by
  rw [read, ← List.map_take, List.take_range]
  rfl

/-- The rest of it. -/
theorem drop_read (m : Mem) (p n k : ℕ) : (read m p n).drop k = read m (p + k) (n - k) := by
  refine List.ext_getElem (by simp) ?_
  intro i h₁ h₂
  rw [List.getElem_drop, getElem_read, getElem_read, Nat.add_assoc]

/-- Two objects that agree on a range are read the same there. -/
theorem read_congr {m m' : Mem} {p n : ℕ} (h : ∀ i, p ≤ i → i < p + n → m i = m' i) :
    read m p n = read m' p n := by
  refine List.ext_getElem (by simp) ?_
  intro i h₁ h₂
  simp only [length_read] at h₁
  simp only [getElem_read]
  exact h _ (by omega) (by omega)

theorem write_of_lt (m : Mem) (p : ℕ) (bs : List UInt8) {i : ℕ} (h : i < p) :
    write m p bs i = m i := by simp [write, h]

theorem write_of_ge (m : Mem) (p : ℕ) (bs : List UInt8) {i : ℕ} (h : p + bs.length ≤ i) :
    write m p bs i = m i := by
  have hp : ¬ i < p := by omega
  have hl : bs.length ≤ i - p := by omega
  simp [write, hp, hl]

theorem write_getElem (m : Mem) (p : ℕ) (bs : List UInt8) {i : ℕ} (h : i < bs.length) :
    write m p bs (p + i) = bs[i] := by
  have hp : ¬ p + i < p := by omega
  simp [write, hp, h]

/-- The bytes that were stored are the same in every object. -/
theorem write_eq_write (m m' : Mem) {r : List UInt8} {i : ℕ} (h : i < r.length) :
    write m 0 r i = write m' 0 r i := by
  have h₀ := write_getElem m 0 r h
  have h₁ := write_getElem m' 0 r h
  rw [Nat.zero_add] at h₀ h₁
  rw [h₀, h₁]

@[simp] theorem write_nil (m : Mem) (p : ℕ) : write m p [] = m := by
  funext i
  simp [write]

/-- Two adjacent writes are one write of the joined bytes. -/
theorem write_append (m : Mem) (p : ℕ) (xs ys : List UInt8) :
    write (write m p xs) (p + xs.length) ys = write m p (xs ++ ys) := by
  funext i
  rcases Nat.lt_or_ge i p with hp | hp
  · rw [write_of_lt _ _ _ (by omega), write_of_lt _ _ _ hp, write_of_lt _ _ _ hp]
  · rcases Nat.lt_or_ge i (p + xs.length) with hx | hx
    · have hi : i - p < xs.length := by omega
      simp [write, hx, Nat.not_lt.2 hp, List.getElem?_append_left hi]
    · have hs : i - p - xs.length = i - (p + xs.length) := by omega
      have hpx : ¬ i < p := by omega
      have hl : xs.length ≤ i - p := by omega
      simp [write, Nat.not_lt.2 hx, hpx, hl, List.getElem?_append_right hl, hs]

/-- The same, when the second offset is only known to be the end of the first write. -/
theorem write_write_of_eq (m : Mem) (p q : ℕ) (xs ys : List UInt8) (h : q = p + xs.length) :
    write (write m p xs) q ys = write m p (xs ++ ys) := h ▸ write_append m p xs ys

/-- A write right before an earlier one joins it as well. -/
theorem write_write_before (m : Mem) (p q : ℕ) (xs ys : List UInt8) (h : q = p + xs.length) :
    write (write m q ys) p xs = write m p (xs ++ ys) := by
  rw [← write_write_of_eq m p q xs ys h]
  funext i
  rcases Nat.lt_or_ge i p with hp | hp
  · rw [write_of_lt _ _ _ hp, write_of_lt _ _ _ (by omega), write_of_lt _ _ _ (by omega),
      write_of_lt _ _ _ hp]
  rcases Nat.lt_or_ge i q with hq | hq
  · obtain ⟨k, rfl⟩ : ∃ k, i = p + k := ⟨i - p, by omega⟩
    rw [write_getElem _ _ _ (by omega), write_of_lt _ _ _ hq, write_getElem _ _ _ (by omega)]
  · have hge : write m p xs i = m i := write_of_ge _ _ _ (by omega)
    rw [write_of_ge _ _ _ (by omega)]
    simp only [write, if_neg (Nat.not_lt.2 hq)]
    exact congrArg _ hge.symm

/-- A write hides an earlier one of no greater length at the same place. -/
theorem write_write_same (m : Mem) (p : ℕ) {xs ys : List UInt8} (h : xs.length ≤ ys.length) :
    write (write m p xs) p ys = write m p ys := by
  funext i
  rcases Nat.lt_or_ge i p with hp | hp
  · rw [write_of_lt _ _ _ hp, write_of_lt _ _ _ hp, write_of_lt _ _ _ hp]
  · rcases Nat.lt_or_ge i (p + ys.length) with hy | hy
    · obtain ⟨k, rfl⟩ : ∃ k, i = p + k := ⟨i - p, by omega⟩
      rw [write_getElem _ _ _ (by omega), write_getElem _ _ _ (by omega)]
    · rw [write_of_ge _ _ _ hy, write_of_ge _ _ _ (by omega), write_of_ge _ _ _ hy]

/-- Rewriting the last part of a write with as many bytes. -/
theorem write_write_suffix (m : Mem) (p q : ℕ) (xs : List UInt8) {ys zs : List UInt8}
    (hq : q = p + xs.length) (h : ys.length = zs.length) :
    write (write m p (xs ++ ys)) q zs = write m p (xs ++ zs) := by
  rw [← write_write_of_eq m p q xs ys hq, write_write_same _ _ (Nat.le_of_eq h),
    write_write_of_eq m p q xs zs hq]

/-- Rewriting the first part of a write with as many bytes. -/
theorem write_write_prefix (m : Mem) (p : ℕ) {xs zs : List UInt8} (ys : List UInt8)
    (h : xs.length = zs.length) : write (write m p (xs ++ ys)) p zs = write m p (zs ++ ys) := by
  funext i
  rcases Nat.lt_or_ge i p with hp | hp
  · rw [write_of_lt _ _ _ hp, write_of_lt _ _ _ hp, write_of_lt _ _ _ hp]
  obtain ⟨k, rfl⟩ : ∃ k, i = p + k := ⟨i - p, by omega⟩
  rcases Nat.lt_or_ge k zs.length with hk | hk
  · rw [write_getElem _ _ _ hk, write_getElem _ _ _ (by simp; omega), List.getElem_append_left hk]
  · rw [write_of_ge _ _ _ (by omega)]
    simp [write, hk, List.getElem?_append_right, h]

/-- Reading back what was just written. -/
@[simp] theorem read_write_self (m : Mem) (p : ℕ) (bs : List UInt8) :
    read (write m p bs) p bs.length = bs := by
  refine List.ext_getElem (by simp) ?_
  intro i h₁ h₂
  rw [getElem_read, write_getElem _ _ _ h₂]

/-- A read below a write does not see it. -/
theorem read_write_of_le (m : Mem) (p : ℕ) (bs : List UInt8) {q n : ℕ} (h : q + n ≤ p) :
    read (write m p bs) q n = read m q n :=
  read_congr fun _ _ hi => write_of_lt _ _ _ (by omega)

/-- A read above a write does not see it. -/
theorem read_write_of_ge (m : Mem) (p : ℕ) (bs : List UInt8) {q n : ℕ} (h : p + bs.length ≤ q) :
    read (write m p bs) q n = read m q n :=
  read_congr fun _ hi _ => write_of_ge _ _ _ (by omega)

/-- A read from the start of a write, up to its end or before it. -/
theorem read_write_take (m : Mem) (p : ℕ) (bs : List UInt8) {n : ℕ} (h : n ≤ bs.length) :
    read (write m p bs) p n = bs.take n := by
  refine List.ext_getElem (by simp [h]) ?_
  intro i h₁ h₂
  simp only [length_read] at h₁
  rw [getElem_read, write_getElem _ _ _ (by omega), List.getElem_take]

/-- A read from inside a write to its end. -/
theorem read_write_suffix (m : Mem) (p q n : ℕ) (xs ys : List UInt8) (hq : q = p + xs.length)
    (hn : n = ys.length) : read (write m p (xs ++ ys)) q n = ys := by
  rw [← write_write_of_eq m p q xs ys hq, hn, read_write_self]

/-- Writing back what is there changes nothing. -/
@[simp] theorem write_read (m : Mem) (p n : ℕ) : write m p (read m p n) = m := by
  funext i
  rcases Nat.lt_or_ge i p with hp | hp
  · exact write_of_lt _ _ _ hp
  · rcases Nat.lt_or_ge i (p + n) with hn | hn
    · obtain ⟨k, rfl⟩ : ∃ k, i = p + k := ⟨i - p, by omega⟩
      rw [write_getElem _ _ _ (by simp; omega), getElem_read]
    · exact write_of_ge _ _ _ (by simpa using hn)

/-! ### Half-words and words -/

/-- The low byte of a half-word. -/
def lo (x : UInt16) : UInt8 := UInt8.ofNat x.toNat

/-- The high byte of a half-word. -/
def hi (x : UInt16) : UInt8 := UInt8.ofNat (x.toNat / 256)

/-- The half-word stored as the bytes `l`, `h`. -/
def le16 (l h : UInt8) : UInt16 := UInt16.ofNat (l.toNat + 256 * h.toNat)

@[simp] theorem toNat_lo (x : UInt16) : (lo x).toNat = x.toNat % 256 := by simp [lo]

@[simp] theorem toNat_hi (x : UInt16) : (hi x).toNat = x.toNat / 256 := by
  have := x.toNat_lt
  simp only [hi, UInt8.toNat_ofNat']
  omega

@[simp] theorem toNat_le16 (l h : UInt8) : (le16 l h).toNat = l.toNat + 256 * h.toNat := by
  have := l.toNat_lt
  have := h.toNat_lt
  simp only [le16, UInt16.toNat_ofNat']
  omega

@[simp] theorem le16_lo_hi (x : UInt16) : le16 (lo x) (hi x) = x := by
  refine UInt16.toNat_inj.1 ?_
  rw [toNat_le16, toNat_lo, toNat_hi]
  omega

@[simp] theorem lo_le16 (l h : UInt8) : lo (le16 l h) = l := by
  refine UInt8.toNat_inj.1 ?_
  have := l.toNat_lt
  rw [toNat_lo, toNat_le16]
  omega

@[simp] theorem hi_le16 (l h : UInt8) : hi (le16 l h) = h := by
  refine UInt8.toNat_inj.1 ?_
  have := l.toNat_lt
  rw [toNat_hi, toNat_le16]
  omega

/-- Two bytes make a half-word in one way only. -/
theorem le16_eq_iff {l h : UInt8} {x : UInt16} : le16 l h = x ↔ l = lo x ∧ h = hi x := by
  constructor
  · rintro rfl
    simp
  · rintro ⟨rfl, rfl⟩
    simp

/-- The bytes of a half-word in memory order. -/
def bytes16 (x : UInt16) : List UInt8 := [lo x, hi x]

/-- The bytes of a half-word in network order. -/
def beBytes16 (x : UInt16) : List UInt8 := [hi x, lo x]

@[simp] theorem length_bytes16 (x : UInt16) : (bytes16 x).length = 2 := rfl

@[simp] theorem length_beBytes16 (x : UInt16) : (beBytes16 x).length = 2 := rfl

/-- The half-word at offset `p`. -/
def read16 (m : Mem) (p : ℕ) : UInt16 := le16 (m p) (m (p + 1))

/-- The word stored as the bytes `a`, `b`, `c`, `d`. -/
def le32 (a b c d : UInt8) : UInt32 :=
  UInt32.ofNat (a.toNat + 256 * (b.toNat + 256 * (c.toNat + 256 * d.toNat)))

/-- Byte `k` of a word, counted from the least significant one. -/
def byte32 (x : UInt32) (k : ℕ) : UInt8 := UInt8.ofNat (x.toNat / 256 ^ k)

/-- The bytes of a word in memory order. -/
def bytes32 (x : UInt32) : List UInt8 := [byte32 x 0, byte32 x 1, byte32 x 2, byte32 x 3]

@[simp] theorem length_bytes32 (x : UInt32) : (bytes32 x).length = 4 := rfl

@[simp] theorem toNat_le32 (a b c d : UInt8) : (le32 a b c d).toNat =
    a.toNat + 256 * (b.toNat + 256 * (c.toNat + 256 * d.toNat)) := by
  have := a.toNat_lt
  have := b.toNat_lt
  have := c.toNat_lt
  have := d.toNat_lt
  simp only [le32, UInt32.toNat_ofNat']
  omega

@[simp] theorem bytes32_le32 (a b c d : UInt8) : bytes32 (le32 a b c d) = [a, b, c, d] := by
  have := a.toNat_lt
  have := b.toNat_lt
  have := c.toNat_lt
  have := d.toNat_lt
  simp only [bytes32, byte32, toNat_le32, List.cons.injEq, and_true]
  refine ⟨?_, ?_, ?_, ?_⟩ <;> refine UInt8.toNat_inj.1 ?_ <;> rw [UInt8.toNat_ofNat'] <;> omega

/-- The word at offset `p`. -/
def read32 (m : Mem) (p : ℕ) : UInt32 := le32 (m p) (m (p + 1)) (m (p + 2)) (m (p + 3))

/-- A word is zero when its bytes are. -/
theorem read32_eq_zero_iff (m : Mem) (p : ℕ) :
    read32 m p = 0 ↔ m p = 0 ∧ m (p + 1) = 0 ∧ m (p + 2) = 0 ∧ m (p + 3) = 0 := by
  simp only [read32, ← UInt32.toNat_inj, ← UInt8.toNat_inj, toNat_le32, UInt8.toNat_zero,
    UInt32.toNat_zero]
  omega

/-! ### Exchanging the bytes of each half-word -/

/-- Exchanging the two bytes of each half-word of a byte string; an odd last byte stays. -/
def swapPairs : List UInt8 → List UInt8
  | a :: b :: bs => b :: a :: swapPairs bs
  | bs => bs

@[simp] theorem swapPairs_nil : swapPairs [] = [] := rfl

@[simp] theorem swapPairs_cons_cons (a b : UInt8) (bs : List UInt8) :
    swapPairs (a :: b :: bs) = b :: a :: swapPairs bs := rfl

@[simp] theorem length_swapPairs (bs : List UInt8) : (swapPairs bs).length = bs.length := by
  induction bs using List.twoStepInduction with
  | nil | singleton a => rfl
  | cons_cons a b bs ih _ => simp [ih]

/-- The exchange acts on each part of a string that is cut between half-words. -/
theorem swapPairs_append {xs : List UInt8} (h : xs.length % 2 = 0) (ys : List UInt8) :
    swapPairs (xs ++ ys) = swapPairs xs ++ swapPairs ys := by
  induction xs using List.twoStepInduction with
  | nil => rfl
  | singleton a => simp at h
  | cons_cons a b bs ih _ =>
      have hbs : bs.length % 2 = 0 := by simp at h; omega
      simp [ih hbs]

/-- The exchange undoes itself. -/
@[simp] theorem swapPairs_swapPairs (bs : List UInt8) : swapPairs (swapPairs bs) = bs := by
  induction bs using List.twoStepInduction with
  | nil | singleton a => rfl
  | cons_cons a b bs ih _ => simp [ih]

/-- The bytes of a half-word, exchanged. -/
theorem getElem?_swapPairs {bs : List UInt8} {i : ℕ} (h : 2 * i + 1 < bs.length) :
    (swapPairs bs)[2 * i]? = bs[2 * i + 1]? ∧ (swapPairs bs)[2 * i + 1]? = bs[2 * i]? := by
  induction bs using List.twoStepInduction generalizing i with
  | nil | singleton a => simp at h
  | cons_cons a b bs ih _ =>
      cases i with
      | zero => exact ⟨rfl, rfl⟩
      | succ i =>
          have hi : 2 * i + 1 < bs.length := by
            simp only [List.length_cons] at h
            omega
          have hmul : 2 * (i + 1) = 2 * i + 2 := by omega
          rw [swapPairs_cons_cons, hmul]
          exact ih hi

/-- An odd last byte is not part of a half-word. -/
theorem swapPairs_append_drop (bs : List UInt8) :
    swapPairs (bs.take (2 * (bs.length / 2))) ++ bs.drop (2 * (bs.length / 2)) = swapPairs bs := by
  have htake : (bs.take (2 * (bs.length / 2))).length % 2 = 0 := by
    rw [List.length_take]
    omega
  have hdrop : (bs.drop (2 * (bs.length / 2))).length ≤ 1 := by
    rw [List.length_drop]
    omega
  conv_rhs => rw [← List.take_append_drop (2 * (bs.length / 2)) bs, swapPairs_append htake]
  match bs.drop (2 * (bs.length / 2)), hdrop with
  | [], _ => rfl
  | [_], _ => rfl

/-- Exchanging in place the last part of what was written. -/
theorem write_swapPairs_read (m : Mem) (p q n : ℕ) (xs ys : List UInt8) (hq : q = p + xs.length)
    (hn : n = ys.length) :
    write (write m p (xs ++ ys)) q (swapPairs (read (write m p (xs ++ ys)) q n)) =
      write m p (xs ++ swapPairs ys) := by
  rw [read_write_suffix m p q n xs ys hq hn, write_write_suffix m p q xs hq (by simp)]

/-- Exchanging in place: each half-word has its two bytes exchanged. -/
theorem write_swapPairs_apply (m : Mem) (p : ℕ) {n i : ℕ} (h : i < n) :
    write m p (swapPairs (read m p (2 * n))) (p + 2 * i) = m (p + 2 * i + 1) ∧
      write m p (swapPairs (read m p (2 * n))) (p + 2 * i + 1) = m (p + 2 * i) := by
  have hlen : (swapPairs (read m p (2 * n))).length = 2 * n := by simp
  have hin : 2 * i + 1 < (read m p (2 * n)).length := by rw [length_read]; omega
  obtain ⟨heven, hodd⟩ := getElem?_swapPairs hin
  rw [List.getElem?_eq_getElem (by omega), List.getElem?_eq_getElem (by rw [length_read]; omega),
    Option.some.injEq, getElem_read] at heven hodd
  constructor
  · rw [write_getElem _ _ _ (by omega), heven, Nat.add_assoc]
  · rw [Nat.add_assoc, write_getElem _ _ _ (by omega), hodd]

/-- Exchanging twice. -/
theorem write_swapPairs_write_swapPairs (m : Mem) (p n : ℕ) :
    write (write m p (swapPairs (read m p n))) p
      (swapPairs (read (write m p (swapPairs (read m p n))) p n)) = m := by
  have hread : read (write m p (swapPairs (read m p n))) p n = swapPairs (read m p n) := by
    have h := read_write_self m p (swapPairs (read m p n))
    rwa [length_swapPairs, length_read] at h
  rw [hread, swapPairs_swapPairs, write_write_same _ _ (by simp), write_read]

end ByteMem
