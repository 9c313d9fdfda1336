/-
**Black and white images in pages of eight rows.**

A display of this kind keeps a byte for each column of a page, and the bit `y % 8` of the byte is
the pixel in row `y`.  Setting one pixel is a read, an `or` or an `and`, and a write, on a byte that
holds seven others; what is shown here is that the others do not notice, and so that **a box that is
drawn pixel by pixel is drawn, and nothing else** (`PagedImage.pixel_drawBox`).

Main definitions:

* `PagedImage.pixel`, `PagedImage.setPixel` — one pixel;
* `PagedImage.drawBox` — a box, row by row;
* `PagedImage.InBox` — the pixels of a box.
-/

import Mathlib.Data.Nat.Bitwise
import Mathlib.Logic.Function.Basic

set_option relaxedAutoImplicit false
set_option autoImplicit false

namespace PagedImage

variable {w : ℕ} {buf : ℕ → UInt8} {x y x' y' x₀ y₀ i j rows cols : ℕ}

/-! ### One pixel -/

/-- The place of a pixel's byte in an image of width `w`. -/
def index (w x y : ℕ) : ℕ := x + y / 8 * w

/-- The pixel in column `x` of row `y`. -/
def pixel (w : ℕ) (buf : ℕ → UInt8) (x y : ℕ) : Bool := (buf (index w x y)).toNat.testBit (y % 8)

/-- The byte with one bit set. -/
def bitMask (y : ℕ) : UInt8 := 1 <<< UInt8.ofNat (y % 8)

/-- Sets a pixel, or clears it. -/
def setPixel (w : ℕ) (buf : ℕ → UInt8) (x y : ℕ) (on : Bool) : ℕ → UInt8 :=
  Function.update buf (index w x y)
    (if on then buf (index w x y) ||| bitMask y else buf (index w x y) &&& ~~~bitMask y)

theorem toNat_bitMask (y : ℕ) : (bitMask y).toNat = 2 ^ (y % 8) := by
  have hlt : y % 8 < 8 := Nat.mod_lt y (by decide)
  have hmask : ∀ k < 8, ((1 : UInt8) <<< UInt8.ofNat k).toNat = 2 ^ k := by decide
  exact hmask _ hlt

/-- Two pixels within the width share a byte only in one column of one page. -/
theorem index_inj (hx : x < w) (hx' : x' < w) :
    index w x y = index w x' y' ↔ x = x' ∧ y / 8 = y' / 8 := by
  refine ⟨fun h => ?_, fun ⟨h, h'⟩ => by rw [index, index, h, h']⟩
  have hw : 0 < w := by omega
  have hmod := congrArg (· % w) h
  have hdiv := congrArg (· / w) h
  simp only [index, Nat.add_mul_mod_self_right, Nat.mod_eq_of_lt hx, Nat.mod_eq_of_lt hx'] at hmod
  simp only [index, Nat.add_mul_div_right _ _ hw, Nat.div_eq_of_lt hx, Nat.div_eq_of_lt hx',
    Nat.zero_add] at hdiv
  exact ⟨hmod, hdiv⟩

/-- A bit of a byte with one bit set or cleared. -/
theorem testBit_setBit (b : UInt8) (on : Bool) (hk : i < 8) :
    (if on then b ||| bitMask y else b &&& ~~~bitMask y).toNat.testBit i =
      if i = y % 8 then on else b.toNat.testBit i := by
  cases on with
  | true =>
      rw [if_pos rfl, UInt8.toNat_or, Nat.testBit_or, toNat_bitMask, Nat.testBit_two_pow]
      by_cases h : i = y % 8
      · simp [h]
      · simp [h, Ne.symm h]
  | false =>
      have hnot : (~~~bitMask y).toNat = 2 ^ 8 - (2 ^ (y % 8) + 1) := by
        rw [UInt8.toNat_not, toNat_bitMask, UInt8.size]
        omega
      rw [if_neg Bool.false_ne_true, UInt8.toNat_and, Nat.testBit_and, hnot,
        Nat.testBit_two_pow_sub_succ (Nat.pow_lt_pow_right (by decide) (Nat.mod_lt y (by decide))),
        Nat.testBit_two_pow]
      by_cases h : i = y % 8
      · simp [h]
      · simp [h, Ne.symm h, hk]

/-- **Setting a pixel sets that pixel.** -/
theorem pixel_setPixel (on : Bool) (hx : x < w) (hx' : x' < w) :
    pixel w (setPixel w buf x y on) x' y' =
      if x' = x ∧ y' = y then on else pixel w buf x' y' := by
  unfold pixel setPixel
  by_cases hindex : index w x' y' = index w x y
  · obtain ⟨rfl, hpage⟩ := (index_inj hx' hx).1 hindex
    rw [hindex, Function.update_self, testBit_setBit _ _ (Nat.mod_lt y' (by decide))]
    by_cases hy : y' = y
    · rw [hy, if_pos rfl, if_pos ⟨rfl, rfl⟩]
    · rw [if_neg (by omega), if_neg fun h => hy h.2]
  · have hne : ¬ (x' = x ∧ y' = y) := by
      rintro ⟨rfl, rfl⟩
      exact hindex rfl
    rw [Function.update_of_ne hindex, if_neg hne]

/-! ### Boxes -/

/-- The pixels of a box. -/
def InBox (x₀ y₀ cols rows x y : ℕ) : Prop :=
  (x₀ ≤ x ∧ x < x₀ + cols) ∧ y₀ ≤ y ∧ y < y₀ + rows

instance (x₀ y₀ cols rows x y : ℕ) : Decidable (InBox x₀ y₀ cols rows x y) :=
  inferInstanceAs (Decidable (_ ∧ _))

/-- One row of a box, from left to right. -/
def drawRow (w : ℕ) (ink : ℕ → Bool) (x₀ y cols : ℕ) (buf : ℕ → UInt8) : ℕ → UInt8 :=
  (List.range cols).foldl (fun buf j => setPixel w buf (x₀ + j) y (ink j)) buf

/-- A box, from the top down; `ink i j` is the pixel in row `i` and column `j` of it. -/
def drawBox (w : ℕ) (ink : ℕ → ℕ → Bool) (x₀ y₀ cols rows : ℕ) (buf : ℕ → UInt8) : ℕ → UInt8 :=
  (List.range rows).foldl (fun buf i => drawRow w (ink i) x₀ (y₀ + i) cols buf) buf

theorem pixel_drawRow (ink : ℕ → Bool) (hw : x₀ + cols ≤ w) (hx : x < w) :
    pixel w (drawRow w ink x₀ y₀ cols buf) x y =
      if (x₀ ≤ x ∧ x < x₀ + cols) ∧ y = y₀ then ink (x - x₀) else pixel w buf x y := by
  induction cols with
  | zero => rw [if_neg (by omega)]; rfl
  | succ cols ih =>
      have hstep : drawRow w ink x₀ y₀ (cols + 1) buf =
          setPixel w (drawRow w ink x₀ y₀ cols buf) (x₀ + cols) y₀ (ink cols) := by
        rw [drawRow, List.range_succ, List.foldl_append]
        rfl
      rw [hstep, pixel_setPixel _ (by omega) hx, ih (by omega)]
      by_cases hlast : x = x₀ + cols ∧ y = y₀
      · rw [if_pos hlast, if_pos (by omega), hlast.1, Nat.add_sub_cancel_left]
      · rw [if_neg hlast]
        exact if_congr (by omega) rfl rfl

/-- **A box that is drawn pixel by pixel is drawn, and nothing else.** -/
theorem pixel_drawBox (ink : ℕ → ℕ → Bool) (hw : x₀ + cols ≤ w) (hx : x < w) :
    pixel w (drawBox w ink x₀ y₀ cols rows buf) x y =
      if InBox x₀ y₀ cols rows x y then ink (y - y₀) (x - x₀) else pixel w buf x y := by
  induction rows with
  | zero => rw [if_neg (by unfold InBox; omega)]; rfl
  | succ rows ih =>
      have hstep : drawBox w ink x₀ y₀ cols (rows + 1) buf =
          drawRow w (ink rows) x₀ (y₀ + rows) cols (drawBox w ink x₀ y₀ cols rows buf) := by
        rw [drawBox, List.range_succ, List.foldl_append]
        rfl
      rw [hstep, pixel_drawRow _ hw hx, ih]
      by_cases hlast : (x₀ ≤ x ∧ x < x₀ + cols) ∧ y = y₀ + rows
      · rw [if_pos hlast, if_pos (by unfold InBox; omega), hlast.2, Nat.add_sub_cancel_left]
      · rw [if_neg hlast]
        exact if_congr (by unfold InBox; omega) rfl rfl

/-! ### The bytes that are touched -/

/-- The bytes of an image of `pages` pages. -/
theorem index_lt {pages : ℕ} (hx : x < w) (hy : y < 8 * pages) : index w x y < w * pages := by
  have hpage : y / 8 + 1 ≤ pages := by omega
  calc index w x y < w + y / 8 * w := Nat.add_lt_add_right hx _
    _ = (y / 8 + 1) * w := by rw [Nat.succ_mul, Nat.add_comm]
    _ ≤ pages * w := Nat.mul_le_mul_right w hpage
    _ = w * pages := Nat.mul_comm _ _

theorem drawRow_of_ge {pages : ℕ} (ink : ℕ → Bool) (hw : x₀ + cols ≤ w) (hy : y < 8 * pages)
    (hi : w * pages ≤ i) : drawRow w ink x₀ y cols buf i = buf i := by
  induction cols with
  | zero => rfl
  | succ cols ih =>
      rw [drawRow, List.range_succ, List.foldl_append]
      have hne : i ≠ index w (x₀ + cols) y :=
        (Nat.lt_of_lt_of_le (index_lt (by omega) hy) hi).ne'
      exact (Function.update_of_ne hne _ _).trans (ih (by omega))

/-- Nothing behind the image is touched. -/
theorem drawBox_of_ge (pages : ℕ) (ink : ℕ → ℕ → Bool) (hw : x₀ + cols ≤ w)
    (hy : y₀ + rows ≤ 8 * pages) (hi : w * pages ≤ i) :
    drawBox w ink x₀ y₀ cols rows buf i = buf i := by
  induction rows with
  | zero => rfl
  | succ rows ih =>
      rw [drawBox, List.range_succ, List.foldl_append]
      exact (drawRow_of_ge _ hw (by omega) hi).trans (ih (by omega))

end PagedImage
