/-
**The pixels of a text.**

`Solar48/OledText.lean` says which characters of a text are passed to `ssd1306_WriteChar`.  Here
they are drawn: the screen has a buffer of one bit for each pixel, `ssd1306_DrawPixel` sets or
clears a bit, and `ssd1306_WriteChar` does so for the glyph of a character, if there is room for it.

What `_oled_cursor_printf` shows can be said without the buffer and the cursor: the lines of the
text, each filled up with blanks, lie below one another, and of each line those characters are there
that have room (`Solar48.Image.lines`).  **The image in the buffer is that one**
(`Solar48.image_drawText`), and the glyphs are where they should be, with nothing else changed
(`Solar48.Image.row_apply_cell`, `Solar48.Image.row_apply_of_forall_not`).

Main definitions:

* `Solar48.Ssd1306` — the screen and its buffer;
* `Solar48.Ssd1306.drawPixel`, `Solar48.Ssd1306.writeChar`, `Solar48.drawText` — the code;
* `Solar48.Image`, `Solar48.Image.row`, `Solar48.Image.lines` — what a text looks like.
-/

import Solar48.OledText
import Solar48.PagedImage

set_option relaxedAutoImplicit false
set_option autoImplicit false

namespace Solar48

open ByteMem PagedImage

/-! ### The code -/

/-- `SSD1306_t`, and `SSD1306_Buffer`. -/
structure Ssd1306 where
  /-- `CurrentX`. -/
  currentX : UInt16
  /-- `CurrentY`. -/
  currentY : UInt16
  /-- `Inverted`. -/
  inverted : Bool
  /-- `Initialized`. -/
  initialized : Bool
  /-- `SSD1306_Buffer`. -/
  buffer : Mem

/-- `(SSD1306_COLOR)!color`. -/
def Ssd1306Color.not : Ssd1306Color → Ssd1306Color
  | .black => .white
  | .white => .black

/-- `(b << j) & 0x8000`, of an entry `b` of the table of the font. -/
def glyphBit (font : FontDef) (data : ℕ → UInt16) (ch : UInt8) (i j : ℕ) : Bool :=
  ((data (glyphIndex font ch i)).toUInt32 <<< UInt32.ofNat j) &&& 0x8000 != 0

namespace Ssd1306

/-- `ssd1306_DrawPixel`. -/
def drawPixel (x y : UInt8) (color : Ssd1306Color) (s : Ssd1306) : Ssd1306 :=
  if ssd1306Width ≤ x.toNat ∨ ssd1306Height ≤ y.toNat then s
  else
    let color := if s.inverted then color.not else color
    { s with buffer := setPixel ssd1306Width s.buffer x.toNat y.toNat (color == .white) }

/-- The two loops of `ssd1306_WriteChar`. -/
def drawGlyph (ch : UInt8) (font : FontDef) (data : ℕ → UInt16) (color : Ssd1306Color)
    (s : Ssd1306) : Ssd1306 :=
  (List.range font.fontHeight.toNat).foldl (fun s i =>
    (List.range font.fontWidth.toNat).foldl (fun s j =>
      s.drawPixel (UInt8.ofNat (s.currentX.toNat + j)) (UInt8.ofNat (s.currentY.toNat + i))
        (if glyphBit font data ch i j then color else color.not)) s) s

/-- `ssd1306_WriteChar`: the screen, and the character if there was room for it. -/
def writeChar (ch : UInt8) (font : FontDef) (data : ℕ → UInt16) (color : Ssd1306Color)
    (s : Ssd1306) : Ssd1306 × UInt8 :=
  if ssd1306Width ≤ s.currentX.toNat + font.fontWidth.toNat ∨
      ssd1306Height ≤ s.currentY.toNat + font.fontHeight.toNat then (s, 0)
  else
    let s := s.drawGlyph ch font data color
    ({ s with currentX := s.currentX + font.fontWidth.toUInt16 }, ch)

/-- `ssd1306_SetCursor`. -/
def setCursor (x y : UInt8) (s : Ssd1306) : Ssd1306 :=
  { s with currentX := x.toUInt16, currentY := y.toUInt16 }

/-- `ssd1306_Fill`: every byte of the buffer. -/
def fill (color : Ssd1306Color) (s : Ssd1306) : Ssd1306 :=
  let byte : UInt8 := if color == .black then 0x00 else 0xFF
  let bytes := List.replicate (ssd1306Width * ssd1306Height / 8) byte
  { s with buffer := write s.buffer 0 bytes }

/-- `ssd1306_InvertColors`. -/
def invertColors (s : Ssd1306) : Ssd1306 := { s with inverted := !s.inverted }

end Ssd1306

/-- The variables of the loop of `_oled_cursor_printf`. -/
structure DrawLoop where
  screen : Ssd1306
  /-- `space_count`, an `int16_t`; a request has at most 64 characters, and so it does not wrap -/
  spaceCount : ℤ
  y : UInt8

/-- `while (space_count > 0)`: so many blanks. -/
def drawSpaces (data : ℕ → UInt16) (print : OledCursorPrintf) : ℕ → Ssd1306 → Ssd1306
  | 0, s => s
  | count + 1, s => drawSpaces data print count (s.writeChar 0x20 print.font data print.color).1

/-- One character of the text. -/
def drawChar (data : ℕ → UInt16) (print : OledCursorPrintf) (fill : ℤ) (c : UInt8)
    (l : DrawLoop) : DrawLoop :=
  if c ≠ 0x0A then
    { l with
      screen := (l.screen.writeChar c print.font data print.color).1
      spaceCount := l.spaceCount - 1 }
  else
    let y := l.y + (print.font.fontHeight + 1)
    { screen := (drawSpaces data print l.spaceCount.toNat l.screen).setCursor 0 y
      spaceCount := fill
      y }

/-- `while (n > 0)`; none if it reads behind the text. -/
def drawLoop (data : ℕ → UInt16) (print : OledCursorPrintf) (fill : ℤ) :
    List UInt8 → ℕ → DrawLoop → Option DrawLoop
  | _, 0, l => some l
  | [], _ + 1, _ => none
  | c :: p, n + 1, l => drawLoop data print fill p n (drawChar data print fill c l)

/-- `fill_with_spaces`. -/
def fillWithSpaces (print : OledCursorPrintf) : ℕ :=
  if print.x.toNat < ssd1306Width then print.font.charPerLine.toNat else 0

/-- What `_oled_cursor_printf` does to the buffer: the text, and blanks behind it. -/
def drawText (data : ℕ → UInt16) (print : OledCursorPrintf) (s : Ssd1306) : Option Ssd1306 :=
  (drawLoop data print (fillWithSpaces print) print.text print.size
    ⟨s.setCursor print.x print.y, fillWithSpaces print, print.y⟩).map
      fun l => drawSpaces data print l.spaceCount.toNat l.screen

/-! ### What a text looks like -/

/-- Which pixels are lit, by column and row. -/
abbrev Image := ℕ → ℕ → Bool

/-- The image in the buffer; nothing is lit outside of the screen. -/
def Ssd1306.image (s : Ssd1306) : Image := fun px py =>
  decide (px < ssd1306Width ∧ py < ssd1306Height) && pixel ssd1306Width s.buffer px py

/-- How characters look: their size, and their pixels by row and column. -/
structure Lettering where
  width : ℕ
  height : ℕ
  ink : UInt8 → ℕ → ℕ → Bool

/-- The characters of a font in a colour, on a screen that is inverted or not: the glyph has the
colour, and its ground the other one. -/
def lettering (font : FontDef) (data : ℕ → UInt16) (color : Ssd1306Color) (inverted : Bool) :
    Lettering where
  width := font.fontWidth.toNat
  height := font.fontHeight.toNat
  ink c i j := (glyphBit font data c i j == (color == .white)) ^^ inverted

/-- The first line of a text, and the lines behind it. -/
def splitLines : List UInt8 → List UInt8 × List (List UInt8)
  | [] => ([], [])
  | c :: p =>
      let (l, ls) := splitLines p
      if c = 0x0A then ([], l :: ls) else (c :: l, ls)

namespace Image

variable (L : Lettering)

/-- A character in the box whose upper left corner is `(x, y)`. -/
def glyph (x y : ℕ) (c : UInt8) (img : Image) : Image := fun px py =>
  if InBox x y L.width L.height px py then L.ink c (py - y) (px - x) else img px py

/-- There is room for a character at `(x, y)`. -/
def Fits (x y : ℕ) : Prop := x + L.width < ssd1306Width ∧ y + L.height < ssd1306Height

instance (x y : ℕ) : Decidable (Fits L x y) := inferInstanceAs (Decidable (_ ∧ _))

/-- Characters beside one another, from column `x` on; one that has no room is left out. -/
def row (x y : ℕ) : List UInt8 → Image → Image
  | [], img => img
  | c :: cs, img => if Fits L x y then row (x + L.width) y cs (glyph L x y c img)
      else row x y cs img

/-- A line that is filled up with blanks. -/
def padded (perLine : ℕ) (l : List UInt8) : List UInt8 :=
  l ++ List.replicate (perLine - l.length) 0x20

/-- Lines at the left, below one in row `y`. -/
def below (perLine : ℕ) (y : UInt8) : List (List UInt8) → Image → Image
  | [], img => img
  | l :: ls, img =>
      let y := y + UInt8.ofNat (L.height + 1)
      below perLine y ls (row L 0 y.toNat (padded perLine l) img)

/-- A text: its first line starts at `(x, y)`. -/
def lines (perLine x : ℕ) (y : UInt8) (text : List UInt8 × List (List UInt8)) (img : Image) :
    Image :=
  below L perLine y text.2 (row L x y.toNat (padded perLine text.1) img)

/-- Without room nothing is drawn. -/
theorem row_of_not_fits {x y : ℕ} (h : ¬ Fits L x y) (cs : List UInt8) (img : Image) :
    row L x y cs img = img := by
  induction cs with
  | nil => rfl
  | cons c cs ih => rw [row, if_neg h, ih]

/-- **Each character that has room is in its cell.** -/
theorem row_apply_cell {cs : List UInt8} {k : ℕ} (hk : k < cs.length) {x y : ℕ}
    (hfits : Fits L (x + k * L.width) y) (img : Image) {px py : ℕ}
    (hbox : InBox (x + k * L.width) y L.width L.height px py) :
    row L x y cs img px py = L.ink (cs[k]) (py - y) (px - (x + k * L.width)) := by
  induction cs generalizing x k img with
  | nil => cases hk
  | cons c cs ih =>
      have hfirst : Fits L x y := ⟨by have := hfits.1; omega, hfits.2⟩
      rw [row, if_pos hfirst]
      cases k with
      | zero =>
          rw [Nat.zero_mul, Nat.add_zero] at hbox ⊢
          -- the characters behind it lie to the right
          have hright : ∀ (x' : ℕ) (cs : List UInt8) (img : Image), px < x' →
              row L x' y cs img px py = img px py := by
            intro x' cs
            induction cs generalizing x' with
            | nil => exact fun _ _ => rfl
            | cons d cs ih =>
                intro img hx'
                rw [row]
                split
                · rw [ih _ _ (by omega), glyph, if_neg fun hin => by have := hin.1.1; omega]
                · exact ih _ _ hx'
          rw [hright _ _ _ hbox.1.2, glyph, if_pos hbox]
          rfl
      | succ k =>
          have hx : x + (k + 1) * L.width = x + L.width + k * L.width := by
            rw [Nat.succ_mul]
            omega
          rw [hx] at hfits hbox ⊢
          exact ih (Nat.lt_of_succ_lt_succ hk) hfits _ hbox

/-- **A pixel outside of the cells is as it was.** -/
theorem row_apply_of_forall_not {cs : List UInt8} {x y : ℕ} (img : Image) {px py : ℕ}
    (h : ∀ k < cs.length, Fits L (x + k * L.width) y →
      ¬ InBox (x + k * L.width) y L.width L.height px py) :
    row L x y cs img px py = img px py := by
  induction cs generalizing x img with
  | nil => rfl
  | cons c cs ih =>
      by_cases hfits : Fits L x y
      · have hzero := h 0 (Nat.succ_pos _)
        rw [Nat.zero_mul, Nat.add_zero] at hzero
        rw [row, if_pos hfits, ih, glyph, if_neg (hzero hfits)]
        intro k hk
        have hx : x + (k + 1) * L.width = x + L.width + k * L.width := by
          rw [Nat.succ_mul]
          omega
        have hsucc := h (k + 1) (Nat.succ_lt_succ hk)
        rwa [hx] at hsucc
      · rw [row_of_not_fits L hfits]

end Image

/-! ### The glyph of a character -/

variable {font : FontDef} {data : ℕ → UInt16} {color : Ssd1306Color} {s : Ssd1306}

/-- What an inverted screen does to a colour. -/
theorem ite_not_eq_white (inverted bit : Bool) (color : Ssd1306Color) :
    ((if inverted then (if bit then color else color.not).not
      else (if bit then color else color.not)) == .white) =
        ((bit == (color == .white)) ^^ inverted) := by
  cases inverted <;> cases bit <;> cases color <;> rfl

/-- The screen with another buffer. -/
def Ssd1306.withBuffer (s : Ssd1306) (buffer : Mem) : Ssd1306 := { s with buffer }

/-- The pixel that `ssd1306_DrawPixel` stores for a bit of a glyph. -/
def Ssd1306.inkOf (s : Ssd1306) (color : Ssd1306Color) (bit : Bool) : Bool :=
  (bit == (color == .white)) ^^ s.inverted

theorem Ssd1306.drawPixel_eq {x y : ℕ} (hx : x < ssd1306Width) (hy : y < ssd1306Height)
    (bit : Bool) (color : Ssd1306Color) (s : Ssd1306) :
    s.drawPixel (UInt8.ofNat x) (UInt8.ofNat y) (if bit then color else color.not) =
      s.withBuffer (setPixel ssd1306Width s.buffer x y (s.inkOf color bit)) := by
  have hx' : (UInt8.ofNat x).toNat = x := UInt8.toNat_ofNat_of_lt' (by
    unfold ssd1306Width at hx
    rw [UInt8.size]
    omega)
  have hy' : (UInt8.ofNat y).toNat = y := UInt8.toNat_ofNat_of_lt' (by
    unfold ssd1306Height at hy
    rw [UInt8.size]
    omega)
  rw [drawPixel, hx', hy', if_neg (by omega), inkOf, ← ite_not_eq_white]
  rfl

/-- The inner loop of `ssd1306_WriteChar` draws a row of the box. -/
theorem foldl_drawPixel (bit : ℕ → Bool) {i cols : ℕ} (s : Ssd1306)
    (hx : s.currentX.toNat + cols ≤ ssd1306Width) (hy : s.currentY.toNat + i < ssd1306Height) :
    (List.range cols).foldl (fun s j =>
        s.drawPixel (UInt8.ofNat (s.currentX.toNat + j)) (UInt8.ofNat (s.currentY.toNat + i))
          (if bit j then color else color.not)) s =
      s.withBuffer (drawRow ssd1306Width (fun j => s.inkOf color (bit j)) s.currentX.toNat
        (s.currentY.toNat + i) cols s.buffer) := by
  induction cols with
  | zero => rfl
  | succ cols ih =>
      rw [List.range_succ, List.foldl_append, ih (by omega), List.foldl_cons, List.foldl_nil, drawRow,
        drawRow, List.range_succ, List.foldl_append]
      have hlast : s.currentX.toNat + cols < ssd1306Width := by omega
      exact Ssd1306.drawPixel_eq hlast hy (bit cols) color (s.withBuffer _)

/-- The outer loop draws the box. -/
theorem foldl_drawRow (bit : ℕ → ℕ → Bool) {cols rows : ℕ} (s : Ssd1306)
    (hx : s.currentX.toNat + cols ≤ ssd1306Width)
    (hy : s.currentY.toNat + rows ≤ ssd1306Height) :
    (List.range rows).foldl (fun s i => (List.range cols).foldl (fun s j =>
        s.drawPixel (UInt8.ofNat (s.currentX.toNat + j)) (UInt8.ofNat (s.currentY.toNat + i))
          (if bit i j then color else color.not)) s) s =
      s.withBuffer (drawBox ssd1306Width (fun i j => s.inkOf color (bit i j)) s.currentX.toNat
        s.currentY.toNat cols rows s.buffer) := by
  induction rows with
  | zero => rfl
  | succ rows ih =>
      have hlast : s.currentY.toNat + rows < ssd1306Height := by omega
      rw [List.range_succ, List.foldl_append, ih (by omega), List.foldl_cons, List.foldl_nil,
        drawBox, drawBox, List.range_succ, List.foldl_append]
      exact foldl_drawPixel (bit rows) (s.withBuffer _) hx hlast

/-- So a glyph is a box. -/
theorem drawGlyph_eq {c : UInt8}
    (hx : s.currentX.toNat + font.fontWidth.toNat ≤ ssd1306Width)
    (hy : s.currentY.toNat + font.fontHeight.toNat ≤ ssd1306Height) :
    s.drawGlyph c font data color = s.withBuffer (drawBox ssd1306Width
      (fun i j => s.inkOf color (glyphBit font data c i j)) s.currentX.toNat s.currentY.toNat
      font.fontWidth.toNat font.fontHeight.toNat s.buffer) :=
  foldl_drawRow (glyphBit font data c) s hx hy

/-! ### What the code draws -/

/-- Where the cursor of a screen is, whether it is inverted, what is on it, and what is in memory
behind its buffer. -/
structure Ssd1306.At (s : Ssd1306) (x y : ℕ) (inverted : Bool) (img : Image) (behind : Mem) :
    Prop where
  currentX : s.currentX.toNat = x
  currentY : s.currentY.toNat = y
  inverted : s.inverted = inverted
  image : s.image = img
  behind : ∀ i, ssd1306Width * ssd1306Height / 8 ≤ i → s.buffer i = behind i

section Text

variable (print : OledCursorPrintf) {x y : ℕ} {inverted : Bool} {img : Image} {behind : Mem}

/-- A glyph on the screen. -/
theorem image_withBuffer_drawBox {L : Lettering} (hfits : Image.Fits L x y) (c : UInt8)
    (s : Ssd1306) :
    (s.withBuffer (drawBox ssd1306Width (L.ink c) x y L.width L.height s.buffer)).image =
      Image.glyph L x y c s.image := by
  obtain ⟨hx, hy⟩ := hfits
  funext px py
  rw [Image.glyph, Ssd1306.image, Ssd1306.image]
  by_cases hin : px < ssd1306Width ∧ py < ssd1306Height
  · rw [decide_eq_true hin, Bool.true_and, Bool.true_and]
    exact pixel_drawBox (L.ink c) (Nat.le_of_lt hx) hin.1
  · have hout : ¬ InBox x y L.width L.height px py := by
      rintro ⟨⟨-, hpx⟩, -, hpy⟩
      exact hin ⟨by omega, by omega⟩
    rw [decide_eq_false hin, Bool.false_and, Bool.false_and, if_neg hout]

/-- **A character is drawn where the cursor is, if there is room for it**, and the cursor moves on
behind it. -/
theorem writeChar_at (data : ℕ → UInt16) (h : s.At x y inverted img behind) (c : UInt8) :
    let L := lettering print.font data print.color inverted
    let t := (s.writeChar c print.font data print.color).1
    if Image.Fits L x y then t.At (x + L.width) y inverted (Image.glyph L x y c img) behind
    else t.At x y inverted img behind := by
  intro L t
  obtain ⟨rfl, rfl, rfl, rfl, hbehind⟩ := h
  by_cases hfits : Image.Fits L s.currentX.toNat s.currentY.toNat
  · rw [if_pos hfits]
    obtain ⟨hx, hy⟩ := hfits
    have hroom : ¬ (ssd1306Width ≤ s.currentX.toNat + print.font.fontWidth.toNat ∨
        ssd1306Height ≤ s.currentY.toNat + print.font.fontHeight.toNat) :=
      not_or.2 ⟨Nat.not_le.2 hx, Nat.not_le.2 hy⟩
    have ht : t = { s.drawGlyph c print.font data print.color with
        currentX := (s.drawGlyph c print.font data print.color).currentX +
          print.font.fontWidth.toUInt16 } := by
      show (s.writeChar c print.font data print.color).1 = _
      rw [Ssd1306.writeChar, if_neg hroom]
    rw [drawGlyph_eq (Nat.le_of_lt hx) (Nat.le_of_lt hy)] at ht
    refine ⟨?_, by rw [ht]; rfl, by rw [ht]; rfl, ?_, fun i hi => ?_⟩
    · have hwidth : print.font.fontWidth.toUInt16.toNat = L.width := UInt8.toNat_toUInt16 _
      rw [ht]
      show (s.currentX + print.font.fontWidth.toUInt16).toNat = _
      rw [UInt16.toNat_add, hwidth, Nat.mod_eq_of_lt]
      unfold ssd1306Width at hx
      omega
    · rw [ht]
      exact image_withBuffer_drawBox ⟨hx, hy⟩ c s
    · rw [← hbehind i hi, ht]
      exact drawBox_of_ge 8 _ (Nat.le_of_lt hx) (Nat.le_of_lt hy) hi
  · rw [if_neg hfits]
    have hno : ssd1306Width ≤ s.currentX.toNat + print.font.fontWidth.toNat ∨
        ssd1306Height ≤ s.currentY.toNat + print.font.fontHeight.toNat := by
      by_contra hroom
      exact hfits ⟨Nat.not_le.1 (mt Or.inl hroom), Nat.not_le.1 (mt Or.inr hroom)⟩
    have ht : t = s := by
      show (s.writeChar c print.font data print.color).1 = _
      rw [Ssd1306.writeChar, if_pos hno]
    rw [ht]
    exact ⟨rfl, rfl, rfl, rfl, hbehind⟩

/-- One character more at the start of a row. -/
theorem exists_writeChar_at (data : ℕ → UInt16) (h : s.At x y inverted img behind) (c : UInt8) :
    let L := lettering print.font data print.color inverted
    ∃ x' img', (s.writeChar c print.font data print.color).1.At x' y inverted img' behind ∧
      ∀ cs, Image.row L x' y cs img' = Image.row L x y (c :: cs) img := by
  intro L
  have hchar := writeChar_at print data h c
  dsimp only at hchar
  by_cases hfits : Image.Fits L x y
  · rw [if_pos hfits] at hchar
    exact ⟨_, _, hchar, fun cs => (if_pos hfits).symm⟩
  · rw [if_neg hfits] at hchar
    exact ⟨_, _, hchar, fun cs => (if_neg hfits).symm⟩

/-- Blanks are a row of blanks. -/
theorem drawSpaces_at (data : ℕ → UInt16) (h : s.At x y inverted img behind) (count : ℕ) :
    ∃ x', (drawSpaces data print count s).At x' y inverted
      (Image.row (lettering print.font data print.color inverted) x y
        (List.replicate count 0x20) img) behind := by
  induction count generalizing s x img with
  | zero => exact ⟨x, h⟩
  | succ count ih =>
      obtain ⟨x', img', hnext, hrow⟩ := exists_writeChar_at print data h 0x20
      obtain ⟨x'', hrest⟩ := ih hnext
      rw [hrow] at hrest
      exact ⟨x'', hrest⟩

/-- `y += font->FontHeight + 1`. -/
theorem ofNat_height_add_one :
    UInt8.ofNat ((lettering print.font data print.color inverted).height + 1) =
      print.font.fontHeight + 1 := by
  show UInt8.ofNat (print.font.fontHeight.toNat + 1) = _
  rw [UInt8.ofNat_add, UInt8.ofNat_toNat]
  rfl

/-- `space_count` goes down by one with each character, and begins again with each line, so that it
stays far within an `int16_t`. -/
theorem drawLoop_spaceCount (data : ℕ → UInt16) {fill k : ℕ} (p : List UInt8) {n : ℕ}
    {l l' : DrawLoop} (hl : -(k : ℤ) ≤ l.spaceCount ∧ l.spaceCount ≤ fill)
    (h : drawLoop data print fill p n l = some l') :
    -((k + n : ℕ) : ℤ) ≤ l'.spaceCount ∧ l'.spaceCount ≤ fill := by
  induction p generalizing n l k with
  | nil =>
      cases n with
      | zero => cases h; exact hl
      | succ n => cases h
  | cons c p ih =>
      cases n with
      | zero => cases h; exact hl
      | succ n =>
          have hchar : -((k + 1 : ℕ) : ℤ) ≤ (drawChar data print fill c l).spaceCount ∧
              (drawChar data print fill c l).spaceCount ≤ fill := by
            unfold drawChar
            split
            · dsimp only
              omega
            · dsimp only
              omega
          have hrest := ih hchar h
          omega

/-- **The loop draws the rest of the line, and the lines below it.** -/
theorem drawLoop_at (data : ℕ → UInt16) (fill : ℕ) (p : List UInt8) {l : DrawLoop}
    (h : l.screen.At x l.y.toNat inverted img behind) :
    let L := lettering print.font data print.color inverted
    ∃ l', drawLoop data print fill p p.length l = some l' ∧
      ∃ x', (drawSpaces data print l'.spaceCount.toNat l'.screen).At x' l'.y.toNat inverted
        (Image.below L fill l.y (splitLines p).2 (Image.row L x l.y.toNat ((splitLines p).1 ++
          List.replicate (l.spaceCount - (splitLines p).1.length).toNat 0x20) img)) behind := by
  intro L
  induction p generalizing l x img with
  | nil =>
      obtain ⟨x', hspaces⟩ := drawSpaces_at print data h l.spaceCount.toNat
      refine ⟨l, rfl, x', ?_⟩
      simpa [splitLines, Image.below] using hspaces
  | cons c p ih =>
      by_cases hc : c = 0x0A
      · -- the line is filled up, and the next one begins
        obtain ⟨x', hspaces⟩ := drawSpaces_at print data h l.spaceCount.toNat
        obtain ⟨next, hnext⟩ : ∃ next, next = drawChar data print fill c l := ⟨_, rfl⟩
        have hchar : next = ⟨(drawSpaces data print l.spaceCount.toNat l.screen).setCursor 0
            (l.y + (print.font.fontHeight + 1)), fill, l.y + (print.font.fontHeight + 1)⟩ := by
          rw [hnext, drawChar, if_neg (not_not_intro hc)]
        have hat : next.screen.At 0 next.y.toNat inverted
            (Image.row L x l.y.toNat (List.replicate l.spaceCount.toNat 0x20) img) behind := by
          rw [hchar]
          exact ⟨rfl, UInt8.toNat_toUInt16 _, hspaces.inverted, hspaces.image, hspaces.behind⟩
        obtain ⟨l', hloop, x'', hrest⟩ := ih hat
        refine ⟨l', by rw [List.length_cons, drawLoop, ← hnext, hloop], x'', ?_⟩
        have hy : next.y = l.y + UInt8.ofNat (L.height + 1) := by
          rw [hchar, ofNat_height_add_one]
        have hcount : next.spaceCount = fill := by rw [hchar]
        rw [hy, hcount] at hrest
        simpa [splitLines, hc, Image.below, Image.padded] using hrest
      · obtain ⟨next, hnext⟩ : ∃ next, next = drawChar data print fill c l := ⟨_, rfl⟩
        have hchar : next = { l with
            screen := (l.screen.writeChar c print.font data print.color).1
            spaceCount := l.spaceCount - 1 } := by
          rw [hnext, drawChar, if_pos hc]
        obtain ⟨x', img', hat, hrow⟩ := exists_writeChar_at print data h c
        have hat' : next.screen.At x' next.y.toNat inverted img' behind := by
          rw [hchar]
          exact hat
        obtain ⟨l', hloop, x'', hrest⟩ := ih hat'
        refine ⟨l', by rw [List.length_cons, drawLoop, ← hnext, hloop], x'', ?_⟩
        have hy : next.y = l.y := by rw [hchar]
        have hcount : next.spaceCount = l.spaceCount - 1 := by rw [hchar]
        rw [hy, hcount, hrow] at hrest
        have hlen : l.spaceCount - 1 - (splitLines p).1.length =
            l.spaceCount - ((splitLines p).1.length + 1) := by omega
        simpa [splitLines, hc, hlen] using hrest

/-- **The image in the buffer is that of the text.** -/
theorem drawText_at (data : ℕ → UInt16) (s : Ssd1306) (hsize : print.text.length = print.size) :
    ∃ t x y, drawText data print s = some t ∧ t.At x y s.inverted
      (Image.lines (lettering print.font data print.color s.inverted) (fillWithSpaces print)
        print.x.toNat print.y (splitLines print.text) s.image) s.buffer := by
  have hstart : (s.setCursor print.x print.y).At print.x.toNat print.y.toNat s.inverted s.image
      s.buffer :=
    ⟨UInt8.toNat_toUInt16 _, UInt8.toNat_toUInt16 _, rfl, rfl, fun _ _ => rfl⟩
  obtain ⟨l, hloop, x, hat⟩ := drawLoop_at print data (fillWithSpaces print) print.text
    (l := ⟨s.setCursor print.x print.y, fillWithSpaces print, print.y⟩) hstart
  refine ⟨_, x, l.y.toNat, by rw [drawText, ← hsize, hloop]; rfl, ?_⟩
  have hpad : ((fillWithSpaces print : ℤ) - (splitLines print.text).1.length).toNat =
      fillWithSpaces print - (splitLines print.text).1.length := by omega
  dsimp only at hat
  rw [hpad] at hat
  exact hat

/-- **What `_oled_cursor_printf` shows**: the lines of its text, each filled up with blanks, below
one another, and what was there before wherever there is no character.  Nothing behind the buffer is
touched. -/
theorem image_drawText (data : ℕ → UInt16) (s : Ssd1306)
    (hsize : print.text.length = print.size) :
    ∃ t, drawText data print s = some t ∧ t.inverted = s.inverted ∧
      t.image = Image.lines (lettering print.font data print.color s.inverted)
        (fillWithSpaces print) print.x.toNat print.y (splitLines print.text) s.image ∧
      ∀ i, ssd1306Width * ssd1306Height / 8 ≤ i → t.buffer i = s.buffer i := by
  obtain ⟨t, x, y, ht, hat⟩ := drawText_at print data s hsize
  exact ⟨t, ht, hat.inverted, hat.image, hat.behind⟩

/-- Two lines below one another, in the middle of the screen. -/
theorem image_drawText_two_lines :
    let print : OledCursorPrintf := ⟨10, 20, 3, [0x41, 0x0A, 0x42], font7x10, .white⟩
    let s : Ssd1306 := ⟨0, 0, false, true, fun _ => 0⟩
    ∃ t, drawText (fun i => UInt16.ofNat (0x200 * i)) print s = some t ∧
      t.inverted = s.inverted ∧
      t.image = Image.lines (lettering print.font (fun i => UInt16.ofNat (0x200 * i)) print.color
        s.inverted) (fillWithSpaces print) print.x.toNat print.y (splitLines print.text) s.image ∧
      ∀ i, ssd1306Width * ssd1306Height / 8 ≤ i → t.buffer i = s.buffer i :=
  image_drawText ⟨10, 20, 3, [0x41, 0x0A, 0x42], font7x10, .white⟩
    (fun i => UInt16.ofNat (0x200 * i)) ⟨0, 0, false, true, fun _ => 0⟩ rfl

theorem splitLines_of_forall_ne {p : List UInt8} (h : ∀ c ∈ p, c ≠ 0x0A) :
    splitLines p = (p, []) := by
  induction p with
  | nil => rfl
  | cons c p ih =>
      rw [splitLines, ih fun d hd => h d (List.mem_cons_of_mem c hd)]
      exact if_neg (h c List.mem_cons_self)

/-- **A text of one line**: each of its characters that has room is in its cell, the cells behind it
are blank up to the number of characters in a line, and all other pixels are as they were. -/
theorem image_drawText_line (data : ℕ → UInt16) (s : Ssd1306)
    (hsize : print.text.length = print.size) (hline : ∀ c ∈ print.text, c ≠ 0x0A) :
    let L := lettering print.font data print.color s.inverted
    let cell := fun k => print.x.toNat + k * L.width
    let cells := max print.text.length (fillWithSpaces print)
    ∃ t, drawText data print s = some t ∧
      (∀ k < cells, Image.Fits L (cell k) print.y.toNat → ∀ px py,
        InBox (cell k) print.y.toNat L.width L.height px py →
          t.image px py = L.ink (print.text.getD k 0x20) (py - print.y.toNat) (px - cell k)) ∧
      ∀ px py, (∀ k < cells, Image.Fits L (cell k) print.y.toNat →
          ¬ InBox (cell k) print.y.toNat L.width L.height px py) →
        t.image px py = s.image px py := by
  intro L cell cells
  obtain ⟨t, x, y, ht, hat⟩ := drawText_at print data s hsize
  obtain ⟨cs, hcs⟩ : ∃ cs, cs = Image.padded (fillWithSpaces print) print.text := ⟨_, rfl⟩
  have hlen : cs.length = cells := by
    rw [hcs, Image.padded, List.length_append, List.length_replicate]
    omega
  have himage : t.image = Image.row L print.x.toNat print.y.toNat cs s.image := by
    rw [hat.image, splitLines_of_forall_ne hline, hcs]
    rfl
  refine ⟨t, ht, fun k hk hfits px py hbox => ?_, fun px py hout => ?_⟩
  · rw [← hlen] at hk
    have hchar : cs[k] = print.text.getD k 0x20 := by
      rw [← List.getD_eq_getElem cs 0x20 hk, hcs, Image.padded]
      rcases Nat.lt_or_ge k print.text.length with hlt | hge
      · rw [List.getD_append _ _ _ _ hlt]
      · rw [List.getD_append_right _ _ _ _ hge, List.getD_eq_default _ _ hge]
        simp
    rw [himage, Image.row_apply_cell L hk hfits _ hbox, hchar]
  · rw [himage]
    refine Image.row_apply_of_forall_not L _ fun k hk => ?_
    rw [hlen] at hk
    exact hout k hk

/-- Two letters at the right, of which only one has room. -/
theorem image_drawText_line_two_letters :
    let print : OledCursorPrintf := ⟨110, 0, 2, [0x41, 0x42], font11x18, .black⟩
    let s : Ssd1306 := ⟨0, 0, false, true, fun _ => 0⟩
    let L := lettering print.font (fun _ => 0xF000) print.color s.inverted
    let cell := fun k => print.x.toNat + k * L.width
    let cells := max print.text.length (fillWithSpaces print)
    ∃ t, drawText (fun _ => 0xF000) print s = some t ∧
      (∀ k < cells, Image.Fits L (cell k) print.y.toNat → ∀ px py,
        InBox (cell k) print.y.toNat L.width L.height px py →
          t.image px py = L.ink (print.text.getD k 0x20) (py - print.y.toNat) (px - cell k)) ∧
      ∀ px py, (∀ k < cells, Image.Fits L (cell k) print.y.toNat →
          ¬ InBox (cell k) print.y.toNat L.width L.height px py) →
        t.image px py = s.image px py :=
  image_drawText_line ⟨110, 0, 2, [0x41, 0x42], font11x18, .black⟩ (fun _ => 0xF000)
    ⟨0, 0, false, true, fun _ => 0⟩ rfl (by simp)

end Text

/-! ### The table of the font -/

section Table

variable {data' : ℕ → UInt16} {t t' : Screen} {c : UInt8} {print : OledCursorPrintf}

/-- The cursor is in the same place as without the pixels. -/
def Ssd1306.SameCursor (s : Ssd1306) (t : Screen) : Prop :=
  s.currentX = t.currentX ∧ s.currentY = t.currentY

/-- A character reads its glyph, if there is room for it, and moves the cursor. -/
theorem writeChar_sameCursor (color : Ssd1306Color) (h : s.SameCursor t)
    (hdata : ∀ r ∈ (t.writeChar c font).reads, data r = data' r) :
    s.writeChar c font data color = s.writeChar c font data' color ∧
      (s.writeChar c font data color).1.SameCursor (t.writeChar c font) := by
  obtain ⟨hx, hy⟩ := h
  unfold Screen.writeChar at hdata ⊢
  unfold Ssd1306.writeChar
  rw [hx, hy]
  by_cases hroom : ssd1306Width ≤ t.currentX.toNat + font.fontWidth.toNat ∨
      ssd1306Height ≤ t.currentY.toNat + font.fontHeight.toNat
  · rw [if_pos hroom, if_pos hroom, if_pos hroom]
    exact ⟨rfl, hx, hy⟩
  · rw [if_neg hroom] at hdata
    rw [if_neg hroom, if_neg hroom, if_neg hroom]
    obtain ⟨hwidth, hheight⟩ := not_or.1 hroom
    have hbox : ∀ data, s.drawGlyph c font data color = s.withBuffer (drawBox ssd1306Width
        (fun i j => s.inkOf color (glyphBit font data c i j)) s.currentX.toNat s.currentY.toNat
        font.fontWidth.toNat font.fontHeight.toNat s.buffer) :=
      fun data => drawGlyph_eq (by rw [hx]; omega) (by rw [hy]; omega)
    have hglyph : s.drawGlyph c font data color = s.drawGlyph c font data' color := by
      refine List.foldl_ext _ _ s fun s i hi => List.foldl_ext _ _ s fun s j _ => ?_
      have hread := hdata (glyphIndex font c i)
        (List.mem_append_right _ (List.mem_map.2 ⟨i, hi, rfl⟩))
      rw [glyphBit, glyphBit, hread]
    refine ⟨by rw [hglyph], ?_, ?_⟩
    · rw [hbox]
      show s.currentX + _ = _
      rw [hx]
    · rw [hbox]
      exact hy

/-- What was read stays read. -/
theorem reads_subset_writeChar (t : Screen) (c : UInt8) : t.reads ⊆ (t.writeChar c font).reads := by
  unfold Screen.writeChar
  split
  · exact fun r hr => hr
  · exact List.subset_append_left _ _

theorem reads_subset_padSpaces (t : Screen) (count : ℕ) :
    t.reads ⊆ (padSpaces font count t).reads := by
  induction count generalizing t with
  | zero => exact fun r hr => hr
  | succ count ih => exact List.Subset.trans (reads_subset_writeChar t _) (ih _)

theorem reads_subset_printChar {fill : ℤ} (l : PrintLoop) (c : UInt8) :
    l.screen.reads ⊆ (printChar print fill c l).screen.reads := by
  unfold printChar
  split
  · exact reads_subset_writeChar _ _
  · exact reads_subset_padSpaces _ _

theorem reads_subset_printLoop {fill : ℤ} {p : List UInt8} {n : ℕ} {l l' : PrintLoop}
    (h : printLoop print fill p n l = some l') : l.screen.reads ⊆ l'.screen.reads := by
  induction n generalizing p l with
  | zero =>
      rw [printLoop] at h
      cases h
      exact fun r hr => hr
  | succ n ih =>
      cases p with
      | nil => cases h
      | cons c p =>
          rw [printLoop] at h
          exact List.Subset.trans (reads_subset_printChar l c) (ih h)

theorem drawSpaces_sameCursor (h : s.SameCursor t) (count : ℕ)
    (hdata : ∀ r ∈ (padSpaces print.font count t).reads, data r = data' r) :
    drawSpaces data print count s = drawSpaces data' print count s ∧
      (drawSpaces data print count s).SameCursor (padSpaces print.font count t) := by
  induction count generalizing s t with
  | zero => exact ⟨rfl, h⟩
  | succ count ih =>
      have hblank : ∀ r ∈ (t.writeChar 0x20 print.font).reads, data r = data' r := fun r hr =>
        hdata r (reads_subset_padSpaces (t.writeChar 0x20 print.font) count hr)
      obtain ⟨hchar, hcursor⟩ := writeChar_sameCursor print.color h hblank
      obtain ⟨hrest, hcursor'⟩ := ih hcursor hdata
      refine ⟨?_, hcursor'⟩
      rw [drawSpaces, hrest, drawSpaces, hchar]

/-- The loops of the two models are at the same place. -/
def DrawLoop.SameAs (l : DrawLoop) (k : PrintLoop) : Prop :=
  l.screen.SameCursor k.screen ∧ l.spaceCount = k.spaceCount ∧ l.y = k.y

theorem drawChar_sameAs {fill : ℤ} {l : DrawLoop} {k : PrintLoop} (h : l.SameAs k)
    (hdata : ∀ r ∈ (printChar print fill c k).screen.reads, data r = data' r) :
    drawChar data print fill c l = drawChar data' print fill c l ∧
      (drawChar data print fill c l).SameAs (printChar print fill c k) := by
  obtain ⟨hcursor, hcount, hy⟩ := h
  unfold printChar at hdata ⊢
  unfold drawChar
  by_cases hc : c ≠ 0x0A
  · rw [if_pos hc] at hdata
    obtain ⟨hchar, hcursor'⟩ := writeChar_sameCursor print.color hcursor hdata
    rw [if_pos hc, if_pos hc, if_pos hc, hchar]
    rw [hchar] at hcursor'
    exact ⟨rfl, hcursor', by rw [hcount], hy⟩
  · rw [if_neg hc] at hdata
    obtain ⟨hspaces, -, -⟩ := drawSpaces_sameCursor hcursor k.spaceCount.toNat hdata
    rw [if_neg hc, if_neg hc, if_neg hc, hcount, hspaces, hy]
    exact ⟨rfl, ⟨rfl, rfl⟩, rfl, rfl⟩

theorem drawLoop_sameAs {fill : ℤ} {p : List UInt8} {n : ℕ} {l : DrawLoop} {k k' : PrintLoop}
    (h : l.SameAs k) (hloop : printLoop print fill p n k = some k')
    (hdata : ∀ r ∈ k'.screen.reads, data r = data' r) :
    drawLoop data print fill p n l = drawLoop data' print fill p n l ∧
      ∃ l', drawLoop data print fill p n l = some l' ∧ l'.SameAs k' := by
  induction n generalizing p l k with
  | zero =>
      rw [printLoop] at hloop
      cases hloop
      rw [drawLoop, drawLoop]
      exact ⟨rfl, l, rfl, h⟩
  | succ n ih =>
      cases p with
      | nil => cases hloop
      | cons c p =>
          rw [printLoop] at hloop
          obtain ⟨hchar, hnext⟩ := drawChar_sameAs h fun r hr =>
            hdata r (reads_subset_printLoop hloop hr)
          obtain ⟨hrest, l', hl', hsame⟩ := ih hnext hloop
          rw [drawLoop, drawLoop, ← hchar]
          exact ⟨hrest, l', hl', hsame⟩

/-- **What is drawn depends only on the entries of the table that the model without pixels says are
read**, and the cursor ends up where that model puts it. -/
theorem drawText_sameCursor (s : Ssd1306) (hrender : render print t = some t')
    (hdata : ∀ r ∈ t'.reads, data r = data' r) :
    drawText data print s = drawText data' print s ∧
      ∃ s', drawText data print s = some s' ∧ s'.SameCursor t' := by
  obtain ⟨k, hloop, rfl⟩ := Option.map_eq_some_iff.1 hrender
  have hfill : (if print.x.toNat < ssd1306Width then print.font.charPerLine.toNat else 0 : ℤ) =
      fillWithSpaces print := by
    unfold fillWithSpaces
    split <;> rfl
  rw [hfill] at hloop
  have hstart : DrawLoop.SameAs ⟨s.setCursor print.x print.y, fillWithSpaces print, print.y⟩
      ⟨t.setCursor print.x print.y, fillWithSpaces print, print.y⟩ := ⟨⟨rfl, rfl⟩, rfl, rfl⟩
  obtain ⟨hsame, l, hl, hcursor, hcount, -⟩ := drawLoop_sameAs hstart hloop fun r hr =>
    hdata r (reads_subset_padSpaces _ _ hr)
  obtain ⟨hspaces, hcursor'⟩ := drawSpaces_sameCursor hcursor k.spaceCount.toNat hdata
  rw [drawText, drawText, ← hsame, hl, Option.map_some, Option.map_some, hcount, ← hspaces]
  exact ⟨rfl, _, rfl, hcursor'⟩

/-- **A text that is printed is shown**: from the call of `oled_cursor_printf` to the pixels, its
lines appear as the glyphs of the font, and nothing but the table of the font decides how. -/
theorem oledCursorPrintf_shows {f : Formatted} {i : OledInput} {buf : Mem} {x y : UInt8}
    {result : OledResult} (data : ℕ → UInt16) (s : Ssd1306) (hfailed : f.failed = false)
    (hpos : 1 ≤ f.text.length) (hle : f.text.length ≤ oledBufMaxSize - 1)
    (htext : ∀ c ∈ f.text, c ≠ 0x0A → Printable c)
    (h : oledCursorPrintf i buf font color x y f = (result, some print)) :
    ∃ t, t.image = Image.lines (lettering font data color s.inverted)
        (if x.toNat < ssd1306Width then font.charPerLine.toNat else 0) x.toNat y
        (splitLines f.text) s.image ∧
      ∀ data', (∀ r < font.dataSize, data' r = data r) → drawText data' print s = some t := by
  obtain rfl := oledCursorPrintf_eq hfailed hpos h
  obtain ⟨print, hprint⟩ : ∃ print : OledCursorPrintf,
    print = ⟨x, y, oledSize f, oledText f, font, color⟩ := ⟨_, rfl⟩
  have hsize : print.text.length = print.size := by
    rw [hprint]
    exact length_oledText f
  have hwhole : print.text = f.text := by
    rw [hprint]
    exact oledText_of_le hle
  obtain ⟨t, x', y', ht, hat⟩ := drawText_at print data s hsize
  obtain ⟨t', hrender⟩ := exists_render print (blankScreen 0 0) hsize
  have hwithin : t'.Within Printable print.font := by
    refine render_within (blankScreen_within 0 0) (by decide) ?_ hrender
    rwa [hwhole]
  refine ⟨t, ?_, fun data' hdata => ?_⟩
  · rw [hat.image, hwhole, hprint]
    rfl
  · rw [← hprint, ← ht]
    refine (drawText_sameCursor s hrender fun r hr => ?_).1
    obtain ⟨c, hc, k, hk, rfl⟩ := hwithin.reads r hr
    have hfont : print.font = font := by rw [hprint]
    rw [hfont] at hk ⊢
    exact hdata _ (glyphIndex_lt hc hk)

/-- A greeting on an inverted screen. -/
theorem oledCursorPrintf_shows_greeting :
    let s : Ssd1306 := ⟨0, 0, true, true, fun _ => 0xFF⟩
    ∃ t, t.image = Image.lines (lettering font11x18 (fun i => UInt16.ofNat i) .white s.inverted)
        11 0 0 (splitLines [0x48, 0x69, 0x21]) s.image ∧
      ∀ data', (∀ r < font11x18.dataSize, data' r = UInt16.ofNat r) →
        drawText data' ⟨0, 0, 3, [0x48, 0x69, 0x21], font11x18, .white⟩ s = some t := by
  have hqueued : oledCursorPrintf ⟨true, true, true, true, 0⟩ (fun _ => 0) font11x18 .white 0 0
      ⟨[0x48, 0x69, 0x21], false⟩ =
        (.returned 0, some ⟨0, 0, 3, [0x48, 0x69, 0x21], font11x18, .white⟩) := rfl
  exact oledCursorPrintf_shows (fun i => UInt16.ofNat i) ⟨0, 0, true, true, fun _ => 0xFF⟩ rfl
    (by decide) (by decide) (by simp [Printable]) hqueued

end Table

end Solar48
