/-
**Texts on the screen.**

`oled_cursor_printf` formats a text into a buffer of 64 bytes and queues a request with a copy of
it, and `_oled_cursor_printf` draws the characters of a request later on, with glyphs from a table
that begins with the blank.  `vsnprintf` cuts a text to 63 characters and a NUL, but gives the
length of the whole of it, and `oled_cursor_printf` cuts this one to 64.

Main definitions:

* `Solar48.FontDef`, `Solar48.Screen` — a font, and the cursor of the screen, with the characters
  that were passed to `ssd1306_WriteChar` and the entries of the table that were read;
* `Solar48.oledCursorPrintf`, `Solar48.runOledCursorPrintf` — the code;
* `Solar48.Printable` — the characters that have a glyph.

Main results:

* `Solar48.oledCursorPrintf_eq` — the request that is queued;
* `Solar48.render_within` — what is drawn is in the text, or a blank;
* `Solar48.mem_render` — what is in the text is drawn;
* `Solar48.glyphIndex_lt`, `Solar48.lt_glyphIndex_nul` — a glyph is in the table, and a NUL is not;
* `Solar48.holdsText_iff`, `Solar48.drawsGlyphs_iff` — what is queued, and what is drawn;
* `Solar48.oledCursorPrintf_iff` — **a text is cut cleanly if and only if it has no more than 63
  characters**.
-/

import Solar48.ByteMem
import Solar48.Types

set_option relaxedAutoImplicit false
set_option autoImplicit false

namespace Solar48

open ByteMem

/-! ### Fonts and the screen -/

/-- `FontDef`; of the table only its size matters here.  It has a glyph for each character from
`' '` to `'~'`. -/
structure FontDef where
  fontWidth : UInt8
  fontHeight : UInt8
  dataSize : ℕ
  charPerLine : UInt8
  dataSize_eq : dataSize = 95 * fontHeight.toNat

/-- `SSD1306_WIDTH` and `SSD1306_HEIGHT`. -/
def ssd1306Width : ℕ := 128

def ssd1306Height : ℕ := 64

/-- `Font_7x10`, `Font_11x18` and `Font_16x26`. -/
def font7x10 : FontDef := ⟨7, 10, 950, 128 / 7, rfl⟩

def font11x18 : FontDef := ⟨11, 18, 1710, 128 / 11, rfl⟩

def font16x26 : FontDef := ⟨16, 26, 2470, 128 / 16, rfl⟩

/-- `SSD1306_COLOR`. -/
inductive Ssd1306Color
  | black
  | white
  deriving DecidableEq

/-- The cursor of the screen, what was passed to `ssd1306_WriteChar`, and which entries of the table
of the font it read. -/
structure Screen where
  currentX : UInt16
  currentY : UInt16
  chars : List UInt8
  reads : List ℕ

/-- `(ch - 32) * Font.FontHeight + i`, as a `uint32_t`. -/
def glyphIndex (font : FontDef) (ch : UInt8) (i : ℕ) : ℕ :=
  ((((ch.toNat : ℤ) - 32) * font.fontHeight.toNat + i) % 2 ^ 32).toNat

namespace Screen

/-- `ssd1306_WriteChar`, without the pixels. -/
def writeChar (ch : UInt8) (font : FontDef) (s : Screen) : Screen :=
  if ssd1306Width ≤ s.currentX.toNat + font.fontWidth.toNat ∨
      ssd1306Height ≤ s.currentY.toNat + font.fontHeight.toNat then
    { s with chars := s.chars ++ [ch] }
  else
    { s with
      chars := s.chars ++ [ch]
      reads := s.reads ++ (List.range font.fontHeight.toNat).map (glyphIndex font ch)
      currentX := s.currentX + font.fontWidth.toUInt16 }

/-- `ssd1306_SetCursor`. -/
def setCursor (x y : UInt8) (s : Screen) : Screen :=
  { s with currentX := x.toUInt16, currentY := y.toUInt16 }

end Screen

/-! ### Queueing a text -/

/-- `OLED_BUF_MAX_SIZE`. -/
def oledBufMaxSize : ℕ := 64

/-- What a format and its arguments give: the text, or a part of it and an error. -/
structure Formatted where
  text : List UInt8
  failed : Bool

/-- `vsnprintf`: the characters that there is room for, and a NUL; the length is that of all. -/
def vsnprintf (buf : Mem) (size : ℕ) (f : Formatted) : Mem × ℤ :=
  (write buf 0 (f.text.take (size - 1) ++ [0]), if f.failed then -1 else f.text.length)

/-- `OLED_CURSOR_PRINTF_TYP`. -/
structure OledCursorPrintf where
  x : UInt8
  y : UInt8
  size : ℕ
  text : List UInt8
  font : FontDef
  color : Ssd1306Color

/-- Errors of `oled_cursor_printf`. -/
def eOledNotInitialized : ℤ := -54

def eOledCursorPrintfLockTimeout : ℤ := -55

def eInvalidOledCursorPrintfBufSize : ℤ := -102

/-- The length is cut, or there is none. -/
def cutLen (len : ℤ) : Except ℤ ℕ :=
  if len > oledBufMaxSize then .ok oledBufMaxSize
  else if len = 0 then .error 0
  else if len < 0 then .error eInvalidOledCursorPrintfBufSize
  else .ok len.toNat

/-- What others decide in a call: whether the screen is initialized, the lock is got and memory
is, and what `sys_queue` returns. -/
structure OledInput where
  initialized : Bool
  locked : Bool
  malloc : Bool
  mallocText : Bool
  queue : ℤ

/-- How a call ends. -/
inductive OledResult
  | returned (err : ℤ)
  | panic (text : String)
  deriving DecidableEq

/-- `oled_cursor_printf`, on `oled_buffer`, with the font and the colour that are set: how it ends,
and the request that is queued. -/
def oledCursorPrintf (i : OledInput) (buf : Mem) (font : FontDef) (color : Ssd1306Color)
    (x y : UInt8) (f : Formatted) : OledResult × Option OledCursorPrintf :=
  if !i.initialized then (.returned eOledNotInitialized, none)
  else
    let (buf, len) := vsnprintf buf oledBufMaxSize f
    if !i.locked then (.returned eOledCursorPrintfLockTimeout, none)
    else
      match cutLen len with
      | .error err => (.returned err, none)
      | .ok len =>
          if !i.malloc then (.panic "CURPRN:ERR1", none)
          else if !i.mallocText then (.panic "CURPRN:ERR2", none)
          else if i.queue ≠ 0 then (.returned i.queue, none)
          else (.returned 0, some ⟨x, y, len, read buf 0 len, font, color⟩)

/-! ### Drawing a text -/

/-- Errors of `_oled_cursor_printf`. -/
def eOledPrintfSetCursorFlushBusy : ℤ := -103

def eOledCursorFlushUpdateTimeout : ℤ := -56

/-- The variables of the loop. -/
structure PrintLoop where
  screen : Screen
  /-- `space_count`, an `int16_t`; a request has at most 64 characters, and so it does not wrap -/
  spaceCount : ℤ
  y : UInt8

/-- `while (space_count > 0)`: so many blanks. -/
def padSpaces (font : FontDef) : ℕ → Screen → Screen
  | 0, s => s
  | count + 1, s => padSpaces font count (s.writeChar 0x20 font)

/-- One character of the text. -/
def printChar (print : OledCursorPrintf) (fill : ℤ) (c : UInt8) (l : PrintLoop) : PrintLoop :=
  if c ≠ 0x0A then
    { l with screen := l.screen.writeChar c print.font, spaceCount := l.spaceCount - 1 }
  else
    let y := l.y + (print.font.fontHeight + 1)
    { screen := (padSpaces print.font l.spaceCount.toNat l.screen).setCursor 0 y
      spaceCount := fill
      y }

/-- `while (n > 0)`; none if it reads behind the text. -/
def printLoop (print : OledCursorPrintf) (fill : ℤ) : List UInt8 → ℕ → PrintLoop → Option PrintLoop
  | _, 0, l => some l
  | [], _ + 1, _ => none
  | c :: p, n + 1, l => printLoop print fill p n (printChar print fill c l)

/-- The text, and blanks behind it. -/
def render (print : OledCursorPrintf) (s : Screen) : Option Screen :=
  let fill : ℤ := if print.x.toNat < ssd1306Width then print.font.charPerLine.toNat else 0
  (printLoop print fill print.text print.size ⟨s.setCursor print.x print.y, fill, print.y⟩).map
    fun l => padSpaces print.font l.spaceCount.toNat l.screen

/-- What others decide there: whether the screen is still being sent, whether the lock is got, and
what `ssd1306_UpdateScreen_ret_hold` returns. -/
structure DrawInput where
  flushBusy : Bool
  locked : Bool
  update : ℤ

/-- `_oled_cursor_printf`. -/
def runOledCursorPrintf (i : DrawInput) (print : OledCursorPrintf) (s : Screen) :
    Option (Screen × ℤ) :=
  if i.flushBusy then some (s, eOledPrintfSetCursorFlushBusy)
  else if !i.locked then some (s, eOledCursorFlushUpdateTimeout)
  else (render print s).map fun s => (s, i.update)

/-! ### What is drawn -/

/-- The characters that have a glyph. -/
def Printable (c : UInt8) : Prop := 32 ≤ c.toNat ∧ c.toNat ≤ 126

instance (c : UInt8) : Decidable (Printable c) := inferInstanceAs (Decidable (_ ∧ _))

/-- Only characters of some kind were passed, and only their glyphs were read. -/
structure Screen.Within (C : UInt8 → Prop) (font : FontDef) (s : Screen) : Prop where
  chars : ∀ c ∈ s.chars, C c
  reads : ∀ r ∈ s.reads, ∃ c, C c ∧ ∃ i < font.fontHeight.toNat, r = glyphIndex font c i

variable {C : UInt8 → Prop} {font : FontDef} {s t : Screen} {c : UInt8} {print : OledCursorPrintf}
  {fill : ℤ} {l l' : PrintLoop} {p : List UInt8} {n : ℕ}

theorem Screen.Within.writeChar (h : s.Within C font) (hc : C c) :
    (s.writeChar c font).Within C font := by
  have hchars : ∀ d ∈ s.chars ++ [c], C d := by
    intro d hd
    rcases List.mem_append.1 hd with hold | hnew
    · exact h.chars d hold
    · rw [List.mem_singleton.1 hnew]
      exact hc
  unfold Screen.writeChar
  split
  · exact ⟨hchars, h.reads⟩
  · refine ⟨hchars, fun r hr => ?_⟩
    rcases List.mem_append.1 hr with hold | hnew
    · exact h.reads r hold
    · obtain ⟨i, hi, rfl⟩ := List.mem_map.1 hnew
      exact ⟨c, hc, i, List.mem_range.1 hi, rfl⟩

theorem Screen.Within.padSpaces (h : s.Within C font) (hblank : C 0x20) (count : ℕ) :
    (padSpaces font count s).Within C font := by
  induction count generalizing s with
  | zero => exact h
  | succ count ih => exact ih (h.writeChar hblank)

/-- One character is passed on, or a line is filled. -/
theorem printChar_within (h : l.screen.Within C print.font) (hblank : C 0x20)
    (hc : c ≠ 0x0A → C c) : (printChar print fill c l).screen.Within C print.font := by
  unfold printChar
  split
  · exact h.writeChar (hc ‹_›)
  · have hpad := h.padSpaces hblank l.spaceCount.toNat
    exact ⟨hpad.chars, hpad.reads⟩

theorem printLoop_within (h : l.screen.Within C print.font) (hblank : C 0x20)
    (hp : ∀ c ∈ p, c ≠ 0x0A → C c) (hloop : printLoop print fill p n l = some l') :
    l'.screen.Within C print.font := by
  induction n generalizing p l with
  | zero =>
      rw [printLoop] at hloop
      cases hloop
      exact h
  | succ n ih =>
      cases p with
      | nil => cases hloop
      | cons c p =>
          have hfirst : (printChar print fill c l).screen.Within C print.font :=
            printChar_within h hblank (hp c List.mem_cons_self)
          exact ih hfirst (fun d hd => hp d (List.mem_cons_of_mem c hd)) hloop

/-- **What is drawn is in the text, or a blank.** -/
theorem render_within (h : s.Within C print.font) (hblank : C 0x20)
    (htext : ∀ c ∈ print.text, c ≠ 0x0A → C c) (hrender : render print s = some t) :
    t.Within C print.font := by
  obtain ⟨l, hloop, rfl⟩ := Option.map_eq_some_iff.1 hrender
  exact (printLoop_within ⟨h.chars, h.reads⟩ hblank htext hloop).padSpaces hblank _

/-- What was passed stays. -/
theorem mem_writeChar : c ∈ s.chars → ∀ d, c ∈ (s.writeChar d font).chars := by
  intro hc d
  have hold : c ∈ s.chars ++ [d] := List.mem_append_left _ hc
  unfold Screen.writeChar
  split <;> exact hold

theorem mem_padSpaces (hc : c ∈ s.chars) (count : ℕ) : c ∈ (padSpaces font count s).chars := by
  induction count generalizing s with
  | zero => exact hc
  | succ count ih => exact ih (mem_writeChar hc _)

theorem mem_printChar (hc : c ∈ l.screen.chars) (d : UInt8) :
    c ∈ (printChar print fill d l).screen.chars := by
  unfold printChar
  split
  · exact mem_writeChar hc d
  · exact mem_padSpaces hc l.spaceCount.toNat

/-- A character that is no newline is passed on. -/
theorem mem_printChar_self (hc : c ≠ 0x0A) : c ∈ (printChar print fill c l).screen.chars := by
  have hnew : c ∈ l.screen.chars ++ [c] := List.mem_append_right _ (List.mem_singleton_self c)
  rw [printChar, if_pos hc]
  unfold Screen.writeChar
  split <;> exact hnew

theorem mem_printLoop (hloop : printLoop print fill p n l = some l')
    (hc : c ∈ l.screen.chars ∨ c ∈ p.take n ∧ c ≠ 0x0A) : c ∈ l'.screen.chars := by
  induction n generalizing p l with
  | zero =>
      rw [printLoop] at hloop
      cases hloop
      rcases hc with hold | ⟨hnew, -⟩
      · exact hold
      · rw [List.take_zero] at hnew
        cases hnew
  | succ n ih =>
      cases p with
      | nil => cases hloop
      | cons d p =>
          refine ih hloop ?_
          rcases hc with hold | ⟨hnew, hne⟩
          · exact Or.inl (mem_printChar hold d)
          · rw [List.take_succ_cons] at hnew
            rcases List.mem_cons.1 hnew with rfl | hrest
            · exact Or.inl (mem_printChar_self hne)
            · exact Or.inr ⟨hrest, hne⟩

/-- **What is in the text is drawn**, but for the newlines. -/
theorem mem_render (hrender : render print s = some t) (hc : c ∈ print.text.take print.size)
    (hne : c ≠ 0x0A) : c ∈ t.chars := by
  obtain ⟨l, hloop, rfl⟩ := Option.map_eq_some_iff.1 hrender
  exact mem_padSpaces (mem_printLoop hloop (Or.inr ⟨hc, hne⟩)) _

/-- The loop does not read behind a text that has the size it is said to have. -/
theorem exists_printLoop (print : OledCursorPrintf) (fill : ℤ) (l : PrintLoop)
    (hp : p.length = n) : ∃ l', printLoop print fill p n l = some l' := by
  induction p generalizing n l with
  | nil =>
      subst hp
      exact ⟨l, rfl⟩
  | cons c p ih =>
      subst hp
      exact ih _ rfl

theorem exists_render (print : OledCursorPrintf) (s : Screen)
    (h : print.text.length = print.size) : ∃ t, render print s = some t := by
  obtain ⟨l, hloop⟩ := exists_printLoop print
    (if print.x.toNat < ssd1306Width then print.font.charPerLine.toNat else 0)
    ⟨s.setCursor print.x print.y, _, print.y⟩ h
  exact ⟨_, by rw [render, hloop]; rfl⟩

/-! ### The table -/

/-- **The glyph of a printable character is in the table.** -/
theorem glyphIndex_lt (hc : Printable c) {i : ℕ} (hi : i < font.fontHeight.toNat) :
    glyphIndex font c i < font.dataSize := by
  obtain ⟨hlow, hhigh⟩ := hc
  have hheight := font.fontHeight.toNat_lt
  obtain ⟨k, hk⟩ := Nat.exists_eq_add_of_le hlow
  have hint : ((c.toNat : ℤ) - 32) * font.fontHeight.toNat + i =
      ((k * font.fontHeight.toNat + i : ℕ) : ℤ) := by
    rw [hk]
    push_cast
    ring
  have hbound : k * font.fontHeight.toNat ≤ 94 * font.fontHeight.toNat :=
    Nat.mul_le_mul_right _ (by omega)
  rw [glyphIndex, hint, font.dataSize_eq]
  omega

/-- A NUL is looked up behind the end of it. -/
theorem lt_glyphIndex_nul {i : ℕ} (hi : i < font.fontHeight.toNat) :
    font.dataSize < glyphIndex font 0 i := by
  have hheight := font.fontHeight.toNat_lt
  have hint : (((0 : UInt8).toNat : ℤ) - 32) * font.fontHeight.toNat + i =
      2 ^ 32 - 32 * font.fontHeight.toNat + i + -1 * 2 ^ 32 := by
    have hzero : ((0 : UInt8).toNat : ℤ) = 0 := rfl
    rw [hzero]
    ring
  rw [glyphIndex, font.dataSize_eq, hint, Int.add_mul_emod_self_right,
    Int.emod_eq_of_lt (by omega) (by omega)]
  omega

/-! ### Cutting a text -/

/-- The length of a text, as it is cut. -/
def oledSize (f : Formatted) : ℕ := min f.text.length oledBufMaxSize

/-- The bytes of a text that are copied: as many as its length says after the cut, of those that
`vsnprintf` stored. -/
def oledText (f : Formatted) : List UInt8 :=
  (f.text.take (oledBufMaxSize - 1) ++ [0]).take (oledSize f)

variable {f : Formatted} {i : OledInput} {buf : Mem} {color : Ssd1306Color} {x y : UInt8}
  {result : OledResult}

theorem cutLen_length (hpos : 1 ≤ f.text.length) :
    cutLen f.text.length = .ok (oledSize f) := by
  unfold cutLen oledSize
  by_cases hlong : f.text.length > oledBufMaxSize
  · rw [if_pos (by omega), Nat.min_eq_right (by omega)]
  · rw [if_neg (by omega), if_neg (by omega), if_neg (by omega), Int.toNat_natCast,
      Nat.min_eq_left (by omega)]

/-- What is read of the buffer behind `vsnprintf`. -/
theorem read_vsnprintf (buf : Mem) (f : Formatted) :
    read (vsnprintf buf oledBufMaxSize f).1 0 (oledSize f) = oledText f := by
  have hlength : oledSize f ≤ (f.text.take (oledBufMaxSize - 1) ++ [0]).length := by
    rw [List.length_append, List.length_take, List.length_singleton]
    unfold oledSize oledBufMaxSize
    omega
  exact read_write_take buf 0 _ hlength

/-- **The request that is queued**, if one is. -/
theorem oledCursorPrintf_eq (hfailed : f.failed = false) (hpos : 1 ≤ f.text.length)
    (h : oledCursorPrintf i buf font color x y f = (result, some print)) :
    print = ⟨x, y, oledSize f, oledText f, font, color⟩ := by
  have hlen : (vsnprintf buf oledBufMaxSize f).2 = f.text.length := if_neg (by simp [hfailed])
  unfold oledCursorPrintf at h
  split at h
  · cases h
  · simp only [hlen, cutLen_length hpos] at h
    split at h
    · cases h
    · split at h
      · cases h
      · split at h
        · cases h
        · split at h
          · cases h
          · rw [read_vsnprintf] at h
            exact (Option.some.inj (Prod.mk.inj h).2).symm

/-- A text that is short enough is copied as it is. -/
theorem oledText_of_le (h : f.text.length ≤ oledBufMaxSize - 1) : oledText f = f.text := by
  unfold oledText
  rw [List.take_of_length_le h]
  have hsize : oledSize f = f.text.length := Nat.min_eq_left (by unfold oledBufMaxSize at *; omega)
  rw [hsize, List.take_left]

/-- Of a longer one the NUL is copied too. -/
theorem oledText_of_gt (h : oledBufMaxSize - 1 < f.text.length) :
    oledText f = f.text.take (oledBufMaxSize - 1) ++ [0] := by
  have hsize : oledSize f = oledBufMaxSize :=
    Nat.min_eq_right (by unfold oledBufMaxSize at *; omega)
  have hlength : (f.text.take (oledBufMaxSize - 1) ++ [0]).length = oledBufMaxSize := by
    rw [List.length_append, List.length_take, Nat.min_eq_left (by omega)]
    rfl
  rw [oledText, hsize, List.take_of_length_le (by omega)]

/-- The first 63 characters and no NUL are those of a text that is no longer. -/
theorem oledText_eq_take_iff : oledText f = f.text.take (oledBufMaxSize - 1) ↔
    f.text.length ≤ oledBufMaxSize - 1 := by
  constructor
  · intro htext
    by_contra hgt
    rw [oledText_of_gt (by omega)] at htext
    simpa using congrArg List.length htext
  · intro hle
    rw [oledText_of_le hle, List.take_of_length_le hle]

theorem length_oledText (f : Formatted) : (oledText f).length = oledSize f := by
  rw [oledText, List.length_take, List.length_append, List.length_take, List.length_singleton]
  unfold oledSize oledBufMaxSize
  omega

/-- A request that holds the first 63 characters of a text, and no NUL. -/
def HoldsText (print : OledCursorPrintf) (text : List UInt8) : Prop :=
  print.text = text.take (oledBufMaxSize - 1) ∧
    print.size = min text.length (oledBufMaxSize - 1)

/-- Whatever others decide, `_oled_cursor_printf` passes characters that have a glyph to
`ssd1306_WriteChar`, which reads inside of the table. -/
def DrawsGlyphs (print : OledCursorPrintf) (s : Screen) : Prop :=
  ∀ i, ∃ t err, runOledCursorPrintf i print s = some (t, err) ∧ (∀ c ∈ t.chars, Printable c) ∧
    ∀ r ∈ t.reads, r < print.font.dataSize

theorem holdsText_iff :
    HoldsText ⟨x, y, oledSize f, oledText f, font, color⟩ f.text ↔
      f.text.length ≤ oledBufMaxSize - 1 := by
  constructor
  · exact fun h => oledText_eq_take_iff.1 h.1
  · intro hle
    refine ⟨oledText_eq_take_iff.2 hle, ?_⟩
    show oledSize f = _
    unfold oledSize oledBufMaxSize at *
    omega

/-- Nothing was drawn on the screen yet. -/
def blankScreen (x y : UInt16) : Screen := ⟨x, y, [], []⟩

theorem blankScreen_within (x y : UInt16) : (blankScreen x y).Within C font :=
  ⟨fun _ hc => absurd hc List.not_mem_nil, fun _ hr => absurd hr List.not_mem_nil⟩

/-- **Of a text of printable characters and newlines only glyphs are drawn if and only if it is
short enough.** -/
theorem drawsGlyphs_iff {screenX screenY : UInt16}
    (htext : ∀ c ∈ f.text, c ≠ 0x0A → Printable c) :
    DrawsGlyphs ⟨x, y, oledSize f, oledText f, font, color⟩ (blankScreen screenX screenY) ↔
      f.text.length ≤ oledBufMaxSize - 1 := by
  obtain ⟨t, hrender⟩ := exists_render ⟨x, y, oledSize f, oledText f, font, color⟩
    (blankScreen screenX screenY) (length_oledText f)
  constructor
  · intro hdraws
    by_contra hgt
    obtain ⟨t', err, hrun, hchars, -⟩ := hdraws ⟨false, true, 0⟩
    rw [runOledCursorPrintf, if_neg (by simp), if_neg (by simp), hrender] at hrun
    obtain rfl : t = t' := (Prod.mk.inj (Option.some.inj hrun)).1
    -- the NUL is passed to `ssd1306_WriteChar`
    have hnul : (0 : UInt8) ∈ t.chars := by
      refine mem_render hrender ?_ (by decide)
      show (0 : UInt8) ∈ (oledText f).take (oledSize f)
      rw [List.take_of_length_le (length_oledText f).le, oledText_of_gt (by omega)]
      exact List.mem_append_right _ (List.mem_singleton_self 0)
    exact absurd (hchars 0 hnul).1 (by decide)
  · intro hle i
    have hblank : (blankScreen screenX screenY).Within Printable font :=
      blankScreen_within screenX screenY
    have hwithin : t.Within Printable font := by
      refine render_within hblank (by decide) ?_ hrender
      show ∀ c ∈ oledText f, c ≠ 0x0A → Printable c
      rwa [oledText_of_le hle]
    have hreads : ∀ t : Screen, t.Within Printable font → ∀ r ∈ t.reads, r < font.dataSize := by
      intro t ht r hr
      obtain ⟨c, hc, i, hi, rfl⟩ := ht.reads r hr
      exact glyphIndex_lt hc hi
    unfold runOledCursorPrintf
    split
    · exact ⟨_, _, rfl, hblank.chars, hreads _ hblank⟩
    · split
      · exact ⟨_, _, rfl, hblank.chars, hreads _ hblank⟩
      · exact ⟨t, i.update, by rw [hrender]; rfl, hwithin.chars, hreads t hwithin⟩

/-- **A text is cut cleanly if and only if it has no more than 63 characters**: the request holds
its first characters and no NUL, and, if they are printable or newlines, only glyphs are drawn. -/
theorem oledCursorPrintf_iff (hfailed : f.failed = false) (hpos : 1 ≤ f.text.length)
    (h : oledCursorPrintf i buf font color x y f = (result, some print)) :
    (HoldsText print f.text ↔ f.text.length ≤ oledBufMaxSize - 1) ∧
      ((∀ c ∈ f.text, c ≠ 0x0A → Printable c) → ∀ screenX screenY,
        (DrawsGlyphs print (blankScreen screenX screenY) ↔
          f.text.length ≤ oledBufMaxSize - 1)) := by
  obtain rfl := oledCursorPrintf_eq hfailed hpos h
  exact ⟨holdsText_iff, fun htext screenX screenY => drawsGlyphs_iff htext⟩

/-- A text that fits. -/
theorem oledCursorPrintf_ok :
    (HoldsText ⟨0, 50, 2, [0x4F, 0x4B], font7x10, .white⟩ [0x4F, 0x4B] ↔ 2 ≤ oledBufMaxSize - 1) ∧
      ((∀ c ∈ [(0x4F : UInt8), 0x4B], c ≠ 0x0A → Printable c) → ∀ screenX screenY,
        (DrawsGlyphs ⟨0, 50, 2, [0x4F, 0x4B], font7x10, .white⟩ (blankScreen screenX screenY) ↔
          2 ≤ oledBufMaxSize - 1)) := by
  have hqueued : oledCursorPrintf ⟨true, true, true, true, 0⟩ (fun _ => 0) font7x10 .white 0 50
      ⟨[0x4F, 0x4B], false⟩ =
        (.returned 0, some ⟨0, 50, 2, [0x4F, 0x4B], font7x10, .white⟩) := rfl
  exact oledCursorPrintf_iff rfl (by decide) hqueued

/-- 64 characters: the NUL behind the first 63 is copied, and drawn. -/
theorem oledCursorPrintf_not :
    ¬ ∀ (f : Formatted) (i : OledInput) (buf : Mem) (font : FontDef) (color : Ssd1306Color)
      (x y : UInt8) (result : OledResult) (print : OledCursorPrintf), f.failed = false →
        1 ≤ f.text.length → oledCursorPrintf i buf font color x y f = (result, some print) →
        HoldsText print f.text ∧ ((∀ c ∈ f.text, c ≠ 0x0A → Printable c) →
          DrawsGlyphs print (blankScreen 0 0)) := by
  intro h
  obtain ⟨⟨htext, -⟩, -⟩ := h ⟨List.replicate 64 0x41, false⟩ ⟨true, true, true, true, 0⟩
    (fun _ => 0) font7x10 .white 0 0 (.returned 0) _ rfl (by decide) rfl
  exact absurd htext (by decide)

end Solar48
