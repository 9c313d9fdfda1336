/-
**From the buffer to the display.**

`ssd1306_UpdateScreen` sends the buffer page by page: three commands that say where the page begins,
and then its 128 bytes.  Each of the four is one call of `hal_i2c1_write`, which can fail after any
number of bytes, and the first page with a failure ends the update.

The three commands are for page addressing.  `ssd1306_Init` sends `0x10` behind `0x20`, though, and
its two low bits are those of horizontal addressing, in which a pointer goes round through the whole
memory and the three commands do nothing.  So a page lies where the pointer is, and not where the
commands say.  **An update that succeeds is a full turn**, and leaves the pointer where it was; one
that fails moves it on by what it has sent (`Solar48.updateScreen_failed`).  After any history of
requests, failed ones included, **the display has all that was drawn as soon as one request
succeeds, from the pointer on** (`Solar48.runOledProcess_shows`): in its place if the pointer is at
the first byte, and shifted otherwise.

The display is not part of the program.  It is a parameter, and `Solar48.Display.Horizontal` is what
its datasheet says of this mode.

Main definitions:

* `Solar48.Transfer` — how a call of `hal_i2c1_write` ends;
* `Solar48.updateScreen`, `Solar48.runOledProcess` — the code, and a history of requests;
* `Solar48.Sends` — what has been put on the bus;
* `Solar48.Display`, `Solar48.Display.Horizontal` — the display.

Main results:

* `Solar48.updateScreen_sends` — what an update puts on the bus;
* `Solar48.Display.Horizontal.of_sends` — what it comes to on the display.
-/

import Solar48.HalI2cBytes
import Solar48.RingBuffer
import Solar48.Ssd1306

set_option relaxedAutoImplicit false
set_option autoImplicit false

namespace Solar48

open ByteMem PagedImage RingBuffer StepSystem

/-! ### The code -/

/-- The length of `SSD1306_Buffer`. -/
def ssd1306BufferSize : ℕ := ssd1306Width * ssd1306Height / 8

/-- The value of an error. -/
def I2cErr.code : I2cErr → ℕ
  | .success => 0
  | .portBusy => 1
  | .timeout .busyBus => 5
  | .nack .busyBus => 6
  | .timeout .startBus => 7
  | .nack .startBus => 8
  | .timeout .devAddressBus => 9
  | .nack .devAddressBus => 10
  | .timeout .devMemoryAddressBus => 11
  | .nack .devMemoryAddressBus => 12
  | .timeout .devStopBus => 13
  | .nack .devStopBus => 14

/-- How a call of `hal_i2c1_write` ends, and how many of its bytes the display has got, if it is no
success. -/
structure Transfer where
  err : I2cErr
  sent : ℕ

/-- What the display gets of a message. -/
def Transfer.passes (t : Transfer) (values : List UInt8) : List UInt8 :=
  if t.err = .success then values else values.take t.sent

/-- The messages of the calls so far, as far as the display has got them. -/
abbrev I2cBus := List (List UInt8)

/-- `SSD1306_I2C_ADDR`. -/
def ssd1306I2cAddr : UInt8 := 0x3C

/-- `hal_i2c1_write`, to the display. -/
def halI2c1Write (t : Transfer) (memAddress : UInt8) (bytes : List UInt8) (bus : I2cBus) :
    ℕ × I2cBus :=
  (t.err.code, bus ++ [t.passes ((ssd1306I2cAddr <<< 1) :: memAddress :: bytes)])

/-- `ssd1306_WriteCommand`. -/
def writeCommand (s : Ssd1306) (t : Transfer) (command : UInt8) (bus : I2cBus) : ℕ × I2cBus :=
  if s.initialized then halI2c1Write t 0x00 [command] bus else (1, bus)

/-- One page of `ssd1306_UpdateScreen`, and the sum of the four results. -/
def updatePage (s : Ssd1306) (t : ℕ → Transfer) (i : ℕ) (bus : I2cBus) : ℕ × I2cBus :=
  let (status₀, bus) := writeCommand s (t 0) (0xB0 + UInt8.ofNat i) bus
  let (status₁, bus) := writeCommand s (t 1) 0x00 bus
  let (status₂, bus) := writeCommand s (t 2) 0x10 bus
  let (status₃, bus) := halI2c1Write (t 3) 0x40 (read s.buffer (ssd1306Width * i) ssd1306Width) bus
  (status₀ + status₁ + status₂ + status₃, bus)

/-- The loop of `ssd1306_UpdateScreen`, from page `i` on, with the number of pages that are left. -/
def updatePages (s : Ssd1306) (t : ℕ → ℕ → Transfer) : ℕ → ℕ → I2cBus → ℕ × I2cBus
  | _, 0, bus => (0, bus)
  | i, left + 1, bus =>
      let (status, bus) := updatePage s (t i) i bus
      if status ≠ 0 then (status, bus) else updatePages s t (i + 1) left bus

/-- `ssd1306_UpdateScreen`, with the end of each of its transfers. -/
def updateScreen (s : Ssd1306) (t : ℕ → ℕ → Transfer) (bus : I2cBus) : ℕ × I2cBus :=
  updatePages s t 0 8 bus

/-! ### Transfers -/

/-- **The calls of `hal_i2c1_write` end in one of these ways**: what a run of it has stored in
`I2C1_DR` is what such a transfer lets through of the message. -/
theorem exists_transfer_of_run {call : I2cCall} {block : Mem} {lock : Bool} {s : I2cState}
    {err : I2cErr} (haddress : call.devAddress = ssd1306I2cAddr) (hdata : call.data = some block)
    (hsize : 0 < call.dataSize)
    (h : Run (i2cStep call) (fun _ _ => true) (i2cInit call lock) s) (hpc : s.pc = .returned err) :
    ∃ t : Transfer, t.err = err ∧ s.drs = (t.passes ((ssd1306I2cAddr <<< 1) :: call.memAddress ::
      read block 0 call.dataSize.toNat)).map UInt8.toUInt16 := by
  have hinv : I2cBytes call block s := h.invariant (i2cInit_bytes call block lock)
    fun i t u ht _ hstep => ht.step hdata hsize hstep
  obtain ⟨hupto, hall⟩ := hinv.ended (by rw [hpc]; rfl)
  have hvalues : call.values block = ((ssd1306I2cAddr <<< 1) :: call.memAddress ::
      read block 0 call.dataSize.toNat).map UInt8.toUInt16 := by
    rw [I2cCall.values, haddress]
    rfl
  rw [hvalues] at hupto hall
  refine ⟨⟨err, s.drs.length⟩, rfl, ?_⟩
  unfold Transfer.passes
  by_cases hsuccess : err = .success
  · have hresult : s.result = .success := by rw [I2cState.result, hpc, hsuccess]
    rw [if_pos hsuccess, hall hresult]
  · rw [if_neg hsuccess, List.map_take]
    exact List.prefix_iff_eq_take.1 hupto

theorem code_eq_zero_iff (err : I2cErr) : err.code = 0 ↔ err = .success := by
  cases err with
  | success => decide
  | portBusy => decide
  | timeout p => cases p <;> decide
  | nack p => cases p <;> decide

/-! ### What is on the bus -/

/-- The data in a message: behind the address of the display comes a byte that tells commands from
data, and then these. -/
def payload : List UInt8 → List UInt8
  | _ :: control :: bytes => if control = 0x00 then [] else bytes
  | _ => []

/-- The start of a page, or a half of the column: commands for page addressing only. -/
def ForPageAddressing (command : UInt8) : Prop :=
  0xB0 ≤ command ∧ command ≤ 0xB7 ∨ command ≤ 0x1F
  deriving Decidable

/-- A message with no other commands than these. -/
def PositionOrData : List UInt8 → Prop
  | _ :: control :: bytes => control = 0x00 → ∀ b ∈ bytes, ForPageAddressing b
  | _ => True

/-- **What was put on the bus**: `data`, and commands for page addressing. -/
def Sends (bus bus' : I2cBus) (data : List UInt8) : Prop :=
  ∃ messages, bus' = bus ++ messages ∧ (∀ m ∈ messages, PositionOrData m) ∧
    messages.flatMap payload = data

theorem Sends.refl (bus : I2cBus) : Sends bus bus [] :=
  ⟨[], (List.append_nil bus).symm, fun _ hm => absurd hm List.not_mem_nil, rfl⟩

theorem Sends.trans {bus₀ bus₁ bus₂ : I2cBus} {data₁ data₂ : List UInt8}
    (h₁ : Sends bus₀ bus₁ data₁) (h₂ : Sends bus₁ bus₂ data₂) :
    Sends bus₀ bus₂ (data₁ ++ data₂) := by
  obtain ⟨ms₁, rfl, hms₁, rfl⟩ := h₁
  obtain ⟨ms₂, rfl, hms₂, rfl⟩ := h₂
  refine ⟨ms₁ ++ ms₂, List.append_assoc _ _ _, fun m hm => ?_, List.flatMap_append⟩
  rcases List.mem_append.1 hm with hm | hm
  · exact hms₁ m hm
  · exact hms₂ m hm

theorem Sends.message {m : List UInt8} (hm : PositionOrData m) (bus : I2cBus) :
    Sends bus (bus ++ [m]) (payload m) := by
  refine ⟨[m], rfl, fun m' hm' => ?_, by rw [List.flatMap_singleton]⟩
  rw [List.mem_singleton.1 hm']
  exact hm

/-- How much a transfer of a page lets through. -/
def Transfer.taken (t : Transfer) : ℕ :=
  if t.err = .success then ssd1306Width else min (t.sent - 2) ssd1306Width

theorem Transfer.taken_le (t : Transfer) : t.taken ≤ ssd1306Width := by
  unfold taken
  split
  · exact Nat.le_refl _
  · exact Nat.min_le_right _ _

/-- A command, or the beginning of one. -/
theorem sends_writeCommand (s : Ssd1306) (t : Transfer) {command : UInt8}
    (hcommand : ForPageAddressing command) (bus : I2cBus) :
    Sends bus (writeCommand s t command bus).2 [] := by
  unfold writeCommand
  split
  · have hposition (values : List UInt8)
        (hvalues : values <+: [ssd1306I2cAddr <<< 1, 0x00, command]) :
        PositionOrData values ∧ payload values = [] := by
      match values, hvalues with
      | [], _ => exact ⟨trivial, rfl⟩
      | [_], _ => exact ⟨trivial, rfl⟩
      | a :: control :: bytes, hvalues =>
          obtain ⟨hzero, hbytes⟩ := List.cons_prefix_cons.1 (List.cons_prefix_cons.1 hvalues).2
          refine ⟨fun _ b hb => ?_, if_pos hzero⟩
          rw [List.mem_singleton.1 (hbytes.subset hb)]
          exact hcommand
    have hpasses : t.passes [ssd1306I2cAddr <<< 1, 0x00, command] <+:
        [ssd1306I2cAddr <<< 1, 0x00, command] := by
      unfold Transfer.passes
      split
      · exact List.prefix_refl _
      · exact List.take_prefix _ _
    obtain ⟨hm, hpayload⟩ := hposition _ hpasses
    have hsends := Sends.message hm bus
    rwa [hpayload] at hsends
  · exact .refl bus

/-- The bytes of a page, or the first of them. -/
theorem sends_halI2c1Write (t : Transfer) (m : Mem) (p : ℕ) (bus : I2cBus) :
    Sends bus (halI2c1Write t 0x40 (read m p ssd1306Width) bus).2 (read m p t.taken) := by
  have hcontrol : (0x40 : UInt8) ≠ 0x00 := by decide
  have hdata (bytes : List UInt8) :
      Sends bus (bus ++ [(ssd1306I2cAddr <<< 1) :: 0x40 :: bytes]) bytes := by
    have hsends := Sends.message (m := (ssd1306I2cAddr <<< 1) :: 0x40 :: bytes)
      (fun hzero => absurd hzero hcontrol) bus
    rwa [payload, if_neg hcontrol] at hsends
  unfold halI2c1Write Transfer.passes Transfer.taken
  split
  · exact hdata (read m p ssd1306Width)
  · match t.sent with
    | 0 =>
        rw [Nat.zero_sub, Nat.zero_min]
        exact Sends.message (m := []) trivial bus
    | 1 =>
        rw [Nat.sub_eq_zero_of_le (by decide), Nat.zero_min]
        exact Sends.message (m := [_]) trivial bus
    | n + 2 =>
        rw [Nat.add_sub_cancel, ← take_read]
        exact hdata ((read m p ssd1306Width).take n)

/-- A page is sent as a whole. -/
def PageSent (s : Ssd1306) (t : ℕ → Transfer) : Prop :=
  s.initialized = true ∧ ∀ k < 4, (t k).err = .success

theorem writeCommand_eq_zero_iff (s : Ssd1306) (t : Transfer) (command : UInt8) (bus : I2cBus) :
    (writeCommand s t command bus).1 = 0 ↔ s.initialized = true ∧ t.err = .success := by
  unfold writeCommand
  split
  · rename_i hinit
    rw [and_iff_right hinit]
    exact code_eq_zero_iff t.err
  · rename_i hinit
    exact iff_of_false Nat.one_ne_zero fun h => hinit h.1

theorem updatePage_eq_zero_iff (s : Ssd1306) (t : ℕ → Transfer) (i : ℕ) (bus : I2cBus) :
    (updatePage s t i bus).1 = 0 ↔ PageSent s t := by
  simp only [updatePage, Nat.add_eq_zero_iff, writeCommand_eq_zero_iff]
  rw [show (halI2c1Write (t 3) 0x40 _ _).1 = 0 ↔ (t 3).err = .success from code_eq_zero_iff _]
  constructor
  · rintro ⟨⟨⟨⟨hinit, h₀⟩, -, h₁⟩, -, h₂⟩, h₃⟩
    refine ⟨hinit, fun k hk => ?_⟩
    match k, hk with
    | 0, _ => exact h₀
    | 1, _ => exact h₁
    | 2, _ => exact h₂
    | 3, _ => exact h₃
  · rintro ⟨hinit, h⟩
    exact ⟨⟨⟨⟨hinit, h 0 (by decide)⟩, hinit, h 1 (by decide)⟩, hinit, h 2 (by decide)⟩,
      h 3 (by decide)⟩

/-- **What a page puts on the bus.** -/
theorem updatePage_sends (s : Ssd1306) (t : ℕ → Transfer) {i : ℕ} (hi : i < 8) (bus : I2cBus) :
    Sends bus (updatePage s t i bus).2 (read s.buffer (ssd1306Width * i) (t 3).taken) := by
  have hpage : ∀ i < 8, 0xB0 ≤ 0xB0 + UInt8.ofNat i ∧ 0xB0 + UInt8.ofNat i ≤ 0xB7 := by decide
  have h₀ := sends_writeCommand s (t 0) (.inl (hpage i hi)) bus
  have h₁ := h₀.trans (sends_writeCommand s (t 1) (show ForPageAddressing 0x00 by decide) _)
  have h₂ := h₁.trans (sends_writeCommand s (t 2) (show ForPageAddressing 0x10 by decide) _)
  exact h₂.trans (sends_halI2c1Write (t 3) s.buffer (ssd1306Width * i) _)

theorem updatePages_of_sent {s : Ssd1306} {t : ℕ → ℕ → Transfer} {i : ℕ}
    (h : PageSent s (t i)) (left : ℕ) (bus : I2cBus) : updatePages s t i (left + 1) bus =
      updatePages s t (i + 1) left (updatePage s (t i) i bus).2 :=
  if_neg (not_not_intro ((updatePage_eq_zero_iff s (t i) i bus).2 h))

theorem updatePages_of_not_sent {s : Ssd1306} {t : ℕ → ℕ → Transfer} {i : ℕ}
    (h : ¬ PageSent s (t i)) (left : ℕ) (bus : I2cBus) : updatePages s t i (left + 1) bus =
      updatePage s (t i) i bus :=
  if_pos fun hzero => h ((updatePage_eq_zero_iff s (t i) i bus).1 hzero)

/-- All pages are sent, or those before the first that is not. -/
theorem updatePages_sends (s : Ssd1306) (t : ℕ → ℕ → Transfer) {i left : ℕ} (hi : i + left = 8)
    (bus : I2cBus) :
    (updatePages s t i left bus).1 = 0 ∧
        Sends bus (updatePages s t i left bus).2
          (read s.buffer (ssd1306Width * i) (ssd1306Width * left)) ∨
      (updatePages s t i left bus).1 ≠ 0 ∧ ∃ n, i + n < 8 ∧ (∀ k < n, PageSent s (t (i + k))) ∧
        ¬ PageSent s (t (i + n)) ∧ Sends bus (updatePages s t i left bus).2
          (read s.buffer (ssd1306Width * i) (ssd1306Width * n + (t (i + n) 3).taken)) := by
  induction left generalizing i bus with
  | zero => exact .inl ⟨rfl, .refl bus⟩
  | succ left ih =>
      have hpage := updatePage_sends s (t i) (show i < 8 by omega) bus
      by_cases hsent : PageSent s (t i)
      · have hwhole : (t i 3).taken = ssd1306Width := if_pos (hsent.2 3 (by decide))
        rw [hwhole] at hpage
        have hjoin (n : ℕ) : read s.buffer (ssd1306Width * i) ssd1306Width ++
            read s.buffer (ssd1306Width * (i + 1)) n =
              read s.buffer (ssd1306Width * i) (ssd1306Width + n) := by
          rw [Nat.mul_succ, read_add]
        rw [updatePages_of_sent hsent]
        rcases ih (show i + 1 + left = 8 by omega) (updatePage s (t i) i bus).2 with
          ⟨hzero, hrest⟩ | ⟨hfails, n, hn, hbefore, hfirst, hrest⟩
        · refine .inl ⟨hzero, ?_⟩
          have hall := hpage.trans hrest
          rwa [hjoin, Nat.add_comm ssd1306Width, ← Nat.mul_succ] at hall
        · refine .inr ⟨hfails, n + 1, by omega, fun k hk => ?_, ?_, ?_⟩
          · cases k with
            | zero => exact hsent
            | succ k => exact Nat.succ_add_eq_add_succ i k ▸ hbefore k (by omega)
          · rwa [← Nat.succ_add_eq_add_succ]
          · have hall := hpage.trans hrest
            rwa [hjoin, ← Nat.add_assoc, Nat.add_comm ssd1306Width, ← Nat.mul_succ,
              Nat.succ_add_eq_add_succ] at hall
      · rw [updatePages_of_not_sent hsent]
        refine .inr ⟨fun hzero => hsent ((updatePage_eq_zero_iff s (t i) i bus).1 hzero), 0,
          by omega, fun k hk => absurd hk (Nat.not_lt_zero k), hsent, ?_⟩
        rwa [Nat.mul_zero, Nat.zero_add, Nat.add_zero]

/-- **What an update puts on the bus**: the whole buffer if it succeeds, and otherwise the buffer up
to the first page with a failure, with as much of that page as its own transfer let through. -/
theorem updateScreen_sends (s : Ssd1306) (t : ℕ → ℕ → Transfer) (bus : I2cBus) :
    (updateScreen s t bus).1 = 0 ∧
        Sends bus (updateScreen s t bus).2 (read s.buffer 0 ssd1306BufferSize) ∨
      (updateScreen s t bus).1 ≠ 0 ∧ ∃ j < 8, (∀ i < j, PageSent s (t i)) ∧ ¬ PageSent s (t j) ∧
        Sends bus (updateScreen s t bus).2
          (read s.buffer 0 (ssd1306Width * j + (t j 3).taken)) := by
  rcases updatePages_sends s t (Nat.zero_add 8) bus with
    h | ⟨hfails, n, hn, hbefore, hfirst, hsends⟩
  · exact .inl h
  · rw [Nat.zero_add] at hn hfirst hsends
    exact .inr ⟨hfails, n, hn, fun i hi => Nat.zero_add i ▸ hbefore i hi, hfirst, hsends⟩

/-! ### The display -/

/-- The display: what it does with a command and with a byte of data, the place where the next byte
goes, and its memory, page by page. -/
structure Display (σ : Type*) where
  command : UInt8 → σ → σ
  data : UInt8 → σ → σ
  pointer : σ → ℕ
  ram : σ → Mem

namespace Display

variable {σ : Type*}

/-- **What the datasheet (`Doc/peripheral/SSD1306.pdf`) says of horizontal addressing**, with all
columns and pages as after a reset: with each byte of data the pointer goes on through the columns
of a page, then to the next page, and from the last one back to the first; the commands for page
addressing are for that mode only. -/
structure Horizontal (D : Display σ) : Prop where
  pointer_lt : ∀ p, D.pointer p < ssd1306BufferSize
  pointer_data : ∀ b p, D.pointer (D.data b p) = (D.pointer p + 1) % ssd1306BufferSize
  ram_data : ∀ b p, D.ram (D.data b p) = Function.update (D.ram p) (D.pointer p) b
  pointer_command : ∀ b p, ForPageAddressing b → D.pointer (D.command b p) = D.pointer p
  ram_command : ∀ b p, ForPageAddressing b → D.ram (D.command b p) = D.ram p

/-- A message. -/
def receive (D : Display σ) (p : σ) : List UInt8 → σ
  | _ :: control :: bytes =>
      if control = 0x00 then bytes.foldl (fun p b => D.command b p) p
      else bytes.foldl (fun p b => D.data b p) p
  | _ => p

/-- All messages on the bus. -/
def receives (D : Display σ) (p : σ) (bus : I2cBus) : σ := bus.foldl D.receive p

/-- The image on the display. -/
def image (D : Display σ) (p : σ) : Image := fun px py =>
  decide (px < ssd1306Width ∧ py < ssd1306Height) && pixel ssd1306Width (D.ram p) px py

/-- The image that begins at a place of the memory, and goes on at its beginning. -/
def imageFrom (D : Display σ) (q : ℕ) (p : σ) : Image := fun px py =>
  decide (px < ssd1306Width ∧ py < ssd1306Height) &&
    pixel ssd1306Width (fun k => D.ram p ((q + k) % ssd1306BufferSize)) px py

/-- One that begins at the first byte is in its place. -/
theorem imageFrom_zero (D : Display σ) (p : σ) : D.imageFrom 0 p = D.image p := by
  funext px py
  rw [imageFrom, image]
  by_cases hin : px < ssd1306Width ∧ py < ssd1306Height
  · have hindex : index ssd1306Width px py < ssd1306Width * 8 := index_lt hin.1 hin.2
    have hsize : ssd1306Width * 8 = ssd1306BufferSize := rfl
    rw [hsize] at hindex
    rw [pixel, pixel, Nat.zero_add, Nat.mod_eq_of_lt hindex]
  · rw [decide_eq_false hin, Bool.false_and, Bool.false_and]

variable {D : Display σ}

theorem Horizontal.foldl_data (hD : D.Horizontal) (bytes : List UInt8) (p : σ) :
    D.ram (bytes.foldl (fun p b => D.data b p) p) =
        storeFrom ssd1306BufferSize (D.ram p) (D.pointer p) bytes ∧
      D.pointer (bytes.foldl (fun p b => D.data b p) p) =
        (D.pointer p + bytes.length) % ssd1306BufferSize := by
  induction bytes generalizing p with
  | nil => exact ⟨rfl, (Nat.mod_eq_of_lt (hD.pointer_lt p)).symm⟩
  | cons b bytes ih =>
      obtain ⟨hram, hpointer⟩ := ih (D.data b p)
      rw [hD.ram_data, hD.pointer_data] at hram
      rw [hD.pointer_data, Nat.mod_add_mod, Nat.add_right_comm] at hpointer
      exact ⟨hram, hpointer⟩

theorem Horizontal.foldl_command (hD : D.Horizontal) {bytes : List UInt8}
    (h : ∀ b ∈ bytes, ForPageAddressing b) (p : σ) :
    D.ram (bytes.foldl (fun p b => D.command b p) p) = D.ram p ∧
      D.pointer (bytes.foldl (fun p b => D.command b p) p) = D.pointer p := by
  induction bytes generalizing p with
  | nil => exact ⟨rfl, rfl⟩
  | cons b bytes ih =>
      have hb := h b List.mem_cons_self
      obtain ⟨hram, hpointer⟩ := ih (fun c hc => h c (List.mem_cons_of_mem b hc)) (D.command b p)
      exact ⟨hram.trans (hD.ram_command b p hb), hpointer.trans (hD.pointer_command b p hb)⟩

/-- One message. -/
theorem Horizontal.receive (hD : D.Horizontal) {m : List UInt8} (hm : PositionOrData m) (p : σ) :
    D.ram (D.receive p m) = storeFrom ssd1306BufferSize (D.ram p) (D.pointer p) (payload m) ∧
      D.pointer (D.receive p m) = (D.pointer p + (payload m).length) % ssd1306BufferSize := by
  have hstays := (Nat.mod_eq_of_lt (hD.pointer_lt p)).symm
  match m, hm with
  | [], _ => exact ⟨rfl, hstays⟩
  | [_], _ => exact ⟨rfl, hstays⟩
  | _ :: control :: bytes, hm =>
      by_cases hzero : control = 0x00
      · obtain ⟨hram, hpointer⟩ := hD.foldl_command (hm hzero) p
        rw [Display.receive, payload, if_pos hzero, if_pos hzero]
        exact ⟨hram, hpointer.trans hstays⟩
      · rw [Display.receive, payload, if_neg hzero, if_neg hzero]
        exact hD.foldl_data bytes p

/-- All messages. -/
theorem Horizontal.receives (hD : D.Horizontal) {bus : I2cBus} (h : ∀ m ∈ bus, PositionOrData m)
    (p : σ) :
    D.ram (D.receives p bus) =
        storeFrom ssd1306BufferSize (D.ram p) (D.pointer p) (bus.flatMap payload) ∧
      D.pointer (D.receives p bus) =
        (D.pointer p + (bus.flatMap payload).length) % ssd1306BufferSize := by
  induction bus generalizing p with
  | nil => exact ⟨rfl, (Nat.mod_eq_of_lt (hD.pointer_lt p)).symm⟩
  | cons m bus ih =>
      obtain ⟨hram, hpointer⟩ := hD.receive (h m List.mem_cons_self) p
      obtain ⟨hram', hpointer'⟩ :=
        ih (fun m' hm' => h m' (List.mem_cons_of_mem m hm')) (D.receive p m)
      rw [List.flatMap_cons, storeFrom_append (hD.pointer_lt p), List.length_append,
        ← Nat.add_assoc]
      rw [hram, hpointer] at hram'
      rw [hpointer, Nat.mod_add_mod] at hpointer'
      exact ⟨hram', hpointer'⟩

/-- **What has been put on the bus is stored from the pointer on**, and the pointer is behind it. -/
theorem Horizontal.of_sends (hD : D.Horizontal) {bus bus' : I2cBus} {data : List UInt8}
    (h : Sends bus bus' data) (p : σ) :
    D.ram (D.receives p bus') = storeFrom ssd1306BufferSize (D.ram (D.receives p bus))
        (D.pointer (D.receives p bus)) data ∧
      D.pointer (D.receives p bus') =
        (D.pointer (D.receives p bus) + data.length) % ssd1306BufferSize := by
  obtain ⟨messages, rfl, hmessages, rfl⟩ := h
  rw [Display.receives, List.foldl_append]
  exact hD.receives hmessages (D.receives p bus)

/-- No more than a turn of it. -/
theorem Horizontal.ram_of_sends (hD : D.Horizontal) {bus bus' : I2cBus} {m : Mem} {n : ℕ}
    (h : Sends bus bus' (read m 0 n)) (hn : n ≤ ssd1306BufferSize) (p : σ) {k : ℕ}
    (hk : k < ssd1306BufferSize) :
    D.ram (D.receives p bus') ((D.pointer (D.receives p bus) + k) % ssd1306BufferSize) =
      if k < n then m k
      else D.ram (D.receives p bus) ((D.pointer (D.receives p bus) + k) % ssd1306BufferSize) := by
  have hlen : (read m 0 n).length ≤ ssd1306BufferSize := by rwa [length_read]
  rw [(hD.of_sends h p).1, storeFrom_apply (hD.pointer_lt _) hk _ hlen]
  split
  · rename_i hlt
    rw [List.getD_eq_getElem _ _ (by rwa [length_read]), getElem_read, Nat.zero_add]
  · rename_i hge
    have hnone : (read m 0 n)[k]? = none :=
      List.getElem?_eq_none (by rw [length_read]; exact Nat.le_of_not_lt hge)
    rw [List.getD_eq_getElem?_getD, hnone, Option.getD_none]

end Display

/-! ### An update -/

section

variable {σ : Type*} {D : Display σ}

/-- **After an update that succeeds the image is on the display, from the pointer on**, whatever was
there, and the pointer is where it was. -/
theorem updateScreen_shows (hD : D.Horizontal) {s : Ssd1306} {t : ℕ → ℕ → Transfer} {bus : I2cBus}
    (h : (updateScreen s t bus).1 = 0) (p₀ : σ) :
    let p := D.receives p₀ bus
    let p' := D.receives p₀ (updateScreen s t bus).2
    D.pointer p' = D.pointer p ∧ D.imageFrom (D.pointer p') p' = s.image := by
  intro p p'
  have hsends : Sends bus (updateScreen s t bus).2 (read s.buffer 0 ssd1306BufferSize) := by
    rcases updateScreen_sends s t bus with hall | hfails
    · exact hall.2
    · exact absurd h hfails.1
  have hpointer : D.pointer p' = D.pointer p := by
    have hturn := (hD.of_sends hsends p₀).2
    rwa [length_read, Nat.add_mod_right, Nat.mod_eq_of_lt (hD.pointer_lt _)] at hturn
  refine ⟨hpointer, ?_⟩
  funext px py
  rw [Display.imageFrom, Ssd1306.image]
  by_cases hin : px < ssd1306Width ∧ py < ssd1306Height
  · have hindex : index ssd1306Width px py < ssd1306Width * 8 := index_lt hin.1 hin.2
    have hram := hD.ram_of_sends hsends (Nat.le_refl _) p₀ hindex
    rw [if_pos (show _ < ssd1306BufferSize from hindex), ← hpointer] at hram
    rw [pixel, pixel, hram]
  · rw [decide_eq_false hin, Bool.false_and, Bool.false_and]

/-- **After an update that fails, the display has the beginning of the buffer from the pointer on**,
and is as it was elsewhere: the pages before the first one with a failure, and as much of that one
as its own transfer let through.  The pointer has moved on by as much. -/
theorem updateScreen_failed (hD : D.Horizontal) {s : Ssd1306} {t : ℕ → ℕ → Transfer} {bus : I2cBus}
    (h : (updateScreen s t bus).1 ≠ 0) (p₀ : σ) :
    let p := D.receives p₀ bus
    let p' := D.receives p₀ (updateScreen s t bus).2
    ∃ j < 8, (∀ i < j, PageSent s (t i)) ∧ ¬ PageSent s (t j) ∧
      let n := ssd1306Width * j + (t j 3).taken
      D.pointer p' = (D.pointer p + n) % ssd1306BufferSize ∧
        ∀ k < ssd1306BufferSize, D.ram p' ((D.pointer p + k) % ssd1306BufferSize) =
          if k < n then s.buffer k else D.ram p ((D.pointer p + k) % ssd1306BufferSize) := by
  intro p p'
  rcases updateScreen_sends s t bus with hall | ⟨-, j, hj, hbefore, hfirst, hsends⟩
  · exact absurd hall.1 h
  have hn : ssd1306Width * j + (t j 3).taken ≤ ssd1306BufferSize := by
    have htaken := (t j 3).taken_le
    unfold ssd1306BufferSize ssd1306Height
    unfold ssd1306Width at htaken ⊢
    omega
  have hpointer := (hD.of_sends hsends p₀).2
  rw [length_read] at hpointer
  exact ⟨j, hj, hbefore, hfirst, hpointer, fun k hk => hD.ram_of_sends hsends hn p₀ hk⟩

end

/-- A display with nothing but a pointer and its memory. -/
def plainDisplay : Display (Fin 1024 × Mem) where
  command _ p := p
  data b p := (p.1 + 1, Function.update p.2 p.1 b)
  pointer p := p.1
  ram p := p.2

theorem plainDisplay_horizontal : plainDisplay.Horizontal where
  pointer_lt p := p.1.isLt
  pointer_data _ p := Fin.val_add p.1 1
  ram_data _ _ := rfl
  pointer_command _ _ _ := rfl
  ram_command _ _ _ := rfl

/-- The command in front of the third page is lost; its data is sent all the same. -/
theorem updateScreen_failed_third :
    let s : Ssd1306 := ⟨0, 0, false, true, fun _ => 0xAA⟩
    let t : ℕ → ℕ → Transfer := fun i k =>
      ⟨if i = 2 ∧ k = 0 then .timeout .devAddressBus else .success, 1⟩
    let p : Fin 1024 × Mem := (1000, fun _ => 0)
    let p' := plainDisplay.receives p (updateScreen s t []).2
    ∃ j < 8, (∀ i < j, PageSent s (t i)) ∧ ¬ PageSent s (t j) ∧
      let n := ssd1306Width * j + (t j 3).taken
      plainDisplay.pointer p' = (plainDisplay.pointer p + n) % ssd1306BufferSize ∧
        ∀ k < ssd1306BufferSize,
          plainDisplay.ram p' ((plainDisplay.pointer p + k) % ssd1306BufferSize) =
            if k < n then s.buffer k
            else plainDisplay.ram p ((plainDisplay.pointer p + k) % ssd1306BufferSize) := by
  intro s t p
  have hfails : (updateScreen s t []).1 ≠ 0 := by decide
  exact updateScreen_failed plainDisplay_horizontal hfails p

/-! ### Drawing leaves the screen initialized -/

theorem initialized_drawPixel (x y : UInt8) (color : Ssd1306Color) (s : Ssd1306) :
    (s.drawPixel x y color).initialized = s.initialized := by
  unfold Ssd1306.drawPixel
  split <;> rfl

theorem initialized_drawGlyph (ch : UInt8) (font : FontDef) (data : ℕ → UInt16)
    (color : Ssd1306Color) (s : Ssd1306) :
    (s.drawGlyph ch font data color).initialized = s.initialized := by
  have hrow (i : ℕ) (js : List ℕ) (s : Ssd1306) : (js.foldl (fun s j =>
      s.drawPixel (UInt8.ofNat (s.currentX.toNat + j)) (UInt8.ofNat (s.currentY.toNat + i))
        (if glyphBit font data ch i j then color else color.not)) s).initialized =
      s.initialized := by
    induction js generalizing s with
    | nil => rfl
    | cons j js ih => exact (ih _).trans (initialized_drawPixel _ _ _ s)
  unfold Ssd1306.drawGlyph
  induction List.range font.fontHeight.toNat generalizing s with
  | nil => rfl
  | cons i is ih => exact (ih _).trans (hrow i _ s)

theorem initialized_writeChar (ch : UInt8) (font : FontDef) (data : ℕ → UInt16)
    (color : Ssd1306Color) (s : Ssd1306) :
    (s.writeChar ch font data color).1.initialized = s.initialized := by
  unfold Ssd1306.writeChar
  split
  · rfl
  · exact initialized_drawGlyph ch font data color s

section

variable (data : ℕ → UInt16) (print : OledCursorPrintf)

theorem initialized_drawSpaces (count : ℕ) (s : Ssd1306) :
    (drawSpaces data print count s).initialized = s.initialized := by
  induction count generalizing s with
  | zero => rfl
  | succ count ih => exact (ih _).trans (initialized_writeChar _ _ _ _ s)

theorem initialized_drawChar (fill : ℤ) (c : UInt8) (l : DrawLoop) :
    (drawChar data print fill c l).screen.initialized = l.screen.initialized := by
  unfold drawChar
  split
  · exact initialized_writeChar _ _ _ _ l.screen
  · exact initialized_drawSpaces data print _ l.screen

theorem initialized_drawLoop (fill : ℤ) (text : List UInt8) {n : ℕ} {l l' : DrawLoop}
    (h : drawLoop data print fill text n l = some l') :
    l'.screen.initialized = l.screen.initialized := by
  induction text generalizing n l with
  | nil =>
      cases n with
      | zero => cases h; rfl
      | succ n => cases h
  | cons c text ih =>
      cases n with
      | zero => cases h; rfl
      | succ n => exact (ih h).trans (initialized_drawChar data print fill c l)

theorem initialized_drawText {s s' : Ssd1306} (h : drawText data print s = some s') :
    s'.initialized = s.initialized := by
  obtain ⟨l, hl, rfl⟩ := Option.map_eq_some_iff.1 h
  rw [initialized_drawSpaces, initialized_drawLoop data print _ _ hl]
  rfl

end

/-! ### A history of requests -/

/-- `E_OLED_BUFFER_TRANSFER_BUSY_TIMEOUT`. -/
def eOledBufferTransferBusyTimeout : ℤ := -51

/-- What others decide while `_oled_cursor_printf` runs: whether the screen is still being sent,
whether each of the two locks is got, and how the transfers end. -/
structure OledRun where
  flushBusy : Bool
  bufferLocked : Bool
  updateLocked : Bool
  transfers : ℕ → ℕ → Transfer

/-- `_oled_cursor_printf`, with `ssd1306_UpdateScreen_ret_hold`: the screen, the bus and the
result. -/
def oledCursorPrintfRun (data : ℕ → UInt16) (i : OledRun) (print : OledCursorPrintf)
    (s : Ssd1306) (bus : I2cBus) : Option (Ssd1306 × I2cBus × ℤ) :=
  if i.flushBusy then some (s, bus, eOledPrintfSetCursorFlushBusy)
  else if !i.bufferLocked then some (s, bus, eOledCursorFlushUpdateTimeout)
  else
    match drawText data print s with
    | none => none
    | some s =>
        if !i.updateLocked then some (s, bus, eOledBufferTransferBusyTimeout)
        else
          let (status, bus) := updateScreen s i.transfers bus
          some (s, bus, status)

/-- The requests of the queue, one after the other, and the result of the last. -/
def runOledProcess (data : ℕ → UInt16) :
    List (OledRun × OledCursorPrintf) → Ssd1306 × I2cBus × ℤ → Option (Ssd1306 × I2cBus × ℤ)
  | [], r => some r
  | (i, print) :: rest, (s, bus, _) =>
      match oledCursorPrintfRun data i print s bus with
      | none => none
      | some r => runOledProcess data rest r

/-- A request is drawn, unless a lock is not got. -/
def OledRun.draws (i : OledRun) : Bool := !i.flushBusy && i.bufferLocked

/-- No transfer of a request fails. -/
def OledRun.AllSent (i : OledRun) : Prop := ∀ j < 8, ∀ k < 4, (i.transfers j k).err = .success

/-- What the requests look like, one over the other. -/
def shown (data : ℕ → UInt16) (inverted : Bool) :
    List (OledRun × OledCursorPrintf) → Image → Image
  | [], img => img
  | (i, print) :: rest, img => shown data inverted rest
      (if i.draws then Image.lines (lettering print.font data print.color inverted)
        (fillWithSpaces print) print.x.toNat print.y (splitLines print.text) img else img)

section

variable {σ : Type*} {D : Display σ} {p₀ : σ} {data : ℕ → UInt16} {s s₁ s' : Ssd1306}
  {bus bus₁ bus' : I2cBus} {status₁ status : ℤ}

/-- What requests come to that begin at `s` and `bus`. -/
structure OledShows (D : Display σ) (p₀ : σ) (data : ℕ → UInt16)
    (requests : List (OledRun × OledCursorPrintf)) (s : Ssd1306) (bus : I2cBus)
    (s' : Ssd1306) (bus' : I2cBus) (status : ℤ) : Prop where
  inverted : s'.inverted = s.inverted
  initialized : s'.initialized = s.initialized
  image : s'.image = shown data s.inverted requests s.image
  sends : ∃ sent, Sends bus bus' sent ∧
    (s.initialized = true → (∀ r ∈ requests, r.1.AllSent) → ssd1306BufferSize ∣ sent.length)
  display : status = 0 →
    D.imageFrom (D.pointer (D.receives p₀ bus')) (D.receives p₀ bus') = s'.image

/-- More requests. -/
theorem OledShows.trans {r : OledRun × OledCursorPrintf}
    {rest : List (OledRun × OledCursorPrintf)}
    (h₁ : OledShows D p₀ data [r] s bus s₁ bus₁ status₁)
    (h₂ : OledShows D p₀ data rest s₁ bus₁ s' bus' status) :
    OledShows D p₀ data (r :: rest) s bus s' bus' status where
  inverted := h₂.inverted.trans h₁.inverted
  initialized := h₂.initialized.trans h₁.initialized
  image := by
    rw [h₂.image, h₁.inverted, h₁.image]
    rfl
  sends := by
    obtain ⟨sent₁, hsends₁, hturns₁⟩ := h₁.sends
    obtain ⟨sent₂, hsends₂, hturns₂⟩ := h₂.sends
    refine ⟨sent₁ ++ sent₂, hsends₁.trans hsends₂, fun hinit hall => ?_⟩
    rw [List.length_append]
    refine Nat.dvd_add (hturns₁ hinit fun q hq => hall q ?_)
      (hturns₂ (h₁.initialized.trans hinit) fun q hq => hall q (List.mem_cons_of_mem r hq))
    rw [List.mem_singleton.1 hq]
    exact List.mem_cons_self
  display := h₂.display

/-- A request that ends before the update. -/
theorem OledShows.of_error {r : OledRun × OledCursorPrintf} (herror : status ≠ 0)
    (hinverted : s'.inverted = s.inverted) (hinitialized : s'.initialized = s.initialized)
    (himage : s'.image = shown data s.inverted [r] s.image) :
    OledShows D p₀ data [r] s bus s' bus status where
  inverted := hinverted
  initialized := hinitialized
  image := himage
  sends := ⟨[], .refl bus, fun _ _ => Nat.dvd_zero _⟩
  display h := absurd h herror

/-- A request that comes to the update. -/
theorem OledShows.of_update (hD : D.Horizontal) {i : OledRun} {print : OledCursorPrintf}
    (hinverted : s'.inverted = s.inverted) (hinitialized : s'.initialized = s.initialized)
    (himage : s'.image = shown data s.inverted [(i, print)] s.image) :
    OledShows D p₀ data [(i, print)] s bus s' (updateScreen s' i.transfers bus).2
      (updateScreen s' i.transfers bus).1 where
  inverted := hinverted
  initialized := hinitialized
  image := himage
  sends := by
    rcases updateScreen_sends s' i.transfers bus with ⟨-, hsends⟩ | ⟨-, j, hj, -, hfirst, hsends⟩
    · exact ⟨_, hsends, fun _ _ => by rw [length_read]⟩
    · refine ⟨_, hsends, fun hinit hall => absurd ?_ hfirst⟩
      exact ⟨hinitialized.trans hinit, hall (i, print) List.mem_cons_self j hj⟩
  display h := (updateScreen_shows hD (by exact_mod_cast h) p₀).2

/-- One request. -/
theorem oledCursorPrintfRun_spec (hD : D.Horizontal) (p₀ : σ) (data : ℕ → UInt16) (i : OledRun)
    {print : OledCursorPrintf} (s : Ssd1306) (bus : I2cBus)
    (hsize : print.text.length = print.size) :
    ∃ s' bus' status, oledCursorPrintfRun data i print s bus = some (s', bus', status) ∧
      OledShows D p₀ data [(i, print)] s bus s' bus' status := by
  have hstays (hdraws : i.draws = false) :
      s.image = shown data s.inverted [(i, print)] s.image := by
    simp [shown, hdraws]
  unfold oledCursorPrintfRun
  cases hflush : i.flushBusy with
  | true =>
      exact ⟨s, bus, _, rfl,
        .of_error (by decide) rfl rfl (hstays (by simp [OledRun.draws, hflush]))⟩
  | false =>
      cases hlock : i.bufferLocked with
      | false =>
          exact ⟨s, bus, _, rfl,
            .of_error (by decide) rfl rfl (hstays (by simp [OledRun.draws, hlock]))⟩
      | true =>
          obtain ⟨t, x, y, ht, hat⟩ := drawText_at print data s hsize
          have hdraws : i.draws = true := by simp [OledRun.draws, hflush, hlock]
          have hshown : t.image = shown data s.inverted [(i, print)] s.image := by
            rw [hat.image]
            simp [shown, hdraws]
          have hinit := initialized_drawText data print ht
          rw [if_neg Bool.false_ne_true, if_neg (by decide), ht]
          cases hupdate : i.updateLocked with
          | false => exact ⟨t, bus, _, rfl, .of_error (by decide) hat.inverted hinit hshown⟩
          | true => exact ⟨t, _, _, rfl, .of_update hD hat.inverted hinit hshown⟩

/-- One request after the other. -/
theorem runOledProcess_spec (hD : D.Horizontal) (p₀ : σ) (data : ℕ → UInt16)
    (r : OledRun × OledCursorPrintf) (rest : List (OledRun × OledCursorPrintf)) (s : Ssd1306)
    (bus : I2cBus) (status : ℤ) (hsize : ∀ q ∈ r :: rest, q.2.text.length = q.2.size) :
    ∃ s' bus' status', runOledProcess data (r :: rest) (s, bus, status) = some (s', bus', status') ∧
      OledShows D p₀ data (r :: rest) s bus s' bus' status' := by
  obtain ⟨s₁, bus₁, status₁, hrun, hshows⟩ :=
    oledCursorPrintfRun_spec hD p₀ data r.1 s bus (hsize r List.mem_cons_self)
  rw [runOledProcess, hrun]
  induction rest generalizing r s bus status s₁ bus₁ status₁ with
  | nil => exact ⟨s₁, bus₁, status₁, rfl, hshows⟩
  | cons r' rest ih =>
      have hsize' (q : OledRun × OledCursorPrintf) (hq : q ∈ r' :: rest) :
          q.2.text.length = q.2.size := hsize q (List.mem_cons_of_mem r hq)
      obtain ⟨s₂, bus₂, status₂, hrun', hshows'⟩ :=
        oledCursorPrintfRun_spec hD p₀ data r'.1 s₁ bus₁ (hsize' r' List.mem_cons_self)
      obtain ⟨s', bus', status', hrest, hall⟩ :=
        ih r' s₁ bus₁ status₁ hsize' s₂ bus₂ status₂ hrun' hshows'
      refine ⟨s', bus', status', ?_, hshows.trans hall⟩
      show runOledProcess data (r' :: rest) (s₁, bus₁, status₁) = _
      rw [runOledProcess, hrun']
      exact hrest

/-- **The display has all that was drawn as soon as a request succeeds**, whatever requests came
before, whichever of their transfers failed, and wherever: from its pointer on, which all data so
far have moved on, and so in its place where the pointer is at the first byte.  Requests without a
failure leave the pointer where it is. -/
theorem runOledProcess_shows (hD : D.Horizontal) (p₀ : σ) (data : ℕ → UInt16)
    (requests : List (OledRun × OledCursorPrintf)) (s : Ssd1306) (bus : I2cBus)
    (hne : requests ≠ []) (hsize : ∀ r ∈ requests, r.2.text.length = r.2.size) :
    ∃ s' bus' status sent,
      runOledProcess data requests (s, bus, 0) = some (s', bus', status) ∧
      s'.image = shown data s.inverted requests s.image ∧ Sends bus bus' sent ∧
      let p := D.receives p₀ bus
      let p' := D.receives p₀ bus'
      D.pointer p' = (D.pointer p + sent.length) % ssd1306BufferSize ∧
        (status = 0 → D.imageFrom (D.pointer p') p' = shown data s.inverted requests s.image) ∧
        (status = 0 → D.pointer p' = 0 → D.image p' = shown data s.inverted requests s.image) ∧
        (s.initialized = true → (∀ r ∈ requests, r.1.AllSent) → D.pointer p' = D.pointer p) := by
  cases requests with
  | nil => exact absurd rfl hne
  | cons r rest =>
      obtain ⟨s', bus', status, hrun, hshows⟩ := runOledProcess_spec hD p₀ data r rest s bus 0 hsize
      obtain ⟨sent, hsends, hturns⟩ := hshows.sends
      have hpointer := (hD.of_sends hsends p₀).2
      have himage (h : status = 0) := (hshows.display h).trans hshows.image
      refine ⟨s', bus', status, sent, hrun, hshows.image, hsends, hpointer, himage,
        fun h hzero => ?_, fun hinit hall => ?_⟩
      · have hplace := himage h
        rwa [hzero, Display.imageFrom_zero] at hplace
      · obtain ⟨turns, hlength⟩ := hturns hinit hall
        rw [hlength, Nat.add_mul_mod_self_left, Nat.mod_eq_of_lt (hD.pointer_lt _)] at hpointer
        exact hpointer

end

/-- Two requests: the transfers of the first fail at its third page, those of the second do not. -/
theorem runOledProcess_shows_second :
    let fails : OledRun := ⟨false, true, true, fun i _ => ⟨if i = 2 then .nack .startBus else
      .success, 1⟩⟩
    let works : OledRun := ⟨false, true, true, fun _ _ => ⟨.success, 0⟩⟩
    let requests := [(fails, ⟨0, 0, 1, [0x41], font7x10, .white⟩),
      (works, (⟨0, 20, 1, [0x42], font7x10, .white⟩ : OledCursorPrintf))]
    let s : Ssd1306 := ⟨0, 0, false, true, fun _ => 0⟩
    let data : ℕ → UInt16 := fun i => UInt16.ofNat (0x200 * i)
    let p : Fin 1024 × Mem := (0, fun _ => 0xFF)
    ∃ s' bus' status sent,
      runOledProcess data requests (s, [], 0) = some (s', bus', status) ∧
      s'.image = shown data s.inverted requests s.image ∧ Sends [] bus' sent ∧
      let p' := plainDisplay.receives p bus'
      plainDisplay.pointer p' = (plainDisplay.pointer p + sent.length) % ssd1306BufferSize ∧
        (status = 0 → plainDisplay.imageFrom (plainDisplay.pointer p') p' =
          shown data s.inverted requests s.image) ∧
        (status = 0 → plainDisplay.pointer p' = 0 → plainDisplay.image p' =
          shown data s.inverted requests s.image) ∧
        (s.initialized = true → (∀ r ∈ requests, r.1.AllSent) →
          plainDisplay.pointer p' = plainDisplay.pointer p) := by
  intro fails works requests s data p
  refine runOledProcess_shows plainDisplay_horizontal p data requests s [] (List.cons_ne_nil _ _) ?_
  intro r hr
  rcases List.mem_cons.1 hr with rfl | hr
  · rfl
  · rw [List.mem_singleton.1 hr]
    rfl

end Solar48
