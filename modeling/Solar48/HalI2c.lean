/-
**Writing to the I2C bus.**

`hal_i2c1_write` takes the bus and sends the address of a device, an address in its memory and a
block of data.  It waits at five points, each time until a flag is set or a timeout is over, and
behind each wait tests for a missing acknowledgement and for the timeout.  All failures leave
through one clean-up, which sets STOP only if the failure of the acknowledgement is seen there once
more.

Here the function takes one step for each statement that reads a register, and the values that the
registers and the timeout test give are the labels of the steps.

Main definitions:

* `Solar48.I2cPc`, `Solar48.I2cState`, `Solar48.i2cStep` — the code;
* `Solar48.GivesBusBack` — what a return should leave;
* `Solar48.givesBack` — the condition on a step.

Main results:

* `Solar48.I2cInv.step` — before the return there is no STOP, and the lock is held;
* `Solar48.givesBusBack_step_iff` — how one step returns;
* `Solar48.givesBusBack_iff` — **the bus is given back if and only if the clean-up sees the failure
  of the acknowledgement**.
-/

import Solar48.ByteMem
import Solar48.StepSystem

set_option relaxedAutoImplicit false
set_option autoImplicit false

namespace Solar48

open ByteMem StepSystem

/-! ### Registers -/

/-- Flags of `I2C1_SR1`. -/
def AF : UInt16 := 0x400

def TxE : UInt16 := 0x80

def BTF : UInt16 := 0x4

def ADDR : UInt16 := 0x2

def SB : UInt16 := 1

/-- A bit of `I2C1_CR1` that is cleared in `I2C1_SR1`. -/
def POS : UInt16 := 0x800

/-- A flag of `I2C1_SR2`. -/
def BUSY : UInt16 := 0x2

/-- Bits of `I2C1_CR1`. -/
def START : UInt16 := 0x100

def STOP : UInt16 := 0x200

/-- What is written: a value to `I2C1_SR1` or `I2C1_DR`, or bits that are set in `I2C1_CR1`. -/
inductive I2cWrite
  | sr1 (v : UInt16)
  | cr1 (bits : UInt16)
  | dr (v : UInt16)
  deriving DecidableEq

/-- What the hardware gives when a statement is executed: a value of each status register, and the
result of `is_timeout_ms`. -/
structure I2cInput where
  sr1 : UInt16
  sr2 : UInt16
  timeout : Bool

/-! ### The code -/

/-- The points at which is waited, by the names of their errors. -/
inductive BusPoint
  | busyBus | startBus | devAddressBus | devMemoryAddressBus | devStopBus
  deriving DecidableEq

/-- `enum i2c1_err_e`. -/
inductive I2cErr
  | success
  | portBusy
  | timeout (p : BusPoint)
  | nack (p : BusPoint)
  deriving DecidableEq

/-- The loop of a wait is left without a timeout. -/
def BusPoint.ready (i : I2cInput) : BusPoint → Bool
  | busyBus => i.sr2 &&& BUSY = 0
  | startBus => i.sr1 &&& SB ≠ 0
  | devAddressBus => i.sr1 &&& ADDR ≠ 0
  | devMemoryAddressBus => i.sr1 &&& TxE ≠ 0
  | devStopBus => i.sr1 &&& BTF ≠ 0

/-- The places in `hal_i2c1_write`. -/
inductive I2cPc
  | entry
  | wait (p : BusPoint)
  | clearAddr
  | check (p : BusPoint)
  | clearAf
  | clearPos
  | setStart
  | sendAddress
  | sendMemAddress
  | loop
  | sendData
  | sendMore
  | finish
  | finishAf
  | returned (err : I2cErr)
  deriving DecidableEq

/-- Behind a wait; the address flag is cleared first. -/
def BusPoint.afterWait : BusPoint → I2cPc
  | devAddressBus => .clearAddr
  | busyBus => .check .busyBus
  | startBus => .check .startBus
  | devMemoryAddressBus => .check .devMemoryAddressBus
  | devStopBus => .check .devStopBus

/-- Behind `CHECK_I2C_NACK_OR_TIMEOUT`. -/
def BusPoint.afterCheck : BusPoint → I2cPc
  | busyBus => .clearAf
  | startBus => .sendAddress
  | devAddressBus => .sendMemAddress
  | devMemoryAddressBus => .sendData
  | devStopBus => .loop

/-- The arguments; the data is an array of at least so many bytes, or `NULL`. -/
structure I2cCall where
  devAddress : UInt8
  memAddress : UInt8
  data : Option Mem
  dataSize : UInt16

/-- `data_size == 0 || data == NULL`. -/
def I2cCall.isEmpty (call : I2cCall) : Bool := call.dataSize = 0 || call.data.isNone

/-- The variables of the function, `i2c1_lock`, what was written to the registers, and which bytes
of the data were read. -/
structure I2cState where
  pc : I2cPc
  lock : Bool
  err : I2cErr
  dataSize : UInt16
  data : ℕ
  log : List I2cWrite
  reads : List ℕ

namespace I2cState

/-- Going on elsewhere. -/
def goto (s : I2cState) (pc : I2cPc) : I2cState := { s with pc }

/-- Writing to a register. -/
def write (s : I2cState) (w : I2cWrite) : I2cState := { s with log := s.log ++ [w] }

/-- `I2C1_DR = (uint8_t)*data; --data_size; ++data`. -/
def sendByte (s : I2cState) (block : Mem) : I2cState :=
  { s with
    log := s.log ++ [.dr (block s.data).toUInt16]
    reads := s.reads ++ [s.data]
    dataSize := s.dataSize - 1
    data := s.data + 1 }

/-- `goto hal_i2c1_write_finish`. -/
def fail (s : I2cState) (err : I2cErr) : I2cState := { s with pc := .finish, err }

/-- `i2c1_lock = false; return err`. -/
def release (s : I2cState) : I2cState := { s with pc := .returned s.err, lock := false }

end I2cState

/-- The call, with a lock that is free or taken. -/
def i2cInit (call : I2cCall) (lock : Bool) : I2cState :=
  { pc := .entry, lock, err := .success, dataSize := call.dataSize, data := 0, log := [],
    reads := [] }

/-- One statement of `hal_i2c1_write`. -/
def i2cStep (call : I2cCall) (i : I2cInput) (s : I2cState) : Option I2cState :=
  match s.pc with
  | .entry =>
      if call.isEmpty then some (s.goto (.returned .success))
      else if s.lock then some (s.goto (.returned .portBusy))
      else some { s with pc := .wait .busyBus, lock := true }
  | .wait p => if !p.ready i && !i.timeout then some s else some (s.goto p.afterWait)
  | .clearAddr => some (s.goto (.check .devAddressBus))
  | .check p =>
      if i.sr1 &&& AF ≠ 0 then some (s.fail (.nack p))
      else if i.timeout then some (s.fail (.timeout p))
      else some (s.goto p.afterCheck)
  | .clearAf => some ((s.write (.sr1 (i.sr1 &&& ~~~AF))).goto .clearPos)
  | .clearPos => some ((s.write (.sr1 (i.sr1 &&& ~~~POS))).goto .setStart)
  | .setStart => some ((s.write (.cr1 START)).goto (.wait .startBus))
  | .sendAddress =>
      some ((s.write (.dr (call.devAddress.toUInt16 <<< 1))).goto (.wait .devAddressBus))
  | .sendMemAddress => some ((s.write (.dr call.memAddress.toUInt16)).goto .loop)
  | .loop =>
      if s.dataSize > 0 then some (s.goto (.wait .devMemoryAddressBus))
      else some (s.goto .finish)
  | .sendData => call.data.map fun block => (s.sendByte block).goto .sendMore
  | .sendMore =>
      if i.sr1 &&& BTF ≠ 0 ∧ s.dataSize > 0 then
        call.data.map fun block => (s.sendByte block).goto (.wait .devStopBus)
      else some (s.goto (.wait .devStopBus))
  | .finish =>
      if s.err ≠ .success then
        if i.sr1 &&& AF ≠ 0 then some (s.goto .finishAf) else some s.release
      else some (s.write (.cr1 STOP)).release
  | .finishAf => some ((s.write (.sr1 (i.sr1 &&& ~~~AF))).write (.cr1 STOP)).release
  | .returned _ => none

/-! ### Giving the bus back -/

/-- At the return: behind a START the last write is a STOP, and the lock is free if it was not taken
by others. -/
def GivesBusBack (s : I2cState) : Prop :=
  ∀ err, s.pc = .returned err →
    (.cr1 START ∈ s.log → s.log.getLast? = some (.cr1 STOP)) ∧ (err ≠ .portBusy → s.lock = false)

/-- The condition on a step: without data the lock is free at the entry, and in the clean-up behind
a START the failure of the acknowledgement is seen. -/
def givesBack (call : I2cCall) (i : I2cInput) (s : I2cState) : Bool :=
  match s.pc with
  | .entry => !call.isEmpty || !s.lock
  | .finish => s.err = .success || .cr1 START ∉ s.log || i.sr1 &&& AF ≠ 0
  | _ => true

namespace I2cPc

/-- The function has returned. -/
def isReturned : I2cPc → Bool
  | returned _ => true
  | _ => false

end I2cPc

/-- Before the return there is no STOP; the lock is held behind the entry, and the clean-up goes on
only with an error. -/
structure I2cInv (s : I2cState) : Prop where
  stop : s.pc.isReturned = false → .cr1 STOP ∉ s.log
  entry : s.pc = .entry → s.log = []
  failed : s.pc = .finishAf → s.err ≠ .success
  portBusy : s.err ≠ .portBusy

variable {call : I2cCall} {i : I2cInput} {s t : I2cState} {lock : Bool}

theorem i2cInit_inv (call : I2cCall) (lock : Bool) : I2cInv (i2cInit call lock) :=
  ⟨fun _ => List.not_mem_nil, fun _ => rfl, nofun, nofun⟩

/-- Nothing but a STOP is written. -/
theorem I2cInv.advance (h : I2cInv s) (ws : List I2cWrite) (hlive : s.pc.isReturned = false)
    (hlog : t.log = s.log ++ ws) (hws : .cr1 STOP ∉ ws) (hentry : t.pc ≠ .entry)
    (hfailed : t.pc = .finishAf → t.err ≠ .success) (hbusy : t.err ≠ .portBusy) : I2cInv t where
  stop _ := by
    rw [hlog, List.mem_append]
    exact not_or.2 ⟨h.stop hlive, hws⟩
  entry hpc := absurd hpc hentry
  failed := hfailed
  portBusy := hbusy

/-- The function goes on elsewhere, or writes something and goes on. -/
theorem I2cInv.goto (h : I2cInv s) {pc : I2cPc} (hlive : s.pc.isReturned = false)
    (hentry : pc ≠ .entry) (hfailed : pc ≠ .finishAf) : I2cInv (s.goto pc) :=
  h.advance [] hlive (List.append_nil _).symm List.not_mem_nil hentry
    (fun hpc => absurd hpc hfailed) h.portBusy

theorem I2cInv.write (h : I2cInv s) {w : I2cWrite} {pc : I2cPc} (hlive : s.pc.isReturned = false)
    (hw : w ≠ .cr1 STOP) (hentry : pc ≠ .entry) (hfailed : pc ≠ .finishAf) :
    I2cInv ((s.write w).goto pc) :=
  h.advance [w] hlive rfl (by simpa using hw.symm) hentry
    (fun hpc => absurd hpc hfailed) h.portBusy

theorem I2cInv.sendByte (h : I2cInv s) {block : Mem} {pc : I2cPc}
    (hlive : s.pc.isReturned = false) (hentry : pc ≠ .entry) (hfailed : pc ≠ .finishAf) :
    I2cInv ((s.sendByte block).goto pc) :=
  h.advance [.dr (block s.data).toUInt16] hlive rfl (by simp) hentry
    (fun hpc => absurd hpc hfailed) h.portBusy

theorem I2cInv.fail (h : I2cInv s) {err : I2cErr} (hlive : s.pc.isReturned = false)
    (herr : err ≠ .portBusy) : I2cInv (s.fail err) :=
  h.advance [] hlive (List.append_nil _).symm List.not_mem_nil nofun nofun herr

/-- A return. -/
theorem I2cInv.of_returned {err : I2cErr} (hpc : t.pc = .returned err)
    (hbusy : t.err ≠ .portBusy) : I2cInv t where
  stop hlive := by rw [hpc] at hlive; cases hlive
  entry hentry := by rw [hpc] at hentry; cases hentry
  failed hfailed := by rw [hpc] at hfailed; cases hfailed
  portBusy := hbusy

/-- The function takes steps until it returns. -/
theorem live_of_step (hstep : i2cStep call i s = some t) : s.pc.isReturned = false := by
  cases hpc : s.pc with
  | returned err =>
      rw [i2cStep, hpc] at hstep
      cases hstep
  | _ => rfl

/-- **What one step preserves.** -/
theorem I2cInv.step (h : I2cInv s) (hstep : i2cStep call i s = some t) : I2cInv t := by
  have hlive := live_of_step hstep
  unfold i2cStep at hstep
  cases hpc : s.pc with
  | entry =>
      simp only [hpc] at hstep
      split at hstep
      · cases hstep
        exact .of_returned rfl h.portBusy
      · split at hstep <;> cases hstep
        · exact .of_returned rfl h.portBusy
        · exact h.advance [] hlive (List.append_nil _).symm List.not_mem_nil nofun nofun
            h.portBusy
  | wait p =>
      simp only [hpc] at hstep
      split at hstep <;> cases hstep
      · exact h
      · exact h.goto hlive (by cases p <;> nofun) (by cases p <;> nofun)
  | check p =>
      simp only [hpc] at hstep
      split at hstep
      · cases hstep
        exact h.fail hlive nofun
      · split at hstep <;> cases hstep
        · exact h.fail hlive nofun
        · exact h.goto hlive (by cases p <;> nofun) (by cases p <;> nofun)
  | clearAddr =>
      simp only [hpc] at hstep
      cases hstep
      exact h.goto hlive nofun nofun
  | clearAf | clearPos | sendAddress | sendMemAddress =>
      simp only [hpc] at hstep
      cases hstep
      exact h.write hlive nofun nofun nofun
  | setStart =>
      simp only [hpc] at hstep
      cases hstep
      exact h.write hlive (by decide) nofun nofun
  | loop =>
      simp only [hpc] at hstep
      split at hstep <;> cases hstep
      · exact h.goto hlive nofun nofun
      · exact h.goto hlive nofun nofun
  | sendData =>
      simp only [hpc] at hstep
      obtain ⟨block, -, rfl⟩ := Option.map_eq_some_iff.1 hstep
      exact h.sendByte hlive nofun nofun
  | sendMore =>
      simp only [hpc] at hstep
      split at hstep
      · obtain ⟨block, -, rfl⟩ := Option.map_eq_some_iff.1 hstep
        exact h.sendByte hlive nofun nofun
      · cases hstep
        exact h.goto hlive nofun nofun
  | finish =>
      simp only [hpc] at hstep
      split at hstep
      · rename_i herr
        split at hstep <;> cases hstep
        · exact h.advance [] hlive (List.append_nil _).symm List.not_mem_nil nofun
            (fun _ => herr) h.portBusy
        · exact .of_returned rfl h.portBusy
      · cases hstep
        exact .of_returned rfl h.portBusy
  | finishAf =>
      simp only [hpc] at hstep
      cases hstep
      exact .of_returned rfl h.portBusy
  | returned err =>
      simp only [hpc] at hstep
      cases hstep

/-! ### The return -/

theorem givesBusBack_of_live (h : t.pc.isReturned = false) : GivesBusBack t := by
  intro err hpc
  rw [hpc] at h
  cases h

/-- A return behind a STOP. -/
theorem givesBusBack_write_stop (s : I2cState) : GivesBusBack (s.write (.cr1 STOP)).release := by
  intro err _
  exact ⟨fun _ => List.getLast?_concat, fun _ => rfl⟩

/-- A return without one. -/
theorem givesBusBack_release_iff (h : .cr1 STOP ∉ s.log) :
    GivesBusBack s.release ↔ .cr1 START ∉ s.log := by
  constructor
  · intro hback hstart
    exact h (List.mem_of_getLast? ((hback s.err rfl).1 hstart))
  · intro hstart err _
    exact ⟨fun hmem => absurd hmem hstart, fun _ => rfl⟩

/-- Only the entry and the clean-up return. -/
theorem live_step (hstep : i2cStep call i s = some t) (hentry : s.pc ≠ .entry)
    (hfinish : s.pc ≠ .finish) (haf : s.pc ≠ .finishAf) : t.pc.isReturned = false := by
  unfold i2cStep at hstep
  cases hpc : s.pc with
  | entry => exact absurd hpc hentry
  | finish => exact absurd hpc hfinish
  | finishAf => exact absurd hpc haf
  | returned err =>
      simp only [hpc] at hstep
      cases hstep
  | wait p =>
      simp only [hpc] at hstep
      split at hstep <;> cases hstep
      · rw [hpc]
        rfl
      · cases p <;> rfl
  | check p =>
      simp only [hpc] at hstep
      split at hstep
      · cases hstep
        rfl
      · split at hstep <;> cases hstep
        · rfl
        · cases p <;> rfl
  | clearAddr | clearAf | clearPos | setStart | sendAddress | sendMemAddress =>
      simp only [hpc] at hstep
      cases hstep
      rfl
  | loop =>
      simp only [hpc] at hstep
      split at hstep <;> cases hstep <;> rfl
  | sendData =>
      simp only [hpc] at hstep
      obtain ⟨block, -, rfl⟩ := Option.map_eq_some_iff.1 hstep
      rfl
  | sendMore =>
      simp only [hpc] at hstep
      split at hstep
      · obtain ⟨block, -, rfl⟩ := Option.map_eq_some_iff.1 hstep
        rfl
      · cases hstep
        rfl

/-- **How one step returns.** -/
theorem givesBusBack_step_iff (h : I2cInv s) (hstep : i2cStep call i s = some t) :
    GivesBusBack t ↔ givesBack call i s = true := by
  have hrun := hstep
  unfold i2cStep at hstep
  cases hpc : s.pc with
  | entry =>
      simp only [hpc] at hstep
      simp only [givesBack, hpc]
      have hlog := h.entry hpc
      split at hstep
      · rename_i hempty
        cases hstep
        rw [hempty]
        constructor
        · intro hback
          have hfree : s.lock = false := (hback .success rfl).2 nofun
          rw [hfree]
          rfl
        · intro hfree err _
          refine ⟨fun hmem => ?_, fun _ => (by simpa using hfree : s.lock = false)⟩
          rw [I2cState.goto, hlog] at hmem
          cases hmem
      · rename_i hempty
        have hcond : (!call.isEmpty || !s.lock) = true := by simp [hempty]
        split at hstep <;> cases hstep
        · refine iff_of_true ?_ hcond
          intro err hpc
          refine ⟨fun hmem => ?_, fun hbusy => ?_⟩
          · rw [I2cState.goto, hlog] at hmem
            cases hmem
          · exact absurd (I2cPc.returned.inj hpc).symm hbusy
        · exact iff_of_true (givesBusBack_of_live rfl) hcond
  | finish =>
      simp only [hpc] at hstep
      simp only [givesBack, hpc]
      split at hstep
      · rename_i herr
        split at hstep <;> cases hstep
        · rename_i haf
          exact iff_of_true (givesBusBack_of_live rfl) (by simp [haf])
        · rename_i haf
          rw [givesBusBack_release_iff (h.stop (by rw [hpc]; rfl))]
          simp [herr, haf]
      · rename_i herr
        cases hstep
        exact iff_of_true (givesBusBack_write_stop s) (by simp [not_not.1 herr])
  | finishAf =>
      simp only [hpc] at hstep
      cases hstep
      exact iff_of_true (givesBusBack_write_stop _) (by rw [givesBack, hpc])
  | returned err =>
      simp only [hpc] at hstep
      cases hstep
  | _ =>
      have hlive : t.pc.isReturned = false :=
        live_step hrun (by simp [hpc]) (by simp [hpc]) (by simp [hpc])
      exact iff_of_true (givesBusBack_of_live hlive) (by rw [givesBack, hpc])

/-- **The bus is given back if and only if the clean-up sees the failure of the acknowledgement**:
whatever the hardware gives, a run leaves what it should if and only if all its steps meet the
condition. -/
theorem givesBusBack_iff (call : I2cCall) (lock : Bool) (inputs : List I2cInput)
    (h : exec (i2cStep call) (fun _ _ => true) inputs (i2cInit call lock) = some s) :
    GivesBusBack s ↔
      exec (i2cStep call) (givesBack call) inputs (i2cInit call lock) = some s := by
  have hlive : ∀ i t u, I2cInv t → i2cStep call i t = some u → GivesBusBack t :=
    fun _ _ _ _ hstep => givesBusBack_of_live (live_of_step hstep)
  exact (exec_iff (i2cInit_inv call lock) (givesBusBack_of_live rfl)
    (fun i t u hinv hstep => hinv.step hstep) hlive
    (fun i t u hinv hstep => givesBusBack_step_iff hinv hstep) inputs h).2

/-- The device answers at once, and one byte is written. -/
def promptInputs : List I2cInput := List.replicate 22 ⟨SB ||| ADDR ||| TxE ||| BTF, 0, false⟩

/-- One byte for the display. -/
def displayCall : I2cCall := ⟨0x3C, 0x40, some fun _ => 0xFF, 1⟩

/-- What is written then. -/
def displayLog : List I2cWrite :=
  [.sr1 0x87, .sr1 0x87, .cr1 START, .dr 0x78, .dr 0x40, .dr 0xFF, .cr1 STOP]

theorem givesBusBack_displayCall :
    GivesBusBack ⟨.returned .success, false, .success, 0, 1, displayLog, [0]⟩ ↔
      exec (i2cStep displayCall) (givesBack displayCall) promptInputs (i2cInit displayCall false) =
        some ⟨.returned .success, false, .success, 0, 1, displayLog, [0]⟩ :=
  givesBusBack_iff displayCall false promptInputs rfl

/-- START is never answered; the clean-up sends no STOP. -/
theorem not_givesBusBack : ¬ ∀ (call : I2cCall) (lock : Bool) (inputs : List I2cInput)
    (s : I2cState), exec (i2cStep call) (fun _ _ => true) inputs (i2cInit call lock) = some s →
      GivesBusBack s := by
  intro h
  have hrun := h displayCall false
    (List.replicate 6 ⟨0, 0, false⟩ ++ List.replicate 3 ⟨0, 0, true⟩)
    ⟨.returned (.timeout .startBus), false, .timeout .startBus, 1, 0,
      [.sr1 0, .sr1 0, .cr1 START], []⟩ rfl
  exact absurd ((hrun _ rfl).1 (by decide)) (by decide)

end Solar48
