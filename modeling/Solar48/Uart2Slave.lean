/-
**The RS485 slave over UART2: five interrupt sources and a polling task.**

The slave listens until the line falls idle, waits with a timer that stops by itself, answers by
DMA, waits again and listens.  Whatever goes wrong on the way is stored in the status register,
and `process_uart2_time_event` ends it: it disables everything, reports the error and listens
again after a while.  There is no timeout on a transmission or on the line.

The model is one step function.  A handler is one step, and runs when its unit, which the program
must have enabled, raises the interrupt.  What `slave_send_resp` returns is what it returns on some
contents of the slave's variables.  A register write on which no step depends is left out.

The state also records what the program does not: the errors reported, how often
`slave_send_resp` was run, and whether anything has ended the last transmission.

Main definitions:

* `uart2Receive`, `uart2Transmit`, `tim3IrqHandler`, `processUart2TimeEvent` — the code;
* `uart2Step` — all handlers and the polling task together;
* `Uart2State.Alive` — something is enabled that will go on, or the polling task will;
* `Uart2State.HalfDuplex` — the slave does not listen while it drives the bus.

Main results:

* `alive_of_run` — **the slave never gets stuck**;
* `halfDuplex_of_run` — **the slave never listens and drives the bus at the same time**.
-/

import Solar48.Rs485Slave
import Solar48.StepSystem

set_option relaxedAutoImplicit false
set_option autoImplicit false

namespace Solar48

open StepSystem

/-! ### Status codes -/

abbrev uart2TransferComplete : ℕ := 1
abbrev uart2ReceiveComplete : ℕ := 2
abbrev rs485SlaveWaitRestart : ℕ := 3
abbrev eUart2Dma1Ch7TransmitError : ℕ := 310
abbrev eUart2ReceiveErrorBase : ℕ := 320
abbrev eUart2Dma1Ch6ReceiveError : ℕ := 340
abbrev eRs485SlaveUart2IrqError : ℕ := 500
abbrev eRs485SlaveTim3IrqError : ℕ := 501
abbrev eRs485SlaveDma6BufferOverflow : ℕ := 507

/-! ### The state -/

/-- The mode of the RS485 driver, by its pin. -/
inductive DriverMode
  | receive | transmit
  deriving DecidableEq, Repr

/-- What `uart2_control.uart_callback` may be. -/
inductive SlaveCallback
  | rs485SlaveTransmit
  | rs485SlaveReceive
  deriving DecidableEq, Repr

structure Uart2State where
  driver : DriverMode
  /-- `uart2_control` -/
  startMonitore : Bool
  statusRegister : ℕ
  /-- `none` is `NULL` -/
  uartCallback : Option SlaveCallback
  /-- `RE`, `TE`, `DMA1_CCR6_EN`, `DMA1_CCR7_EN` and `CEN` -/
  re : Bool
  te : Bool
  ccr6 : Bool
  ccr7 : Bool
  cen : Bool
  /-- the callbacks called, with their errors, the oldest first -/
  reported : List (Option SlaveCallback × ℕ)
  /-- how often `slave_send_resp` was run -/
  responses : ℕ
  /-- no TIM3 event, DMA transfer error or error recovery since the last `uart2_transmit` -/
  transmitting : Bool
  deriving DecidableEq, Repr

/-- What `init_slave_rs485` leaves. -/
def uart2Init : Uart2State where
  driver := .receive
  startMonitore := false
  statusRegister := 0
  uartCallback := none
  re := false
  te := false
  ccr6 := false
  ccr7 := false
  cen := false
  reported := []
  responses := 0
  transmitting := false

/-! ### Handlers -/

/-- `uart2_receive` with the callback `rs485_slave_receive_callback`. -/
def uart2Receive (s : Uart2State) : Uart2State :=
  { s with
    driver := .receive, te := false, ccr7 := false, statusRegister := 0
    uartCallback := some .rs485SlaveReceive, startMonitore := true, ccr6 := true, re := true }

/-- `rs485_slave_start_listen`. -/
def rs485SlaveStartListen (s : Uart2State) : Uart2State := uart2Receive s

/-- `uart2_transmit` with the callback `rs485_slave_transmit_callback`. -/
def uart2Transmit (s : Uart2State) : Uart2State :=
  { s with
    driver := .transmit, ccr6 := false, re := false, statusRegister := 0
    uartCallback := some .rs485SlaveTransmit, startMonitore := true, ccr7 := true, te := true
    transmitting := true }

/-- `TIM3_IRQHandler`, if `slave_send_resp` returns `resp`. -/
def tim3IrqHandler (resp : SendResp) (enableListeningDebug : Bool) (s : Uart2State) :
    Uart2State :=
  let s := { s with transmitting := false }
  if s.statusRegister = uart2ReceiveComplete then
    let s := { s with responses := s.responses + 1 }
    match resp with
    | (_, _, some _) => uart2Transmit s
    | (_, result, none) =>
        if result = 0 then uart2Receive s
        else if enableListeningDebug then { s with statusRegister := result.toNat }
        else uart2Receive s
  else if s.statusRegister = uart2TransferComplete then uart2Receive s
  else { s with
    driver := .receive, ccr6 := false, ccr7 := false, re := false, te := false
    statusRegister := eRs485SlaveTim3IrqError }

/-- The end of an error in `process_uart2_time_event`. -/
def uart2Recover (s : Uart2State) : Uart2State :=
  { s with
    driver := .receive, cen := false, ccr7 := false, ccr6 := false, re := false, te := false
    statusRegister := rs485SlaveWaitRestart, transmitting := false
    reported := s.reported ++ [(s.uartCallback, s.statusRegister)] }

/-- `process_uart2_time_event`, if `is_timeout_ms` returns `timeout`. -/
def processUart2TimeEvent (timeout : Bool) (s : Uart2State) : Uart2State :=
  if s.startMonitore then
    if s.statusRegister = 0 ∨ s.statusRegister = uart2TransferComplete ∨
        s.statusRegister = uart2ReceiveComplete then s
    else if s.statusRegister = rs485SlaveWaitRestart then
      if timeout then uart2Receive { s with statusRegister := 0 } else s
    else uart2Recover s
  else s

/-- Whose turn it is. -/
inductive Uart2Turn
  /-- `DMA1_Channel6_IRQHandler`, with `TEIF6` or with `TCIF6` -/
  | dma6Error
  | dma6Complete
  /-- `DMA1_Channel7_IRQHandler`, with `TEIF7` or with `TCIF7` -/
  | dma7Error
  | dma7Complete
  /-- `USART2_IRQHandler`, with some of `ORE`, `NE`, `FE` and `PE`, with `IDLE` alone, or with
  none of them -/
  | usart2Error (flags : Fin 15)
  | usart2Idle
  | usart2Spurious
  /-- `TIM3_IRQHandler`, and the slave's variables that it finds -/
  | tim3 (slave : Slave) (enableListeningDebug : Bool)
  | timeEvent (timeout : Bool)

/-- One step of whoever's turn it is, if it is possible. -/
def uart2Step (turn : Uart2Turn) (s : Uart2State) : Option Uart2State :=
  match turn with
  | .dma6Error =>
      if s.ccr6 then some { s with statusRegister := eUart2Dma1Ch6ReceiveError } else none
  | .dma6Complete =>
      if s.ccr6 then some { s with statusRegister := eRs485SlaveDma6BufferOverflow } else none
  | .dma7Error =>
      if s.ccr7 then
        some { s with
          ccr7 := false, driver := .receive, statusRegister := eUart2Dma1Ch7TransmitError
          transmitting := false }
      else none
  | .dma7Complete =>
      if s.ccr7 then
        some { s with ccr7 := false, cen := true, statusRegister := uart2TransferComplete }
      else none
  | .usart2Error flags =>
      if s.re then
        some { s with
          ccr6 := false, re := false
          statusRegister := eUart2ReceiveErrorBase ||| (flags.val + 1) }
      else none
  | .usart2Idle =>
      if s.re then
        some { s with
          ccr6 := false, re := false, cen := true, statusRegister := uart2ReceiveComplete }
      else none
  | .usart2Spurious => some { s with statusRegister := eRs485SlaveUart2IrqError }
  -- the timer is in one-pulse mode and has stopped
  | .tim3 slave enableListeningDebug =>
      if s.cen then
        some (tim3IrqHandler (slaveSendResp slave) enableListeningDebug { s with cen := false })
      else none
  | .timeEvent timeout => some (processUart2TimeEvent timeout s)

/-! ### The two properties -/

/-- The next `process_uart2_time_event` acts on the status. -/
structure Uart2State.Pending (s : Uart2State) : Prop where
  startMonitore : s.startMonitore = true
  ne_zero : s.statusRegister ≠ 0
  ne_transferComplete : s.statusRegister ≠ uart2TransferComplete
  ne_receiveComplete : s.statusRegister ≠ uart2ReceiveComplete

/-- **Something will go on**: the reception, the transmission, the timer or the polling task. -/
def Uart2State.Alive (s : Uart2State) : Prop :=
  (s.re = true ∧ s.ccr6 = true) ∨ s.ccr7 = true ∨ s.cen = true ∨ s.Pending

/-- **The slave does not listen while it drives the bus**, and drives it from a `uart2_transmit` on
until the transmission ends or fails. -/
structure Uart2State.HalfDuplex (s : Uart2State) : Prop where
  listening : s.re = true ∨ s.ccr6 = true →
    s.driver = .receive ∧ s.te = false ∧ s.ccr7 = false
  driving : s.driver = .transmit → s.transmitting = true

/-! ### What each party does -/

/-- `slave_send_resp` has an error to return when it has no answer. -/
theorem slaveSendResp_of_silent {slave : Slave} (h : (slaveSendResp slave).2.2 = none) :
    503 ≤ (slaveSendResp slave).2.1 := by
  revert h
  rw [slaveSendResp]
  split
  · exact fun _ => (by decide : (503 : ℤ) ≤ eRs485SlaveDoesNotMatch)
  dsimp only
  split
  · rw [slaveSendValid]
    dsimp only
    split
    · intro hnone
      cases hnone
    split
    · intro hnone
      cases hnone
    split
    · intro hnone
      cases hnone
    rw [slaveSendRegisters]
    dsimp only
    split
    · exact fun _ => (by decide : (503 : ℤ) ≤ eRs485SlaveCopyMemoryHoldingAddressTimeout)
    · intro hnone
      cases hnone
  · exact fun _ => (by decide : (503 : ℤ) ≤ eRs485SlaveInvalidCrc16)

variable {s t : Uart2State} {slave : Slave} {enableListeningDebug timeout : Bool}

/-- What the timer's handler does: the slave answers, it keeps the error to be reported, it listens
again, or it disables everything. -/
theorem tim3IrqHandler_cases (slave : Slave) (enableListeningDebug : Bool) (s : Uart2State) :
    (∃ u : Uart2State, s.statusRegister = uart2ReceiveComplete ∧
      tim3IrqHandler (slaveSendResp slave) enableListeningDebug s = uart2Transmit u) ∨
    (∃ n : ℕ, s.statusRegister = uart2ReceiveComplete ∧ 503 ≤ n ∧
      tim3IrqHandler (slaveSendResp slave) enableListeningDebug s =
        { s with transmitting := false, responses := s.responses + 1, statusRegister := n }) ∨
    (∃ u : Uart2State,
      tim3IrqHandler (slaveSendResp slave) enableListeningDebug s = uart2Receive u) ∨
    tim3IrqHandler (slaveSendResp slave) enableListeningDebug s =
      { s with
        driver := .receive, ccr6 := false, ccr7 := false, re := false, te := false
        statusRegister := eRs485SlaveTim3IrqError, transmitting := false } := by
  rw [tim3IrqHandler]
  dsimp only
  split
  · rename_i hstatus
    have hsilent : (slaveSendResp slave).2.2 = none → 503 ≤ (slaveSendResp slave).2.1 :=
      slaveSendResp_of_silent
    rcases hresp : slaveSendResp slave with ⟨slave', result, data⟩
    rw [hresp] at hsilent
    cases data with
    | some n => exact Or.inl ⟨_, hstatus, rfl⟩
    | none =>
        have hresult : 503 ≤ result := hsilent rfl
        dsimp only
        rw [if_neg (by omega)]
        split
        · exact Or.inr (Or.inl ⟨_, hstatus, by omega, rfl⟩)
        · exact Or.inr (Or.inr (Or.inl ⟨_, rfl⟩))
  · split
    · exact Or.inr (Or.inr (Or.inl ⟨_, rfl⟩))
    · exact Or.inr (Or.inr (Or.inr rfl))

/-- **The polling task acts on a pending status**: it ends an error, and listens again after the
timeout. -/
theorem Uart2State.Pending.timeEvent (h : s.Pending) :
    processUart2TimeEvent true s = uart2Recover s ∧ s.statusRegister ≠ rs485SlaveWaitRestart ∨
      processUart2TimeEvent true s = uart2Receive { s with statusRegister := 0 } ∧
        s.statusRegister = rs485SlaveWaitRestart := by
  have hstatus : ¬ (s.statusRegister = 0 ∨ s.statusRegister = uart2TransferComplete ∨
      s.statusRegister = uart2ReceiveComplete) := by
    rintro (h₀ | h₁ | h₂)
    · exact h.ne_zero h₀
    · exact h.ne_transferComplete h₁
    · exact h.ne_receiveComplete h₂
  rw [processUart2TimeEvent, if_pos h.startMonitore, if_neg hstatus]
  by_cases hwait : s.statusRegister = rs485SlaveWaitRestart
  · rw [if_pos hwait]
    exact Or.inr ⟨rfl, hwait⟩
  · rw [if_neg hwait]
    exact Or.inl ⟨rfl, hwait⟩

/-- What `process_uart2_time_event` does. -/
theorem processUart2TimeEvent_cases (timeout : Bool) (s : Uart2State) :
    processUart2TimeEvent timeout s = s ∨
      processUart2TimeEvent timeout s = uart2Receive { s with statusRegister := 0 } ∨
      processUart2TimeEvent timeout s = uart2Recover s := by
  rw [processUart2TimeEvent]
  split
  · split
    · exact Or.inl rfl
    · split
      · split
        · exact Or.inr (Or.inl rfl)
        · exact Or.inl rfl
      · exact Or.inr (Or.inr rfl)
  · exact Or.inl rfl

/-! ### The slave never gets stuck -/

theorem alive_uart2Receive (s : Uart2State) : (uart2Receive s).Alive := Or.inl ⟨rfl, rfl⟩

theorem alive_uart2Transmit (s : Uart2State) : (uart2Transmit s).Alive := Or.inr (Or.inl rfl)

/-- An error is pending. -/
theorem alive_of_le (hmon : s.startMonitore = true) (h : 3 ≤ s.statusRegister) : s.Alive := by
  refine Or.inr (Or.inr (Or.inr ⟨hmon, ?_, ?_, ?_⟩))
  · exact Nat.ne_of_gt (Nat.lt_of_lt_of_le (by decide) h)
  · exact Nat.ne_of_gt (Nat.lt_of_lt_of_le (by decide) h)
  · exact Nat.ne_of_gt (Nat.lt_of_lt_of_le (by decide) h)

/-- **What one step preserves.**  No handler clears an enable bit without setting another one or
storing an error. -/
theorem alive_step {turn : Uart2Turn} (hmon : s.startMonitore = true) (h : s.Alive)
    (hstep : uart2Step turn s = some t) : t.startMonitore = true ∧ t.Alive := by
  cases turn with
  | dma6Error | dma6Complete | dma7Error =>
      rw [uart2Step] at hstep
      split at hstep
      · obtain rfl := Option.some.inj hstep
        exact ⟨hmon, alive_of_le hmon (Nat.le_of_ble_eq_true rfl)⟩
      · cases hstep
  | dma7Complete =>
      rw [uart2Step] at hstep
      split at hstep
      · obtain rfl := Option.some.inj hstep
        exact ⟨hmon, Or.inr (Or.inr (Or.inl rfl))⟩
      · cases hstep
  | usart2Error flags =>
      rw [uart2Step] at hstep
      split at hstep
      · obtain rfl := Option.some.inj hstep
        have hle : 3 ≤ eUart2ReceiveErrorBase ||| (flags.val + 1) :=
          Nat.le_trans (by decide) Nat.left_le_or
        exact ⟨hmon, alive_of_le hmon hle⟩
      · cases hstep
  | usart2Idle =>
      rw [uart2Step] at hstep
      split at hstep
      · obtain rfl := Option.some.inj hstep
        exact ⟨hmon, Or.inr (Or.inr (Or.inl rfl))⟩
      · cases hstep
  | usart2Spurious =>
      obtain rfl := Option.some.inj hstep
      exact ⟨hmon, alive_of_le hmon (Nat.le_of_ble_eq_true rfl)⟩
  | tim3 slave enableListeningDebug =>
      rw [uart2Step] at hstep
      split at hstep
      · obtain rfl := Option.some.inj hstep
        rcases tim3IrqHandler_cases slave enableListeningDebug { s with cen := false } with
          ⟨u, -, hu⟩ | ⟨n, -, hn, hu⟩ | ⟨u, hu⟩ | hu
        · rw [hu]
          exact ⟨rfl, alive_uart2Transmit u⟩
        · rw [hu]
          exact ⟨hmon, alive_of_le hmon (Nat.le_trans (by decide) hn)⟩
        · rw [hu]
          exact ⟨rfl, alive_uart2Receive u⟩
        · rw [hu]
          exact ⟨hmon, alive_of_le hmon (Nat.le_of_ble_eq_true rfl)⟩
      · cases hstep
  | timeEvent timeout =>
      obtain rfl := Option.some.inj hstep
      rcases processUart2TimeEvent_cases timeout s with hu | hu | hu
      · rw [hu]
        exact ⟨hmon, h⟩
      · rw [hu]
        exact ⟨rfl, alive_uart2Receive _⟩
      · rw [hu]
        exact ⟨hmon, alive_of_le hmon (Nat.le_of_ble_eq_true rfl)⟩

/-- **The slave never gets stuck**, whatever `slave_send_resp` returns and in whatever order the
interrupts come; and the polling task acts on the status when nothing else does. -/
theorem alive_of_run {s₀ : Uart2State}
    (h : Run uart2Step (fun _ _ => true) (rs485SlaveStartListen s₀) s) :
    s.Alive ∧ (s.Pending → processUart2TimeEvent true s ≠ s) := by
  have hall : s.startMonitore = true ∧ s.Alive :=
    h.invariant (I := fun s => s.startMonitore = true ∧ s.Alive) ⟨rfl, alive_uart2Receive s₀⟩
      fun _ _ _ hinv _ hstep => alive_step hinv.1 hinv.2 hstep
  refine ⟨hall.2, fun hpending hsame => ?_⟩
  have hstatus := congrArg Uart2State.statusRegister hsame
  rcases hpending.timeEvent with ⟨hu, hne⟩ | ⟨hu, heq⟩
  · rw [hu] at hstatus
    exact hne hstatus.symm
  · rw [hu, heq] at hstatus
    cases hstatus

/-- The line falls idle and the slave answers. -/
theorem exists_run_answer : ∃ s : Uart2State,
    Run uart2Step (fun _ _ => true) (rs485SlaveStartListen uart2Init) s ∧ s.responses = 1 ∧
      s.driver = .transmit ∧ s.ccr7 = true := by
  let slave : Slave :=
    { buffer := fun i => [0x01, 0x04, 0x40, 0x00, 0x00, 0x01, 0x24, 0x0a].getD i 0
      lock := false, slaveAddress := 1, area := fun _ => 0, areaReadOnly := fun _ => 0 }
  have hexec : (exec uart2Step (fun _ _ => true) [.usart2Idle, .tim3 slave false]
      (rs485SlaveStartListen uart2Init)).map (fun s => (s.responses, s.driver, s.ccr7)) =
        some (1, .transmit, true) := by
    decide
  obtain ⟨s, hs, hproj⟩ := Option.map_eq_some_iff.1 hexec
  obtain ⟨hresponses, hrest⟩ := Prod.mk.inj hproj
  obtain ⟨hdriver, hccr7⟩ := Prod.mk.inj hrest
  exact ⟨s, run_of_exec _ hs, hresponses, hdriver, hccr7⟩

theorem alive_of_run_answer : ∃ s : Uart2State,
    Run uart2Step (fun _ _ => true) (rs485SlaveStartListen uart2Init) s ∧ s.responses = 1 ∧
      s.Alive := by
  obtain ⟨s, hrun, hresponses, -⟩ := exists_run_answer
  exact ⟨s, hrun, hresponses, (alive_of_run hrun).1⟩

/-! ### The slave does not listen while it drives the bus -/

/-- What holds after every run. -/
structure HalfDuplexInv (s : Uart2State) : Prop extends s.HalfDuplex where
  /-- a frame has come in, so the driver listens -/
  received : s.statusRegister = uart2ReceiveComplete → s.driver = .receive

theorem uart2Receive_halfDuplex (s : Uart2State) : HalfDuplexInv (uart2Receive s) where
  listening _ := ⟨rfl, rfl, rfl⟩
  driving := nofun
  received _ := rfl

theorem uart2Transmit_halfDuplex (s : Uart2State) : HalfDuplexInv (uart2Transmit s) where
  listening := by
    rintro (hre | hccr6)
    · cases hre
    · cases hccr6
  driving _ := rfl
  received := nofun

/-- A handler that only stores an error. -/
theorem HalfDuplexInv.store (h : HalfDuplexInv s) {status : ℕ}
    (hne : status ≠ uart2ReceiveComplete) :
    HalfDuplexInv { s with statusRegister := status } where
  listening := h.listening
  driving := h.driving
  received hstatus := absurd hstatus hne

/-- Nothing listens while the transmission is on. -/
theorem HalfDuplexInv.not_listening (h : HalfDuplexInv s) (hccr7 : s.ccr7 = true) :
    ¬ (s.re = true ∨ s.ccr6 = true) := by
  intro hor
  rw [(h.listening hor).2.2] at hccr7
  cases hccr7

/-- The receiver, its DMA channel and the driver are off. -/
theorem halfDuplex_of_receive (hdriver : s.driver = .receive) (hre : s.re = false)
    (hccr6 : s.ccr6 = false) : HalfDuplexInv s where
  listening := by
    rintro (hor | hor)
    · rw [hre] at hor
      cases hor
    · rw [hccr6] at hor
      cases hor
  driving htransmit := by
    rw [hdriver] at htransmit
    cases htransmit
  received _ := hdriver

/-- **What one step preserves.** -/
theorem HalfDuplexInv.step {turn : Uart2Turn} (h : HalfDuplexInv s)
    (hstep : uart2Step turn s = some t) : HalfDuplexInv t := by
  cases turn with
  | dma6Error | dma6Complete =>
      rw [uart2Step] at hstep
      split at hstep
      · obtain rfl := Option.some.inj hstep
        exact h.store (by decide)
      · cases hstep
  | dma7Error =>
      rw [uart2Step] at hstep
      split at hstep
      · rename_i hccr7
        obtain rfl := Option.some.inj hstep
        exact ⟨⟨fun hor => absurd hor (h.not_listening hccr7), nofun⟩, fun _ => rfl⟩
      · cases hstep
  | dma7Complete =>
      rw [uart2Step] at hstep
      split at hstep
      · rename_i hccr7
        obtain rfl := Option.some.inj hstep
        exact ⟨⟨fun hor => absurd hor (h.not_listening hccr7), h.driving⟩, by nofun⟩
      · cases hstep
  | usart2Error flags | usart2Idle =>
      rw [uart2Step] at hstep
      split at hstep
      · rename_i hre
        obtain rfl := Option.some.inj hstep
        exact halfDuplex_of_receive (h.listening (Or.inl hre)).1 rfl rfl
      · cases hstep
  | usart2Spurious =>
      obtain rfl := Option.some.inj hstep
      exact h.store (by decide)
  | tim3 slave enableListeningDebug =>
      rw [uart2Step] at hstep
      split at hstep
      · obtain rfl := Option.some.inj hstep
        rcases tim3IrqHandler_cases slave enableListeningDebug { s with cen := false } with
          ⟨u, -, hu⟩ | ⟨n, hstatus, hn, hu⟩ | ⟨u, hu⟩ | hu
        · rw [hu]
          exact uart2Transmit_halfDuplex u
        -- the error is kept to be reported, and the driver is as it was when the frame came in
        · rw [hu]
          have hdriver := h.received hstatus
          refine ⟨⟨h.listening, fun htransmit => ?_⟩, fun _ => hdriver⟩
          change s.driver = .transmit at htransmit
          rw [hdriver] at htransmit
          cases htransmit
        · rw [hu]
          exact uart2Receive_halfDuplex u
        · rw [hu]
          exact halfDuplex_of_receive rfl rfl rfl
      · cases hstep
  | timeEvent timeout =>
      obtain rfl := Option.some.inj hstep
      rcases processUart2TimeEvent_cases timeout s with hu | hu | hu
      · rw [hu]
        exact h
      · rw [hu]
        exact uart2Receive_halfDuplex _
      · rw [hu]
        exact halfDuplex_of_receive rfl rfl rfl

/-- **The slave never listens and drives the bus at the same time**, and it drives the bus only
from a `uart2_transmit` until the timer, a DMA error or the polling task ends the transmission. -/
theorem halfDuplex_of_run {s₀ : Uart2State}
    (h : Run uart2Step (fun _ _ => true) (rs485SlaveStartListen s₀) s) : s.HalfDuplex := by
  have hinv : HalfDuplexInv s := h.invariant (uart2Receive_halfDuplex s₀)
    fun _ _ _ hinv _ hstep => hinv.step hstep
  exact hinv.toHalfDuplex

/-- The transmission fails while the slave drives the bus. -/
theorem halfDuplex_of_run_error : ∃ s t : Uart2State,
    Run uart2Step (fun _ _ => true) (rs485SlaveStartListen uart2Init) s ∧ s.driver = .transmit ∧
      s.HalfDuplex ∧ uart2Step .dma7Error s = some t ∧ t.driver = .receive ∧ t.HalfDuplex := by
  obtain ⟨s, hrun, -, hdriver, hccr7⟩ := exists_run_answer
  have hstep : uart2Step .dma7Error s = some { s with
      ccr7 := false, driver := .receive, statusRegister := eUart2Dma1Ch7TransmitError
      transmitting := false } := by
    rw [uart2Step, if_pos hccr7]
  exact ⟨s, _, hrun, hdriver, halfDuplex_of_run hrun, hstep, rfl,
    halfDuplex_of_run (hrun.tail .dma7Error rfl hstep)⟩

end Solar48
