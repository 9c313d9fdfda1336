/-
**The RS485 master over UART1: tasks, a polling task and four interrupt handlers.**

`master_send_req` takes the lock of `master_rs485_rtu`, stores its arguments there, prepares the
frame and hands it to `uart1_transmit`.  From then on the exchange belongs to the interrupt
handlers and to `process_uart1_time_event`, which ends it, releases both locks and calls the
callback.  The tasks are interleaved statement by statement, a handler runs between any two
statements.

The model is one step function on a common state.  Calls of `master_send_req` are numbered, and
what a call stores is represented by its number: the state says of each field of
`master_rs485_rtu`, of the callback and of the frame buffer whose it is.  A handler runs when its
unit, which the program must have enabled, raises the interrupt.  A register write on which no
step depends is left out.

The state also records what the program does not: who took each lock, during whose tenure the
status register was stored, every callback that was called and every release of the lock.

Main definitions:

* `sendStep`, `pollStep` — one statement of `master_send_req` and of `process_uart1_time_event`;
* `uart1Receive`, `masterStep` — the handlers, and all parties together;
* `OneCompletion` — one completion per exchange, to its own callback, with its own status and
  data, and no release of the lock by others;
* `keepsExchange` — the condition on a step under which this stays so.
-/

import Solar48.StepSystem
import Mathlib.Data.Int.Notation
import Mathlib.Data.List.Nodup
import Mathlib.Data.Nat.Notation
import Mathlib.Logic.Function.Basic

set_option relaxedAutoImplicit false
set_option autoImplicit false

namespace Solar48

/-! ### Status codes -/

abbrev uart1TransferComplete : ℕ := 1
abbrev uart1ReceiveComplete : ℕ := 2
abbrev rs485MasterReceiveAndProcessDataComplete : ℕ := 3
abbrev eUart1Busy : ℤ := 200
abbrev eUart1Locked : ℤ := 201
abbrev eUart1Timeout : ℕ := 202
abbrev eUart1Dma1Ch4TransmitError : ℕ := 210
abbrev eUart1ReceiveErrorBase : ℕ := 224
abbrev eUart1Dma1Ch5ReceiveError : ℕ := 250
abbrev eMasterModbusBusy : ℤ := 400
abbrev eRs485MasterDma5BufferOverflow : ℕ := 462

/-! ### Calls of `master_send_req` -/

/-- The arguments kept in `master_rs485_rtu`, in the order in which they are stored. -/
inductive RtuField
  | address | function | memAddress | writeStartAddress | writeByteCount | nDataOrDiscrete
  | timeoutMs
  deriving DecidableEq, Repr

/-- The place of a field in that order. -/
def RtuField.index : RtuField → ℕ
  | .address => 0
  | .function => 1
  | .memAddress => 2
  | .writeStartAddress => 3
  | .writeByteCount => 4
  | .nDataOrDiscrete => 5
  | .timeoutMs => 6

/-- Where a call of `master_send_req` is: each place is about to do what it is named after. -/
inductive SenderPc
  /-- not yet called -/
  | idle
  | tryLock
  | store (f : RtuField)
  | storeCallback
  | prepare
  /-- inside `uart1_transmit`, down to `enableCcr4` -/
  | checkData (size : ℕ)
  | checkBusy
  | tryUart
  | clearMonitore
  | clearRe
  | clearCcr4
  | clearCcr5
  | clearStatus
  | storeUartCallback
  | setMonitore
  | enableCcr4
  /-- an error is about to be returned -/
  | unlock (err : ℤ)
  | returned (err : ℤ)
  deriving DecidableEq, Repr

/-- The statement after the store of a field. -/
def RtuField.next : RtuField → SenderPc
  | .address => .store .function
  | .function => .store .memAddress
  | .memAddress => .store .writeStartAddress
  | .writeStartAddress => .store .writeByteCount
  | .writeByteCount => .store .nDataOrDiscrete
  | .nDataOrDiscrete => .store .timeoutMs
  | .timeoutMs => .storeCallback

/-! ### The polling task -/

/-- `uart1_control.uart_callback`. -/
inductive UartCallback
  | masterSendReq
  | masterReceive
  deriving DecidableEq, Repr

/-- What `process_uart1_time_event` does from `process_uart1_time_event_finish` on. -/
inductive Teardown
  | cen | ccr4 | ccr5 | re | monitore | locked | callback
  deriving DecidableEq, Repr

/-- Whose the arguments and the frame buffer were when `master_check_receive` read them. -/
structure Exchange where
  fields : RtuField → Option ℕ
  buffer : Option ℕ

/-- What a callback is told. -/
structure Outcome where
  status : ℤ
  /-- during whose tenure of the UART the status was found -/
  statusOf : Option ℕ
  /-- what `master_check_receive` read, if the status is its verdict -/
  judged : Option Exchange

/-- Where the polling task is; `tx` is the call whose exchange it found monitored. -/
inductive PollPc
  | idle
  | loadStatus (tx : Option ℕ)
  | checkTimeout (tx : Option ℕ)
  | finish (stage : Teardown) (tx : Option ℕ) (status : ℕ) (statusOf : Option ℕ)
  /-- in `_master_receive` or `_master_send_req`, down to `invoke` -/
  | checkReceive (tx statusOf : Option ℕ)
  | unlock (tx : Option ℕ) (outcome : Outcome)
  | invoke (tx : Option ℕ) (outcome : Outcome)

/-- The lock is released and the callback about to be called. -/
def PollPc.invoking : PollPc → Bool
  | .invoke _ _ => true
  | _ => false

/-- A callback that was called. -/
structure Completion where
  /-- whose callback it was -/
  callback : ℕ
  /-- whose exchange had ended -/
  tx : Option ℕ
  outcome : Outcome

/-! ### The state -/

structure MasterState where
  /-- `master_rs485_rtu.lock` -/
  lock : Bool
  /-- the other fields of `master_rs485_rtu` -/
  fields : RtuField → Option ℕ
  /-- `master_rs485_rtu.callback` -/
  callback : Option ℕ
  /-- whose exchange `modbus_master_buffer` holds a frame of -/
  buffer : Option ℕ
  /-- `uart1_control` -/
  startMonitore : Bool
  locked : Bool
  statusRegister : ℕ
  uartCallback : Option UartCallback
  /-- `DMA1_CCR4_EN`, `DMA1_CCR5_EN`, `RE` and `CEN` -/
  ccr4 : Bool
  ccr5 : Bool
  re : Bool
  cen : Bool
  sender : ℕ → SenderPc
  poll : PollPc
  /-- who holds `master_rs485_rtu.lock` -/
  holder : Option ℕ
  /-- who holds `uart1_control.locked` -/
  owner : Option ℕ
  /-- who held it when the status register was stored -/
  statusOf : Option ℕ
  /-- the callbacks called, the oldest first -/
  completions : List Completion
  /-- the releases of `master_rs485_rtu.lock`: on whose behalf, and who held it -/
  releases : List (Option ℕ × Option ℕ)

def masterInit : MasterState where
  lock := false
  fields := fun _ => none
  callback := none
  buffer := none
  startMonitore := false
  locked := false
  statusRegister := 0
  uartCallback := none
  ccr4 := false
  ccr5 := false
  re := false
  cen := false
  sender := fun _ => .idle
  poll := .idle
  holder := none
  owner := none
  statusOf := none
  completions := []
  releases := []

namespace MasterState

/-- Call `c` goes on at `pc`. -/
def goto (s : MasterState) (c : ℕ) (pc : SenderPc) : MasterState :=
  { s with sender := Function.update s.sender c pc }

/-- `sys_unlock(&master_rs485_rtu.lock)` on behalf of `tx`. -/
def release (s : MasterState) (tx : Option ℕ) : MasterState :=
  { s with lock := false, holder := none, releases := s.releases ++ [(tx, s.holder)] }

/-- An interrupt handler stores a status. -/
def setStatus (s : MasterState) (status : ℕ) : MasterState :=
  { s with statusRegister := status, statusOf := s.owner }

end MasterState

/-! ### Steps -/

/-- One statement of call `c`.  A lock that is not free is tried again. -/
def sendStep (c : ℕ) (s : MasterState) : Option MasterState :=
  match s.sender c with
  | .idle => some (s.goto c .tryLock)
  | .tryLock =>
      if s.lock then some s
      else some ({ s with lock := true, holder := some c }.goto c (.store .address))
  | .store f => some ({ s with fields := Function.update s.fields f (some c) }.goto c f.next)
  | .storeCallback => some ({ s with callback := some c }.goto c .prepare)
  | .prepare => none
  -- with no data there is nothing to send and the call returns, with the lock still held
  | .checkData size => some (s.goto c (if size = 0 then .returned 0 else .checkBusy))
  | .checkBusy => some (s.goto c (if s.ccr4 || s.re then .unlock eUart1Busy else .tryUart))
  | .tryUart =>
      if s.locked then some s
      else some ({ s with locked := true, owner := some c }.goto c .clearMonitore)
  | .clearMonitore => some ({ s with startMonitore := false }.goto c .clearRe)
  | .clearRe => some ({ s with re := false }.goto c .clearCcr4)
  | .clearCcr4 => some ({ s with ccr4 := false }.goto c .clearCcr5)
  | .clearCcr5 => some ({ s with ccr5 := false }.goto c .clearStatus)
  | .clearStatus =>
      some ({ s with statusRegister := 0, statusOf := some c }.goto c .storeUartCallback)
  | .storeUartCallback =>
      some ({ s with uartCallback := some .masterSendReq }.goto c .setMonitore)
  | .setMonitore => some ({ s with startMonitore := true }.goto c .enableCcr4)
  | .enableCcr4 => some ({ s with ccr4 := true }.goto c (.returned 0))
  | .unlock err => some ((s.release (some c)).goto c (.returned err))
  | .returned _ => none

/-- `sys_try_lock` gives up. -/
def sendTimeout (c : ℕ) (s : MasterState) : Option MasterState :=
  match s.sender c with
  | .tryLock => some (s.goto c (.returned eMasterModbusBusy))
  | .tryUart => some (s.goto c (.unlock eUart1Locked))
  | _ => none

/-- `master_prepare_to_send` returns, having stored a size if it returns 0. -/
def sendPrepared (c : ℕ) (err : ℤ) (size : ℕ) (s : MasterState) : Option MasterState :=
  match s.sender c with
  | .prepare =>
      some ({ s with buffer := some c }.goto c (if err ≠ 0 then .unlock err else .checkData size))
  | _ => none

/-- One statement of `process_uart1_time_event` and of the callback it calls. -/
def pollStep (s : MasterState) : Option MasterState :=
  match s.poll with
  | .idle => some (if s.startMonitore then { s with poll := .loadStatus s.owner } else s)
  | .loadStatus tx =>
      if s.statusRegister = uart1TransferComplete then some { s with poll := .checkTimeout tx }
      else if s.statusRegister = uart1ReceiveComplete then
        some { s with poll := .finish .cen tx rs485MasterReceiveAndProcessDataComplete s.statusOf }
      else if s.statusRegister ≠ 0 then
        some { s with poll := .finish .cen tx s.statusRegister s.statusOf }
      else some { s with poll := .checkTimeout tx }
  | .checkTimeout _ => some { s with poll := .idle }
  | .finish .cen tx st of => some { s with cen := false, poll := .finish .ccr4 tx st of }
  | .finish .ccr4 tx st of => some { s with ccr4 := false, poll := .finish .ccr5 tx st of }
  | .finish .ccr5 tx st of => some { s with ccr5 := false, poll := .finish .re tx st of }
  | .finish .re tx st of => some { s with re := false, poll := .finish .monitore tx st of }
  | .finish .monitore tx st of =>
      some { s with startMonitore := false, poll := .finish .locked tx st of }
  | .finish .locked tx st of =>
      some { s with locked := false, owner := none, poll := .finish .callback tx st of }
  -- `_master_send_req` is told of errors only, `_master_receive` of the end of the reception too
  | .finish .callback tx st of =>
      match s.uartCallback with
      | none => none
      | some .masterSendReq =>
          some { s with
            poll := if st ≠ uart1TransferComplete then .unlock tx ⟨st, of, none⟩ else .idle }
      | some .masterReceive =>
          some { s with
            poll := if st = rs485MasterReceiveAndProcessDataComplete then .checkReceive tx of
              else .unlock tx ⟨st, of, none⟩ }
  | .checkReceive _ _ => none
  -- the lock is released before the callback that it protects is read
  | .unlock tx outcome => some { s.release tx with poll := .invoke tx outcome }
  | .invoke tx outcome =>
      match s.callback with
      | none => none
      | some c =>
          some { s with completions := s.completions ++ [⟨c, tx, outcome⟩], poll := .idle }

/-- `is_timeout_ms(&uart1_control.timeout)` is true. -/
def pollTimeout (s : MasterState) : Option MasterState :=
  match s.poll with
  | .checkTimeout tx => some { s with poll := .finish .cen tx eUart1Timeout s.owner }
  | _ => none

/-- `master_check_receive` returns. -/
def pollVerdict (status : ℤ) (s : MasterState) : Option MasterState :=
  match s.poll with
  | .checkReceive tx of =>
      some { s with poll := .unlock tx ⟨status, of, some ⟨s.fields, s.buffer⟩⟩ }
  | _ => none

/-- `uart1_receive`, as `TIM2_IRQHandler` calls it, with the callback `_master_receive`. -/
def uart1Receive (s : MasterState) : MasterState :=
  { s.setStatus 0 with
    uartCallback := some .masterReceive, ccr4 := false
    startMonitore := true, ccr5 := true, re := true }

/-- Whose turn it is. -/
inductive MasterTurn
  | send (c : ℕ)
  | sendTimeout (c : ℕ)
  | sendPrepared (c : ℕ) (err : ℤ) (size : ℕ)
  | poll
  | pollTimeout
  | pollVerdict (status : ℤ)
  /-- `DMA1_Channel4_IRQHandler`, with `TEIF4` or with `TCIF4` -/
  | dma4Error
  | dma4Complete
  /-- `DMA1_Channel5_IRQHandler`, with `TEIF5` or with `TCIF5` -/
  | dma5Error
  | dma5Complete
  /-- `USART1_IRQHandler`, with some of `ORE`, `NE`, `FE` and `PE`, or with `IDLE` alone -/
  | usart1Error (flags : Fin 15)
  | usart1Idle
  /-- `TIM2_IRQHandler` -/
  | tim2
  deriving DecidableEq, Repr

/-- One step of whoever's turn it is, if it is possible. -/
def masterStep (turn : MasterTurn) (s : MasterState) : Option MasterState :=
  match turn with
  | .send c => sendStep c s
  | .sendTimeout c => sendTimeout c s
  | .sendPrepared c err size => sendPrepared c err size s
  | .poll => pollStep s
  | .pollTimeout => pollTimeout s
  | .pollVerdict status => pollVerdict status s
  | .dma4Error => if s.ccr4 then some (s.setStatus eUart1Dma1Ch4TransmitError) else none
  | .dma4Complete =>
      if s.ccr4 then some { s.setStatus uart1TransferComplete with cen := true } else none
  | .dma5Error => if s.ccr5 then some (s.setStatus eUart1Dma1Ch5ReceiveError) else none
  | .dma5Complete => if s.ccr5 then some (s.setStatus eRs485MasterDma5BufferOverflow) else none
  | .usart1Error flags =>
      if s.re then some (s.setStatus (eUart1ReceiveErrorBase ||| (flags.val + 1))) else none
  | .usart1Idle => if s.re then some (s.setStatus uart1ReceiveComplete) else none
  -- the timer is in one-pulse mode and has stopped; the handler invalidates the buffer
  | .tim2 =>
      if s.cen then some (uart1Receive { s with cen := false, buffer := s.owner }) else none

/-! ### One completion per exchange -/

/-- The callback is told about its own exchange. -/
structure Completion.Own (e : Completion) : Prop where
  tx_eq : e.tx = some e.callback
  statusOf_eq : e.outcome.statusOf = some e.callback
  fields_eq : ∀ x, e.outcome.judged = some x → ∀ f, x.fields f = some e.callback
  buffer_eq : ∀ x, e.outcome.judged = some x → x.buffer = some e.callback

/-- **One completion per exchange.** -/
structure OneCompletion (s : MasterState) : Prop where
  /-- no completion is delivered to another call's callback, or with another's status or data -/
  own : ∀ e ∈ s.completions, e.Own
  /-- no callback is called twice -/
  once : (s.completions.map Completion.callback).Nodup
  /-- a call that returned an error has had no completion -/
  failed : ∀ c err, s.sender c = .returned err → err ≠ 0 → ∀ e ∈ s.completions, e.callback ≠ c
  /-- the lock is released on behalf of its holder -/
  released : ∀ r ∈ s.releases, ∃ c, r = (some c, some c)

/-- The condition on a step: no call stores its callback between the release of the lock and the
call of the callback, and the timer's handler runs during a monitored exchange. -/
def keepsExchange : MasterTurn → MasterState → Bool
  | .send c, s => !(s.sender c = .storeCallback && s.poll.invoking)
  | .tim2, s => s.startMonitore
  | _, _ => true

end Solar48
