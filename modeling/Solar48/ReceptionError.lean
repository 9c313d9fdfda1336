/-
**Reception errors and the end of the line.**

On both ports the handlers of a reception store what they find in one status register: an error, or
that the line has fallen idle, which ends the frame.  The polling task of UART1 and the timer of
UART2 look at the register later, and see what was stored last.

Main definitions:

* `Uart1Reception`, `Uart2Reception` — the interrupts of one reception;
* `uart1EndStatus` — what `process_uart1_time_event` tells the callback.

Main results:

* `receptionError_iff` — **a recorded error is not taken for a good frame exactly if the line's
  idle interrupt is not the last one**, on either port.
-/

import Solar48.Uart1Master
import Solar48.Uart2Slave

set_option relaxedAutoImplicit false
set_option autoImplicit false

namespace Solar48

open StepSystem

/-! ### UART1 -/

/-- The interrupts of a reception on UART1. -/
inductive Uart1Reception
  | dma5Error
  | dma5Complete
  | usart1Error (flags : Fin 15)
  | usart1Idle
  deriving DecidableEq, Repr

namespace Uart1Reception

def turn : Uart1Reception → MasterTurn
  | dma5Error => .dma5Error
  | dma5Complete => .dma5Complete
  | usart1Error flags => .usart1Error flags
  | usart1Idle => .usart1Idle

/-- What the handler stores. -/
def status : Uart1Reception → ℕ
  | dma5Error => eUart1Dma1Ch5ReceiveError
  | dma5Complete => eRs485MasterDma5BufferOverflow
  | usart1Error flags => eUart1ReceiveErrorBase ||| (flags.val + 1)
  | usart1Idle => uart1ReceiveComplete

/-- The handler records an error. -/
def recordsError : Uart1Reception → Bool
  | dma5Error | dma5Complete | usart1Error _ => true
  | usart1Idle => false

/-- The codes of the errors are above those of the states. -/
theorem lt_status {e : Uart1Reception} (h : e.recordsError = true) : 3 < e.status := by
  cases e with
  | dma5Error | dma5Complete => decide
  | usart1Error flags => exact Nat.lt_of_lt_of_le (by decide) Nat.left_le_or
  | usart1Idle => cases h

end Uart1Reception

/-- The status with which `process_uart1_time_event` calls the callback. -/
def uart1EndStatus (s : MasterState) : Option ℕ :=
  match exec masterStep (fun _ _ => true) (List.replicate 8 .poll) s with
  | some t =>
      match t.poll with
      | .finish .callback _ status _ => some status
      | _ => none
  | none => none

/-- The reception ends with an error that a handler records, and not as a good frame. -/
def Uart1EndsInError (s : MasterState) : Prop :=
  (∃ e : Uart1Reception, e.recordsError = true ∧ uart1EndStatus s = some e.status) ∧
    uart1EndStatus s ≠ some rs485MasterReceiveAndProcessDataComplete

theorem masterStep_reception {s : MasterState} (hccr5 : s.ccr5 = true) (hre : s.re = true)
    (e : Uart1Reception) : masterStep e.turn s = some (s.setStatus e.status) := by
  cases e with
  | dma5Error | dma5Complete => exact if_pos hccr5
  | usart1Error flags => exact if_pos hre
  | usart1Idle => exact if_pos hre

/-- **The handlers leave what the last of them has stored.** -/
theorem exec_reception (es : List Uart1Reception) {s : MasterState} (hccr5 : s.ccr5 = true)
    (hre : s.re = true) :
    exec masterStep (fun _ _ => true) (es.map Uart1Reception.turn) s =
      some ((es.getLast?.map Uart1Reception.status).elim s s.setStatus) := by
  induction es generalizing s with
  | nil => rfl
  | cons e es ih =>
      rw [List.map_cons, exec, if_pos rfl, masterStep_reception hccr5 hre e, Option.bind_some,
        ih (s := s.setStatus e.status) hccr5 hre, List.getLast?_cons]
      cases es.getLast? with
      | none => rfl
      | some last => rfl

/-- The polling task takes the end of the line for a good frame, and any other status for an
error. -/
theorem uart1EndStatus_eq {s : MasterState} (hpoll : s.poll = .idle)
    (hmon : s.startMonitore = true) (hstatus : 1 < s.statusRegister) :
    uart1EndStatus s = some (if s.statusRegister = uart1ReceiveComplete then
      rs485MasterReceiveAndProcessDataComplete else s.statusRegister) := by
  have h₀ : s.statusRegister ≠ 0 := by omega
  have h₁ : s.statusRegister ≠ uart1TransferComplete := Nat.ne_of_gt hstatus
  rw [uart1EndStatus]
  by_cases h₂ : s.statusRegister = uart1ReceiveComplete
  · simp [exec, masterStep, pollStep, hpoll, hmon, h₂]
  · simp [exec, masterStep, pollStep, hpoll, hmon, h₀, h₁, h₂]

/-- **On UART1 a recorded error survives exactly if the end of the line does not come last.** -/
theorem uart1EndsInError_iff {s t : MasterState} {es : List Uart1Reception}
    (hpoll : s.poll = .idle)
    (hexec : exec masterStep (fun _ _ => true) (es.map Uart1Reception.turn) (uart1Receive s) =
      some t)
    (herror : ∃ e ∈ es, e.recordsError = true) :
    Uart1EndsInError t ↔ es.getLast? ≠ some .usart1Idle := by
  obtain ⟨e, he, -⟩ := herror
  obtain ⟨last, hlast⟩ := Option.ne_none_iff_exists'.1
    (mt List.getLast?_eq_none_iff.1 (List.ne_nil_of_mem he))
  rw [exec_reception es rfl rfl, hlast] at hexec
  obtain rfl := Option.some.inj hexec
  have hone : 1 < last.status := by
    cases last with
    | usart1Idle => decide
    | _ => exact Nat.lt_trans (by decide) (Uart1Reception.lt_status rfl)
  have hend := uart1EndStatus_eq (s := (uart1Receive s).setStatus last.status) hpoll rfl hone
  change uart1EndStatus _ = some (if last.status = uart1ReceiveComplete then _ else last.status)
    at hend
  rw [hlast]
  cases hrec : last.recordsError with
  | true =>
      have hlt := Uart1Reception.lt_status hrec
      rw [if_neg (Nat.ne_of_gt (Nat.lt_trans (by decide) hlt))] at hend
      refine iff_of_true ⟨⟨last, hrec, hend⟩, fun hcomplete => ?_⟩ fun hidle => ?_
      · exact Nat.ne_of_gt hlt (Option.some.inj (hend.symm.trans hcomplete))
      · obtain rfl := Option.some.inj hidle
        cases hrec
  | false =>
      cases last with
      | usart1Idle => exact iff_of_false (fun h => h.2 hend) (not_not_intro rfl)
      | _ => cases hrec

/-! ### UART2 -/

/-- The interrupts of a reception on UART2. -/
inductive Uart2Reception
  | dma6Error
  | dma6Complete
  | usart2Error (flags : Fin 15)
  | usart2Idle
  | usart2Spurious
  deriving DecidableEq, Repr

namespace Uart2Reception

def turn : Uart2Reception → Uart2Turn
  | dma6Error => .dma6Error
  | dma6Complete => .dma6Complete
  | usart2Error flags => .usart2Error flags
  | usart2Idle => .usart2Idle
  | usart2Spurious => .usart2Spurious

/-- What the handler stores. -/
def status : Uart2Reception → ℕ
  | dma6Error => eUart2Dma1Ch6ReceiveError
  | dma6Complete => eRs485SlaveDma6BufferOverflow
  | usart2Error flags => eUart2ReceiveErrorBase ||| (flags.val + 1)
  | usart2Idle => uart2ReceiveComplete
  | usart2Spurious => eRs485SlaveUart2IrqError

/-- The handler is that of the DMA channel, and records an error or an overflow. -/
def recordsDmaError : Uart2Reception → Bool
  | dma6Error | dma6Complete => true
  | usart2Error _ | usart2Idle | usart2Spurious => false

/-- Only the end of the line looks like a frame. -/
theorem status_eq_iff (e : Uart2Reception) :
    e.status = uart2ReceiveComplete ↔ e = usart2Idle := by
  cases e with
  | usart2Idle => exact iff_of_true rfl rfl
  | usart2Error flags =>
      refine iff_of_false (Nat.ne_of_gt ?_) nofun
      exact Nat.lt_of_lt_of_le (by decide : 2 < eUart2ReceiveErrorBase) Nat.left_le_or
  | dma6Error | dma6Complete | usart2Spurious => exact iff_of_false (by decide) nofun

end Uart2Reception

theorem uart2Step_reception {s t : Uart2State} {e : Uart2Reception}
    (hstep : uart2Step e.turn s = some t) : t.statusRegister = e.status := by
  cases e with
  | usart2Spurious =>
      obtain rfl := Option.some.inj hstep
      rfl
  | _ =>
      rw [Uart2Reception.turn, uart2Step] at hstep
      split at hstep
      · obtain rfl := Option.some.inj hstep
        rfl
      · cases hstep

/-- The handlers leave what the last of them has stored. -/
theorem statusRegister_of_reception {es : List Uart2Reception} {s t : Uart2State}
    (hexec : exec uart2Step (fun _ _ => true) (es.map Uart2Reception.turn) s = some t) :
    t.statusRegister = (es.getLast?.map Uart2Reception.status).getD s.statusRegister := by
  induction es generalizing s with
  | nil =>
      obtain rfl := Option.some.inj hexec
      rfl
  | cons e es ih =>
      rw [List.map_cons, exec, if_pos rfl] at hexec
      obtain ⟨u, hstep, hrest⟩ := Option.bind_eq_some_iff.1 hexec
      rw [ih hrest, uart2Step_reception hstep, List.getLast?_cons, Option.map_some,
        Option.getD_some, Option.getD_map]

/-- The timer's handler runs `slave_send_resp` exactly if the status is that of a frame. -/
theorem responses_tim3_iff {s t : Uart2State} {slave : Slave} {enableListeningDebug : Bool}
    (hstep : uart2Step (.tim3 slave enableListeningDebug) s = some t) :
    t.responses = s.responses ↔ s.statusRegister ≠ uart2ReceiveComplete := by
  rw [uart2Step] at hstep
  split at hstep
  · obtain rfl := Option.some.inj hstep
    rw [tim3IrqHandler]
    dsimp only
    split
    · rename_i hstatus
      refine iff_of_false ?_ (not_not_intro hstatus)
      rcases slaveSendResp slave with ⟨slave', result, data⟩
      cases data with
      | some n => exact Nat.succ_ne_self s.responses
      | none =>
          dsimp only
          split
          · exact Nat.succ_ne_self s.responses
          · split
            · exact Nat.succ_ne_self s.responses
            · exact Nat.succ_ne_self s.responses
    · rename_i hstatus
      refine iff_of_true ?_ hstatus
      split
      · rfl
      · rfl
  · cases hstep

/-- **On UART2 the slave does not answer a frame that it knows to be bad exactly if the end of the
line does not come last.** -/
theorem responses_iff {s t u : Uart2State} {es : List Uart2Reception} {slave : Slave}
    {enableListeningDebug : Bool}
    (hexec : exec uart2Step (fun _ _ => true) (es.map Uart2Reception.turn) (uart2Receive s) =
      some t)
    (herror : ∃ e ∈ es, e.recordsDmaError = true)
    (hstep : uart2Step (.tim3 slave enableListeningDebug) t = some u) :
    u.responses = t.responses ↔ es.getLast? ≠ some .usart2Idle := by
  obtain ⟨e, he, -⟩ := herror
  obtain ⟨last, hlast⟩ := Option.ne_none_iff_exists'.1
    (mt List.getLast?_eq_none_iff.1 (List.ne_nil_of_mem he))
  have hstatus := statusRegister_of_reception hexec
  rw [hlast] at hstatus
  rw [responses_tim3_iff hstep, hstatus, hlast]
  change ¬ last.status = uart2ReceiveComplete ↔ _
  rw [Uart2Reception.status_eq_iff]
  exact not_congr (Option.some_inj).symm

/-! ### Both ports -/

/-- **A recorded reception error is not taken for a good frame exactly if the idle interrupt of the
line is not the last one of the reception.** -/
theorem receptionError_iff (es₁ : List Uart1Reception) (es₂ : List Uart2Reception)
    (slave : Slave) (debug : Bool) :
    (∀ s t : MasterState, s.poll = .idle →
      exec masterStep (fun _ _ => true) (es₁.map Uart1Reception.turn) (uart1Receive s) = some t →
      (∃ e ∈ es₁, e.recordsError = true) →
      (Uart1EndsInError t ↔ es₁.getLast? ≠ some .usart1Idle)) ∧
    (∀ s t u : Uart2State,
      exec uart2Step (fun _ _ => true) (es₂.map Uart2Reception.turn) (uart2Receive s) = some t →
      (∃ e ∈ es₂, e.recordsDmaError = true) →
      uart2Step (.tim3 slave debug) t = some u →
      (u.responses = t.responses ↔ es₂.getLast? ≠ some .usart2Idle)) :=
  ⟨fun _ _ hpoll hexec herror => uart1EndsInError_iff hpoll hexec herror,
    fun _ _ _ hexec herror hstep => responses_iff hexec herror hstep⟩

/-- A noisy byte and then more bytes than the buffer holds; an error of the DMA channel, the end of
the line, and an interrupt without a cause. -/
theorem receptionError_survives :
    (∃ t, exec masterStep (fun _ _ => true)
        ([.usart1Error 3, .dma5Complete].map Uart1Reception.turn) (uart1Receive masterInit) =
          some t ∧ Uart1EndsInError t) ∧
    ∃ t u, exec uart2Step (fun _ _ => true)
        ([.dma6Error, .usart2Idle, .usart2Spurious].map Uart2Reception.turn)
          (uart2Receive uart2Init) = some t ∧
      uart2Step (.tim3 ⟨fun _ => 0, false, 1, fun _ => 0, fun _ => 0⟩ false) t = some u ∧
        u.responses = t.responses := by
  have hiff := receptionError_iff [.usart1Error 3, .dma5Complete]
    [.dma6Error, .usart2Idle, .usart2Spurious] ⟨fun _ => 0, false, 1, fun _ => 0, fun _ => 0⟩ false
  constructor
  · refine ⟨_, rfl, ?_⟩
    exact (hiff.1 masterInit _ rfl rfl ⟨.dma5Complete, by decide, rfl⟩).2 (by decide)
  · refine ⟨_, _, rfl, rfl, ?_⟩
    exact (hiff.2 uart2Init _ _ rfl ⟨.dma6Error, by decide, rfl⟩ rfl).2 (by decide)

/-- The line falls idle after an error of the DMA channel, and the error is forgotten. -/
theorem receptionError_overwritten :
    ¬ (∀ (s t : MasterState) (es : List Uart1Reception), s.poll = .idle →
      exec masterStep (fun _ _ => true) (es.map Uart1Reception.turn) (uart1Receive s) = some t →
      (∃ e ∈ es, e.recordsError = true) → Uart1EndsInError t) ∧
    ¬ ∀ (s t u : Uart2State) (es : List Uart2Reception) (slave : Slave) (debug : Bool),
      exec uart2Step (fun _ _ => true) (es.map Uart2Reception.turn) (uart2Receive s) = some t →
      (∃ e ∈ es, e.recordsDmaError = true) →
      uart2Step (.tim3 slave debug) t = some u → u.responses = t.responses := by
  constructor
  · intro h
    refine (h masterInit _ [.dma5Error, .usart1Idle] rfl rfl ⟨.dma5Error, by decide, rfl⟩).2 ?_
    exact uart1EndStatus_eq rfl rfl (by decide)
  · intro h
    have hsame := h uart2Init _ _ [.dma6Error, .usart2Idle]
      ⟨fun _ => 0, false, 1, fun _ => 0, fun _ => 0⟩ false rfl ⟨.dma6Error, by decide, rfl⟩ rfl
    exact (responses_tim3_iff rfl).1 hsame rfl

end Solar48
