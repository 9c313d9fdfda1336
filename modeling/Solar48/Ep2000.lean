/-
**The calls to an IP2000 inverter.**

Five functions read from the inverter or write one of its coils.  Each takes a lock, stores its
callback, passes a request to the master and stores the result in a variable that all of them and
their handlers share; what it then does, and what it returns, it decides by that variable.  The
lock is released by the call if the request was refused, and by the handler if it was accepted.

The model is one step function.  Calls are numbered, and each is to one of the functions; a
callback is represented by the number of the call that passed it.  The calls are interleaved
statement by statement, and the completion of a request is one step between any two of them.  What
a handler copies is in `Solar48.ep2000Deliver`.

The state also records what the program does not: who holds the lock, who has taken and released
it, the requests that the master accepted, the callbacks called and the errors raised.

Main definitions:

* `callStep`, `sendRequest`, `ep2000Receive` — one statement of a call, what the master does with
  its request, and the handlers;
* `ep2000Step` — all of them together;
* `Ep2000Ok` — a call reports acceptance or failure, and the lock is released by its holder;
* `keepsErr` — the condition on a step under which this stays so.

Main results:

* `ep2000Ok_of_run` — **calls report what became of their request as long as nobody stores another
  verdict over theirs**, and if somebody does the call can go wrong.
-/

import Solar48.Rs485Frame
import Solar48.StepSystem
import Mathlib.Data.List.Nodup
import Mathlib.Logic.Function.Basic

set_option relaxedAutoImplicit false
set_option autoImplicit false

namespace Solar48

open StepSystem

/-! ### Codes, sizes and addresses -/

abbrev eEpIp2000ReadSensorsBusy : ℤ := 600
abbrev eEpIp2000ReadSensorsElemNotMatch : ℤ := 601
abbrev eEpIp2000ReadStatusBusy : ℤ := 602
abbrev eEpIp2000ReadStatusElemNotMatch : ℤ := 603
abbrev eEpIp2000ReadOverTemperatureBusy : ℤ := 604
abbrev eEpIp2000ReadOvertempElemNotMatch : ℤ := 605
abbrev eEpIp2000ReadWriteCoilNotMatch : ℤ := 606
abbrev eEpIp2000ReadCoilBusy : ℤ := 607
abbrev eEpIp2000WriteCoilBusy : ℤ := 608
abbrev eEpIllegalIp2000EpIp2000Receive : ℤ := 609
abbrev eEpIllegalIp2000EpIp2000StatusReceive : ℤ := 616
abbrev eEpIllegalIp2000EpIp2000OvrTempReceive : ℤ := 617
abbrev eEpIllegalIp2000EpIp2000RdWrCoilReceive : ℤ := 618

abbrev epeverIp2000SlaveAddress : UInt8 := 3
abbrev epeverIp2000Timeout : ℕ := 4
abbrev loadInputVoltage : UInt16 := 0x3108
abbrev loadStatus : UInt16 := 0x3202
abbrev epIp2000ElemSize : UInt16 := 11

/-! ### The functions and their handlers -/

/-- The callback variables, each with a handler; the two functions for coils share one. -/
inductive Ep2000Slot
  | sensors
  | status
  | overTemperature
  | readWriteCoils
  deriving DecidableEq, Repr

/-- What a handler has of its own. -/
structure Ep2000Handler where
  /-- the number of data that it expects -/
  elements : UInt16
  elemNotMatch : ℤ
  illegalCallback : ℤ
  deriving DecidableEq, Repr

def Ep2000Slot.handler : Ep2000Slot → Ep2000Handler
  | sensors =>
      { elements := epIp2000ElemSize
        elemNotMatch := eEpIp2000ReadSensorsElemNotMatch
        illegalCallback := eEpIllegalIp2000EpIp2000Receive }
  | status =>
      { elements := 1
        elemNotMatch := eEpIp2000ReadStatusElemNotMatch
        illegalCallback := eEpIllegalIp2000EpIp2000StatusReceive }
  | overTemperature =>
      { elements := 1
        elemNotMatch := eEpIp2000ReadOvertempElemNotMatch
        illegalCallback := eEpIllegalIp2000EpIp2000OvrTempReceive }
  | readWriteCoils =>
      { elements := 1
        elemNotMatch := eEpIp2000ReadWriteCoilNotMatch
        illegalCallback := eEpIllegalIp2000EpIp2000RdWrCoilReceive }

/-- The functions, with their arguments. -/
inductive Ep2000Function
  | readEp2000
  | readEp2000Status
  | readEp2000OverTemperature
  | readEp2000ReadCoil (memAddress : UInt8)
  | readEp2000WriteCoil (memAddress : UInt8) (value : UInt16)
  deriving DecidableEq, Repr

namespace Ep2000Function

def slot : Ep2000Function → Ep2000Slot
  | readEp2000 => .sensors
  | readEp2000Status => .status
  | readEp2000OverTemperature => .overTemperature
  | readEp2000ReadCoil _ | readEp2000WriteCoil _ _ => .readWriteCoils

/-- What the function passes to the master. -/
def request : Ep2000Function → MasterRequest
  | readEp2000 =>
      masterReadInputRegisters epeverIp2000SlaveAddress loadInputVoltage epIp2000ElemSize
        epeverIp2000Timeout
  | readEp2000Status =>
      masterReadInputRegisters epeverIp2000SlaveAddress loadStatus 1 epeverIp2000Timeout
  | readEp2000OverTemperature =>
      masterReadDiscreteInputs epeverIp2000SlaveAddress loadStatus 1 epeverIp2000Timeout
  | readEp2000ReadCoil memAddress =>
      masterReadCoils epeverIp2000SlaveAddress memAddress.toUInt16 1 epeverIp2000Timeout
  | readEp2000WriteCoil memAddress value =>
      masterWriteSingleCoil epeverIp2000SlaveAddress memAddress.toUInt16 value
        epeverIp2000Timeout

/-- What the function returns if it does not get the lock. -/
def busy : Ep2000Function → ℤ
  | readEp2000 => eEpIp2000ReadSensorsBusy
  | readEp2000Status => eEpIp2000ReadStatusBusy
  | readEp2000OverTemperature => eEpIp2000ReadOverTemperatureBusy
  | readEp2000ReadCoil _ => eEpIp2000ReadCoilBusy
  | readEp2000WriteCoil _ _ => eEpIp2000WriteCoilBusy

theorem busy_ne_zero (f : Ep2000Function) : f.busy ≠ 0 := by
  cases f with
  | readEp2000 => exact (by decide : eEpIp2000ReadSensorsBusy ≠ 0)
  | readEp2000Status => exact (by decide : eEpIp2000ReadStatusBusy ≠ 0)
  | readEp2000OverTemperature => exact (by decide : eEpIp2000ReadOverTemperatureBusy ≠ 0)
  | readEp2000ReadCoil => exact (by decide : eEpIp2000ReadCoilBusy ≠ 0)
  | readEp2000WriteCoil => exact (by decide : eEpIp2000WriteCoilBusy ≠ 0)

end Ep2000Function

/-! ### The state -/

/-- Where a call is: each place is about to do what it is named after. -/
inductive Ep2000Pc
  /-- not yet called -/
  | idle
  | tryLock
  | storeCallback
  | send
  | storeErr (r : ℤ)
  | testErr
  | clearCallback
  | unlock
  /-- in `return ep_ip2000err` -/
  | loadErr
  | returned (r : ℤ)
  deriving DecidableEq, Repr

/-- A callback that was called. -/
structure Ep2000Invocation where
  /-- whose callback it was -/
  callback : ℕ
  /-- whose request had completed -/
  request : ℕ
  err : ℤ
  deriving DecidableEq, Repr

structure Ep2000State where
  /-- `ep2000_lock` -/
  lock : Bool
  /-- `ep_ip2000err` -/
  err : ℤ
  /-- the callback variables, `none` is `NULL` -/
  callback : Ep2000Slot → Option ℕ
  pc : ℕ → Ep2000Pc
  /-- the call whose request the master has accepted and not completed -/
  pending : Option ℕ
  /-- what the master was asked for, the oldest first -/
  requested : List MasterRequest
  /-- the calls whose request the master has accepted -/
  accepted : List ℕ
  /-- the callbacks called, the oldest first -/
  invoked : List Ep2000Invocation
  /-- the errors raised -/
  raised : List ℤ
  /-- who holds the lock -/
  holder : Option ℕ
  /-- the calls that took the lock -/
  acquired : List ℕ
  /-- the releases of the lock: on whose behalf, and who held it -/
  releases : List (ℕ × Option ℕ)

def ep2000Init : Ep2000State where
  lock := false
  err := 0
  callback := fun _ => none
  pc := fun _ => .idle
  pending := none
  requested := []
  accepted := []
  invoked := []
  raised := []
  holder := none
  acquired := []
  releases := []

namespace Ep2000State

/-- Call `c` goes on at `pc`. -/
def goto (s : Ep2000State) (c : ℕ) (pc : Ep2000Pc) : Ep2000State :=
  { s with pc := Function.update s.pc c pc }

@[simp] theorem goto_self (s : Ep2000State) (c : ℕ) (pc : Ep2000Pc) : (s.goto c pc).pc c = pc :=
  Function.update_self _ _ _

theorem goto_of_ne (s : Ep2000State) {c d : ℕ} (h : d ≠ c) (pc : Ep2000Pc) :
    (s.goto c pc).pc d = s.pc d := Function.update_of_ne h _ _

def setCallback (s : Ep2000State) (x : Ep2000Slot) (c : Option ℕ) : Ep2000State :=
  { s with callback := Function.update s.callback x c }

/-- `sys_unlock(&ep2000_lock)` on behalf of call `c`. -/
def release (s : Ep2000State) (c : ℕ) : Ep2000State :=
  { s with lock := false, holder := none, releases := s.releases ++ [(c, s.holder)] }

end Ep2000State

/-! ### Steps -/

/-- What a handler stores in the error variable. -/
def ep2000Err (x : Ep2000Slot) (status : ℤ) (dataSize : UInt16) : ℤ :=
  if status = masterTransferSuccess then
    if x.handler.elements = dataSize then status else x.handler.elemNotMatch
  else status

/-- A handler, called with a status and a number of data when the request of call `tx` has
completed. -/
def ep2000Receive (x : Ep2000Slot) (tx : ℕ) (status : ℤ) (dataSize : UInt16) (s : Ep2000State) :
    Ep2000State :=
  let s := { s with err := ep2000Err x status dataSize }
  let s : Ep2000State :=
    match s.callback x with
    | some c =>
        { s with invoked := s.invoked ++ [{ callback := c, request := tx, err := s.err }] }
    | none => { s with raised := s.raised ++ [x.handler.illegalCallback] }
  (s.setCallback x none).release tx

def rs485EpIp2000Receive := ep2000Receive .sensors
def rs485EpIp2000ReceiveStatus := ep2000Receive .status
def rs485EpIp2000ReceiveOverTemperature := ep2000Receive .overTemperature
def rs485EpIp2000ReceiveReadWriteCoilsCallback := ep2000Receive .readWriteCoils

/-- The handler of a callback variable. -/
def Ep2000Slot.receive : Ep2000Slot → ℕ → ℤ → UInt16 → Ep2000State → Ep2000State
  | sensors => rs485EpIp2000Receive
  | status => rs485EpIp2000ReceiveStatus
  | overTemperature => rs485EpIp2000ReceiveOverTemperature
  | readWriteCoils => rs485EpIp2000ReceiveReadWriteCoilsCallback

theorem Ep2000Slot.receive_eq (x : Ep2000Slot) : x.receive = ep2000Receive x := by
  cases x <;> rfl

variable (callee : ℕ → Ep2000Function)

/-- One statement of call `c`, down to the call of `master_send_req` and from its return on.  A lock
that is not free is tried again. -/
def callStep (c : ℕ) (s : Ep2000State) : Option Ep2000State :=
  match s.pc c with
  | .idle => some (s.goto c .tryLock)
  | .tryLock =>
      if s.lock then some s
      else some ({ s with
        lock := true, holder := some c, acquired := s.acquired ++ [c] }.goto c .storeCallback)
  | .storeCallback => some ((s.setCallback (callee c).slot (some c)).goto c .send)
  | .send => none
  | .storeErr r => some ({ s with err := r }.goto c .testErr)
  | .testErr => some (s.goto c (if s.err ≠ 0 then .clearCallback else .loadErr))
  | .clearCallback => some ((s.setCallback (callee c).slot none).goto c .unlock)
  | .unlock => some ((s.release c).goto c .loadErr)
  | .loadErr => some (s.goto c (.returned s.err))
  | .returned _ => none

/-- `sys_try_lock` gives up. -/
def callTimeout (c : ℕ) (s : Ep2000State) : Option Ep2000State :=
  match s.pc c with
  | .tryLock => some (s.goto c (.returned (callee c).busy))
  | _ => none

/-- `master_send_req` returns `r`: it accepts one request at a time, and returns 0 then. -/
def sendRequest (c : ℕ) (r : ℤ) (s : Ep2000State) : Option Ep2000State :=
  match s.pc c with
  | .send =>
      let s := { s with requested := s.requested ++ [(callee c).request] }
      if r = 0 then
        match s.pending with
        | some _ => none
        | none =>
            some ({ s with
              pending := some c, accepted := s.accepted ++ [c] }.goto c (.storeErr 0))
      else some (s.goto c (.storeErr r))
  | _ => none

/-- The pending request completes. -/
def completeRequest (status : ℤ) (dataSize : UInt16) (s : Ep2000State) : Option Ep2000State :=
  match s.pending with
  | some c => some ((callee c).slot.receive c status dataSize { s with pending := none })
  | none => none

/-- Whose turn it is. -/
inductive Ep2000Turn
  | call (c : ℕ)
  | timeout (c : ℕ)
  | send (c : ℕ) (r : ℤ)
  | complete (status : ℤ) (dataSize : UInt16)
  deriving DecidableEq, Repr

/-- One step of whoever's turn it is, if it is possible. -/
def ep2000Step (turn : Ep2000Turn) (s : Ep2000State) : Option Ep2000State :=
  match turn with
  | .call c => callStep callee c s
  | .timeout c => callTimeout callee c s
  | .send c r => sendRequest callee c r s
  | .complete status dataSize => completeRequest callee status dataSize s

/-! ### Acceptance or failure -/

/-- **A call reports acceptance or failure, and the lock is released by its holder.** -/
structure Ep2000Ok (s : Ep2000State) : Prop where
  /-- a call returns 0 if and only if the master has accepted its request -/
  returned : ∀ c r, s.pc c = .returned r → (r = 0 ↔ c ∈ s.accepted)
  /-- the callback of a call that returned an error is not called -/
  failed : ∀ c r, s.pc c = .returned r → r ≠ 0 → ∀ i ∈ s.invoked, i.callback ≠ c
  /-- the lock is released once for each time that it was taken -/
  released : ∀ c, (s.releases.map Prod.fst).count c + (if s.holder = some c then 1 else 0) =
    s.acquired.count c
  /-- and on behalf of its holder -/
  held : ∀ x ∈ s.releases, x.2 = some x.1

/-- The call has stored the result of its request, and has yet to decide or return by it. -/
def Ep2000Pc.judges : Ep2000Pc → Bool
  | testErr | clearCallback | unlock | loadErr => true
  | idle | tryLock | storeCallback | send | storeErr _ | returned _ => false

/-- Storing `v` in the error variable tells nobody who is going to read it something wrong. -/
def Ep2000State.spares (s : Ep2000State) (v : ℤ) : Bool :=
  s.acquired.all fun d => !(s.pc d).judges || decide (v = 0) == decide (d ∈ s.accepted)

/-- The condition on a step: whoever stores an error or the absence of one in the shared variable,
while another call has stored its own and not yet returned, stores zero exactly if that call's
request was accepted. -/
def keepsErr : Ep2000Turn → Ep2000State → Bool
  | .call c, s =>
      match s.pc c with
      | .storeErr r => s.spares r
      | _ => true
  | .complete status dataSize, s =>
      match s.pending with
      | some c => s.spares (ep2000Err (callee c).slot status dataSize)
      | none => true
  | _, _ => true

/-! ### The invariant -/

namespace Ep2000Pc

/-- The call is between taking the lock and giving it back. -/
@[simp] def inside : Ep2000Pc → Bool
  | storeCallback | send | storeErr _ | testErr | clearCallback | unlock => true
  | idle | tryLock | loadErr | returned _ => false

/-- No accepted call is here. -/
@[simp] def refused : Ep2000Pc → Bool
  | idle | tryLock | storeCallback | send | clearCallback | unlock => true
  | storeErr _ | testErr | loadErr | returned _ => false

/-- What the call has found out about its request, or is going to take for it. -/
@[simp] def verdict (err : ℤ) : Ep2000Pc → Option ℤ
  | storeErr r | returned r => some r
  | testErr | clearCallback | unlock | loadErr => some err
  | idle | tryLock | storeCallback | send => none

end Ep2000Pc

/-- The call holds the lock: the handler will release it, or the call itself. -/
def Ep2000State.Holding (s : Ep2000State) (c : ℕ) : Prop :=
  s.pending = some c ∨ c ∉ s.accepted ∧ (s.pc c).inside = true

/-- What is true of call `c`. -/
structure Ep2000State.CallOk (s : Ep2000State) (c : ℕ) : Prop where
  holding : s.holder = some c ↔ s.Holding c
  verdict : ∀ r, (s.pc c).verdict s.err = some r → (r = 0 ↔ c ∈ s.accepted)
  refused : (s.pc c).refused = true → c ∉ s.accepted
  pending : s.pending = some c → c ∈ s.accepted
  callback : s.pc c = .send ∨ s.pending = some c → s.callback (callee c).slot = some c
  acquired : (s.pc c).inside = true ∨ (s.pc c).judges = true → c ∈ s.acquired

/-- What holds as long as every step meets the condition. -/
structure Ep2000Inv (s : Ep2000State) : Prop where
  lock_eq : s.lock = s.holder.isSome
  call : ∀ c, s.CallOk callee c
  invoked : ∀ i ∈ s.invoked, i.callback ∈ s.accepted
  released : ∀ c, (s.releases.map Prod.fst).count c + (if s.holder = some c then 1 else 0) =
    s.acquired.count c
  held : ∀ x ∈ s.releases, x.2 = some x.1

variable {callee} {s t : Ep2000State} {c d : ℕ} {old new : Ep2000Pc} {r : ℤ}

/-! ### What steps do -/

theorem callTimeout_eq_some (hstep : callTimeout callee c s = some t) :
    s.pc c = .tryLock ∧ t = s.goto c (.returned (callee c).busy) := by
  rw [callTimeout] at hstep
  split at hstep
  · rename_i hpc
    exact ⟨hpc, (Option.some.inj hstep).symm⟩
  · cases hstep

/-- The master accepts or refuses. -/
theorem sendRequest_eq_some (hstep : sendRequest callee c r s = some t) :
    s.pc c = .send ∧
      (r = 0 ∧ s.pending = none ∧ t = { s with
        requested := s.requested ++ [(callee c).request]
        pending := some c, accepted := s.accepted ++ [c] }.goto c (.storeErr 0) ∨
      r ≠ 0 ∧ t = { s with
        requested := s.requested ++ [(callee c).request] }.goto c (.storeErr r)) := by
  rw [sendRequest] at hstep
  split at hstep
  · rename_i hpc
    refine ⟨hpc, ?_⟩
    dsimp only at hstep
    by_cases hr : r = 0
    · rw [if_pos hr] at hstep
      cases hpending : s.pending with
      | some d =>
          rw [hpending] at hstep
          cases hstep
      | none =>
          rw [hpending] at hstep
          exact Or.inl ⟨hr, rfl, (Option.some.inj hstep).symm⟩
    · rw [if_neg hr] at hstep
      exact Or.inr ⟨hr, (Option.some.inj hstep).symm⟩
  · cases hstep

theorem completeRequest_eq_some {status : ℤ} {dataSize : UInt16}
    (hstep : completeRequest callee status dataSize s = some t) : ∃ c, s.pending = some c ∧
      t = (callee c).slot.receive c status dataSize { s with pending := none } := by
  rw [completeRequest] at hstep
  cases hpending : s.pending with
  | none =>
      rw [hpending] at hstep
      cases hstep
  | some c =>
      rw [hpending] at hstep
      exact ⟨c, rfl, (Option.some.inj hstep).symm⟩

/-- A handler that finds a callback calls it. -/
theorem ep2000Receive_of_callback {x : Ep2000Slot} (tx : ℕ) (status : ℤ) (dataSize : UInt16)
    (hcallback : s.callback x = some c) :
    ep2000Receive x tx status dataSize s = { s with
      err := ep2000Err x status dataSize
      callback := Function.update s.callback x none
      invoked := s.invoked ++
        [{ callback := c, request := tx, err := ep2000Err x status dataSize }]
      lock := false, holder := none, releases := s.releases ++ [(tx, s.holder)] } := by
  rw [ep2000Receive]
  simp only [hcallback]
  rfl

theorem ep2000Receive_err (x : Ep2000Slot) (tx : ℕ) (status : ℤ) (dataSize : UInt16)
    (s : Ep2000State) : (ep2000Receive x tx status dataSize s).err =
      ep2000Err x status dataSize := by
  rw [ep2000Receive]
  dsimp only
  cases s.callback x <;> rfl

theorem ep2000Receive_accepted (x : Ep2000Slot) (tx : ℕ) (status : ℤ) (dataSize : UInt16)
    (s : Ep2000State) : (ep2000Receive x tx status dataSize s).accepted = s.accepted := by
  rw [ep2000Receive]
  dsimp only
  cases s.callback x <;> rfl

theorem ep2000Receive_pc (x : Ep2000Slot) (tx : ℕ) (status : ℤ) (dataSize : UInt16)
    (s : Ep2000State) : (ep2000Receive x tx status dataSize s).pc = s.pc := by
  rw [ep2000Receive]
  dsimp only
  cases s.callback x <;> rfl

/-! ### What steps preserve -/

theorem ep2000Init_inv : Ep2000Inv callee ep2000Init where
  lock_eq := rfl
  call _ :=
    { holding := iff_of_false nofun fun hor => hor.elim nofun fun hand => nomatch hand.2
      verdict := nofun
      refused := nofun
      pending := nofun
      callback := fun hor => hor.elim nofun nofun
      acquired := fun hor => hor.elim nofun nofun }
  invoked := nofun
  released _ := rfl
  held := nofun

namespace Ep2000State.CallOk

/-- A call that another step leaves where it is. -/
theorem frame (h : s.CallOk callee d) (hpc : t.pc d = s.pc d)
    (hholder : t.holder = some d ↔ s.holder = some d)
    (hpending : t.pending = some d ↔ s.pending = some d)
    (haccepted : d ∈ t.accepted ↔ d ∈ s.accepted)
    (hverdict : ∀ r, (s.pc d).verdict t.err = some r → (r = 0 ↔ d ∈ s.accepted))
    (hcallback : s.pc d = .send ∨ s.pending = some d →
      t.callback (callee d).slot = s.callback (callee d).slot)
    (hacquired : d ∈ s.acquired → d ∈ t.acquired) : t.CallOk callee d where
  holding := by
    rw [hholder, h.holding, Holding, Holding, hpending, haccepted, hpc]
  verdict := by
    rw [hpc, haccepted]
    exact hverdict
  refused := by
    rw [hpc, haccepted]
    exact h.refused
  pending := by
    rw [hpending, haccepted]
    exact h.pending
  callback := by
    rw [hpc, hpending]
    intro hor
    exact (hcallback hor).trans (h.callback hor)
  acquired := by
    rw [hpc]
    exact fun hor => hacquired (h.acquired hor)

/-- A call that goes on, and keeps the lock or its absence. -/
theorem goes_on (h : s.CallOk callee c) (hpc : s.pc c = old) (hnew : t.pc c = new)
    (hholder : t.holder = s.holder) (hpending : t.pending = s.pending)
    (haccepted : t.accepted = s.accepted) (hacquired : t.acquired = s.acquired)
    (hinside : c ∉ s.accepted → new.inside = old.inside)
    (hverdict : ∀ r, new.verdict t.err = some r → (r = 0 ↔ c ∈ s.accepted))
    (hrefused : new.refused = true → c ∉ s.accepted)
    (hcallback : new = .send ∨ s.pending = some c → t.callback (callee c).slot = some c)
    (htaken : new.inside = true ∨ new.judges = true → c ∈ s.acquired) : t.CallOk callee c where
  holding := by
    subst hpc
    rw [hholder, h.holding, Holding, Holding, hpending, haccepted, hnew]
    exact or_congr Iff.rfl (and_congr_right fun hc => by rw [hinside hc])
  verdict := by
    rw [hnew, haccepted]
    exact hverdict
  refused := by
    rw [hnew, haccepted]
    exact hrefused
  pending := by
    rw [hpending, haccepted]
    exact h.pending
  callback := by
    rw [hnew, hpending]
    exact hcallback
  acquired := by
    rw [hnew, hacquired]
    exact htaken

end Ep2000State.CallOk

namespace Ep2000Inv

open Ep2000State

/-- Two calls do not hold the lock. -/
theorem holding_unique (h : Ep2000Inv callee s) (hc : s.Holding c) (hd : s.Holding d) : d = c :=
  Option.some.inj (((h.call d).holding.2 hd).symm.trans ((h.call c).holding.2 hc))

/-- What a call relies on does not change while another one holds the lock. -/
theorem not_holding (h : Ep2000Inv callee s) (hc : s.Holding c) (hd : d ≠ c) :
    ¬ (s.pc d = .send ∨ s.pending = some d) := by
  rintro (hsend | hpending)
  · have hnot : d ∉ s.accepted := (h.call d).refused (by rw [hsend]; rfl)
    exact hd (h.holding_unique hc (Or.inr ⟨hnot, by rw [hsend]; rfl⟩))
  · exact hd (h.holding_unique hc (Or.inl hpending))

/-- Nobody holds a free lock. -/
theorem holder_eq_none (h : Ep2000Inv callee s) (hlock : s.lock = false) : s.holder = none := by
  rw [h.lock_eq] at hlock
  exact Option.not_isSome_iff_eq_none.1 (Bool.eq_false_iff.1 hlock)

/-- A step that keeps the lock. -/
theorem keeps_lock (h : Ep2000Inv callee s) (hlock : t.lock = s.lock)
    (hholder : t.holder = s.holder) (hinvoked : t.invoked = s.invoked)
    (haccepted : ∀ d ∈ s.accepted, d ∈ t.accepted)
    (hacquired : t.acquired = s.acquired) (hreleases : t.releases = s.releases)
    (hcall : ∀ d, t.CallOk callee d) : Ep2000Inv callee t where
  lock_eq := by rw [hlock, hholder, h.lock_eq]
  call := hcall
  invoked := by
    rw [hinvoked]
    exact fun i hi => haccepted _ (h.invoked i hi)
  released := by
    rw [hholder, hacquired, hreleases]
    exact h.released
  held := by
    rw [hreleases]
    exact h.held

/-- A call that goes on, with the state as it is. -/
theorem goto (h : Ep2000Inv callee s) (hpc : s.pc c = old)
    (hinside : c ∉ s.accepted → new.inside = old.inside)
    (hverdict : ∀ r, new.verdict s.err = some r → (r = 0 ↔ c ∈ s.accepted))
    (hrefused : new.refused = true → c ∉ s.accepted) (hsend : new ≠ .send)
    (hacquired : new.inside = true ∨ new.judges = true → c ∈ s.acquired) :
    Ep2000Inv callee (s.goto c new) := by
  refine h.keeps_lock rfl rfl rfl (fun _ hd => hd) rfl rfl fun d => ?_
  by_cases hd : d = c
  · subst hd
    exact (h.call d).goes_on hpc (goto_self _ _ _) rfl rfl rfl rfl hinside hverdict hrefused
      (fun hor => (h.call d).callback (Or.inr (hor.resolve_left hsend))) hacquired
  · exact (h.call d).frame (goto_of_ne s hd new) Iff.rfl Iff.rfl Iff.rfl (h.call d).verdict
      (fun _ => rfl) id

/-- The caller took the lock. -/
theorem acquire (h : Ep2000Inv callee s) (hpc : s.pc c = .tryLock) (hlock : s.lock = false) :
    Ep2000Inv callee ({ s with
      lock := true, holder := some c, acquired := s.acquired ++ [c] }.goto c .storeCallback) := by
  have hnone := h.holder_eq_none hlock
  have hnot : c ∉ s.accepted := (h.call c).refused (by rw [hpc]; rfl)
  refine ⟨rfl, fun d => ?_, h.invoked, fun d => ?_, h.held⟩
  · by_cases hd : d = c
    · subst hd
      refine ⟨iff_of_true rfl (Or.inr ⟨hnot, ?_⟩), ?_, fun _ => hnot, (h.call d).pending, ?_, ?_⟩
      · rw [goto_self]
        rfl
      · rw [goto_self]
        exact nofun
      · rw [goto_self]
        exact fun hor => (h.call d).callback (Or.inr (hor.resolve_left nofun))
      · exact fun _ => List.mem_append_right _ (List.mem_singleton_self d)
    · refine (h.call d).frame (goto_of_ne _ hd _) ?_ Iff.rfl Iff.rfl (h.call d).verdict
        (fun _ => rfl) fun hmem => List.mem_append_left _ hmem
      rw [hnone]
      exact iff_of_false (fun heq => hd (Option.some.inj heq).symm) nofun
  · have hcount := h.released d
    rw [hnone, if_neg nofun] at hcount
    change (s.releases.map Prod.fst).count d + (if some c = some d then 1 else 0) =
      (s.acquired ++ [c]).count d
    rw [List.count_append, List.count_singleton, ← hcount]
    simp only [Option.some.injEq, beq_iff_eq, Nat.add_zero]

/-- The caller, who holds the lock, stores its callback. -/
theorem storeCallback (h : Ep2000Inv callee s) (hpc : s.pc c = .storeCallback) :
    Ep2000Inv callee ((s.setCallback (callee c).slot (some c)).goto c .send) := by
  have hnot : c ∉ s.accepted := (h.call c).refused (by rw [hpc]; rfl)
  have hholding : s.Holding c := Or.inr ⟨hnot, by rw [hpc]; rfl⟩
  refine h.keeps_lock rfl rfl rfl (fun _ hd => hd) rfl rfl fun d => ?_
  by_cases hd : d = c
  · subst hd
    refine (h.call d).goes_on hpc (goto_self _ _ _) rfl rfl rfl rfl (fun _ => rfl) nofun
      (fun _ => hnot) (fun _ => Function.update_self _ _ _) fun _ => (h.call d).acquired ?_
    rw [hpc]
    exact Or.inl rfl
  · exact (h.call d).frame (goto_of_ne _ hd _) Iff.rfl Iff.rfl Iff.rfl (h.call d).verdict
      (fun hor => absurd hor (h.not_holding hholding hd)) id

/-- A caller whose request was refused clears its callback. -/
theorem clearCallback (h : Ep2000Inv callee s) (hpc : s.pc c = .clearCallback) :
    Ep2000Inv callee ((s.setCallback (callee c).slot none).goto c .unlock) := by
  have hnot : c ∉ s.accepted := (h.call c).refused (by rw [hpc]; rfl)
  have hholding : s.Holding c := Or.inr ⟨hnot, by rw [hpc]; rfl⟩
  refine h.keeps_lock rfl rfl rfl (fun _ hd => hd) rfl rfl fun d => ?_
  by_cases hd : d = c
  · subst hd
    refine (h.call d).goes_on hpc (goto_self _ _ _) rfl rfl rfl rfl (fun _ => rfl) ?_
      (fun _ => hnot) ?_ fun _ => (h.call d).acquired ?_
    · intro r hr
      exact (h.call d).verdict r (by rw [hpc]; exact hr)
    · intro hor
      exact absurd ((h.call d).pending (hor.resolve_left nofun)) hnot
    · rw [hpc]
      exact Or.inl rfl
  · exact (h.call d).frame (goto_of_ne _ hd _) Iff.rfl Iff.rfl Iff.rfl (h.call d).verdict
      (fun hor => absurd hor (h.not_holding hholding hd)) id

/-- The master accepts a request. -/
theorem accept (h : Ep2000Inv callee s) (hpc : s.pc c = .send) (hidle : s.pending = none)
    (requested : List MasterRequest) :
    Ep2000Inv callee ({ s with
      requested := requested, pending := some c, accepted := s.accepted ++ [c] }.goto c
        (.storeErr 0)) := by
  have hnot : c ∉ s.accepted := (h.call c).refused (by rw [hpc]; rfl)
  have hholding : s.Holding c := Or.inr ⟨hnot, by rw [hpc]; rfl⟩
  have hmem : c ∈ s.accepted ++ [c] := List.mem_append_right _ (List.mem_singleton_self c)
  refine h.keeps_lock rfl rfl rfl (fun _ hd => List.mem_append_left _ hd) rfl rfl fun d => ?_
  by_cases hd : d = c
  · subst hd
    refine ⟨iff_of_true ((h.call d).holding.2 hholding) (Or.inl rfl), ?_, ?_, fun _ => hmem,
      fun _ => (h.call d).callback (Or.inl hpc), fun _ => (h.call d).acquired ?_⟩
    · rw [goto_self]
      intro r hr
      exact iff_of_true (Option.some.inj hr).symm hmem
    · rw [goto_self]
      exact nofun
    · rw [hpc]
      exact Or.inl rfl
  · refine (h.call d).frame (goto_of_ne _ hd _) Iff.rfl ?_ ?_ (h.call d).verdict (fun _ => rfl) id
    · rw [hidle]
      exact iff_of_false (fun heq => hd (Option.some.inj heq).symm) nofun
    · refine List.mem_append.trans (or_iff_left ?_)
      exact fun hdc => hd (List.mem_singleton.1 hdc)

/-- The master refuses a request. -/
theorem refuse (h : Ep2000Inv callee s) (hpc : s.pc c = .send) (hr : r ≠ 0)
    (requested : List MasterRequest) :
    Ep2000Inv callee ({ s with requested := requested }.goto c (.storeErr r)) := by
  have hnot : c ∉ s.accepted := (h.call c).refused (by rw [hpc]; rfl)
  have hinv : Ep2000Inv callee { s with requested := requested } :=
    h.keeps_lock rfl rfl rfl (fun _ hd => hd) rfl rfl fun d =>
      (h.call d).frame rfl Iff.rfl Iff.rfl Iff.rfl (h.call d).verdict (fun _ => rfl) id
  refine hinv.goto hpc (fun _ => rfl) ?_ nofun nofun fun _ => (h.call c).acquired ?_
  · intro r' hr'
    obtain rfl : r = r' := Option.some.inj hr'
    exact iff_of_false hr hnot
  · rw [hpc]
    exact Or.inl rfl

/-- The condition on a step that stores an error. -/
theorem verdict_of_spares (h : Ep2000Inv callee s) {v : ℤ} (hok : s.spares v = true) (d : ℕ) :
    ∀ r, (s.pc d).verdict v = some r → (r = 0 ↔ d ∈ s.accepted) := by
  intro r hr
  cases hjudges : (s.pc d).judges with
  | true =>
      have hd := List.all_eq_true.1 hok d ((h.call d).acquired (Or.inr hjudges))
      rw [hjudges, Bool.not_true, Bool.false_or, beq_iff_eq, decide_eq_decide] at hd
      obtain rfl : v = r := by
        cases hpc : s.pc d <;> rw [hpc] at hr hjudges <;> cases hjudges <;>
          exact Option.some.inj hr
      exact hd
  | false =>
      -- what the call goes by is not in the variable
      refine (h.call d).verdict r ?_
      cases hpc : s.pc d <;> rw [hpc] at hr hjudges <;> cases hjudges <;> exact hr

/-- A caller stores the result of its request. -/
theorem storeErr (h : Ep2000Inv callee s) (hpc : s.pc c = .storeErr r)
    (hok : s.spares r = true) : Ep2000Inv callee ({ s with err := r }.goto c .testErr) := by
  have hverdict := (h.call c).verdict r (by rw [hpc]; rfl)
  refine h.keeps_lock rfl rfl rfl (fun _ hd => hd) rfl rfl fun d => ?_
  by_cases hd : d = c
  · subst hd
    refine (h.call d).goes_on hpc (goto_self _ _ _) rfl rfl rfl rfl (fun _ => rfl) ?_ nofun ?_
      fun _ => (h.call d).acquired ?_
    · intro r' hr'
      obtain rfl : r = r' := Option.some.inj hr'
      exact hverdict
    · intro hor
      exact (h.call d).callback (Or.inr (hor.resolve_left nofun))
    · rw [hpc]
      exact Or.inl rfl
  · exact (h.call d).frame (goto_of_ne _ hd _) Iff.rfl Iff.rfl Iff.rfl
      (h.verdict_of_spares hok d) (fun _ => rfl) id

/-- A step that gives the lock back for call `c`. -/
theorem release (h : Ep2000Inv callee s) (hholder : s.holder = some c) (hlock : t.lock = false)
    (hnone : t.holder = none) (hinvoked : ∀ i ∈ t.invoked, i.callback ∈ t.accepted)
    (hacquired : t.acquired = s.acquired) (hreleases : t.releases = s.releases ++ [(c, some c)])
    (hcall : ∀ d, t.CallOk callee d) : Ep2000Inv callee t where
  lock_eq := by
    rw [hlock, hnone]
    rfl
  call := hcall
  invoked := hinvoked
  released := by
    intro d
    have hcount := h.released d
    rw [hnone, if_neg nofun, hreleases, hacquired, ← hcount, hholder, List.map_append,
      List.count_append, List.map_singleton, List.count_singleton]
    simp only [Option.some.injEq, beq_iff_eq, Nat.add_zero]
  held := by
    rw [hreleases]
    intro x hx
    rcases List.mem_append.1 hx with hx | hx
    · exact h.held x hx
    · obtain rfl := List.mem_singleton.1 hx
      rfl

/-- A caller whose request was refused gives the lock back. -/
theorem unlock (h : Ep2000Inv callee s) (hpc : s.pc c = .unlock) :
    Ep2000Inv callee ((s.release c).goto c .loadErr) := by
  have hnot : c ∉ s.accepted := (h.call c).refused (by rw [hpc]; rfl)
  have hholder : s.holder = some c := (h.call c).holding.2 (Or.inr ⟨hnot, by rw [hpc]; rfl⟩)
  refine h.release hholder rfl rfl h.invoked rfl ?_ fun d => ?_
  · change s.releases ++ [(c, s.holder)] = _
    rw [hholder]
  · by_cases hd : d = c
    · subst hd
      refine ⟨iff_of_false nofun ?_, ?_, ?_, (h.call d).pending, ?_,
        fun _ => (h.call d).acquired ?_⟩
      · rw [Holding, goto_self]
        exact fun hor => hor.elim (fun hp => hnot ((h.call d).pending hp)) fun hand =>
          nomatch hand.2
      · rw [goto_self]
        intro r hr
        exact (h.call d).verdict r (by rw [hpc]; exact hr)
      · rw [goto_self]
        exact nofun
      · rw [goto_self]
        exact fun hor => absurd ((h.call d).pending (hor.resolve_left nofun)) hnot
      · rw [hpc]
        exact Or.inl rfl
    · refine (h.call d).frame (goto_of_ne _ hd _) ?_ Iff.rfl Iff.rfl (h.call d).verdict
        (fun _ => rfl) id
      rw [hholder]
      exact iff_of_false nofun fun heq => hd (Option.some.inj heq).symm

/-- The pending request completes. -/
theorem complete (h : Ep2000Inv callee s) {status : ℤ} {dataSize : UInt16}
    (hpending : s.pending = some c)
    (hok : s.spares (ep2000Err (callee c).slot status dataSize) = true) :
    Ep2000Inv callee
      (ep2000Receive (callee c).slot c status dataSize { s with pending := none }) := by
  have hmem : c ∈ s.accepted := (h.call c).pending hpending
  have hholder : s.holder = some c := (h.call c).holding.2 (Or.inl hpending)
  have hcallback : s.callback (callee c).slot = some c := (h.call c).callback (Or.inr hpending)
  rw [ep2000Receive_of_callback (s := { s with pending := none }) c status dataSize hcallback]
  refine h.release hholder rfl rfl ?_ rfl ?_ fun d => ?_
  · intro i hi
    rcases List.mem_append.1 hi with hi | hi
    · exact h.invoked i hi
    · obtain rfl := List.mem_singleton.1 hi
      exact hmem
  · change s.releases ++ [(c, s.holder)] = _
    rw [hholder]
  · by_cases hd : d = c
    · subst hd
      refine ⟨iff_of_false nofun ?_, h.verdict_of_spares hok d, (h.call d).refused, nofun, ?_,
        (h.call d).acquired⟩
      · exact fun hor => hor.elim nofun fun hand => hand.1 hmem
      · -- an accepted call is past its request
        rintro (hsend | hnone)
        · exact absurd hmem ((h.call d).refused (by rw [show s.pc d = .send from hsend]; rfl))
        · cases hnone
    · refine (h.call d).frame rfl ?_ ?_ Iff.rfl (h.verdict_of_spares hok d)
        (fun hor => absurd hor (h.not_holding (Or.inl hpending) hd)) id
      · rw [hholder]
        exact iff_of_false nofun fun heq => hd (Option.some.inj heq).symm
      · rw [hpending]
        exact iff_of_false nofun fun heq => hd (Option.some.inj heq).symm

/-- A statement of a call. -/
theorem callStep (h : Ep2000Inv callee s) (hok : keepsErr callee (.call c) s = true)
    (hstep : Solar48.callStep callee c s = some t) : Ep2000Inv callee t := by
  rw [Solar48.callStep] at hstep
  cases hpc : s.pc c with
  | idle =>
      rw [hpc] at hstep
      obtain rfl := Option.some.inj hstep
      exact h.goto hpc (fun _ => rfl) nofun (fun _ => (h.call c).refused (by rw [hpc]; rfl)) nofun
        fun hor => hor.elim nofun nofun
  | tryLock =>
      rw [hpc] at hstep
      dsimp only at hstep
      cases hlock : s.lock with
      | true =>
          rw [hlock, if_pos rfl] at hstep
          obtain rfl := Option.some.inj hstep
          exact h
      | false =>
          rw [hlock, if_neg Bool.false_ne_true] at hstep
          obtain rfl := Option.some.inj hstep
          exact h.acquire hpc hlock
  | storeCallback =>
      rw [hpc] at hstep
      obtain rfl := Option.some.inj hstep
      exact h.storeCallback hpc
  | send =>
      rw [hpc] at hstep
      cases hstep
  | storeErr r =>
      rw [hpc] at hstep
      obtain rfl := Option.some.inj hstep
      rw [keepsErr, hpc] at hok
      exact h.storeErr hpc hok
  | testErr =>
      rw [hpc] at hstep
      obtain rfl := Option.some.inj hstep
      have hverdict := (h.call c).verdict s.err (by rw [hpc]; rfl)
      have hacquired := (h.call c).acquired (Or.inl (by rw [hpc]; rfl))
      by_cases herr : s.err = 0
      · rw [if_neg (not_not.2 herr)]
        exact h.goto hpc (fun hnot => absurd (hverdict.1 herr) hnot)
          (fun r hr => (h.call c).verdict r (by rw [hpc]; exact hr)) nofun nofun
          fun _ => hacquired
      · rw [if_pos herr]
        exact h.goto hpc (fun _ => rfl) (fun r hr => (h.call c).verdict r (by rw [hpc]; exact hr))
          (fun _ hmem => herr (hverdict.2 hmem)) nofun fun _ => hacquired
  | clearCallback =>
      rw [hpc] at hstep
      obtain rfl := Option.some.inj hstep
      exact h.clearCallback hpc
  | unlock =>
      rw [hpc] at hstep
      obtain rfl := Option.some.inj hstep
      exact h.unlock hpc
  | loadErr =>
      rw [hpc] at hstep
      obtain rfl := Option.some.inj hstep
      exact h.goto hpc (fun _ => rfl) (fun r hr => (h.call c).verdict r (by rw [hpc]; exact hr))
        nofun nofun fun hor => hor.elim nofun nofun
  | returned r =>
      rw [hpc] at hstep
      cases hstep

/-- **What one step preserves.** -/
theorem step (h : Ep2000Inv callee s) {turn : Ep2000Turn} (hok : keepsErr callee turn s = true)
    (hstep : ep2000Step callee turn s = some t) : Ep2000Inv callee t := by
  cases turn with
  | call c => exact h.callStep hok hstep
  | timeout c =>
      obtain ⟨hpc, rfl⟩ := callTimeout_eq_some hstep
      have hnot : c ∉ s.accepted := (h.call c).refused (by rw [hpc]; rfl)
      refine h.goto hpc (fun _ => rfl) ?_ nofun nofun fun hor => hor.elim nofun nofun
      intro r hr
      obtain rfl : (callee c).busy = r := Option.some.inj hr
      exact iff_of_false (Ep2000Function.busy_ne_zero _) hnot
  | send c r =>
      obtain ⟨hpc, hstep⟩ := sendRequest_eq_some hstep
      rcases hstep with ⟨rfl, hidle, rfl⟩ | ⟨hr, rfl⟩
      · exact h.accept hpc hidle _
      · exact h.refuse hpc hr _
  | complete status dataSize =>
      obtain ⟨c, hpending, rfl⟩ := completeRequest_eq_some hstep
      rw [keepsErr, hpending] at hok
      rw [Ep2000Slot.receive_eq]
      exact h.complete hpending hok

theorem ok (h : Ep2000Inv callee s) : Ep2000Ok s where
  returned c r hpc := (h.call c).verdict r (by rw [hpc]; rfl)
  failed := by
    intro c r hpc hr i hi heq
    refine hr (((h.call c).verdict r (by rw [hpc]; rfl)).2 ?_)
    rw [← heq]
    exact h.invoked i hi
  released := h.released
  held := h.held

end Ep2000Inv

/-! ### Overwritten verdicts -/

namespace Ep2000State

/-- Call `d` can return `v`, with no more requests accepted. -/
def CanReturn (callee : ℕ → Ep2000Function) (s : Ep2000State) (d : ℕ) (v : ℤ) : Prop :=
  ∃ u, Run (ep2000Step callee) (fun _ _ => true) s u ∧ u.pc d = .returned v ∧
    u.accepted = s.accepted

theorem CanReturn.of_step {v : ℤ} (h : t.CanReturn callee d v)
    (hstep : callStep callee d s = some t) (haccepted : t.accepted = s.accepted) :
    s.CanReturn callee d v := by
  obtain ⟨u, hrun, hpc, hu⟩ := h
  exact ⟨u, (Run.refl.tail (.call d) rfl hstep).trans hrun, hpc, hu.trans haccepted⟩

theorem canReturn_of_loadErr (hpc : s.pc d = .loadErr) : s.CanReturn callee d s.err := by
  have hreturned : (s.goto d (.returned s.err)).CanReturn callee d s.err :=
    ⟨_, Run.refl, goto_self _ _ _, rfl⟩
  refine hreturned.of_step ?_ rfl
  rw [callStep, hpc]

theorem canReturn_of_unlock (hpc : s.pc d = .unlock) : s.CanReturn callee d s.err := by
  have hload : ((s.release d).goto d .loadErr).CanReturn callee d s.err :=
    canReturn_of_loadErr (goto_self _ _ _)
  refine hload.of_step ?_ rfl
  rw [callStep, hpc]

theorem canReturn_of_clearCallback (hpc : s.pc d = .clearCallback) :
    s.CanReturn callee d s.err := by
  have hunlock : ((s.setCallback (callee d).slot none).goto d .unlock).CanReturn callee d s.err :=
    canReturn_of_unlock (goto_self _ _ _)
  refine hunlock.of_step ?_ rfl
  rw [callStep, hpc]

theorem canReturn_of_testErr (hpc : s.pc d = .testErr) : s.CanReturn callee d s.err := by
  have htested : (s.goto d (if s.err ≠ 0 then .clearCallback else .loadErr)).CanReturn callee d
      s.err := by
    by_cases herr : s.err = 0
    · rw [if_neg (not_not.2 herr)]
      exact canReturn_of_loadErr (s := s.goto d .loadErr) (goto_self _ _ _)
    · rw [if_pos herr]
      exact canReturn_of_clearCallback (s := s.goto d .clearCallback) (goto_self _ _ _)
  refine htested.of_step ?_ rfl
  rw [callStep, hpc]

/-- A call that has stored its result returns what it finds in the variable. -/
theorem canReturn_of_judges (hjudges : (s.pc d).judges = true) : s.CanReturn callee d s.err := by
  cases hpc : s.pc d with
  | testErr => exact canReturn_of_testErr hpc
  | clearCallback => exact canReturn_of_clearCallback hpc
  | unlock => exact canReturn_of_unlock hpc
  | loadErr => exact canReturn_of_loadErr hpc
  | idle | tryLock | storeCallback | send | storeErr _ | returned _ =>
      rw [hpc] at hjudges
      cases hjudges

/-- Storing what the condition forbids leads to a call that returns the wrong thing. -/
theorem not_ok_of_not_spares {v : ℤ} (hspares : s.spares v = false) (herr : t.err = v)
    (haccepted : t.accepted = s.accepted) (hpc : ∀ d, (s.pc d).judges = true → t.pc d = s.pc d) :
    ∃ u, Run (ep2000Step callee) (fun _ _ => true) t u ∧ ¬ Ep2000Ok u := by
  obtain ⟨d, -, hd⟩ := List.all_eq_false.1 hspares
  rw [Bool.or_eq_true, Bool.not_eq_true', not_or, Bool.not_eq_false, beq_iff_eq,
    decide_eq_decide] at hd
  have hjudges : (t.pc d).judges = true := by
    rw [hpc d hd.1]
    exact hd.1
  have hcan : t.CanReturn callee d t.err := canReturn_of_judges hjudges
  obtain ⟨u, hrun, hreturned, hu⟩ := hcan
  refine ⟨u, hrun, fun hok => hd.2 ?_⟩
  rw [← herr, ← haccepted, ← hu]
  exact hok.returned d _ hreturned

/-- **A step that does not meet the condition lets a call go wrong.** -/
theorem not_ok_of_step {turn : Ep2000Turn} (hstep : ep2000Step callee turn s = some t)
    (hkeeps : keepsErr callee turn s = false) :
    ∃ u, Run (ep2000Step callee) (fun _ _ => true) t u ∧ ¬ Ep2000Ok u := by
  cases turn with
  | call c =>
      rw [keepsErr] at hkeeps
      split at hkeeps
      · rename_i r hpc
        rw [ep2000Step, callStep, hpc] at hstep
        obtain rfl := Option.some.inj hstep
        refine not_ok_of_not_spares hkeeps rfl rfl fun d hjudges => goto_of_ne _ ?_ _
        intro hd
        rw [hd, hpc] at hjudges
        cases hjudges
      · cases hkeeps
  | timeout c => cases hkeeps
  | send c r => cases hkeeps
  | complete status dataSize =>
      obtain ⟨c, hpending, rfl⟩ := completeRequest_eq_some hstep
      rw [keepsErr, hpending] at hkeeps
      rw [Ep2000Slot.receive_eq]
      refine not_ok_of_not_spares hkeeps ?_ ?_ fun d _ => ?_
      · exact ep2000Receive_err _ _ _ _ _
      · exact ep2000Receive_accepted _ _ _ _ _
      · rw [ep2000Receive_pc]

end Ep2000State

/-! ### Runs -/

/-- **A call returns 0 exactly if its request was accepted, and the lock is released by its holder,
as long as nobody stores another verdict over that of a call which has not returned**; if somebody
does, a call can go wrong. -/
theorem ep2000Ok_of_run (callee : ℕ → Ep2000Function) {s : Ep2000State}
    (h : Run (ep2000Step callee) (keepsErr callee) ep2000Init s) :
    Ep2000Ok s ∧ ∀ turn t, ep2000Step callee turn s = some t → keepsErr callee turn s = false →
      ∃ u, Run (ep2000Step callee) (fun _ _ => true) t u ∧ ¬ Ep2000Ok u := by
  have hinv : Ep2000Inv callee s := h.invariant ep2000Init_inv
    fun _ _ _ hinv hok hstep => hinv.step hok hstep
  exact ⟨hinv.ok, fun _ _ hstep hkeeps => Ep2000State.not_ok_of_step hstep hkeeps⟩

/-- A request is accepted, completes before the call has returned, and the next one is refused. -/
theorem ep2000Ok_of_run_refused : ∃ s,
    Run (ep2000Step fun _ => .readEp2000) (keepsErr fun _ => .readEp2000) ep2000Init s ∧
      s.pc 0 = .returned 0 ∧ s.pc 1 = .returned 5 ∧ Ep2000Ok s := by
  have hexec : (exec (ep2000Step fun _ => .readEp2000) (keepsErr fun _ => .readEp2000)
      [.call 0, .call 0, .call 0, .send 0 0, .call 0, .complete 0 11, .call 0, .call 0,
        .call 1, .call 1, .call 1, .send 1 5, .call 1, .call 1, .call 1, .call 1, .call 1]
      ep2000Init).map (fun s => (s.pc 0, s.pc 1)) = some (.returned 0, .returned 5) := by
    decide
  obtain ⟨s, hs, hproj⟩ := Option.map_eq_some_iff.1 hexec
  obtain ⟨hfirst, hsecond⟩ := Prod.mk.inj hproj
  exact ⟨s, run_of_exec _ hs, hfirst, hsecond, (ep2000Ok_of_run _ (run_of_exec _ hs)).1⟩

/-- An accepted request completes with an error between the statement that stores its result and
the one that tests it: the call returns the error, after it has released the lock again. -/
theorem ep2000Ok_overwritten : ¬ ∀ s,
    Run (ep2000Step fun _ => .readEp2000) (fun _ _ => true) ep2000Init s → Ep2000Ok s := by
  intro h
  have hexec : (exec (ep2000Step fun _ => .readEp2000) (fun _ _ => true)
      [.call 0, .call 0, .call 0, .send 0 0, .call 0, .complete 7 0, .call 0, .call 0, .call 0,
        .call 0] ep2000Init).map (fun s => (s.pc 0, s.accepted, s.releases)) =
      some (.returned 7, [0], [(0, some 0), (0, none)]) := by
    decide
  obtain ⟨s, hs, hproj⟩ := Option.map_eq_some_iff.1 hexec
  obtain ⟨hpc, hproj⟩ := Prod.mk.inj hproj
  obtain ⟨haccepted, -⟩ := Prod.mk.inj hproj
  have hreturned := ((h s (run_of_exec _ hs)).returned 0 7 hpc).2 (by simp [haccepted])
  cases hreturned

end Solar48
