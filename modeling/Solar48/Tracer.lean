/-
**The requests to a Tracer 6415AN.**

Five functions read five blocks of registers of the solar charger.  They share a lock, an error
variable and the master below; each has a callback of its own, and a handler that the master calls
when the request has completed.  Functions and handlers differ in nothing but addresses, sizes and
error codes.

The model takes a call and a completion as one step each.  Calls are numbered, and a callback is
represented by the number of the call that passed it.  What a handler copies into its record is
in `Solar48.tracerDeliver`.

The state also records the request that the master has accepted, what the calls have returned, the
callbacks called and the errors raised.

Main definitions:

* `tracerCall`, `tracerReceive` — a request function and its handler;
* `tracerStep` — calls and completions;
* `TracerOk` — every accepted request is completed to its own callback, once;
* `keepsOwnCallback` — the condition on a step under which this stays so.

Main results:

* `tracerOk_of_run` — **requests are completed to their callbacks as long as no function is called
  while its own request is pending**, and a call that is turns the pending callback off.
-/

import Solar48.Rs485Frame
import Solar48.StepSystem
import Mathlib.Data.List.Nodup
import Mathlib.Logic.Function.Basic

set_option relaxedAutoImplicit false
set_option autoImplicit false

namespace Solar48

open StepSystem

/-! ### Codes and sizes -/

abbrev eEpeverTracer6415anElemNotMatch : ℤ := 620
abbrev eEpeverTracer6415anReadRatedDatumBusy : ℤ := 621
abbrev eEpeverTracer6415anRealTimeDataBusy : ℤ := 622
abbrev eEpeverTracer6415anRealTimeElemNotMatch : ℤ := 623
abbrev eEpeverTracer6415anRealTimeStatusElemNotMatch : ℤ := 624
abbrev eEpeverTracer6415anRealTimeStatusBusy : ℤ := 625
abbrev eEpeverTracer6415anStatisticalParametersBusy : ℤ := 626
abbrev eEpeverTracer6415anStatisticalParametersElemNotMatch : ℤ := 627
abbrev eEpeverTracer6415anSettingParametersBusy : ℤ := 628
abbrev eEpeverTracer6415anSettingParametersElemNotMatch : ℤ := 629
abbrev eEpeverTracer6415anIllegalCallbackRatedDatum : ℤ := 630
abbrev eEpeverTracer6415anIllegalCallbackRealTime : ℤ := 633
abbrev eEpeverTracer6415anIllegalCallbackRealTimeStatus : ℤ := 636
abbrev eEpeverTracer6415anIllegalCallbackStatisticalParametersReceive : ℤ := 639
abbrev eEpeverTracer6415anIllegalCallbackSettingParametersReceive : ℤ := 642

abbrev epeverTracer6414anSlaveAddress : UInt8 := 0
abbrev epeverTracer6414anTimeout : ℕ := 4
abbrev epTracer6415anRatedDatumElements : UInt16 := 0x300E - 0x3000
abbrev epTracer6415anRealTimeDataElements : UInt16 := 0x311D - 0x3100
abbrev epTracer6415anRealTimeStatusElements : UInt16 := 0x3202 - 0x3200
abbrev epTracer6415anStatisticalParametersElements : UInt16 := 0x331C - 0x3300
abbrev epTracer6415anSettingParametersElements : UInt16 := 0x9070 - 0x9000

/-- The request functions. -/
inductive TracerFunction
  | readRatedDatum
  | realTimeData
  | realTimeStatus
  | statisticalParameters
  | settingParameters
  deriving DecidableEq, Repr

/-- What a request function and its handler have of their own. -/
structure TracerRequest where
  initialAddress : UInt16
  /-- the number of registers asked for -/
  elements : UInt16
  /-- the number of registers that the handler expects -/
  handlerElements : UInt16
  busy : ℤ
  elemNotMatch : ℤ
  illegalCallback : ℤ
  deriving DecidableEq, Repr

def TracerFunction.request : TracerFunction → TracerRequest
  | readRatedDatum =>
      { initialAddress := 0x3000
        elements := epTracer6415anRatedDatumElements
        handlerElements := epTracer6415anRatedDatumElements
        busy := eEpeverTracer6415anReadRatedDatumBusy
        elemNotMatch := eEpeverTracer6415anElemNotMatch
        illegalCallback := eEpeverTracer6415anIllegalCallbackRatedDatum }
  | realTimeData =>
      { initialAddress := 0x3100
        elements := epTracer6415anRealTimeDataElements
        handlerElements := epTracer6415anRealTimeDataElements
        busy := eEpeverTracer6415anRealTimeDataBusy
        elemNotMatch := eEpeverTracer6415anRealTimeElemNotMatch
        illegalCallback := eEpeverTracer6415anIllegalCallbackRealTime }
  | realTimeStatus =>
      { initialAddress := 0x3200
        elements := epTracer6415anRealTimeStatusElements
        handlerElements := epTracer6415anRealTimeStatusElements
        busy := eEpeverTracer6415anRealTimeStatusBusy
        elemNotMatch := eEpeverTracer6415anRealTimeStatusElemNotMatch
        illegalCallback := eEpeverTracer6415anIllegalCallbackRealTimeStatus }
  -- this handler expects the size of the status
  | statisticalParameters =>
      { initialAddress := 0x3300
        elements := epTracer6415anStatisticalParametersElements
        handlerElements := epTracer6415anRealTimeStatusElements
        busy := eEpeverTracer6415anStatisticalParametersBusy
        elemNotMatch := eEpeverTracer6415anStatisticalParametersElemNotMatch
        illegalCallback := eEpeverTracer6415anIllegalCallbackStatisticalParametersReceive }
  | settingParameters =>
      { initialAddress := 0x9000
        elements := epTracer6415anSettingParametersElements
        handlerElements := epTracer6415anSettingParametersElements
        busy := eEpeverTracer6415anSettingParametersBusy
        elemNotMatch := eEpeverTracer6415anSettingParametersElemNotMatch
        illegalCallback := eEpeverTracer6415anIllegalCallbackSettingParametersReceive }

/-- What the function passes to the master. -/
def TracerRequest.read (r : TracerRequest) : MasterRequest :=
  masterReadInputRegisters epeverTracer6414anSlaveAddress r.initialAddress r.elements
    epeverTracer6414anTimeout

/-! ### The state -/

/-- A callback that was called. -/
structure TracerInvocation where
  /-- whose callback it was -/
  callback : ℕ
  /-- whose request had completed -/
  request : ℕ
  err : ℤ
  deriving DecidableEq, Repr

structure TracerState where
  /-- `epever_tracer6415an_lock` -/
  lock : Bool
  /-- `epever_tracer6415an_err` -/
  err : ℤ
  /-- the callback of each function, `none` is `NULL` -/
  callback : TracerFunction → Option ℕ
  /-- the request that the master has accepted and not completed, and whose it is -/
  pending : Option (TracerFunction × ℕ)
  /-- what the master was asked for, the oldest first -/
  requested : List MasterRequest
  /-- what the calls have returned -/
  result : ℕ → Option ℤ
  /-- the callbacks called, the oldest first -/
  invoked : List TracerInvocation
  /-- the errors raised -/
  raised : List ℤ

def tracerInit : TracerState where
  lock := false
  err := 0
  callback := fun _ => none
  pending := none
  requested := []
  result := fun _ => none
  invoked := []
  raised := []

def TracerState.setCallback (s : TracerState) (f : TracerFunction) (c : Option ℕ) : TracerState :=
  { s with callback := Function.update s.callback f c }

/-! ### Requests -/

/-- A request function, if `master_send_req` returns `masterResult`: what it returns and what it
leaves. -/
def tracerCall (f : TracerFunction) (c : ℕ) (masterResult : ℤ) (s : TracerState) :
    ℤ × TracerState :=
  -- the callback is cleared before the lock is taken
  let s := s.setCallback f none
  if s.lock then (f.request.busy, { s with err := f.request.busy })
  else
    let s := { s with lock := true }.setCallback f (some c)
    let s := { s with
      err := masterResult
      requested := s.requested ++ [f.request.read]
      pending := if masterResult = 0 then some (f, c) else s.pending }
    if s.err ≠ 0 then (s.err, { s.setCallback f none with lock := false })
    else (s.err, s)

def rs485EpeverTracer6415anReadRatedDatum := tracerCall .readRatedDatum
def rs485EpeverTracer6415anRealTimeData := tracerCall .realTimeData
def rs485EpeverTracer6415anRealTimeStatus := tracerCall .realTimeStatus
def rs485EpeverTracer6415anStatisticalParameters := tracerCall .statisticalParameters
def rs485EpeverTracer6415anSettingParameters := tracerCall .settingParameters

/-- What a handler stores in the error variable. -/
def tracerErr (f : TracerFunction) (status : ℤ) (dataSize : UInt16) : ℤ :=
  if status = masterTransferSuccess then
    if f.request.handlerElements = dataSize then 0 else f.request.elemNotMatch
  else status

/-- A handler, called with a status and a number of data when the request of call `tx` has
completed. -/
def tracerReceive (f : TracerFunction) (tx : ℕ) (status : ℤ) (dataSize : UInt16) (s : TracerState) :
    TracerState :=
  let s := { s with err := tracerErr f status dataSize }
  let s : TracerState :=
    match s.callback f with
    | some c =>
        { s with invoked := s.invoked ++ [{ callback := c, request := tx, err := s.err }] }
    | none => { s with raised := s.raised ++ [f.request.illegalCallback] }
  { s.setCallback f none with lock := false }

def rs485EpeverTracer6415anReadRatedDatumReceive := tracerReceive .readRatedDatum
def rs485EpeverTracer6415anRealTimeDataReceive := tracerReceive .realTimeData
def rs485EpeverTracer6415anRealTimeStatusReceive := tracerReceive .realTimeStatus
def rs485EpeverTracer6415anStatisticalParametersReceive := tracerReceive .statisticalParameters
def rs485EpeverTracer6415anSettingParametersReceive := tracerReceive .settingParameters

/-- The function by its name. -/
def TracerFunction.call : TracerFunction → ℕ → ℤ → TracerState → ℤ × TracerState
  | readRatedDatum => rs485EpeverTracer6415anReadRatedDatum
  | realTimeData => rs485EpeverTracer6415anRealTimeData
  | realTimeStatus => rs485EpeverTracer6415anRealTimeStatus
  | statisticalParameters => rs485EpeverTracer6415anStatisticalParameters
  | settingParameters => rs485EpeverTracer6415anSettingParameters

/-- The handler that the function passes to the master. -/
def TracerFunction.receive : TracerFunction → ℕ → ℤ → UInt16 → TracerState → TracerState
  | readRatedDatum => rs485EpeverTracer6415anReadRatedDatumReceive
  | realTimeData => rs485EpeverTracer6415anRealTimeDataReceive
  | realTimeStatus => rs485EpeverTracer6415anRealTimeStatusReceive
  | statisticalParameters => rs485EpeverTracer6415anStatisticalParametersReceive
  | settingParameters => rs485EpeverTracer6415anSettingParametersReceive

theorem TracerFunction.call_eq (f : TracerFunction) : f.call = tracerCall f := by
  cases f <;> rfl

theorem TracerFunction.receive_eq (f : TracerFunction) : f.receive = tracerReceive f := by
  cases f <;> rfl

/-- A call, or the completion of the pending request. -/
inductive TracerTurn
  | call (f : TracerFunction) (c : ℕ) (masterResult : ℤ)
  | complete (status : ℤ) (dataSize : UInt16)
  deriving DecidableEq, Repr

/-- One step, if it is possible. -/
def tracerStep (turn : TracerTurn) (s : TracerState) : Option TracerState :=
  match turn with
  | .call f c masterResult =>
      match s.result c with
      | some _ => none
      | none =>
          let (r, t) := f.call c masterResult s
          some { t with result := Function.update t.result c (some r) }
  | .complete status dataSize =>
      match s.pending with
      | some (f, c) => some (f.receive c status dataSize { s with pending := none })
      | none => none

/-! ### Completions to their own callbacks -/

/-- How often the callback of call `c` was called. -/
def TracerState.calls (s : TracerState) (c : ℕ) : ℕ :=
  (s.invoked.map TracerInvocation.callback).count c

/-- **Every accepted request is completed to its own callback, once.** -/
structure TracerOk (s : TracerState) : Prop where
  /-- the request in flight has its callback -/
  pending : ∀ f c, s.pending = some (f, c) → s.callback f = some c ∧ s.calls c = 0
  /-- the callback of a call that returned 0 is called once, unless its request is in flight -/
  completed : ∀ c, s.result c = some 0 → (∀ f, s.pending ≠ some (f, c)) → s.calls c = 1
  /-- and by the completion of its own request -/
  own : ∀ i ∈ s.invoked, i.request = i.callback
  /-- the callback of a call that returned an error is not called -/
  failed : ∀ c r, s.result c = some r → r ≠ 0 → s.calls c = 0
  /-- no handler finds its callback missing -/
  legal : s.raised = []

/-- A step leaves the pending request and its callback as they were. -/
def TracerState.SamePending (s t : TracerState) : Prop :=
  t.pending = s.pending ∧ ∀ f c, s.pending = some (f, c) → t.callback f = s.callback f

/-- The condition on a step: no function is called while its own request is pending. -/
def keepsOwnCallback : TracerTurn → TracerState → Bool
  | .call f _ _, s => s.pending.map Prod.fst ≠ some f
  | .complete _ _, _ => true

/-! ### The invariant -/

/-- The callback that a function should have: that of the pending request, if it is the
function's. -/
def pendingCallback (pending : Option (TracerFunction × ℕ)) (f : TracerFunction) : Option ℕ :=
  match pending with
  | some (g, c) => if g = f then some c else none
  | none => none

/-- What holds as long as every step meets the condition. -/
structure TracerInv (s : TracerState) : Prop where
  lock_eq : s.lock = s.pending.isSome
  callback_eq : s.callback = pendingCallback s.pending
  pending_result : ∀ f c, s.pending = some (f, c) → s.result c = some 0 ∧ s.calls c = 0
  completed : ∀ c, s.result c = some 0 → (∀ f, s.pending ≠ some (f, c)) → s.calls c = 1
  /-- callbacks are those of calls that returned 0 -/
  invoked : ∀ i ∈ s.invoked, i.request = i.callback ∧ s.result i.callback = some 0
  legal : s.raised = []

variable {s t : TracerState} {f : TracerFunction} {c : ℕ} {r : ℤ}

theorem tracerInit_inv : TracerInv tracerInit where
  lock_eq := rfl
  callback_eq := rfl
  pending_result := nofun
  completed := nofun
  invoked := nofun
  legal := rfl

/-! ### What a call does -/

theorem tracerCall_of_busy (f : TracerFunction) (c : ℕ) (r : ℤ) (hlock : s.lock = true) :
    tracerCall f c r s =
      (f.request.busy, { s.setCallback f none with err := f.request.busy }) := by
  simp [tracerCall, TracerState.setCallback, hlock]

theorem tracerCall_of_accepted (f : TracerFunction) (c : ℕ) (hlock : s.lock = false) :
    tracerCall f c 0 s = (0, { s.setCallback f (some c) with
      lock := true, err := 0, requested := s.requested ++ [f.request.read]
      pending := some (f, c) }) := by
  simp [tracerCall, TracerState.setCallback, hlock]

theorem tracerCall_of_refused (f : TracerFunction) (c : ℕ) (hlock : s.lock = false)
    (hr : r ≠ 0) :
    tracerCall f c r s = (r, { s.setCallback f none with
      lock := false, err := r, requested := s.requested ++ [f.request.read] }) := by
  simp [tracerCall, TracerState.setCallback, hlock, hr]

/-- A call is made once. -/
theorem tracerStep_call (hstep : tracerStep (.call f c r) s = some t) :
    s.result c = none ∧ t = { (tracerCall f c r s).2 with
      result := Function.update (tracerCall f c r s).2.result c
        (some (tracerCall f c r s).1) } := by
  rw [tracerStep, f.call_eq] at hstep
  dsimp only at hstep
  cases hresult : s.result c with
  | some r' =>
      rw [hresult] at hstep
      cases hstep
  | none =>
      rw [hresult] at hstep
      exact ⟨rfl, (Option.some.inj hstep).symm⟩

/-- A handler that finds a callback calls it. -/
theorem tracerReceive_of_callback (tx : ℕ) (status : ℤ) (dataSize : UInt16)
    (hcallback : s.callback f = some c) :
    tracerReceive f tx status dataSize s = { s.setCallback f none with
      lock := false, err := tracerErr f status dataSize
      invoked := s.invoked ++
        [{ callback := c, request := tx, err := tracerErr f status dataSize }] } := by
  rw [tracerReceive]
  simp only [hcallback]
  rfl

/-- One more call of a callback. -/
theorem count_append_invocation (s : TracerState) (i : TracerInvocation) (d : ℕ) :
    ((s.invoked ++ [i]).map TracerInvocation.callback).count d =
      s.calls d + if i.callback = d then 1 else 0 := by
  rw [List.map_append, List.count_append, List.map_singleton, List.count_singleton,
    TracerState.calls]
  simp only [beq_iff_eq]

theorem TracerRequest.busy_ne_zero (f : TracerFunction) : f.request.busy ≠ 0 := by
  cases f <;> decide

namespace TracerInv

/-- The callback of a call that has not returned 0 has not been called. -/
theorem calls_eq_zero (h : TracerInv s) (hresult : s.result c ≠ some 0) : s.calls c = 0 := by
  refine List.count_eq_zero.2 fun hmem => ?_
  obtain ⟨i, hi, rfl⟩ := List.mem_map.1 hmem
  exact hresult (h.invoked i hi).2

/-- The condition says that the function has no callback to lose. -/
theorem callback_eq_none (h : TracerInv s)
    (hok : keepsOwnCallback (.call f c r) s = true) : s.callback f = none := by
  rw [h.callback_eq]
  cases hpending : s.pending with
  | none => rfl
  | some x =>
      obtain ⟨g, d⟩ := x
      rw [keepsOwnCallback, hpending] at hok
      refine if_neg fun hg => ?_
      subst hg
      simp at hok

/-- A call that returns an error, and changes nothing else that the invariant is about. -/
theorem call_failed (h : TracerInv s) (hnew : s.result c = none) (hr : r ≠ 0)
    (hlock : t.lock = s.lock) (hcallback : t.callback = s.callback)
    (hpending : t.pending = s.pending) (hinvoked : t.invoked = s.invoked)
    (hraised : t.raised = s.raised)
    (hresult : t.result = Function.update s.result c (some r)) : TracerInv t := by
  have hcalls : ∀ d, t.calls d = s.calls d := by
    intro d
    rw [TracerState.calls, TracerState.calls, hinvoked]
  -- the calls that returned 0 are the same
  have hzero : ∀ d, t.result d = some 0 ↔ s.result d = some 0 := by
    intro d
    rw [hresult]
    by_cases hd : d = c
    · subst hd
      rw [Function.update_self, hnew]
      exact iff_of_false (fun heq => hr (Option.some.inj heq)) nofun
    · rw [Function.update_of_ne hd]
  exact {
    lock_eq := by rw [hlock, hpending, h.lock_eq]
    callback_eq := by rw [hcallback, hpending, h.callback_eq]
    pending_result := by
      intro f d hd
      rw [hpending] at hd
      rw [hzero, hcalls]
      exact h.pending_result f d hd
    completed := by
      intro d hd hne
      rw [hpending] at hne
      rw [hcalls]
      exact h.completed d ((hzero d).1 hd) hne
    invoked := by
      intro i hi
      rw [hinvoked] at hi
      rw [hzero]
      exact h.invoked i hi
    legal := hraised.trans h.legal }

/-- A call that the master accepts. -/
theorem call_accepted (h : TracerInv s) (hnew : s.result c = none) (hlock : s.lock = false)
    (requested : List MasterRequest) :
    TracerInv { s.setCallback f (some c) with
      lock := true, err := 0, requested := requested, pending := some (f, c)
      result := Function.update s.result c (some 0) } := by
  have hidle : s.pending = none := by
    rw [h.lock_eq] at hlock
    exact Option.not_isSome_iff_eq_none.1 (Bool.eq_false_iff.1 hlock)
  have hcallback : s.callback = fun _ => none := by
    rw [h.callback_eq, hidle]
    rfl
  have hold : ∀ d, d ≠ c → Function.update s.result c (some 0) d = s.result d :=
    fun d hd => Function.update_of_ne hd _ _
  exact {
    lock_eq := rfl
    callback_eq := by
      change Function.update s.callback f (some c) = _
      rw [hcallback]
      funext g
      change _ = if f = g then some c else none
      by_cases hg : f = g
      · subst hg
        rw [Function.update_self, if_pos rfl]
      · rw [Function.update_of_ne (Ne.symm hg), if_neg hg]
    pending_result := by
      intro g d hd
      obtain ⟨-, rfl⟩ := Prod.mk.inj (Option.some.inj hd)
      exact ⟨Function.update_self _ _ _, h.calls_eq_zero (by rw [hnew]; nofun)⟩
    completed := by
      intro d hd hne
      have hdc : d ≠ c := by
        intro heq
        exact hne f (by rw [heq])
      refine h.completed d ((hold d hdc).symm.trans hd) ?_
      rw [hidle]
      exact nofun
    invoked := by
      intro i hi
      have hi' := h.invoked i hi
      have hic : i.callback ≠ c := by
        intro heq
        rw [heq, hnew] at hi'
        cases hi'.2
      exact ⟨hi'.1, (hold _ hic).trans hi'.2⟩
    legal := h.legal }

theorem call (h : TracerInv s) (hok : keepsOwnCallback (.call f c r) s = true)
    (hstep : tracerStep (.call f c r) s = some t) : TracerInv t := by
  obtain ⟨hnew, rfl⟩ := tracerStep_call hstep
  have hsame : Function.update s.callback f none = s.callback := by
    rw [← h.callback_eq_none hok]
    exact Function.update_eq_self _ _
  cases hlock : s.lock with
  | true =>
      rw [tracerCall_of_busy f c r hlock]
      exact h.call_failed hnew (TracerRequest.busy_ne_zero f) rfl hsame rfl rfl rfl rfl
  | false =>
      by_cases hr : r = 0
      · subst hr
        rw [tracerCall_of_accepted f c hlock]
        exact h.call_accepted hnew hlock _
      · rw [tracerCall_of_refused f c hlock hr]
        exact h.call_failed hnew hr hlock.symm hsame rfl rfl rfl rfl

/-- The completion of the pending request. -/
theorem complete (h : TracerInv s) {status : ℤ} {dataSize : UInt16}
    (hstep : tracerStep (.complete status dataSize) s = some t) : TracerInv t := by
  rw [tracerStep] at hstep
  cases hpending : s.pending with
  | none =>
      rw [hpending] at hstep
      cases hstep
  | some x =>
      obtain ⟨f, c⟩ := x
      rw [hpending] at hstep
      obtain rfl := Option.some.inj hstep
      rw [f.receive_eq]
      obtain ⟨hresult, hzero⟩ := h.pending_result f c hpending
      have hcallback : s.callback f = some c := by
        rw [h.callback_eq, hpending]
        exact if_pos rfl
      -- the callback that is called is that of the pending request
      rw [tracerReceive_of_callback (s := { s with pending := none }) c status dataSize hcallback]
      exact {
        lock_eq := rfl
        callback_eq := by
          change Function.update s.callback f none = fun _ => none
          rw [h.callback_eq, hpending]
          funext g
          by_cases hg : f = g
          · subst hg
            exact Function.update_self _ _ _
          · rw [Function.update_of_ne (Ne.symm hg)]
            exact if_neg hg
        pending_result := nofun
        completed := by
          intro d hd _
          refine (count_append_invocation s _ d).trans ?_
          dsimp only
          by_cases hcd : c = d
          · subst hcd
            rw [hzero, if_pos rfl]
          · rw [if_neg hcd]
            refine h.completed d hd fun g hg => ?_
            rw [hpending] at hg
            exact hcd (Prod.mk.inj (Option.some.inj hg)).2
        invoked := by
          intro i hi
          rcases List.mem_append.1 hi with hi | hi
          · exact h.invoked i hi
          · obtain rfl := List.mem_singleton.1 hi
            exact ⟨rfl, hresult⟩
        legal := h.legal }

/-- **What one step preserves.** -/
theorem step (h : TracerInv s) {turn : TracerTurn} (hok : keepsOwnCallback turn s = true)
    (hstep : tracerStep turn s = some t) : TracerInv t := by
  cases turn with
  | call f c r => exact h.call hok hstep
  | complete status dataSize => exact h.complete hstep

theorem ok (h : TracerInv s) : TracerOk s where
  pending := by
    intro f c hpending
    refine ⟨?_, (h.pending_result f c hpending).2⟩
    rw [h.callback_eq, hpending]
    exact if_pos rfl
  completed := h.completed
  own i hi := (h.invoked i hi).1
  failed := by
    intro c r hresult hr
    refine h.calls_eq_zero ?_
    rw [hresult]
    exact fun heq => hr (Option.some.inj heq)
  legal := h.legal

/-- **A rejected call leaves the pending request alone exactly if it meets the condition.** -/
theorem busy (h : TracerInv s) (hlock : s.lock = true)
    (hstep : tracerStep (.call f c r) s = some t) :
    t.result c = some f.request.busy ∧
      (s.SamePending t ↔ keepsOwnCallback (.call f c r) s = true) := by
  obtain ⟨-, rfl⟩ := tracerStep_call hstep
  rw [tracerCall_of_busy f c r hlock]
  refine ⟨Function.update_self _ _ _, ?_⟩
  rw [h.lock_eq] at hlock
  obtain ⟨⟨g, d⟩, hpending⟩ := Option.isSome_iff_exists.1 hlock
  have hcallback : s.callback g = some d := by
    rw [h.callback_eq, hpending]
    exact if_pos rfl
  have hcond : keepsOwnCallback (.call f c r) s = true ↔ g ≠ f := by
    rw [keepsOwnCallback, hpending]
    simp
  rw [hcond]
  constructor
  · intro hsame hgf
    subst hgf
    have hcleared := (hsame.2 g d hpending).symm
    change s.callback g = Function.update s.callback g none g at hcleared
    rw [Function.update_self, hcallback] at hcleared
    cases hcleared
  · intro hgf
    refine ⟨rfl, fun g' d' hpending' => ?_⟩
    rw [hpending] at hpending'
    obtain ⟨rfl, -⟩ := Prod.mk.inj (Option.some.inj hpending')
    exact Function.update_of_ne hgf _ _

end TracerInv

/-! ### Runs -/

/-- **Every accepted request is completed to its own callback as long as no function is called
while its own request is pending**; such a call is rejected, and turns the callback of the pending
request off. -/
theorem tracerOk_of_run (h : Run tracerStep keepsOwnCallback tracerInit s) :
    TracerOk s ∧ ∀ f c r t, s.lock = true → tracerStep (.call f c r) s = some t →
      t.result c = some f.request.busy ∧
        (s.SamePending t ↔ keepsOwnCallback (.call f c r) s = true) := by
  have hinv : TracerInv s := h.invariant tracerInit_inv
    fun _ _ _ hinv hok hstep => hinv.step hok hstep
  exact ⟨hinv.ok, fun _ _ _ _ hlock hstep => hinv.busy hlock hstep⟩

/-- Two functions are called, of which one is rejected, and the request of the other completes. -/
theorem tracerOk_of_run_rejected : ∃ s, Run tracerStep keepsOwnCallback tracerInit s ∧
    s.calls 0 = 1 ∧ s.result 1 = some eEpeverTracer6415anRealTimeDataBusy ∧ TracerOk s := by
  have hexec : (exec tracerStep keepsOwnCallback
      [.call .readRatedDatum 0 0, .call .realTimeData 1 0, .complete 0 14] tracerInit).map
      (fun s => (s.calls 0, s.result 1)) = some (1, some 622) := by
    decide
  obtain ⟨s, hs, hproj⟩ := Option.map_eq_some_iff.1 hexec
  obtain ⟨hcalls, hresult⟩ := Prod.mk.inj hproj
  exact ⟨s, run_of_exec _ hs, hcalls, hresult, (tracerOk_of_run (run_of_exec _ hs)).1⟩

/-- A function is called again while its request is pending: the call is rejected, and when the
request completes there is no callback. -/
theorem tracerOk_callback_lost : ¬ ∀ s,
    Run tracerStep (fun _ _ => true) tracerInit s → TracerOk s := by
  intro h
  have hexec : (exec tracerStep (fun _ _ => true)
      [.call .readRatedDatum 0 0, .call .readRatedDatum 1 0, .complete 0 14] tracerInit).map
      TracerState.raised = some [eEpeverTracer6415anIllegalCallbackRatedDatum] := by
    decide
  obtain ⟨s, hs, hraised⟩ := Option.map_eq_some_iff.1 hexec
  have hlegal := (h s (run_of_exec _ hs)).legal
  rw [hraised] at hlegal
  cases hlegal

end Solar48
