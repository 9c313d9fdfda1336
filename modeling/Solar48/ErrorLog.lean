/-
**The error log: a ring of codes behind a queue of pointers.**

`error_handler` stores the code that it is given in `error_list` and queues a pointer to that
place; `run_error_handler` takes the oldest pointer out of the queue and prints what it points to.
The cursor into `error_list` moves on only if the queue has taken the pointer, but the place under
it is written in any case.

Main definitions:

* `errorHandler`, `runErrorHandler` — the two calls, over the queue of `sys_queue.c`;
* `ErrorState.pendingCodes` — what the queued pointers point to;
* `ReportsRaised` — what was and will be printed is what was raised;
* `keepsOldest` — the condition on a call under which this stays so.

Main results:

* `reportsRaised_of_run` — **the codes printed are those raised as long as a call that finds the
  queue full raises the oldest pending code again**, and only then.
-/

import Solar48.SysQueueCall

set_option relaxedAutoImplicit false
set_option autoImplicit false

namespace Solar48

open RingBuffer StepSystem

/-- `MAX_ERROR_LOGS_INSTANCES`. -/
def maxErrorLogsInstances : ℕ := 6

/-! ### The code -/

/-- `sys_queue` is called with `NULL` for the destroyer. -/
def noDestroyer (_ : ℕ) : Bool := false

/-- `error_handler_queue`, `error_list` and its cursor, and what happened. -/
structure ErrorState where
  queue : QueueState
  errorList : ℕ → ℤ
  /-- `error_list_ptr`, as an index -/
  errorListPtr : ℕ
  /-- how often `sys_queue` has been called -/
  calls : ℕ
  /-- the pointer that each call passed, as an index -/
  passed : ℕ → ℕ
  /-- the codes for which `sys_queue` returned 0, the oldest first -/
  succeeded : List ℤ
  printed : List ℤ

/-- The state after `init_error_handler_queue`. -/
def initErrorHandlerQueue : ErrorState where
  queue := sysQueueInit maxErrorLogsInstances
  errorList := fun _ => 0
  errorListPtr := 0
  calls := 0
  passed := fun _ => 0
  succeeded := []
  printed := []

/-- What a context points to; contexts go by the numbers of the calls that passed them. -/
def ErrorState.deref (s : ErrorState) (ctx : Option ℕ) : Option ℤ :=
  ctx.map fun p => s.errorList (s.passed p)

/-- `error_handler`. -/
def errorHandler (error : ℤ) (s : ErrorState) : Option ErrorState :=
  (sysQueue noDestroyer s.calls s.queue).map fun result =>
    let s := { s with
      errorList := Function.update s.errorList s.errorListPtr error
      queue := result.2
      passed := Function.update s.passed s.calls s.errorListPtr
      calls := s.calls + 1 }
    if result.1 ≠ 0 then s
    else { s with
      errorListPtr :=
        if s.errorListPtr + 1 > maxErrorLogsInstances - 1 then 0 else s.errorListPtr + 1
      succeeded := s.succeeded ++ [error] }

/-- `run_error_handler`.  Every function in the queue is `_error_handler`, which prints what its
context points to. -/
def runErrorHandler (s : ErrorState) : Option ErrorState :=
  (runQueueRun 0 s.queue).map fun queue =>
    { s with
      queue := queue
      printed := s.printed ++
        (ranEvents (queue.queue.log.drop s.queue.queue.log.length)).filterMap
          fun e => s.deref e.2 }

inductive ErrorCall
  | errorHandler (error : ℤ)
  | runErrorHandler
  deriving DecidableEq, Repr

def errorStep (call : ErrorCall) (s : ErrorState) : Option ErrorState :=
  match call with
  | .errorHandler error => Solar48.errorHandler error s
  | .runErrorHandler => Solar48.runErrorHandler s

/-! ### What is reported -/

namespace ErrorState

/-- The queue is full. -/
def Full (s : ErrorState) : Prop := s.queue.queue.count ≥ s.queue.queue.queueSize

instance (s : ErrorState) : Decidable s.Full := inferInstanceAs (Decidable (_ ≤ _))

/-- The codes that the items in the queue point to, the oldest first. -/
def pendingCodes (s : ErrorState) : List ℤ :=
  (List.range s.queue.queue.count.toNat).filterMap fun i =>
    s.deref (s.queue.queue.vector ((s.queue.queue.tail + i) % s.queue.queue.queueSize)).ctx

end ErrorState

/-- **What was printed and what is still to be are the codes that were raised, in order.** -/
structure ReportsRaised (s : ErrorState) : Prop where
  printed_pending : s.printed ++ s.pendingCodes = s.succeeded
  /-- each call of `run_error_handler` prints the next -/
  prints_next : ∀ t, errorStep .runErrorHandler s = some t →
    t.printed = s.printed ++ s.pendingCodes.take 1
  /-- no call gets stuck -/
  possible : ∀ call, ∃ t, errorStep call s = some t

/-- The condition on a call: if the queue is full, the code raised is the oldest pending one. -/
def keepsOldest : ErrorCall → ErrorState → Bool
  | .errorHandler error, s => !decide s.Full || s.pendingCodes.head? == some error
  | .runErrorHandler, _ => true

/-! ### The two rings -/

/-- What holds after any calls: the two rings are in step. -/
structure ErrorInv (s : ErrorState) : Prop where
  queue : QueueInv noDestroyer s.queue
  quiet : s.queue.Quiet
  runner_idle : s.queue.runner 0 = .idle
  fresh : ∀ p, s.calls ≤ p → s.queue.producer p = .idle
  size_eq : s.queue.queue.queueSize = maxErrorLogsInstances
  /-- the cursor stands where the head of the queue stands -/
  ptr_eq : s.errorListPtr = s.queue.queue.accepted.length % maxErrorLogsInstances
  /-- and so every item points to the place of its own number -/
  passed_eq : ∀ i (h : i < s.queue.queue.accepted.length),
    s.passed s.queue.queue.accepted[i] = i % maxErrorLogsInstances
  succeeded_length : s.succeeded.length = s.queue.queue.accepted.length
  printed_length : s.printed.length = s.queue.queue.done

/-- What holds as long as every call meets the condition: the places hold the codes. -/
structure ErrorCodes (s : ErrorState) : Prop where
  holds : Holds s.errorList maxErrorLogsInstances s.succeeded s.queue.queue.done
  printed_eq : s.printed = s.succeeded.take s.queue.queue.done

variable {s t : ErrorState}

theorem initErrorHandlerQueue_inv : ErrorInv initErrorHandlerQueue where
  queue := sysQueueInit_inv _
  quiet := ⟨rfl, rfl, rfl⟩
  runner_idle := rfl
  fresh _ _ := rfl
  size_eq := rfl
  ptr_eq := rfl
  passed_eq := nofun
  succeeded_length := rfl
  printed_length := rfl

theorem initErrorHandlerQueue_codes : ErrorCodes initErrorHandlerQueue where
  holds := holds_nil _ _ _
  printed_eq := rfl

namespace ErrorInv

theorem owner_eq (h : ErrorInv s) : s.queue.owner = none := by
  have hlock := h.queue.lock_eq
  rw [h.quiet.lock] at hlock
  exact Option.isNone_iff_eq_none.1 (by simpa using hlock.symm)

theorem atRest (h : ErrorInv s) : s.queue.queue.AtRest noDestroyer := h.queue.rest h.owner_eq

/-- The number of items in the queue. -/
theorem count_toNat (h : ErrorInv s) : s.queue.queue.count.toNat =
    s.queue.queue.accepted.length - s.queue.queue.done := by
  have := h.queue.ok.count_eq
  omega

theorem full_iff (h : ErrorInv s) : s.Full ↔
    s.queue.queue.accepted.length = s.queue.queue.done + maxErrorLogsInstances := by
  have := h.queue.ok.count_eq
  have := h.queue.ok.le_size
  have := h.queue.ok.done_le
  have := h.size_eq
  unfold ErrorState.Full
  omega

/-- What a slot of the queue points to. -/
theorem deref_vector (h : ErrorInv s) {i : ℕ} (hlo : s.queue.queue.done ≤ i)
    (hi : i < s.queue.queue.accepted.length) :
    s.deref (s.queue.queue.vector (i % maxErrorLogsInstances)).ctx =
      some (s.errorList (i % maxErrorLogsInstances)) := by
  have hslot := h.atRest.holds i (by simpa using hi) hlo
  rw [h.size_eq] at hslot
  rw [hslot, List.getElem_map, queueItem, ErrorState.deref, Option.map_some, h.passed_eq i hi]

/-- **The pending codes lie in `error_list`, from the place of the first item not printed on.** -/
theorem pendingCodes_eq (h : ErrorInv s) : s.pendingCodes =
    (List.range (s.queue.queue.accepted.length - s.queue.queue.done)).map fun i =>
      s.errorList ((s.queue.queue.done + i) % maxErrorLogsInstances) := by
  rw [ErrorState.pendingCodes, h.count_toNat, ← List.filterMap_eq_map]
  refine List.filterMap_congr fun i hi => ?_
  rw [List.mem_range] at hi
  have htail := h.atRest.tail_eq
  rw [h.size_eq] at htail
  rw [h.size_eq, htail, Nat.mod_add_mod, h.deref_vector (by omega) (by omega)]
  rfl

/-- The oldest pending code of a full queue lies under the cursor. -/
theorem head?_pendingCodes (h : ErrorInv s) (hfull : s.Full) :
    s.pendingCodes.head? = some (s.errorList s.errorListPtr) := by
  have hlen := h.full_iff.1 hfull
  rw [h.pendingCodes_eq, h.ptr_eq, hlen, Nat.add_sub_cancel_left, Nat.add_mod_right]
  rfl

/-- The number of the next call is new. -/
theorem calls_not_mem (h : ErrorInv s) : s.calls ∉ s.queue.queue.accepted := by
  intro hmem
  have hphase := (h.queue.calls.committed s.calls).2 hmem
  rw [h.fresh s.calls le_rfl] at hphase
  cases hphase

end ErrorInv

/-! ### One call -/

namespace ErrorState

/-- The state after a call that found the queue full. -/
def refuse (s : ErrorState) (error : ℤ) : ErrorState :=
  { s with
    errorList := Function.update s.errorList s.errorListPtr error
    queue := s.queue.release.gotoProducer s.calls (.returned eSysQueueFull)
    passed := Function.update s.passed s.calls s.errorListPtr
    calls := s.calls + 1 }

/-- The state after a call whose pointer was queued. -/
def take (s : ErrorState) (error : ℤ) : ErrorState :=
  { s with
    errorList := Function.update s.errorList s.errorListPtr error
    queue := { s.queue with
      queue := s.queue.queue.push noDestroyer s.calls
      changes := s.queue.changes ++
        [s.calls, s.calls, s.calls, s.calls, s.calls] }.release.gotoProducer s.calls (.returned 0)
    passed := Function.update s.passed s.calls s.errorListPtr
    calls := s.calls + 1
    errorListPtr := if s.errorListPtr + 1 > maxErrorLogsInstances - 1 then 0 else s.errorListPtr + 1
    succeeded := s.succeeded ++ [error] }

/-- The state after the oldest item was taken out and its code printed. -/
def report (s : ErrorState) (f : ℕ) (error : ℤ) : ErrorState :=
  { s with
    queue := { s.queue with queue := s.queue.queue.pop f }.release.gotoRunner 0 .idle
    printed := s.printed ++ [error] }

end ErrorState

variable {error : ℤ}

theorem errorHandler_of_full (h : ErrorInv s) (hfull : s.Full) :
    errorHandler error s = some (s.refuse error) := by
  rw [errorHandler, sysQueue_of_full h.quiet (h.fresh _ le_rfl) hfull]
  rfl

theorem errorHandler_of_not_full (h : ErrorInv s) (hroom : ¬ s.Full) :
    errorHandler error s = some (s.take error) := by
  rw [errorHandler, sysQueue_of_lt h.quiet (h.fresh _ le_rfl) (Int.not_le.1 hroom)]
  rfl

theorem runErrorHandler_of_empty (h : ErrorInv s)
    (hempty : s.queue.queue.accepted.length = s.queue.queue.done) :
    runErrorHandler s = some { s with queue := s.queue.release.gotoRunner 0 .idle } := by
  have hcount : s.queue.queue.count < 1 := by
    have := h.queue.ok.count_eq
    omega
  rw [runErrorHandler, runQueueRun_of_empty h.quiet h.runner_idle hcount]
  simp [QueueState.release, QueueState.gotoRunner, ranEvents]

theorem runErrorHandler_of_item (h : ErrorInv s)
    (hlt : s.queue.queue.done < s.queue.queue.accepted.length) :
    runErrorHandler s = some (s.report s.queue.queue.accepted[s.queue.queue.done]
      (s.errorList (s.queue.queue.done % maxErrorLogsInstances))) := by
  have hcount : ¬ s.queue.queue.count < 1 := by
    have := h.queue.ok.count_eq
    omega
  have htail := h.atRest.tail_eq
  have hslot := h.atRest.holds.get (by simpa using hlt)
  have hderef := h.deref_vector le_rfl hlt
  rw [← htail, List.getElem_map] at hslot
  rw [h.size_eq] at htail
  rw [runErrorHandler, runQueueRun_of_item h.quiet h.runner_idle hcount
    (by rw [hslot]; rfl) (by rw [hslot]; rfl), Option.map_some]
  simp [QueueState.release, QueueState.gotoRunner, ranEvents, ErrorState.report, SysQueue.pop,
    hderef, htail]

namespace ErrorInv

/-- The calls behind this one are still to come. -/
theorem fresh_succ (h : ErrorInv s) {u : QueueState} {pc : ProducerPc} {p : ℕ}
    (hu : u.producer = Function.update s.queue.producer s.calls pc) (hp : s.calls + 1 ≤ p) :
    u.producer p = .idle := by
  have hne : p ≠ s.calls := by omega
  rw [hu, Function.update_of_ne hne]
  exact h.fresh p (Nat.le_of_succ_le hp)

/-- **The two rings stay in step under a call that finds the queue full.** -/
theorem refuse (h : ErrorInv s) (hfull : s.Full) (error : ℤ) : ErrorInv (s.refuse error) where
  queue := h.queue.sysQueue (sysQueue_of_full h.quiet (h.fresh _ le_rfl) hfull)
  quiet := ⟨rfl, h.quiet.globalLock, h.quiet.flag⟩
  runner_idle := h.runner_idle
  fresh _ hp := h.fresh_succ rfl hp
  size_eq := h.size_eq
  ptr_eq := h.ptr_eq
  passed_eq := by
    intro i hi
    have hne : s.queue.queue.accepted[i] ≠ s.calls :=
      fun heq => h.calls_not_mem (heq ▸ List.getElem_mem hi)
    exact (Function.update_of_ne hne _ _).trans (h.passed_eq i hi)
  succeeded_length := h.succeeded_length
  printed_length := h.printed_length

/-- **And under one whose pointer is queued.** -/
theorem take (h : ErrorInv s) (hroom : ¬ s.Full) (error : ℤ) : ErrorInv (s.take error) where
  queue := h.queue.sysQueue
    (sysQueue_of_lt h.quiet (h.fresh _ le_rfl) (Int.not_le.1 hroom))
  quiet := ⟨rfl, h.quiet.globalLock, h.quiet.flag⟩
  runner_idle := h.runner_idle
  fresh _ hp := h.fresh_succ rfl hp
  size_eq := h.size_eq
  ptr_eq := by
    have hptr := h.ptr_eq
    change (if s.errorListPtr + 1 > 5 then 0 else s.errorListPtr + 1) =
      (s.queue.queue.accepted ++ [s.calls]).length % 6
    rw [maxErrorLogsInstances] at hptr
    rw [List.length_append, List.length_singleton]
    split <;> omega
  passed_eq := by
    intro i hi
    change i < (s.queue.queue.accepted ++ [s.calls]).length at hi
    change Function.update s.passed s.calls s.errorListPtr
      (s.queue.queue.accepted ++ [s.calls])[i] = _
    rcases Nat.lt_or_ge i s.queue.queue.accepted.length with hlt | hge
    · rw [List.getElem_append_left hlt]
      have hne : s.queue.queue.accepted[i] ≠ s.calls :=
        fun heq => h.calls_not_mem (heq ▸ List.getElem_mem hlt)
      exact (Function.update_of_ne hne _ _).trans (h.passed_eq i hlt)
    · obtain rfl : i = s.queue.queue.accepted.length := by
        rw [List.length_append, List.length_singleton] at hi
        omega
      rw [List.getElem_concat_length rfl, Function.update_self, h.ptr_eq]
  succeeded_length := by
    change (s.succeeded ++ [error]).length = (s.queue.queue.accepted ++ [s.calls]).length
    rw [List.length_append, List.length_append, h.succeeded_length]
    rfl
  printed_length := h.printed_length

/-- **And when an item is taken out.** -/
theorem report (h : ErrorInv s) (hlt : s.queue.queue.done < s.queue.queue.accepted.length)
    (error : ℤ) :
    ErrorInv (s.report s.queue.queue.accepted[s.queue.queue.done] error) where
  queue := by
    have hcount : ¬ s.queue.queue.count < 1 := by
      have := h.queue.ok.count_eq
      omega
    have hslot := h.atRest.holds.get (by simpa using hlt)
    rw [← h.atRest.tail_eq, List.getElem_map] at hslot
    exact h.queue.runQueueRun (runQueueRun_of_item h.quiet h.runner_idle hcount
      (by rw [hslot]; rfl) (by rw [hslot]; rfl))
  quiet := ⟨rfl, h.quiet.globalLock, h.quiet.flag⟩
  runner_idle := QueueState.gotoRunner_self _ _ _
  fresh := h.fresh
  size_eq := h.size_eq
  ptr_eq := h.ptr_eq
  passed_eq := h.passed_eq
  succeeded_length := h.succeeded_length
  printed_length := by
    change (s.printed ++ [error]).length = s.queue.queue.done + 1
    rw [List.length_append, h.printed_length]
    rfl

/-- **And when there is nothing to take out.** -/
theorem nothing (h : ErrorInv s)
    (hempty : s.queue.queue.accepted.length = s.queue.queue.done) :
    ErrorInv { s with queue := s.queue.release.gotoRunner 0 .idle } where
  queue := by
    have hcount : s.queue.queue.count < 1 := by
      have := h.queue.ok.count_eq
      omega
    exact h.queue.runQueueRun (runQueueRun_of_empty h.quiet h.runner_idle hcount)
  quiet := ⟨rfl, h.quiet.globalLock, h.quiet.flag⟩
  runner_idle := QueueState.gotoRunner_self _ _ _
  fresh := h.fresh
  size_eq := h.size_eq
  ptr_eq := h.ptr_eq
  passed_eq := h.passed_eq
  succeeded_length := h.succeeded_length
  printed_length := h.printed_length

/-- Taking out is possible or there is nothing. -/
theorem empty_or_item (h : ErrorInv s) :
    s.queue.queue.accepted.length = s.queue.queue.done ∨
      s.queue.queue.done < s.queue.queue.accepted.length := by
  have := h.queue.ok.done_le
  omega

/-- **The two rings stay in step.** -/
theorem step (h : ErrorInv s) {call : ErrorCall} (hstep : errorStep call s = some t) :
    ErrorInv t := by
  cases call with
  | errorHandler error =>
      rw [errorStep] at hstep
      by_cases hfull : s.Full
      · rw [errorHandler_of_full h hfull] at hstep
        obtain rfl := Option.some.inj hstep
        exact h.refuse hfull error
      · rw [errorHandler_of_not_full h hfull] at hstep
        obtain rfl := Option.some.inj hstep
        exact h.take hfull error
  | runErrorHandler =>
      rw [errorStep] at hstep
      rcases h.empty_or_item with hempty | hlt
      · rw [runErrorHandler_of_empty h hempty] at hstep
        obtain rfl := Option.some.inj hstep
        exact h.nothing hempty
      · rw [runErrorHandler_of_item h hlt] at hstep
        obtain rfl := Option.some.inj hstep
        exact h.report hlt _

end ErrorInv

/-! ### The codes -/

/-- A full queue whose oldest code is raised again keeps its codes. -/
theorem ErrorCodes.refuse (h : ErrorCodes s) (error : ℤ)
    (hsame : s.errorList s.errorListPtr = error) : ErrorCodes (s.refuse error) where
  holds := by
    change Holds (Function.update s.errorList s.errorListPtr error) _ _ _
    rw [← hsame, Function.update_eq_self]
    exact h.holds
  printed_eq := h.printed_eq

variable (hinv : ErrorInv s)

include hinv

/-- **The pending codes are those raised and not yet printed.** -/
theorem ErrorCodes.pendingCodes_eq (h : ErrorCodes s) :
    s.pendingCodes = s.succeeded.drop s.queue.queue.done := by
  rw [hinv.pendingCodes_eq]
  refine List.ext_getElem (by simp [hinv.succeeded_length]) ?_
  intro i h₁ h₂
  rw [List.getElem_map, List.getElem_range, List.getElem_drop]
  rw [List.length_drop] at h₂
  exact h.holds _ (by omega) (by omega)

theorem ErrorCodes.take (h : ErrorCodes s) (hroom : ¬ s.Full) (error : ℤ) :
    ErrorCodes (s.take error) where
  holds := by
    have hlt : s.succeeded.length < s.queue.queue.done + maxErrorLogsInstances := by
      have := hinv.queue.ok.le_size
      have := hinv.size_eq
      have := hinv.succeeded_length
      have := hinv.full_iff.not.1 hroom
      omega
    have hptr : s.errorListPtr = s.succeeded.length % maxErrorLogsInstances := by
      rw [hinv.ptr_eq, hinv.succeeded_length]
    change Holds (Function.update s.errorList s.errorListPtr error) _ (s.succeeded ++ [error]) _
    rw [hptr]
    exact (h.holds.write_head hlt error).push (Function.update_self _ _ _)
  printed_eq := by
    have hdone : s.queue.queue.done ≤ s.succeeded.length := by
      rw [hinv.succeeded_length]
      exact hinv.queue.ok.done_le
    change s.printed = (s.succeeded ++ [error]).take s.queue.queue.done
    rw [List.take_append_of_le_length hdone]
    exact h.printed_eq

theorem ErrorCodes.report (h : ErrorCodes s)
    (hlt : s.queue.queue.done < s.queue.queue.accepted.length) :
    ErrorCodes (s.report s.queue.queue.accepted[s.queue.queue.done]
      (s.errorList (s.queue.queue.done % maxErrorLogsInstances))) where
  holds := h.holds.mono (Nat.le_succ _)
  printed_eq := by
    have hlt' : s.queue.queue.done < s.succeeded.length := by rwa [hinv.succeeded_length]
    change s.printed ++ [_] = s.succeeded.take (s.queue.queue.done + 1)
    rw [h.holds.get hlt', h.printed_eq, List.take_append_getElem hlt']

/-- **The codes are kept by every call that meets the condition.** -/
theorem ErrorCodes.step (h : ErrorCodes s) {call : ErrorCall} (hok : keepsOldest call s = true)
    (hstep : errorStep call s = some t) : ErrorCodes t := by
  cases call with
  | errorHandler error =>
      rw [errorStep] at hstep
      by_cases hfull : s.Full
      · rw [errorHandler_of_full hinv hfull] at hstep
        obtain rfl := Option.some.inj hstep
        refine h.refuse error ?_
        rw [keepsOldest, decide_eq_true hfull, hinv.head?_pendingCodes hfull] at hok
        simpa using hok
      · rw [errorHandler_of_not_full hinv hfull] at hstep
        obtain rfl := Option.some.inj hstep
        exact h.take hinv hfull error
  | runErrorHandler =>
      rw [errorStep] at hstep
      rcases hinv.empty_or_item with hempty | hlt
      · rw [runErrorHandler_of_empty hinv hempty] at hstep
        obtain rfl := Option.some.inj hstep
        exact ⟨h.holds, h.printed_eq⟩
      · rw [runErrorHandler_of_item hinv hlt] at hstep
        obtain rfl := Option.some.inj hstep
        exact h.report hinv hlt

/-- No call gets stuck. -/
theorem ErrorInv.possible (call : ErrorCall) : ∃ t, errorStep call s = some t := by
  cases call with
  | errorHandler error =>
      by_cases hfull : s.Full
      · exact ⟨_, errorHandler_of_full hinv hfull⟩
      · exact ⟨_, errorHandler_of_not_full hinv hfull⟩
  | runErrorHandler =>
      rcases hinv.empty_or_item with hempty | hlt
      · exact ⟨_, runErrorHandler_of_empty hinv hempty⟩
      · exact ⟨_, runErrorHandler_of_item hinv hlt⟩

theorem ErrorCodes.reportsRaised (h : ErrorCodes s) : ReportsRaised s where
  printed_pending := by
    rw [h.pendingCodes_eq hinv, h.printed_eq, List.take_append_drop]
  prints_next := by
    intro t hstep
    rw [errorStep] at hstep
    rw [h.pendingCodes_eq hinv]
    rcases hinv.empty_or_item with hempty | hlt
    · rw [runErrorHandler_of_empty hinv hempty] at hstep
      obtain rfl := Option.some.inj hstep
      rw [List.drop_of_length_le (by rw [hinv.succeeded_length, hempty])]
      simp
    · rw [runErrorHandler_of_item hinv hlt] at hstep
      obtain rfl := Option.some.inj hstep
      have hlt' : s.queue.queue.done < s.succeeded.length := by rwa [hinv.succeeded_length]
      rw [List.drop_eq_getElem_cons hlt', ← h.holds.get hlt']
      rfl
  possible := hinv.possible

/-- **A call that finds the queue full leaves the pending codes exactly if it raises the oldest of
them.** -/
theorem ErrorInv.refuse_pendingCodes_iff (hfull : s.Full)
    (hstep : errorStep (.errorHandler error) s = some t) :
    t.pendingCodes = s.pendingCodes ↔ keepsOldest (.errorHandler error) s = true := by
  rw [errorStep, errorHandler_of_full hinv hfull] at hstep
  obtain rfl := Option.some.inj hstep
  have hinv' := hinv.refuse hfull error
  have hhead := hinv.head?_pendingCodes hfull
  have hhead' : (s.refuse error).pendingCodes.head? = some error := by
    rw [hinv'.head?_pendingCodes hfull]
    exact congrArg some (Function.update_self _ _ _)
  rw [keepsOldest, decide_eq_true hfull]
  constructor
  · intro heq
    rw [← heq, hhead']
    simp
  · intro hok
    have hsame : s.errorList s.errorListPtr = error := by
      rw [hhead] at hok
      simpa using hok
    have hlist : (s.refuse error).errorList = s.errorList := by
      change Function.update s.errorList s.errorListPtr error = _
      rw [← hsame, Function.update_eq_self]
    rw [hinv'.pendingCodes_eq, hinv.pendingCodes_eq, hlist]
    rfl

omit hinv

/-! ### Runs -/

theorem errorInv_of_run {ok : ErrorCall → ErrorState → Bool}
    (h : Run errorStep ok initErrorHandlerQueue s) : ErrorInv s :=
  h.invariant initErrorHandlerQueue_inv fun _ _ _ hinv _ hstep => hinv.step hstep

theorem errorCodes_of_run (h : Run errorStep keepsOldest initErrorHandlerQueue s) :
    ErrorInv s ∧ ErrorCodes s :=
  h.invariant (I := fun s => ErrorInv s ∧ ErrorCodes s)
    ⟨initErrorHandlerQueue_inv, initErrorHandlerQueue_codes⟩
    fun _ _ _ hinv hok hstep => ⟨hinv.1.step hstep, hinv.2.step hinv.1 hok hstep⟩

/-- **The codes printed are those raised as long as a call that finds the queue full raises the
oldest pending code again**; a call that raises another one changes a pending code. -/
theorem reportsRaised_of_run (h : Run errorStep keepsOldest initErrorHandlerQueue s) :
    ReportsRaised s ∧ ∀ error t, s.Full → errorStep (.errorHandler error) s = some t →
      (t.pendingCodes = s.pendingCodes ↔ keepsOldest (.errorHandler error) s = true) := by
  obtain ⟨hinv, hcodes⟩ := errorCodes_of_run h
  exact ⟨hcodes.reportsRaised hinv, fun _ _ hfull hstep => hinv.refuse_pendingCodes_iff hfull hstep⟩

/-- Seven errors, of which the last is the first once more. -/
theorem reportsRaised_of_run_repeated : ∃ s,
    Run errorStep keepsOldest initErrorHandlerQueue s ∧ s.printed = [201] ∧
      ReportsRaised s ∧
      ∀ t, errorStep (.errorHandler 207) s = some t → s.Full → t.pendingCodes ≠ s.pendingCodes := by
  have hexec : (exec errorStep keepsOldest
      [.errorHandler 201, .errorHandler 202, .errorHandler 203, .errorHandler 204,
        .errorHandler 205, .errorHandler 206, .errorHandler 201, .runErrorHandler,
        .errorHandler 207] initErrorHandlerQueue).map
      (fun s => (s.printed, keepsOldest (.errorHandler 207) s)) = some ([201], false) := by
    decide
  obtain ⟨s, hs, hproj⟩ := Option.map_eq_some_iff.1 hexec
  obtain ⟨hprinted, hkeeps⟩ := Prod.mk.inj hproj
  obtain ⟨hok, hiff⟩ := reportsRaised_of_run (run_of_exec _ hs)
  refine ⟨s, run_of_exec _ hs, hprinted, hok, fun t hstep hfull heq => ?_⟩
  rw [(hiff 207 t hfull hstep).1 heq] at hkeeps
  cases hkeeps

/-- Seven different errors: the last takes the place of the first, which is never printed. -/
theorem reportsRaised_overwritten : ¬ ∀ s,
    Run errorStep (fun _ _ => true) initErrorHandlerQueue s → ReportsRaised s := by
  intro h
  have hexec : (exec errorStep (fun _ _ => true)
      [.errorHandler 201, .errorHandler 202, .errorHandler 203, .errorHandler 204,
        .errorHandler 205, .errorHandler 206, .errorHandler 207] initErrorHandlerQueue).map
      (fun s => (s.printed ++ s.pendingCodes, s.succeeded)) =
      some ([207, 202, 203, 204, 205, 206], [201, 202, 203, 204, 205, 206]) := by
    decide
  obtain ⟨s, hs, hproj⟩ := Option.map_eq_some_iff.1 hexec
  obtain ⟨hreported, hsucceeded⟩ := Prod.mk.inj hproj
  have hok := (h s (run_of_exec _ hs)).printed_pending
  rw [hreported, hsucceeded] at hok
  exact absurd hok (by decide)

end Solar48
