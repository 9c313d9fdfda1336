/-
**Whole calls of the queue.**

Where nothing interrupts it, a call of `sys_queue` or `run_queue_run` is its statements one after
the other.  With the locks free and the queue running, `sys_queue` puts its item in or finds the
queue full, and `run_queue_run` takes the oldest item out or finds the queue empty.

Main definitions:

* `sysQueue`, `runQueueRun` — the calls, from the first statement to the last;
* `SysQueue.push`, `SysQueue.pop` — what they do to the queue.

Main results:

* `sysQueue_of_full`, `sysQueue_of_lt` — the two outcomes of `sys_queue`;
* `runQueueRun_of_empty`, `runQueueRun_of_item` — the two outcomes of `run_queue_run`.
-/

import Solar48.SysQueueInvariant

set_option relaxedAutoImplicit false
set_option autoImplicit false

namespace Solar48

open StepSystem

variable (hasDestroyer : ℕ → Bool)

/-! ### The calls -/

/-- At most so many statements of call `p` of `sys_queue`. -/
def producerRun (p : ℕ) : ℕ → QueueState → QueueState
  | 0, s => s
  | n + 1, s =>
      match producerStep hasDestroyer p s with
      | some t => producerRun p n t
      | none => s

/-- At most so many statements of `run_queue_run`, up to its return. -/
def runnerRun (r : ℕ) : ℕ → QueueState → QueueState
  | 0, s => s
  | n + 1, s =>
      match s.runner r with
      | .idle => s
      | _ =>
          match runnerStep r s with
          | some t => runnerRun r n t
          | none => s

/-- `sys_queue`: what it returns and what it leaves. -/
def sysQueue (p : ℕ) (s : QueueState) : Option (ℤ × QueueState) :=
  match (producerRun hasDestroyer p 13 s).producer p with
  | .returned err => some (err, producerRun hasDestroyer p 13 s)
  | _ => none

/-- `run_queue_run` on items without a destroyer. -/
def runQueueRun (r : ℕ) (s : QueueState) : Option QueueState :=
  match runnerStep r s with
  | none => none
  | some t => if (runnerRun r 10 t).runner r = .idle then some (runnerRun r 10 t) else none

/-! ### They are runs -/

variable {hasDestroyer}

theorem run_producerRun (p n : ℕ) (s : QueueState) :
    Run (queueStep hasDestroyer) (fun _ _ => true) s (producerRun hasDestroyer p n s) := by
  induction n generalizing s with
  | zero => exact .refl
  | succ n ih =>
      rw [producerRun]
      cases hstep : producerStep hasDestroyer p s with
      | none => exact .refl
      | some t => exact (Run.refl.tail (.producer p) rfl hstep).trans (ih t)

theorem run_runnerRun (r n : ℕ) (s : QueueState) :
    Run (queueStep hasDestroyer) (fun _ _ => true) s (runnerRun r n s) := by
  induction n generalizing s with
  | zero => exact .refl
  | succ n ih =>
      rw [runnerRun]
      split
      · exact .refl
      · cases hstep : runnerStep r s with
        | none => exact .refl
        | some t => exact (Run.refl.tail (.runner r) rfl hstep).trans (ih t)

theorem QueueInv.sysQueue {s t : QueueState} {p : ℕ} {err : ℤ} (h : QueueInv hasDestroyer s)
    (hcall : Solar48.sysQueue hasDestroyer p s = some (err, t)) : QueueInv hasDestroyer t := by
  unfold Solar48.sysQueue at hcall
  split at hcall
  · obtain ⟨-, rfl⟩ := Prod.mk.inj (Option.some.inj hcall)
    exact (run_producerRun p 13 s).invariant h fun _ _ _ hinv _ hstep => hinv.step hstep
  · cases hcall

theorem QueueInv.runQueueRun {s t : QueueState} {r : ℕ} (h : QueueInv hasDestroyer s)
    (hcall : Solar48.runQueueRun r s = some t) : QueueInv hasDestroyer t := by
  unfold Solar48.runQueueRun at hcall
  cases hstep : runnerStep r s with
  | none =>
      rw [hstep] at hcall
      cases hcall
  | some u =>
      rw [hstep] at hcall
      dsimp only at hcall
      split at hcall
      · obtain rfl := Option.some.inj hcall
        have hu : QueueInv hasDestroyer u :=
          h.step (show queueStep hasDestroyer (.runner r) s = some u from hstep)
        exact (run_runnerRun r 10 u).invariant hu fun _ _ _ hinv _ hstep => hinv.step hstep
      · cases hcall

/-! ### What they do -/

variable (hasDestroyer)

/-- An item is put in. -/
def SysQueue.push (q : SysQueue) (p : ℕ) : SysQueue :=
  { q with
    vector := Function.update q.vector q.head (queueItem hasDestroyer p)
    head := (q.head + 1) % q.queueSize
    count := q.count + 1
    accepted := q.accepted ++ [p] }

/-- The oldest item is taken out, and its function has been called. -/
def SysQueue.pop (q : SysQueue) (f : ℕ) : SysQueue :=
  { q with
    vector := Function.update q.vector q.tail { q.vector q.tail with function := none }
    tail := (q.tail + 1) % q.queueSize
    count := q.count - 1
    done := q.done + 1
    log := q.log ++ [.ran f (q.vector q.tail).ctx] }

/-- Nobody holds a lock, and the queue is running. -/
structure QueueState.Quiet (s : QueueState) : Prop where
  lock : s.lock = false
  globalLock : s.globalLock = false
  flag : s.queue.flag = .running

variable {hasDestroyer} {s : QueueState} {p r : ℕ}

theorem sysQueue_of_full (h : s.Quiet) (hpc : s.producer p = .idle)
    (hfull : s.queue.count ≥ s.queue.queueSize) :
    sysQueue hasDestroyer p s =
      some (eSysQueueFull, s.release.gotoProducer p (.returned eSysQueueFull)) := by
  have hrun : producerRun hasDestroyer p 13 s =
      s.release.gotoProducer p (.returned eSysQueueFull) := by
    simp [producerRun, producerStep, hpc, h.lock, h.globalLock, h.flag, hfull,
      QueueState.gotoProducer, QueueState.acquire, QueueState.release]
  rw [sysQueue, hrun, QueueState.gotoProducer_self]

theorem sysQueue_of_lt (h : s.Quiet) (hpc : s.producer p = .idle)
    (hroom : s.queue.count < s.queue.queueSize) :
    sysQueue hasDestroyer p s =
      some (0, { s with queue := s.queue.push hasDestroyer p,
                        changes := s.changes ++ [p, p, p, p, p] }.release.gotoProducer p
                        (.returned 0)) := by
  have hroom' : ¬ s.queue.count ≥ s.queue.queueSize := by omega
  have hrun : producerRun hasDestroyer p 13 s =
      { s with queue := s.queue.push hasDestroyer p,
               changes := s.changes ++ [p, p, p, p, p] }.release.gotoProducer p (.returned 0) := by
    simp [producerRun, producerStep, hpc, h.lock, h.globalLock, h.flag, hroom',
      QueueState.gotoProducer, QueueState.acquire, QueueState.release, QueueState.change,
      SysQueue.store, SysQueue.push, queueItem]
  rw [sysQueue, hrun, QueueState.gotoProducer_self]

theorem runQueueRun_of_empty (h : s.Quiet) (hpc : s.runner r = .idle)
    (hempty : s.queue.count < 1) : runQueueRun r s = some (s.release.gotoRunner r .idle) := by
  simp [runQueueRun, runnerRun, runnerStep, hpc, h.lock, h.flag, hempty, QueueState.gotoRunner,
    QueueState.acquire, QueueState.release]

theorem runQueueRun_of_item (h : s.Quiet) (hpc : s.runner r = .idle) (hsome : ¬ s.queue.count < 1)
    {f : ℕ} (hfunction : (s.queue.vector s.queue.tail).function = some f)
    (hdestroyer : (s.queue.vector s.queue.tail).destroyer = none) :
    runQueueRun r s = some ({ s with queue := s.queue.pop f }.release.gotoRunner r .idle) := by
  simp [runQueueRun, runnerRun, runnerStep, hpc, h.lock, h.flag, hsome, hfunction, hdestroyer,
    QueueState.gotoRunner, QueueState.acquire, QueueState.release, QueueState.call,
    SysQueue.store, SysQueue.pop]

end Solar48
