/-
**Start-up and shutdown of the queue.**

`sys_queue_init` takes `lock` and then `global_lock`, `sys_queue_deinit` takes `global_lock` and
then `lock`.  The first gives both back before it stores the flag that says that the queue runs,
and the second decides by that flag.

The model adds `sys_queue_init` to the parties of the queue, statement by statement, and starts
from a queue that is off.

Main definitions:

* `initStep`, `startStep` — one statement of `sys_queue_init`, and of any party;
* `StartOk` — the two calls do not block each other, and the flag and the vector agree;
* `startsApart` — the condition on a step under which this stays so.

Main results:

* `startOk_of_run` — **start-up and shutdown go well as long as every step meets the condition**,
  and a step that does not meet it goes wrong at once.
-/

import Solar48.SysQueue

set_option relaxedAutoImplicit false
set_option autoImplicit false

namespace Solar48

open StepSystem

/-! ### `sys_queue_init` -/

/-- The messages with which `sys_queue_init` calls `app_panic`. -/
inductive InitPanic
  | init1 | init2 | init3 | init4 | init5 | mem
  deriving DecidableEq, Repr

/-- Where the call of `sys_queue_init` is: each place is about to do what it is named after. -/
inductive InitPc
  /-- not yet called -/
  | idle
  /-- inside `sys_try_lock_if_gbl_is_false` -/
  | checkGlobal
  | tryLock
  | tryGlobal
  | checkVector
  | checkFlag
  | setEnableGlobalError
  | setQueueSize
  | setHead
  | setTail
  | setCount
  | malloc
  | unlock
  | unlockGlobal
  | setRunning
  | returned
  /-- in `app_panic` -/
  | panicked (message : InitPanic)
  deriving DecidableEq, Repr

/-- The queue and its parties, with the call of `sys_queue_init`. -/
structure StartState extends QueueState where
  enableGlobalError : Bool
  init : InitPc

/-- A queue that is off, with whatever is left in its other members. -/
def sysQueueOff (q : SysQueue) (enableGlobalError : Bool) : StartState where
  queue := { q with flag := .off, allocated := false }
  lock := false
  globalLock := false
  producer := fun _ => .idle
  runner := fun _ => .idle
  deinit := .idle
  owner := none
  changes := []
  enableGlobalError := enableGlobalError
  init := .idle

variable (hasDestroyer : ℕ → Bool) (queueSize : ℤ) (enableGlobalError : Bool)

/-- One statement of `sys_queue_init`. -/
def initStep (s : StartState) : Option StartState :=
  let q := s.queue
  match s.init with
  | .idle => some { s with init := .checkGlobal }
  | .checkGlobal =>
      some { s with init := if s.globalLock then .panicked .init2 else .tryLock }
  | .tryLock =>
      if s.lock then some { s with init := .checkGlobal }
      else some { s with lock := true, init := .tryGlobal }
  | .tryGlobal =>
      if s.globalLock then some s else some { s with globalLock := true, init := .checkVector }
  | .checkVector => some { s with init := if q.allocated then .panicked .init4 else .checkFlag }
  | .checkFlag =>
      some { s with init := if q.flag ≠ .off then .panicked .init5 else .setEnableGlobalError }
  | .setEnableGlobalError =>
      some { s with enableGlobalError := enableGlobalError, init := .setQueueSize }
  | .setQueueSize =>
      some { s with
        queue := { q with queueSize := if queueSize > 0 then queueSize.toNat else 4 }
        init := .setHead }
  | .setHead => some { s with queue := { q with head := 0 }, init := .setTail }
  | .setTail => some { s with queue := { q with tail := 0 }, init := .setCount }
  | .setCount => some { s with queue := { q with count := 0 }, init := .malloc }
  | .malloc => some { s with queue := { q with allocated := true }, init := .unlock }
  | .unlock => some { s with lock := false, init := .unlockGlobal }
  | .unlockGlobal => some { s with globalLock := false, init := .setRunning }
  | .setRunning => some { s with queue := { q with flag := .running }, init := .returned }
  | .returned => none
  | .panicked _ => none

/-- `sys_try_lock_if_gbl_is_false` or `sys_try_lock` gives up. -/
def initTimeout (s : StartState) : Option StartState :=
  match s.init with
  | .tryLock => some { s with init := .panicked .init1 }
  | .tryGlobal => some { s with init := .panicked .init3 }
  | _ => none

/-- `malloc` returns `NULL`. -/
def initMallocFails (s : StartState) : Option StartState :=
  match s.init with
  | .malloc => some { s with init := .panicked .mem }
  | _ => none

/-- Whose turn it is. -/
inductive StartTurn
  | init
  | initTimeout
  | initMallocFails
  | queue (turn : QueueTurn)
  deriving DecidableEq, Repr

/-- One step of whoever's turn it is, if it is possible. -/
def startStep (turn : StartTurn) (s : StartState) : Option StartState :=
  match turn with
  | .init => initStep queueSize enableGlobalError s
  | .initTimeout => initTimeout s
  | .initMallocFails => initMallocFails s
  | .queue turn =>
      (queueStep hasDestroyer turn s.toQueueState).map fun c => { s with toQueueState := c }

/-! ### What start-up and shutdown hold and wait for -/

namespace InitPc

/-- The call holds `lock`. -/
@[simp] def holdsLock : InitPc → Bool
  | tryGlobal | checkVector | checkFlag | setEnableGlobalError | setQueueSize | setHead | setTail
  | setCount | malloc | unlock => true
  | idle | checkGlobal | tryLock | unlockGlobal | setRunning | returned | panicked _ => false

/-- The call waits for `global_lock`. -/
@[simp] def waitsGlobal : InitPc → Bool
  | tryGlobal => true
  | _ => false

/-- The call holds `global_lock`. -/
@[simp] def holdsGlobal : InitPc → Bool
  | checkVector | checkFlag | setEnableGlobalError | setQueueSize | setHead | setTail | setCount
  | malloc | unlock | unlockGlobal => true
  | idle | checkGlobal | tryLock | tryGlobal | setRunning | returned | panicked _ => false

/-- The vector is there, and the flag does not yet say so. -/
@[simp] def published : InitPc → Bool
  | unlock | unlockGlobal | setRunning => true
  | _ => false

end InitPc

namespace DeinitPc

/-- The call holds `global_lock`. -/
@[simp] def holdsGlobal : DeinitPc → Bool
  | tryLock | readFlag | setSignal | unlockSignal | wait | tryLockAgain | setOff | free | unlock
  | unlockGlobal => true
  | idle | tryGlobal | returned | panicked _ => false

/-- The call waits for `lock`. -/
@[simp] def waitsLock : DeinitPc → Bool
  | tryLock | tryLockAgain => true
  | _ => false

/-- The call has not yet given the signal. -/
@[simp] def beforeSignal : DeinitPc → Bool
  | idle | tryGlobal | tryLock | readFlag | setSignal => true
  | _ => false

/-- The call has found the queue running, and has not yet freed the vector. -/
@[simp] def ending : DeinitPc → Bool
  | setSignal | unlockSignal | wait | tryLockAgain | setOff | free => true
  | _ => false

end DeinitPc

/-- **Start-up and shutdown do not block each other, and none of the consistency checks fails.** -/
structure StartOk (s : StartState) : Prop where
  not_blocked : ¬ (s.init.holdsLock = true ∧ s.init.waitsGlobal = true ∧
    s.deinit.holdsGlobal = true ∧ s.deinit.waitsLock = true)
  /-- `queue:INIT4` -/
  not_init4 : s.init ≠ .panicked .init4
  /-- `queue:INIT5` -/
  not_init5 : s.init ≠ .panicked .init5
  /-- `queue:DEINIT3` and `queue:DEINIT4`, which are found with `lock` held -/
  not_deinit3 : s.deinit ≠ .panicked true

/-- The condition on a step: `sys_queue_init` does not take `lock` while `sys_queue_deinit` waits
for it, nor `sys_queue_deinit` take `global_lock` while `sys_queue_init` waits for that, nor read
the flag when `sys_queue_init` is about to store it. -/
def startsApart : StartTurn → StartState → Bool
  | .init, s => !(s.init = .tryLock && !s.lock && s.deinit = .tryLock)
  | .queue .deinit, s =>
      !(s.deinit = .tryGlobal && !s.globalLock && s.init = .tryGlobal) &&
        !(s.deinit = .readFlag && s.init = .setRunning)
  | _, _ => true

/-! ### What the other parties can do -/

/-- The task is on the path of the shutdown. -/
@[simp] def QueueRunnerPc.draining : QueueRunnerPc → Bool
  | callDestroyer drain _ _ | clearDestroyer drain _ | setTail drain _ | decCount drain => drain
  | checkLeft | loadLeft | setReady => true
  | idle | tryLock | readFlag | checkCount | load | callFunction _ _ | clearFunction _ _ | unlock
  | panicked => false

/-- What neither a call of `sys_queue` nor `run_queue_run` touches. -/
structure QueueState.Untouched (s t : QueueState) : Prop where
  allocated : t.queue.allocated = s.queue.allocated
  globalLock : t.globalLock = s.globalLock
  deinit : t.deinit = s.deinit

variable {hasDestroyer queueSize enableGlobalError}
variable {c d : QueueState} {p r : ℕ}

/-- A call of `sys_queue` does not touch the flag either. -/
theorem producerStep_untouched (h : producerStep hasDestroyer p c = some d) :
    c.Untouched d ∧ d.queue.flag = c.queue.flag ∧ d.runner = c.runner := by
  unfold producerStep at h
  cases hpc : c.producer p with
  | tryLock =>
      simp only [hpc] at h
      split at h
      · obtain rfl := Option.some.inj h
        exact ⟨⟨rfl, rfl, rfl⟩, rfl, rfl⟩
      · obtain rfl := Option.some.inj h
        exact ⟨⟨rfl, rfl, rfl⟩, rfl, rfl⟩
  | returned err =>
      rw [hpc] at h
      cases h
  | _ =>
      rw [hpc] at h
      obtain rfl := Option.some.inj h
      exact ⟨⟨rfl, rfl, rfl⟩, rfl, rfl⟩

theorem producerTimeout_untouched (h : producerTimeout p c = some d) :
    c.Untouched d ∧ d.queue.flag = c.queue.flag ∧ d.runner = c.runner := by
  unfold producerTimeout at h
  cases hpc : c.producer p with
  | tryLock =>
      rw [hpc] at h
      obtain rfl := Option.some.inj h
      exact ⟨⟨rfl, rfl, rfl⟩, rfl, rfl⟩
  | _ =>
      rw [hpc] at h
      cases h

/-- What one statement of `run_queue_run` can do: the flag changes on the path of the shutdown, and
a task comes onto that path when it reads the signal. -/
structure RunnerEffect (r : ℕ) (c d : QueueState) : Prop where
  untouched : c.Untouched d
  flag : d.queue.flag = c.queue.flag ∨
    d.queue.flag = .readyDeinit ∧ (c.runner r).draining = true
  draining : ∀ r', (d.runner r').draining = true →
    (c.runner r').draining = true ∨ c.queue.flag = .sendDeinitSignal

/-- A task that moves on has the effect of its statement. -/
theorem RunnerEffect.goto {old new : QueueRunnerPc} (hpc : c.runner r = old)
    (huntouched : c.Untouched d) (hrunner : d.runner = c.runner)
    (hflag : d.queue.flag = c.queue.flag ∨
      d.queue.flag = .readyDeinit ∧ old.draining = true)
    (hnew : new.draining = true → old.draining = true ∨ c.queue.flag = .sendDeinitSignal) :
    RunnerEffect r c (d.gotoRunner r new) where
  untouched := ⟨huntouched.1, huntouched.2, huntouched.3⟩
  flag := by
    rw [hpc]
    exact hflag
  draining := by
    intro r' hdraining
    by_cases hr : r' = r
    · subst hr
      rw [QueueState.gotoRunner_self] at hdraining
      rw [hpc]
      exact hnew hdraining
    · rw [QueueState.gotoRunner_of_ne _ hr, hrunner] at hdraining
      exact Or.inl hdraining

/-- Waiting for the lock. -/
theorem RunnerEffect.refl (r : ℕ) (c : QueueState) : RunnerEffect r c c where
  untouched := ⟨rfl, rfl, rfl⟩
  flag := Or.inl rfl
  draining _ hdraining := Or.inl hdraining

theorem runnerStep_effect (h : runnerStep r c = some d) : RunnerEffect r c d := by
  unfold runnerStep at h
  cases hpc : c.runner r with
  | idle =>
      rw [hpc] at h
      obtain rfl := Option.some.inj h
      refine .goto hpc ⟨rfl, rfl, rfl⟩ rfl (Or.inl rfl) fun hnew => ?_
      split at hnew <;> cases hnew
  | tryLock =>
      simp only [hpc] at h
      split at h
      · obtain rfl := Option.some.inj h
        exact .refl r c
      · obtain rfl := Option.some.inj h
        exact .goto hpc ⟨rfl, rfl, rfl⟩ rfl (Or.inl rfl) nofun
  | readFlag =>
      rw [hpc] at h
      obtain rfl := Option.some.inj h
      refine .goto hpc ⟨rfl, rfl, rfl⟩ rfl (Or.inl rfl) fun hnew => ?_
      cases hflag : c.queue.flag with
      | sendDeinitSignal => exact Or.inr rfl
      | _ =>
          rw [hflag] at hnew
          cases hnew
  | checkCount =>
      rw [hpc] at h
      obtain rfl := Option.some.inj h
      refine .goto hpc ⟨rfl, rfl, rfl⟩ rfl (Or.inl rfl) fun hnew => ?_
      split at hnew <;> cases hnew
  | callFunction tail ctx =>
      simp only [hpc] at h
      split at h
      · obtain rfl := Option.some.inj h
        exact .goto hpc ⟨rfl, rfl, rfl⟩ rfl (Or.inl rfl) nofun
      · obtain rfl := Option.some.inj h
        exact .goto hpc ⟨rfl, rfl, rfl⟩ rfl (Or.inl rfl) nofun
  | callDestroyer drain tail ctx =>
      simp only [hpc] at h
      split at h
      · obtain rfl := Option.some.inj h
        exact .goto hpc ⟨rfl, rfl, rfl⟩ rfl (Or.inl rfl) Or.inl
      · obtain rfl := Option.some.inj h
        exact .goto hpc ⟨rfl, rfl, rfl⟩ rfl (Or.inl rfl) Or.inl
  | decCount drain =>
      rw [hpc] at h
      obtain rfl := Option.some.inj h
      refine .goto hpc ⟨rfl, rfl, rfl⟩ rfl (Or.inl rfl) fun hnew => ?_
      cases drain with
      | true => exact Or.inl rfl
      | false => cases hnew
  | checkLeft =>
      rw [hpc] at h
      obtain rfl := Option.some.inj h
      exact .goto hpc ⟨rfl, rfl, rfl⟩ rfl (Or.inl rfl) fun _ => Or.inl rfl
  | setReady =>
      rw [hpc] at h
      obtain rfl := Option.some.inj h
      exact .goto hpc ⟨rfl, rfl, rfl⟩ rfl (Or.inr ⟨rfl, rfl⟩) nofun
  | panicked =>
      rw [hpc] at h
      cases h
  -- what is left stays on its path
  | _ =>
      rw [hpc] at h
      obtain rfl := Option.some.inj h
      exact .goto hpc ⟨rfl, rfl, rfl⟩ rfl (Or.inl rfl) Or.inl

theorem runnerTimeout_effect (h : runnerTimeout r c = some d) : RunnerEffect r c d := by
  unfold runnerTimeout at h
  cases hpc : c.runner r with
  | tryLock =>
      rw [hpc] at h
      obtain rfl := Option.some.inj h
      exact .goto hpc ⟨rfl, rfl, rfl⟩ rfl (Or.inl rfl) nofun
  | checkLeft =>
      simp only [hpc] at h
      split at h
      · obtain rfl := Option.some.inj h
        exact .goto hpc ⟨rfl, rfl, rfl⟩ rfl (Or.inl rfl) nofun
      · cases h
  | _ =>
      rw [hpc] at h
      cases h

/-! ### What giving up does -/

theorem deinitTimeout_eq_some (h : deinitTimeout c = some d) :
    d = { c with deinit := .panicked false } := by
  unfold deinitTimeout at h
  split at h
  all_goals cases h
  all_goals rfl

variable {s t : StartState}

theorem initTimeout_eq_some (h : initTimeout s = some t) :
    s.init = .tryLock ∧ t = { s with init := .panicked .init1 } ∨
      s.init = .tryGlobal ∧ t = { s with init := .panicked .init3 } := by
  unfold initTimeout at h
  split at h
  · rename_i hpc
    exact Or.inl ⟨hpc, (Option.some.inj h).symm⟩
  · rename_i hpc
    exact Or.inr ⟨hpc, (Option.some.inj h).symm⟩
  · cases h

theorem initMallocFails_eq_some (h : initMallocFails s = some t) :
    s.init = .malloc ∧ t = { s with init := .panicked .mem } := by
  unfold initMallocFails at h
  split at h
  · rename_i hpc
    exact ⟨hpc, (Option.some.inj h).symm⟩
  · cases h

/-! ### The invariant -/

/-- What holds after every run. -/
structure StartInv (s : StartState) : Prop where
  /-- until `sys_queue_init` returns, it alone decides about the vector and the flag -/
  allocated_eq : s.init ≠ .returned → s.queue.allocated = s.init.published
  flag_off : s.init ≠ .returned → s.queue.flag = .off
  /-- then the queue runs until `sys_queue_deinit` gives the signal -/
  flag_running : s.init = .returned → s.deinit.beforeSignal = true → s.queue.flag = .running
  ending : s.deinit.ending = true → s.init = .returned
  draining : ∀ r, (s.runner r).draining = true →
    s.init = .returned ∧ s.deinit.beforeSignal = false
  /-- one of the two calls at most holds `global_lock` -/
  init_holds : s.init.holdsGlobal = true → s.globalLock = true ∧ s.deinit.holdsGlobal = false
  deinit_holds : s.deinit.holdsGlobal = true → s.globalLock = true

theorem sysQueueOff_inv (q : SysQueue) (e : Bool) : StartInv (sysQueueOff q e) where
  allocated_eq _ := rfl
  flag_off _ := rfl
  flag_running := nofun
  ending := nofun
  draining := nofun
  init_holds := nofun
  deinit_holds := nofun

namespace StartInv

/-- The flag says more than that the queue is off only when `sys_queue_init` has returned. -/
theorem returned (h : StartInv s) (hflag : s.queue.flag ≠ .off) : s.init = .returned := by
  by_contra hinit
  exact hflag (h.flag_off hinit)

/-- Once the signal is given, `sys_queue_deinit` is past it. -/
theorem beforeSignal (h : StartInv s) (hoff : s.queue.flag ≠ .off)
    (hrunning : s.queue.flag ≠ .running) : s.deinit.beforeSignal = false := by
  rw [← Bool.not_eq_true]
  intro hbefore
  exact hrunning (h.flag_running (h.returned hoff) hbefore)

/-- A party that does not touch what the two calls decide by. -/
theorem frame (h : StartInv s) {d : QueueState} (huntouched : s.Untouched d)
    (hflag : d.queue.flag = s.queue.flag)
    (hdraining : ∀ r, (d.runner r).draining = true →
      s.init = .returned ∧ s.deinit.beforeSignal = false) :
    StartInv { s with toQueueState := d } where
  allocated_eq := huntouched.allocated ▸ h.allocated_eq
  flag_off := hflag ▸ h.flag_off
  flag_running := huntouched.deinit ▸ hflag ▸ h.flag_running
  ending := huntouched.deinit ▸ h.ending
  draining := huntouched.deinit ▸ hdraining
  init_holds := huntouched.deinit ▸ huntouched.globalLock ▸ h.init_holds
  deinit_holds := huntouched.deinit ▸ huntouched.globalLock ▸ h.deinit_holds

/-- A statement of `run_queue_run`. -/
theorem runner (h : StartInv s) {d : QueueState} (heffect : RunnerEffect r s.toQueueState d) :
    StartInv { s with toQueueState := d } := by
  have huntouched := heffect.untouched
  have hdraining : ∀ r, (d.runner r).draining = true →
      s.init = .returned ∧ s.deinit.beforeSignal = false := by
    intro r' hr'
    rcases heffect.draining r' hr' with hold | hsignal
    · exact h.draining r' hold
    · exact ⟨h.returned (by rw [hsignal]; decide),
        h.beforeSignal (by rw [hsignal]; decide) (by rw [hsignal]; decide)⟩
  rcases heffect.flag with hflag | ⟨hflag, hready⟩
  · exact h.frame huntouched hflag hdraining
  -- the task stores that the queue is ready to be freed, which the signal has come before
  · obtain ⟨hreturned, hsignalled⟩ := h.draining r hready
    exact {
      allocated_eq := fun hinit => absurd hreturned hinit
      flag_off := fun hinit => absurd hreturned hinit
      flag_running := fun _ hbefore => by
        change d.deinit.beforeSignal = true at hbefore
        rw [huntouched.deinit, hsignalled] at hbefore
        cases hbefore
      ending := fun _ => hreturned
      draining := huntouched.deinit ▸ hdraining
      init_holds := huntouched.deinit ▸ huntouched.globalLock ▸ h.init_holds
      deinit_holds := huntouched.deinit ▸ huntouched.globalLock ▸ h.deinit_holds }

/-- `sys_queue_init` moves on before it returns. -/
theorem init_moves (h : StartInv s) {old new : InitPc} {q : SysQueue} {l g e : Bool}
    (hpc : s.init = old) (hold : old ≠ .returned) (hnew : new ≠ .returned)
    (hallocated : q.allocated = new.published) (hflag : q.flag = s.queue.flag)
    (hinit : new.holdsGlobal = true → g = true ∧ s.deinit.holdsGlobal = false)
    (hdeinit : s.deinit.holdsGlobal = true → g = true) :
    StartInv { s with
      queue := q, lock := l, globalLock := g, enableGlobalError := e, init := new } := by
  subst hpc
  exact {
    allocated_eq := fun _ => hallocated
    flag_off := fun _ => hflag.trans (h.flag_off hold)
    flag_running := fun hreturned => absurd hreturned hnew
    ending := fun hending => absurd (h.ending hending) hold
    draining := fun r hdraining => absurd (h.draining r hdraining).1 hold
    init_holds := hinit
    deinit_holds := hdeinit }

/-- **One statement of `sys_queue_init`.** -/
theorem init (h : StartInv s)
    (hstep : initStep queueSize enableGlobalError s = some t) : StartInv t := by
  unfold initStep at hstep
  have hallocated := h.allocated_eq
  have hholds := h.init_holds
  cases hpc : s.init with
  | idle =>
      rw [hpc] at hstep hallocated
      obtain rfl := Option.some.inj hstep
      exact h.init_moves hpc nofun nofun (hallocated nofun) rfl nofun h.deinit_holds
  | checkGlobal =>
      rw [hpc] at hstep hallocated
      obtain rfl := Option.some.inj hstep
      split
      · exact h.init_moves hpc nofun nofun (hallocated nofun) rfl nofun h.deinit_holds
      · exact h.init_moves hpc nofun nofun (hallocated nofun) rfl nofun h.deinit_holds
  | tryLock =>
      simp only [hpc] at hstep
      rw [hpc] at hallocated
      split at hstep
      · obtain rfl := Option.some.inj hstep
        exact h.init_moves hpc nofun nofun (hallocated nofun) rfl nofun h.deinit_holds
      · obtain rfl := Option.some.inj hstep
        exact h.init_moves hpc nofun nofun (hallocated nofun) rfl nofun h.deinit_holds
  | tryGlobal =>
      simp only [hpc] at hstep
      rw [hpc] at hallocated
      split at hstep
      · obtain rfl := Option.some.inj hstep
        exact h
      · rename_i hglobal
        obtain rfl := Option.some.inj hstep
        have hfree : s.deinit.holdsGlobal = false := by
          rw [← Bool.not_eq_true]
          intro hdeinit
          exact hglobal (h.deinit_holds hdeinit)
        exact h.init_moves hpc nofun nofun (hallocated nofun) rfl (fun _ => ⟨rfl, hfree⟩)
          fun _ => rfl
  | checkVector =>
      rw [hpc] at hstep hallocated hholds
      obtain rfl := Option.some.inj hstep
      rw [hallocated nofun]
      exact h.init_moves hpc nofun nofun (hallocated nofun) rfl hholds h.deinit_holds
  | checkFlag =>
      rw [hpc] at hstep hallocated hholds
      obtain rfl := Option.some.inj hstep
      rw [h.flag_off (by rw [hpc]; nofun)]
      exact h.init_moves hpc nofun nofun (hallocated nofun) rfl hholds h.deinit_holds
  | malloc =>
      rw [hpc] at hstep hholds
      obtain rfl := Option.some.inj hstep
      exact h.init_moves hpc nofun nofun rfl rfl hholds h.deinit_holds
  | unlockGlobal =>
      rw [hpc] at hstep hallocated hholds
      obtain rfl := Option.some.inj hstep
      refine h.init_moves hpc nofun nofun (hallocated nofun) rfl nofun fun hdeinit => ?_
      rw [(hholds rfl).2] at hdeinit
      cases hdeinit
  | setRunning =>
      rw [hpc] at hstep
      obtain rfl := Option.some.inj hstep
      have hne : s.init ≠ .returned := by
        rw [hpc]
        nofun
      exact {
        allocated_eq := fun hreturned => absurd rfl hreturned
        flag_off := fun hreturned => absurd rfl hreturned
        flag_running := fun _ _ => rfl
        ending := fun hending => absurd (h.ending hending) hne
        draining := fun r hdraining => absurd (h.draining r hdraining).1 hne
        init_holds := nofun
        deinit_holds := h.deinit_holds }
  | returned | panicked _ =>
      rw [hpc] at hstep
      cases hstep
  -- the members that only the producers and runners read
  | _ =>
      rw [hpc] at hstep hallocated hholds
      obtain rfl := Option.some.inj hstep
      exact h.init_moves hpc nofun nofun (hallocated nofun) rfl hholds h.deinit_holds

theorem initTimeout (h : StartInv s) (hstep : Solar48.initTimeout s = some t) : StartInv t := by
  have hallocated := h.allocated_eq
  rcases initTimeout_eq_some hstep with ⟨hpc, rfl⟩ | ⟨hpc, rfl⟩
  · rw [hpc] at hallocated
    exact h.init_moves hpc nofun nofun (hallocated nofun) rfl nofun h.deinit_holds
  · rw [hpc] at hallocated
    exact h.init_moves hpc nofun nofun (hallocated nofun) rfl nofun h.deinit_holds

theorem initMallocFails (h : StartInv s) (hstep : Solar48.initMallocFails s = some t) :
    StartInv t := by
  obtain ⟨hpc, rfl⟩ := initMallocFails_eq_some hstep
  have hallocated := h.allocated_eq
  rw [hpc] at hallocated
  exact h.init_moves hpc nofun nofun (hallocated nofun) rfl nofun h.deinit_holds

/-- `sys_queue_deinit` moves on without writing to the queue. -/
theorem deinit_moves (h : StartInv s) {old new : DeinitPc} {l g : Bool} {o : Option Party}
    (hpc : s.deinit = old) (hbefore : new.beforeSignal = true → old.beforeSignal = true)
    (hending : new.ending = true → s.init = .returned)
    (hinit : s.init.holdsGlobal = true → g = true ∧ new.holdsGlobal = false)
    (hdeinit : new.holdsGlobal = true → g = true) :
    StartInv { s with lock := l, globalLock := g, owner := o, deinit := new } := by
  subst hpc
  exact {
    allocated_eq := h.allocated_eq
    flag_off := h.flag_off
    flag_running := fun hreturned hnew => h.flag_running hreturned (hbefore hnew)
    ending := hending
    draining := fun r hdraining => by
      obtain ⟨hreturned, hsignalled⟩ := h.draining r hdraining
      refine ⟨hreturned, Bool.eq_false_iff.2 fun hnew => ?_⟩
      rw [hbefore hnew] at hsignalled
      cases hsignalled
    init_holds := hinit
    deinit_holds := hdeinit }

/-- `sys_queue_deinit` ends a queue that `sys_queue_init` has started. -/
theorem deinit_writes (h : StartInv s) {new : DeinitPc} {q : SysQueue}
    (hending : s.deinit.ending = true) (hholds : s.deinit.holdsGlobal = true)
    (hnew : new.beforeSignal = false) :
    StartInv { s with queue := q, deinit := new } := by
  have hreturned := h.ending hending
  exact {
    allocated_eq := fun hne => absurd hreturned hne
    flag_off := fun hne => absurd hreturned hne
    flag_running := fun _ hbefore => by
      change new.beforeSignal = true at hbefore
      rw [hnew] at hbefore
      cases hbefore
    ending := fun _ => hreturned
    draining := fun _ _ => ⟨hreturned, hnew⟩
    init_holds := fun hinit => by
      change s.init.holdsGlobal = true at hinit
      rw [hreturned] at hinit
      cases hinit
    deinit_holds := fun _ => h.deinit_holds hholds }

/-- **One statement of `sys_queue_deinit`.** -/
theorem deinit (h : StartInv s) {d : QueueState} (hstep : deinitStep s.toQueueState = some d) :
    StartInv { s with toQueueState := d } := by
  unfold deinitStep at hstep
  have hending := h.ending
  have hholds := h.deinit_holds
  have hinit := h.init_holds
  cases hpc : s.deinit with
  | idle =>
      rw [hpc] at hstep hinit
      obtain rfl := Option.some.inj hstep
      exact h.deinit_moves hpc (fun _ => rfl) nofun hinit nofun
  | tryGlobal =>
      simp only [hpc] at hstep
      split at hstep
      · obtain rfl := Option.some.inj hstep
        exact h
      · rename_i hglobal
        obtain rfl := Option.some.inj hstep
        refine h.deinit_moves hpc (fun _ => rfl) nofun (fun hinit => ?_) fun _ => rfl
        exact absurd (h.init_holds hinit).1 hglobal
  | tryLock =>
      simp only [hpc] at hstep
      rw [hpc] at hinit hholds
      split at hstep
      · obtain rfl := Option.some.inj hstep
        exact h
      · obtain rfl := Option.some.inj hstep
        exact h.deinit_moves hpc (fun _ => rfl) nofun hinit hholds
  | readFlag =>
      simp only [hpc] at hstep
      rw [hpc] at hinit hholds
      split at hstep
      · rename_i hflag
        obtain rfl := Option.some.inj hstep
        exact h.deinit_moves hpc (fun _ => rfl) (fun _ => h.returned (by rw [hflag]; decide)) hinit
          hholds
      · obtain rfl := Option.some.inj hstep
        split
        · exact h.deinit_moves hpc nofun nofun (fun hi => ⟨(hinit hi).1, rfl⟩) nofun
        · exact h.deinit_moves hpc nofun nofun hinit hholds
      · obtain rfl := Option.some.inj hstep
        exact h.deinit_moves hpc nofun nofun (fun hi => ⟨(hinit hi).1, rfl⟩) nofun
  | setSignal | setOff | free =>
      rw [hpc] at hstep
      obtain rfl := Option.some.inj hstep
      exact h.deinit_writes (by rw [hpc]; rfl) (by rw [hpc]; rfl) rfl
  | unlockSignal =>
      rw [hpc] at hstep hinit hholds hending
      obtain rfl := Option.some.inj hstep
      exact h.deinit_moves hpc nofun hending hinit hholds
  | wait =>
      rw [hpc] at hstep hinit hholds hending
      obtain rfl := Option.some.inj hstep
      split
      · exact h.deinit_moves hpc nofun hending hinit hholds
      · exact h.deinit_moves hpc nofun hending hinit hholds
  | tryLockAgain =>
      simp only [hpc] at hstep
      rw [hpc] at hinit hholds hending
      split at hstep
      · obtain rfl := Option.some.inj hstep
        exact h
      · obtain rfl := Option.some.inj hstep
        exact h.deinit_moves hpc nofun hending hinit hholds
  | unlock =>
      rw [hpc] at hstep hinit hholds
      obtain rfl := Option.some.inj hstep
      exact h.deinit_moves hpc nofun nofun hinit hholds
  | unlockGlobal =>
      rw [hpc] at hstep hinit
      obtain rfl := Option.some.inj hstep
      refine h.deinit_moves hpc nofun nofun (fun hi => ?_) nofun
      -- `sys_queue_init` does not hold what is given back here
      cases (hinit hi).2
  | returned | panicked _ =>
      rw [hpc] at hstep
      cases hstep

theorem deinitTimeout (h : StartInv s) {d : QueueState}
    (hstep : Solar48.deinitTimeout s.toQueueState = some d) :
    StartInv { s with toQueueState := d } := by
  obtain rfl := deinitTimeout_eq_some hstep
  exact h.deinit_moves rfl nofun nofun (fun hi => ⟨(h.init_holds hi).1, rfl⟩) nofun

/-- **What one step preserves.** -/
theorem step (h : StartInv s) {turn : StartTurn}
    (hstep : startStep hasDestroyer queueSize enableGlobalError turn s = some t) :
    StartInv t := by
  cases turn with
  | init => exact h.init hstep
  | initTimeout => exact h.initTimeout hstep
  | initMallocFails => exact h.initMallocFails hstep
  | queue turn =>
      obtain ⟨d, hd, rfl⟩ := Option.map_eq_some_iff.1 hstep
      cases turn with
      | producer p =>
          obtain ⟨huntouched, hflag, hrunner⟩ := producerStep_untouched hd
          exact h.frame huntouched hflag (hrunner ▸ h.draining)
      | producerTimeout p =>
          obtain ⟨huntouched, hflag, hrunner⟩ := producerTimeout_untouched hd
          exact h.frame huntouched hflag (hrunner ▸ h.draining)
      | runner r => exact h.runner (runnerStep_effect hd)
      | runnerTimeout r => exact h.runner (runnerTimeout_effect hd)
      | deinit => exact h.deinit hd
      | deinitTimeout => exact h.deinitTimeout hd

end StartInv

/-! ### The condition is exact -/

theorem sysQueueOff_ok (q : SysQueue) (e : Bool) : StartOk (sysQueueOff q e) :=
  ⟨nofun, nofun, nofun, nofun⟩

namespace StartOk

theorem of_eq (hok : StartOk s) (hinit : t.init = s.init) (hdeinit : t.deinit = s.deinit) :
    StartOk t where
  not_blocked := hinit ▸ hdeinit ▸ hok.not_blocked
  not_init4 := hinit ▸ hok.not_init4
  not_init5 := hinit ▸ hok.not_init5
  not_deinit3 := hdeinit ▸ hok.not_deinit3

theorem init_moves (hok : StartOk s) (hdeinit : t.deinit = s.deinit)
    (hwaits : t.init.waitsGlobal = false) (h4 : t.init ≠ .panicked .init4)
    (h5 : t.init ≠ .panicked .init5) : StartOk t where
  not_blocked := by
    rintro ⟨-, hwaits', -⟩
    rw [hwaits] at hwaits'
    cases hwaits'
  not_init4 := h4
  not_init5 := h5
  not_deinit3 := hdeinit ▸ hok.not_deinit3

theorem deinit_moves (hok : StartOk s) (hinit : t.init = s.init)
    (hwaits : t.deinit.waitsLock = false) (h3 : t.deinit ≠ .panicked true) : StartOk t where
  not_blocked := by
    rintro ⟨-, -, -, hwaits'⟩
    rw [hwaits] at hwaits'
    cases hwaits'
  not_init4 := hinit ▸ hok.not_init4
  not_init5 := hinit ▸ hok.not_init5
  not_deinit3 := h3

end StartOk

namespace StartInv

/-- Taking `lock` blocks the two calls exactly if `sys_queue_deinit` waits for it. -/
theorem take_lock_iff (h : StartInv s) (hok : StartOk s) (hpc : s.init = .tryLock)
    (hlock : s.lock = false) :
    StartOk { s with lock := true, init := .tryGlobal } ↔ startsApart .init s = true := by
  have hapart : startsApart .init s = true ↔ s.deinit ≠ .tryLock := by
    simp [startsApart, hpc, hlock]
  rw [hapart]
  constructor
  · intro hok' hdeinit
    have hblocked := hok'.not_blocked
    change ¬ (true = true ∧ true = true ∧ s.deinit.holdsGlobal = true ∧
      s.deinit.waitsLock = true) at hblocked
    rw [hdeinit] at hblocked
    exact hblocked ⟨rfl, rfl, rfl, rfl⟩
  · intro hdeinit
    refine ⟨?_, nofun, nofun, hok.not_deinit3⟩
    rintro ⟨-, -, -, hwaits⟩
    change s.deinit.waitsLock = true at hwaits
    cases hd : s.deinit with
    | tryLock => exact hdeinit hd
    -- this wait comes after `sys_queue_init`
    | tryLockAgain =>
        have hreturned := h.ending (by rw [hd]; rfl)
        rw [hpc] at hreturned
        cases hreturned
    | _ =>
        rw [hd] at hwaits
        cases hwaits

theorem init_ok_iff (h : StartInv s) (hok : StartOk s)
    (hstep : initStep queueSize enableGlobalError s = some t) :
    StartOk t ↔ startsApart .init s = true := by
  unfold initStep at hstep
  have hallocated := h.allocated_eq
  cases hpc : s.init with
  | tryLock =>
      simp only [hpc] at hstep
      cases hlock : s.lock with
      | true =>
          rw [hlock] at hstep
          obtain rfl := Option.some.inj hstep
          exact iff_of_true (hok.init_moves rfl rfl nofun nofun) (by simp [startsApart, hlock])
      | false =>
          rw [hlock] at hstep
          obtain rfl := Option.some.inj hstep
          exact h.take_lock_iff hok hpc hlock
  | checkGlobal =>
      rw [hpc] at hstep
      obtain rfl := Option.some.inj hstep
      refine iff_of_true ?_ (by simp [startsApart, hpc])
      split
      · exact hok.init_moves rfl rfl nofun nofun
      · exact hok.init_moves rfl rfl nofun nofun
  | tryGlobal =>
      simp only [hpc] at hstep
      refine iff_of_true ?_ (by simp [startsApart, hpc])
      split at hstep
      · obtain rfl := Option.some.inj hstep
        exact hok
      · obtain rfl := Option.some.inj hstep
        exact hok.init_moves rfl rfl nofun nofun
  | checkVector =>
      rw [hpc] at hstep hallocated
      obtain rfl := Option.some.inj hstep
      rw [hallocated nofun]
      exact iff_of_true (hok.init_moves rfl rfl nofun nofun) (by simp [startsApart, hpc])
  | checkFlag =>
      rw [hpc] at hstep
      obtain rfl := Option.some.inj hstep
      rw [h.flag_off (by rw [hpc]; nofun)]
      exact iff_of_true (hok.init_moves rfl rfl nofun nofun) (by simp [startsApart, hpc])
  | returned | panicked _ =>
      rw [hpc] at hstep
      cases hstep
  | _ =>
      rw [hpc] at hstep
      obtain rfl := Option.some.inj hstep
      exact iff_of_true (hok.init_moves rfl rfl nofun nofun) (by simp [startsApart, hpc])

/-- Taking `global_lock` blocks the two calls exactly if `sys_queue_init` waits for it. -/
theorem take_global_iff (hok : StartOk s) (hpc : s.deinit = .tryGlobal)
    (hglobal : s.globalLock = false) :
    StartOk { s with globalLock := true, deinit := .tryLock } ↔
      startsApart (.queue .deinit) s = true := by
  have hapart : startsApart (.queue .deinit) s = true ↔ s.init ≠ .tryGlobal := by
    simp [startsApart, hpc, hglobal]
  rw [hapart]
  constructor
  · intro hok' hinit
    have hblocked := hok'.not_blocked
    change ¬ (s.init.holdsLock = true ∧ s.init.waitsGlobal = true ∧ true = true ∧
      true = true) at hblocked
    rw [hinit] at hblocked
    exact hblocked ⟨rfl, rfl, rfl, rfl⟩
  · intro hinit
    refine ⟨?_, hok.not_init4, hok.not_init5, nofun⟩
    rintro ⟨-, hwaits, -⟩
    change s.init.waitsGlobal = true at hwaits
    cases hi : s.init with
    | tryGlobal => exact hinit hi
    | _ =>
        rw [hi] at hwaits
        cases hwaits

/-- What `sys_queue_deinit` finds when it reads the flag: the vector of a queue that does not run
is there exactly if `sys_queue_init` has yet to store the flag. -/
theorem allocated_iff (h : StartInv s) (hpc : s.deinit = .readFlag) (hflag : s.queue.flag = .off) :
    s.queue.allocated = true ↔ s.init = .setRunning := by
  have hne : s.init ≠ .returned := by
    intro hreturned
    have := h.flag_running hreturned (by rw [hpc]; rfl)
    rw [hflag] at this
    cases this
  have hinit := h.init_holds
  rw [hpc] at hinit
  rw [h.allocated_eq hne]
  cases hi : s.init with
  | setRunning => exact iff_of_true rfl rfl
  | unlock | unlockGlobal =>
      rw [hi] at hinit
      cases (hinit rfl).2
  | _ => exact iff_of_false nofun nofun

theorem deinit_ok_iff (h : StartInv s) (hok : StartOk s) {d : QueueState}
    (hstep : deinitStep s.toQueueState = some d) :
    StartOk { s with toQueueState := d } ↔ startsApart (.queue .deinit) s = true := by
  unfold deinitStep at hstep
  cases hpc : s.deinit with
  | tryGlobal =>
      simp only [hpc] at hstep
      cases hglobal : s.globalLock with
      | true =>
          rw [hglobal] at hstep
          obtain rfl := Option.some.inj hstep
          exact iff_of_true hok (by simp [startsApart, hpc, hglobal])
      | false =>
          rw [hglobal] at hstep
          obtain rfl := Option.some.inj hstep
          exact take_global_iff hok hpc hglobal
  | readFlag =>
      have hapart : startsApart (.queue .deinit) s = true ↔ s.init ≠ .setRunning := by
        simp [startsApart, hpc]
      have hbefore : s.deinit.beforeSignal = true := by rw [hpc]; rfl
      rw [hapart]
      simp only [hpc] at hstep
      cases hflag : s.queue.flag with
      | running =>
          rw [hflag] at hstep
          obtain rfl := Option.some.inj hstep
          refine iff_of_true (hok.deinit_moves rfl rfl nofun) ?_
          rw [h.returned (by rw [hflag]; decide)]
          nofun
      | off =>
          rw [hflag] at hstep
          obtain rfl := Option.some.inj hstep
          have hiff := h.allocated_iff hpc hflag
          cases hallocated : s.queue.allocated with
          | true =>
              refine iff_of_false (fun hok' => ?_) (not_not_intro (hiff.1 hallocated))
              exact hok'.not_deinit3 rfl
          | false =>
              refine iff_of_true (hok.deinit_moves rfl rfl nofun) fun hinit => ?_
              rw [hiff.2 hinit] at hallocated
              cases hallocated
      | sendDeinitSignal | readyDeinit =>
          rw [h.beforeSignal (by rw [hflag]; decide) (by rw [hflag]; decide)] at hbefore
          cases hbefore
  | tryLock | tryLockAgain =>
      simp only [hpc] at hstep
      refine iff_of_true ?_ (by simp [startsApart, hpc])
      split at hstep
      · obtain rfl := Option.some.inj hstep
        exact hok
      · obtain rfl := Option.some.inj hstep
        exact hok.deinit_moves rfl rfl nofun
  | wait =>
      rw [hpc] at hstep
      obtain rfl := Option.some.inj hstep
      refine iff_of_true ?_ (by simp [startsApart, hpc])
      refine ⟨?_, hok.not_init4, hok.not_init5, ?_⟩
      -- `sys_queue_init` has returned, and waits for nothing
      · have hreturned := h.ending (by rw [hpc]; rfl)
        rintro ⟨-, hwaits, -⟩
        change s.init.waitsGlobal = true at hwaits
        rw [hreturned] at hwaits
        cases hwaits
      · split <;> nofun
  | returned | panicked _ =>
      rw [hpc] at hstep
      cases hstep
  | _ =>
      rw [hpc] at hstep
      obtain rfl := Option.some.inj hstep
      exact iff_of_true (hok.deinit_moves rfl rfl nofun) (by simp [startsApart, hpc])

/-- **A step leads to a state in which start-up and shutdown go well exactly if it meets the
condition.** -/
theorem step_ok_iff (h : StartInv s) (hok : StartOk s) {turn : StartTurn}
    (hstep : startStep hasDestroyer queueSize enableGlobalError turn s = some t) :
    StartOk t ↔ startsApart turn s = true := by
  cases turn with
  | init => exact h.init_ok_iff hok hstep
  | initTimeout =>
      refine iff_of_true ?_ rfl
      rcases initTimeout_eq_some hstep with ⟨-, rfl⟩ | ⟨-, rfl⟩
      · exact hok.init_moves rfl rfl nofun nofun
      · exact hok.init_moves rfl rfl nofun nofun
  | initMallocFails =>
      refine iff_of_true ?_ rfl
      obtain ⟨-, rfl⟩ := initMallocFails_eq_some hstep
      exact hok.init_moves rfl rfl nofun nofun
  | queue turn =>
      obtain ⟨d, hd, rfl⟩ := Option.map_eq_some_iff.1 hstep
      cases turn with
      | producer p =>
          exact iff_of_true (hok.of_eq rfl (producerStep_untouched hd).1.deinit) rfl
      | producerTimeout p =>
          exact iff_of_true (hok.of_eq rfl (producerTimeout_untouched hd).1.deinit) rfl
      | runner r => exact iff_of_true (hok.of_eq rfl (runnerStep_effect hd).untouched.deinit) rfl
      | runnerTimeout r =>
          exact iff_of_true (hok.of_eq rfl (runnerTimeout_effect hd).untouched.deinit) rfl
      | deinit => exact h.deinit_ok_iff hok hd
      | deinitTimeout =>
          obtain rfl := deinitTimeout_eq_some hd
          exact iff_of_true (hok.deinit_moves rfl rfl nofun) rfl

end StartInv

/-! ### Runs -/

/-- **Start-up and shutdown go well in every state that steps which meet the condition lead to**,
and from there a step goes well exactly if it meets the condition. -/
theorem startOk_of_run {q : SysQueue} {e : Bool}
    (h : Run (startStep hasDestroyer queueSize enableGlobalError) startsApart
      (sysQueueOff q e) s) :
    StartOk s ∧ ∀ turn t, startStep hasDestroyer queueSize enableGlobalError turn s = some t →
      (StartOk t ↔ startsApart turn s = true) := by
  have hall : StartInv s ∧ StartOk s :=
    h.invariant (I := fun s => StartInv s ∧ StartOk s) ⟨sysQueueOff_inv q e, sysQueueOff_ok q e⟩
      fun _ _ _ hinv hok hstep => ⟨hinv.1.step hstep, (hinv.1.step_ok_iff hinv.2 hstep).2 hok⟩
  exact ⟨hall.2, fun _ _ hstep => hall.1.step_ok_iff hall.2 hstep⟩

/-- `sys_queue_init` returns, and then the queue is shut down. -/
theorem startOk_of_run_shutdown : ∃ s,
    Run (startStep (fun _ => false) 2 false) startsApart
      (sysQueueOff (sysQueueInit 4).queue true) s ∧
      s.init = .returned ∧ s.deinit = .returned ∧ StartOk s := by
  have hexec : (exec (startStep (fun _ => false) 2 false) startsApart
      (List.replicate 15 .init ++ List.replicate 6 (.queue .deinit) ++
        List.replicate 6 (.queue (.runner 0)) ++ List.replicate 6 (.queue .deinit))
      (sysQueueOff (sysQueueInit 4).queue true)).map
      (fun s => (s.init, s.deinit)) = some (.returned, .returned) := by
    decide
  obtain ⟨s, hs, hproj⟩ := Option.map_eq_some_iff.1 hexec
  obtain ⟨hinit, hdeinit⟩ := Prod.mk.inj hproj
  exact ⟨s, run_of_exec _ hs, hinit, hdeinit, (startOk_of_run (run_of_exec _ hs)).1⟩

/-- `sys_queue_init` takes `lock` after it has seen `global_lock` free, `sys_queue_deinit` takes
`global_lock` in between, and each waits for what the other holds. -/
theorem startOk_blocked : ¬ ∀ s,
    Run (startStep (fun _ => false) 2 false) (fun _ _ => true)
      (sysQueueOff (sysQueueInit 4).queue true) s → StartOk s := by
  intro h
  have hexec : (exec (startStep (fun _ => false) 2 false) (fun _ _ => true)
      [.init, .init, .queue .deinit, .queue .deinit, .init]
      (sysQueueOff (sysQueueInit 4).queue true)).map
      (fun s => (s.init, s.deinit)) = some (.tryGlobal, .tryLock) := by
    decide
  obtain ⟨s, hs, hproj⟩ := Option.map_eq_some_iff.1 hexec
  obtain ⟨hinit, hdeinit⟩ := Prod.mk.inj hproj
  refine (h s (run_of_exec _ hs)).not_blocked ?_
  rw [hinit, hdeinit]
  exact ⟨rfl, rfl, rfl, rfl⟩

end Solar48
