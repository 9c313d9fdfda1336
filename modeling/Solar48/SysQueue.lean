/-
**The deferred-work queue: producers, runners and a shutdown around one lock.**

`sys_queue` puts a function, its context and a destroyer into a ring of slots, `run_queue_run`
takes the oldest item out and calls both, and `sys_queue_deinit` signals the end, waits until a
runner has called the destroyers that are left and frees the ring.  All three take `lock`; a
producer gives up where `global_lock` is set, and every attempt may end in a timeout.

The model is one step function with a label for whose turn it is; the parties are interleaved
statement by statement.  Calls of `sys_queue` are numbered, and what a call passes is represented
by its number: a slot says whose context, function and destroyer it holds.

The state also records what the program does not: who holds the lock, the calls that have put
their item into the queue, the functions and destroyers called, and the calls that wrote to the
queue.

Main definitions:

* `producerStep`, `runnerStep`, `deinitStep` — one statement of each operation;
* `queueStep` — all parties together;
* `sysQueueInit` — the state in which `sys_queue_init` returns;
* `FifoQueue` — first in, first out, nothing lost and nothing repeated.
-/

import Solar48.RingBuffer
import Solar48.StepSystem
import Mathlib.Data.Int.Notation
import Mathlib.Data.List.Nodup

set_option relaxedAutoImplicit false
set_option autoImplicit false

namespace Solar48

/-! ### Error numbers -/

abbrev eSysQueueFull : ℤ := 80
abbrev eSysAddQueueTimeoutOrGlobalLock : ℤ := 81
abbrev eSysAddQueueNotRunning : ℤ := 85
abbrev eSysQueueQueueOff : ℤ := 86

/-! ### The queue -/

/-- `QUEUE_FLAG`. -/
inductive QueueFlag
  | off | running | sendDeinitSignal | readyDeinit
  deriving DecidableEq, Repr

/-- `SYS_QUEUE_VEC`, by the numbers of the calls that passed the values; `none` is `NULL`. -/
structure SysQueueVec where
  ctx : Option ℕ
  function : Option ℕ
  destroyer : Option ℕ
  deriving DecidableEq, Repr

/-- What a runner calls, with the context that it passes, and the signal of `sys_queue_deinit`. -/
inductive QueueEvent
  | ran (function : ℕ) (ctx : Option ℕ)
  | destroyed (destroyer : ℕ) (ctx : Option ℕ)
  | deinitSignal
  deriving DecidableEq, Repr

/-- `SYS_QUEUE` without its two locks, and what happened to it. -/
structure SysQueue where
  flag : QueueFlag
  queueSize : ℕ
  head : ℕ
  tail : ℕ
  count : ℤ
  vector : ℕ → SysQueueVec
  /-- `vector` is not `NULL` -/
  allocated : Bool
  /-- the calls of `sys_queue` that put an item into the queue, the oldest first -/
  accepted : List ℕ
  /-- how many of them have been taken out -/
  done : ℕ
  /-- how many had been taken out at the signal, once it was given -/
  signalAt : Option ℕ
  log : List QueueEvent

/-- Writing to a slot. -/
def SysQueue.store (q : SysQueue) (i : ℕ) (x : SysQueueVec) : SysQueue :=
  { q with vector := Function.update q.vector i x }

@[simp] theorem SysQueue.store_self (q : SysQueue) (i : ℕ) (x : SysQueueVec) :
    (q.store i x).vector i = x := Function.update_self _ _ _

/-! ### The parties -/

/-- Where a call of `sys_queue` is: each place is about to do what it is named after. -/
inductive ProducerPc
  /-- not yet called -/
  | idle
  | checkFlag
  /-- inside `sys_try_lock_if_gbl_is_false` -/
  | checkGlobal
  | tryLock
  | readFlag
  | checkCount
  | loadHead
  | storeCtx (head : ℕ)
  | storeFunction (head : ℕ)
  | storeDestroyer (head : ℕ)
  | setHead (head : ℕ)
  | incCount
  | unlock (err : ℤ)
  | returned (err : ℤ)
  deriving DecidableEq, Repr

/-- Where a task is that calls `run_queue_run` again and again.  The part that the two paths
share tells by `drain` on which of them it is. -/
inductive QueueRunnerPc
  | idle
  | tryLock
  | readFlag
  | checkCount
  | load
  | callFunction (tail : ℕ) (ctx : Option ℕ)
  | clearFunction (tail : ℕ) (ctx : Option ℕ)
  | callDestroyer (drain : Bool) (tail : ℕ) (ctx : Option ℕ)
  | clearDestroyer (drain : Bool) (tail : ℕ)
  | setTail (drain : Bool) (tail : ℕ)
  | decCount (drain : Bool)
  | checkLeft
  | loadLeft
  | setReady
  | unlock
  /-- in `app_panic` -/
  | panicked
  deriving DecidableEq, Repr

/-- Where the call of `sys_queue_deinit` is. -/
inductive DeinitPc
  /-- not yet called -/
  | idle
  | tryGlobal
  | tryLock
  | readFlag
  | setSignal
  | unlockSignal
  | wait
  | tryLockAgain
  | setOff
  | free
  | unlock
  | unlockGlobal
  | returned
  /-- in `app_panic`, holding `lock` or not -/
  | panicked (locked : Bool)
  deriving DecidableEq, Repr

inductive Party
  | producer (p : ℕ)
  | runner (r : ℕ)
  | deinit
  deriving DecidableEq, Repr

structure QueueState where
  queue : SysQueue
  lock : Bool
  globalLock : Bool
  producer : ℕ → ProducerPc
  runner : ℕ → QueueRunnerPc
  deinit : DeinitPc
  /-- who holds `lock` -/
  owner : Option Party
  /-- the calls of `sys_queue` that wrote to the queue, once for each statement -/
  changes : List ℕ

/-- The state in which `sys_queue_init` returns. -/
def sysQueueInit (queueSize : ℤ) : QueueState where
  queue :=
    { flag := .running
      queueSize := if queueSize > 0 then queueSize.toNat else 4
      head := 0
      tail := 0
      count := 0
      vector := fun _ => ⟨none, none, none⟩
      allocated := true
      accepted := []
      done := 0
      signalAt := none
      log := [] }
  lock := false
  globalLock := false
  producer := fun _ => .idle
  runner := fun _ => .idle
  deinit := .idle
  owner := none
  changes := []

namespace QueueState

def gotoProducer (s : QueueState) (p : ℕ) (pc : ProducerPc) : QueueState :=
  { s with producer := Function.update s.producer p pc }

def gotoRunner (s : QueueState) (r : ℕ) (pc : QueueRunnerPc) : QueueState :=
  { s with runner := Function.update s.runner r pc }

@[simp] theorem gotoProducer_self (s : QueueState) (p : ℕ) (pc : ProducerPc) :
    (s.gotoProducer p pc).producer p = pc := Function.update_self _ _ _

theorem gotoProducer_of_ne (s : QueueState) {p p' : ℕ} (h : p' ≠ p) (pc : ProducerPc) :
    (s.gotoProducer p pc).producer p' = s.producer p' := Function.update_of_ne h _ _

@[simp] theorem gotoRunner_self (s : QueueState) (r : ℕ) (pc : QueueRunnerPc) :
    (s.gotoRunner r pc).runner r = pc := Function.update_self _ _ _

theorem gotoRunner_of_ne (s : QueueState) {r r' : ℕ} (h : r' ≠ r) (pc : QueueRunnerPc) :
    (s.gotoRunner r pc).runner r' = s.runner r' := Function.update_of_ne h _ _

/-- `x` gets `lock`. -/
def acquire (s : QueueState) (x : Party) : QueueState := { s with lock := true, owner := some x }

/-- `sys_unlock(&queue->lock)`. -/
def release (s : QueueState) : QueueState := { s with lock := false, owner := none }

/-- Call `p` writes to the queue. -/
def change (s : QueueState) (p : ℕ) (q : SysQueue) : QueueState :=
  { s with queue := q, changes := s.changes ++ [p] }

/-- A runner calls what it has found in a slot. -/
def call (s : QueueState) (e : QueueEvent) : QueueState :=
  { s with queue := { s.queue with log := s.queue.log ++ [e] } }

end QueueState

/-! ### Steps -/

variable (hasDestroyer : ℕ → Bool)

/-- The destroyer that a call passes. -/
def destroyerOf (p : ℕ) : Option ℕ := if hasDestroyer p then some p else none

/-- One statement of `sys_queue`, called with a destroyer or with `NULL`. -/
def producerStep (p : ℕ) (s : QueueState) : Option QueueState :=
  let q := s.queue
  match s.producer p with
  | .idle => some (s.gotoProducer p .checkFlag)
  -- this look at the flag is not protected by the lock, and made again under it
  | .checkFlag =>
      some (s.gotoProducer p (if q.flag = .off then .returned eSysQueueQueueOff else .checkGlobal))
  | .checkGlobal =>
      some (s.gotoProducer p
        (if s.globalLock then .returned eSysAddQueueTimeoutOrGlobalLock else .tryLock))
  | .tryLock =>
      if s.lock then some (s.gotoProducer p .checkGlobal)
      else some ((s.acquire (.producer p)).gotoProducer p .readFlag)
  | .readFlag =>
      some (s.gotoProducer p
        (if q.flag ≠ .running then .unlock eSysAddQueueNotRunning else .checkCount))
  | .checkCount =>
      some (s.gotoProducer p (if q.count ≥ q.queueSize then .unlock eSysQueueFull else .loadHead))
  | .loadHead => some (s.gotoProducer p (.storeCtx q.head))
  | .storeCtx h =>
      some ((s.change p (q.store h { q.vector h with ctx := some p })).gotoProducer p
        (.storeFunction h))
  | .storeFunction h =>
      some ((s.change p (q.store h { q.vector h with function := some p })).gotoProducer p
        (.storeDestroyer h))
  | .storeDestroyer h =>
      some ((s.change p (q.store h { q.vector h with
        destroyer := destroyerOf hasDestroyer p })).gotoProducer p (.setHead h))
  | .setHead h =>
      some ((s.change p { q with head := (h + 1) % q.queueSize }).gotoProducer p .incCount)
  | .incCount =>
      some ((s.change p { q with count := q.count + 1, accepted := q.accepted ++ [p] }).gotoProducer
        p (.unlock 0))
  | .unlock err => some (s.release.gotoProducer p (.returned err))
  | .returned _ => none

/-- `sys_try_lock_if_gbl_is_false` gives up. -/
def producerTimeout (p : ℕ) (s : QueueState) : Option QueueState :=
  match s.producer p with
  | .tryLock => some (s.gotoProducer p (.returned eSysAddQueueTimeoutOrGlobalLock))
  | _ => none

/-- One statement of `run_queue_run`. -/
def runnerStep (r : ℕ) (s : QueueState) : Option QueueState :=
  let q := s.queue
  match s.runner r with
  | .idle =>
      some (s.gotoRunner r (if q.flag = .off ∨ q.flag = .readyDeinit then .idle else .tryLock))
  | .tryLock =>
      if s.lock then some s else some ((s.acquire (.runner r)).gotoRunner r .readFlag)
  | .readFlag =>
      some (s.gotoRunner r (match q.flag with
        | .running => .checkCount
        | .sendDeinitSignal => .checkLeft
        | _ => .unlock))
  | .checkCount => some (s.gotoRunner r (if q.count < 1 then .unlock else .load))
  | .load => some (s.gotoRunner r (.callFunction q.tail (q.vector q.tail).ctx))
  | .callFunction tail ctx =>
      match (q.vector tail).function with
      | some f =>
          some ((s.call (.ran f ctx)).gotoRunner r (.clearFunction tail ctx))
      | none => some (s.gotoRunner r .panicked)
  | .clearFunction tail ctx =>
      some ({ s with queue := q.store tail { q.vector tail with function := none } }.gotoRunner r
        (.callDestroyer false tail ctx))
  | .callDestroyer drain tail ctx =>
      match (q.vector tail).destroyer with
      | some f =>
          some ((s.call (.destroyed f ctx)).gotoRunner r (.clearDestroyer drain tail))
      | none => some (s.gotoRunner r (.setTail drain tail))
  | .clearDestroyer drain tail =>
      some ({ s with queue := q.store tail { q.vector tail with destroyer := none } }.gotoRunner r
        (.setTail drain tail))
  | .setTail drain tail =>
      some ({ s with queue := { q with tail := (tail + 1) % q.queueSize } }.gotoRunner r
        (.decCount drain))
  | .decCount drain =>
      some ({ s with queue := { q with count := q.count - 1, done := q.done + 1 } }.gotoRunner r
        (if drain then .checkLeft else .unlock))
  -- the items left at the shutdown: their destroyers are called, their functions are not
  | .checkLeft => some (s.gotoRunner r (if q.count > 0 then .loadLeft else .setReady))
  | .loadLeft => some (s.gotoRunner r (.callDestroyer true q.tail (q.vector q.tail).ctx))
  | .setReady =>
      some ({ s with queue := { q with flag := .readyDeinit } }.gotoRunner r .unlock)
  | .unlock => some (s.release.gotoRunner r .idle)
  | .panicked => none

/-- `sys_try_lock` gives up, or the time for the destroyers is over. -/
def runnerTimeout (r : ℕ) (s : QueueState) : Option QueueState :=
  match s.runner r with
  | .tryLock => some (s.gotoRunner r .idle)
  -- `app_panic` is called with the lock held
  | .checkLeft => if s.queue.count > 0 then some (s.gotoRunner r .panicked) else none
  | _ => none

/-- One statement of `sys_queue_deinit`. -/
def deinitStep (s : QueueState) : Option QueueState :=
  let q := s.queue
  match s.deinit with
  | .idle => some { s with deinit := .tryGlobal }
  | .tryGlobal =>
      if s.globalLock then some s else some { s with globalLock := true, deinit := .tryLock }
  | .tryLock =>
      if s.lock then some s else some { s.acquire .deinit with deinit := .readFlag }
  | .readFlag =>
      match q.flag with
      | .running => some { s with deinit := .setSignal }
      | .off => some { s with deinit := if q.allocated then .panicked true else .unlock }
      | _ => some { s with deinit := .panicked true }
  | .setSignal =>
      some { s with
        queue := { q with
          flag := .sendDeinitSignal, signalAt := some q.done, log := q.log ++ [.deinitSignal] }
        deinit := .unlockSignal }
  | .unlockSignal => some { s.release with deinit := .wait }
  | .wait => some { s with deinit := if q.flag = .readyDeinit then .tryLockAgain else .wait }
  | .tryLockAgain =>
      if s.lock then some s else some { s.acquire .deinit with deinit := .setOff }
  | .setOff => some { s with queue := { q with flag := .off }, deinit := .free }
  | .free => some { s with queue := { q with allocated := false }, deinit := .unlock }
  | .unlock => some { s.release with deinit := .unlockGlobal }
  | .unlockGlobal => some { s with globalLock := false, deinit := .returned }
  | .returned => none
  | .panicked _ => none

/-- A wait of `sys_queue_deinit` ends in `app_panic`. -/
def deinitTimeout (s : QueueState) : Option QueueState :=
  match s.deinit with
  | .tryGlobal | .tryLock | .wait | .tryLockAgain => some { s with deinit := .panicked false }
  | _ => none

/-- Whose turn it is. -/
inductive QueueTurn
  | producer (p : ℕ)
  | producerTimeout (p : ℕ)
  | runner (r : ℕ)
  | runnerTimeout (r : ℕ)
  | deinit
  | deinitTimeout
  deriving DecidableEq, Repr

/-- One step of whoever's turn it is, if it is possible. -/
def queueStep (turn : QueueTurn) (s : QueueState) : Option QueueState :=
  match turn with
  | .producer p => producerStep hasDestroyer p s
  | .producerTimeout p => producerTimeout p s
  | .runner r => runnerStep r s
  | .runnerTimeout r => runnerTimeout r s
  | .deinit => deinitStep s
  | .deinitTimeout => deinitTimeout s

/-! ### First in, first out -/

/-- The functions called, with their contexts. -/
def ranEvents (log : List QueueEvent) : List (ℕ × Option ℕ) :=
  log.filterMap fun e => match e with
    | .ran f ctx => some (f, ctx)
    | _ => none

/-- The destroyers called, with their contexts. -/
def destroyedEvents (log : List QueueEvent) : List (ℕ × Option ℕ) :=
  log.filterMap fun e => match e with
    | .destroyed f ctx => some (f, ctx)
    | _ => none

/-- What a call of `sys_queue` writes to. -/
def SysQueue.contents (q : SysQueue) : ℕ × ℕ × ℤ × (ℕ → SysQueueVec) :=
  (q.head, q.tail, q.count, q.vector)

/-- **First in, first out; nothing lost, nothing repeated.** -/
structure FifoQueue (s : QueueState) : Prop where
  counters : s.lock = false → 0 ≤ s.queue.count ∧ s.queue.count ≤ s.queue.queueSize ∧
    s.queue.head < s.queue.queueSize ∧ s.queue.tail < s.queue.queueSize ∧
    (s.queue.head : ℤ) = (s.queue.tail + s.queue.count) % s.queue.queueSize
  /-- an item is accepted once -/
  accepted_nodup : s.queue.accepted.Nodup
  /-- a call that has returned has returned 0 if and only if its item is accepted -/
  accepted_iff : ∀ p err, s.producer p = .returned err → (err = 0 ↔ p ∈ s.queue.accepted)
  /-- a call whose item is accepted returns 0 -/
  accepted_returns : ∀ p ∈ s.queue.accepted, s.producer p = .unlock 0 ∨ s.producer p = .returned 0
  /-- the functions of the accepted items run in order, each once and with its own context -/
  ran_prefix : ranEvents s.queue.log <+: s.queue.accepted.map fun p => (p, some p)
  /-- when its function runs, a call has returned -/
  ran_returned : ∀ f ctx, (f, ctx) ∈ ranEvents s.queue.log → s.producer f = .returned 0
  /-- destroyers are those of accepted items, each called at most once with its own context -/
  destroyed_once : (destroyedEvents s.queue.log).Nodup
  destroyed_accepted : ∀ f ctx, (f, ctx) ∈ destroyedEvents s.queue.log →
    ctx = some f ∧ f ∈ s.queue.accepted ∧ hasDestroyer f = true
  /-- a function is not called after the destroyer -/
  ran_before : ∀ f l₁ l₂, s.queue.log = l₁ ++ .destroyed f (some f) :: l₂ →
    .ran f (some f) ∉ l₂
  /-- every destroyer has been called when the queue is off -/
  all_destroyed : s.queue.flag = .off → ∀ p ∈ s.queue.accepted, hasDestroyer p = true →
    (p, some p) ∈ destroyedEvents s.queue.log
  /-- no function runs after the signal -/
  no_run_after_signal : ∀ l₁ l₂, s.queue.log = l₁ ++ .deinitSignal :: l₂ → ranEvents l₂ = []
  /-- a call that returned an error has not written to the queue -/
  error_unchanged : ∀ p err, s.producer p = .returned err → err ≠ 0 → p ∉ s.changes
  /-- and whatever a call writes is recorded -/
  changes_recorded : ∀ p t, producerStep hasDestroyer p s = some t → t.changes = s.changes →
    t.queue.contents = s.queue.contents

end Solar48
