/-
**The queue between and inside critical sections.**

Whoever holds the lock is the only one to touch the queue, so the invariant is about the holder's
place: between two critical sections the counters and slots describe the items accepted and not
yet taken out, and the log is the history of those that were; inside one it says how far the
holder has got.

Main definitions:

* `history` — the log of a queue that has taken out the first items of a list;
* `SysQueue.Shape` — counters, slots and log, with the holder's progress as parameters;
* `QueueInv` — the invariant.

Main results:

* `QueueInv.step` — what one step preserves;
* `queueInv_of_run` — the invariant holds in every state that the parties can reach.
-/

import Solar48.SysQueue

set_option relaxedAutoImplicit false
set_option autoImplicit false

namespace Solar48

open RingBuffer StepSystem

variable (hasDestroyer : ℕ → Bool)

/-! ### The history of a queue -/

/-- The call of an item's destroyer, if it has one. -/
def destroyEvents (p : ℕ) : List QueueEvent :=
  if hasDestroyer p then [.destroyed p (some p)] else []

/-- What becomes of an item that is taken out, before the signal and after it. -/
def itemEvents (signalled : Bool) (p : ℕ) : List QueueEvent :=
  if signalled then destroyEvents hasDestroyer p
  else .ran p (some p) :: destroyEvents hasDestroyer p

/-- The function of the item comes first, and then its destroyer. -/
theorem itemEvents_eq (signalled : Bool) (p : ℕ) : itemEvents hasDestroyer signalled p =
    (if signalled then [] else [.ran p (some p)]) ++ destroyEvents hasDestroyer p := by
  cases signalled with
  | true => rfl
  | false => rfl

/-- The log after the first `done` items were taken out, of which `signalAt` before the signal. -/
def history (accepted : List ℕ) (done : ℕ) : Option ℕ → List QueueEvent
  | none => (accepted.take done).flatMap (itemEvents hasDestroyer false)
  | some k => (accepted.take k).flatMap (itemEvents hasDestroyer false) ++
      .deinitSignal :: ((accepted.take done).drop k).flatMap (itemEvents hasDestroyer true)

variable {hasDestroyer}

/-- Accepting an item does not change what has happened. -/
theorem history_append {accepted : List ℕ} {done : ℕ} {signalAt : Option ℕ} (p : ℕ)
    (hdone : done ≤ accepted.length) (hsig : ∀ k, signalAt = some k → k ≤ done) :
    history hasDestroyer (accepted ++ [p]) done signalAt =
      history hasDestroyer accepted done signalAt := by
  cases signalAt with
  | none => rw [history, history, List.take_append_of_le_length hdone]
  | some k =>
      rw [history, history, List.take_append_of_le_length hdone,
        List.take_append_of_le_length ((hsig k rfl).trans hdone)]

/-- Taking an item out adds its events. -/
theorem history_succ {accepted : List ℕ} {done : ℕ} {signalAt : Option ℕ} {p : ℕ}
    (hp : accepted[done]? = some p) (hsig : ∀ k, signalAt = some k → k ≤ done) :
    history hasDestroyer accepted (done + 1) signalAt =
      history hasDestroyer accepted done signalAt ++
        itemEvents hasDestroyer signalAt.isSome p := by
  have htake : accepted.take (done + 1) = accepted.take done ++ [p] := by
    rw [List.take_add_one, hp]
    rfl
  have hlen : (accepted.take done).length = done := by
    rw [List.length_take]
    exact Nat.min_eq_left (List.getElem?_eq_some_iff.1 hp).1.le
  cases signalAt with
  | none =>
      rw [history, history, htake, List.flatMap_append]
      simp
  -- what was taken out before the signal does not change
  | some k =>
      rw [history, history, htake, List.drop_append_of_le_length (by rw [hlen]; exact hsig k rfl),
        List.flatMap_append]
      simp

/-- The signal. -/
theorem history_signal (accepted : List ℕ) (done : ℕ) :
    history hasDestroyer accepted done (some done) =
      history hasDestroyer accepted done none ++ [.deinitSignal] := by
  rw [history, history, List.drop_of_length_le (List.length_take_le _ _)]
  rfl

/-! ### The invariant -/

/-- The item that a call passes. -/
def queueItem (hasDestroyer : ℕ → Bool) (p : ℕ) : SysQueueVec :=
  ⟨some p, some p, destroyerOf hasDestroyer p⟩

/-- What is always true of the queue. -/
structure SysQueue.Ok (q : SysQueue) : Prop where
  size_pos : 0 < q.queueSize
  done_le : q.done ≤ q.accepted.length
  le_size : q.accepted.length ≤ q.done + q.queueSize
  count_eq : q.count = q.accepted.length - q.done
  accepted_nodup : q.accepted.Nodup
  running_iff : q.flag = .running ↔ q.signalAt = none
  signal_le : ∀ k, q.signalAt = some k → k ≤ q.done
  drained : q.flag = .readyDeinit ∨ q.flag = .off → q.done = q.accepted.length

/-- The head stands after `head` items, the tail after `tail`, the slots hold the items from `lo`
on, and of the next item the events `part` have happened. -/
structure SysQueue.Shape (hasDestroyer : ℕ → Bool) (q : SysQueue) (head tail lo : ℕ)
    (part : List QueueEvent) : Prop where
  head_eq : q.head = head % q.queueSize
  tail_eq : q.tail = tail % q.queueSize
  holds : Holds q.vector q.queueSize (q.accepted.map (queueItem hasDestroyer)) lo
  log_eq : q.log = history hasDestroyer q.accepted q.done q.signalAt ++ part

/-- Between two critical sections. -/
def SysQueue.AtRest (hasDestroyer : ℕ → Bool) (q : SysQueue) : Prop :=
  q.Shape hasDestroyer q.accepted.length q.done q.done []

/-- Item `p` is being taken out, and its function may be overwritten. -/
def SysQueue.InHand (hasDestroyer : ℕ → Bool) (q : SysQueue) (p tail lo : ℕ)
    (part : List QueueEvent) : Prop :=
  q.accepted[q.done]? = some p ∧ q.Shape hasDestroyer q.accepted.length tail lo part

/-- What a call of `sys_queue` has done to the queue. -/
inductive CallPhase
  /-- nothing, and it does not hold the lock -/
  | outside
  /-- nothing, and it holds the lock -/
  | reading
  /-- it holds the lock and has begun to store its item -/
  | writing
  /-- it holds the lock and has put its item into the queue -/
  | accepted
  /-- the same, and the lock is given back -/
  | succeeded

namespace CallPhase

/-- The call holds the lock. -/
@[simp] def critical : CallPhase → Bool
  | outside | succeeded => false
  | reading | writing | accepted => true

/-- The call may have written to the queue. -/
@[simp] def wrote : CallPhase → Bool
  | outside | reading => false
  | writing | accepted | succeeded => true

/-- The call has put its item into the queue. -/
@[simp] def committed : CallPhase → Bool
  | outside | reading | writing => false
  | accepted | succeeded => true

end CallPhase

namespace ProducerPc

/-- How far the call has got. -/
@[simp] def phase : ProducerPc → CallPhase
  | idle | checkFlag | checkGlobal | tryLock => .outside
  | readFlag | checkCount | loadHead | storeCtx _ => .reading
  | storeFunction _ | storeDestroyer _ | setHead _ | incCount => .writing
  | unlock err => if err = 0 then .accepted else .reading
  | returned err => if err = 0 then .succeeded else .outside

/-- Giving the lock back, a call keeps what it has done. -/
theorem phase_cases (err : ℤ) :
    err = 0 ∧ (unlock err).phase = .accepted ∧ (returned err).phase = .succeeded ∨
      err ≠ 0 ∧ (unlock err).phase = .reading ∧ (returned err).phase = .outside := by
  rcases eq_or_ne err 0 with rfl | herr
  · exact Or.inl ⟨rfl, rfl, rfl⟩
  · exact Or.inr ⟨herr, if_neg herr, if_neg herr⟩

/-- A call that is about to return 0 has put its item into the queue. -/
theorem committed_unlock_iff {err : ℤ} : (unlock err).phase.committed = true ↔ err = 0 := by
  rcases phase_cases err with ⟨herr, hphase, -⟩ | ⟨herr, hphase, -⟩ <;> rw [hphase] <;> simp [herr]

theorem committed_returned_iff {err : ℤ} : (returned err).phase.committed = true ↔ err = 0 := by
  rcases phase_cases err with ⟨herr, -, hphase⟩ | ⟨herr, -, hphase⟩ <;> rw [hphase] <;> simp [herr]

/-- A call that has returned an error has not written to the queue. -/
theorem wrote_returned_iff {err : ℤ} : (returned err).phase.wrote = true ↔ err = 0 := by
  rcases phase_cases err with ⟨herr, -, hphase⟩ | ⟨herr, -, hphase⟩ <;> rw [hphase] <;> simp [herr]

/-- What call `p` relies on while it holds the lock. -/
def Place (hasDestroyer : ℕ → Bool) (q : SysQueue) (p : ℕ) : ProducerPc → Prop
  | checkCount => q.AtRest hasDestroyer ∧ q.flag = .running
  | loadHead =>
      q.AtRest hasDestroyer ∧ q.flag = .running ∧ q.accepted.length < q.done + q.queueSize
  | storeCtx h =>
      q.AtRest hasDestroyer ∧ q.flag = .running ∧ q.accepted.length < q.done + q.queueSize ∧
        h = q.accepted.length % q.queueSize
  | storeFunction h =>
      q.AtRest hasDestroyer ∧ q.flag = .running ∧ q.accepted.length < q.done + q.queueSize ∧
        h = q.accepted.length % q.queueSize ∧ (q.vector h).ctx = some p
  | storeDestroyer h =>
      q.AtRest hasDestroyer ∧ q.flag = .running ∧ q.accepted.length < q.done + q.queueSize ∧
        h = q.accepted.length % q.queueSize ∧ (q.vector h).ctx = some p ∧
        (q.vector h).function = some p
  | setHead h =>
      q.AtRest hasDestroyer ∧ q.flag = .running ∧ q.accepted.length < q.done + q.queueSize ∧
        h = q.accepted.length % q.queueSize ∧ q.vector h = queueItem hasDestroyer p
  | incCount =>
      q.Shape hasDestroyer (q.accepted.length + 1) q.done q.done [] ∧ q.flag = .running ∧
        q.accepted.length < q.done + q.queueSize ∧
        q.vector (q.accepted.length % q.queueSize) = queueItem hasDestroyer p
  | unlock err =>
      q.AtRest hasDestroyer ∧ (err = 0 → ∃ ps, q.accepted = ps ++ [p] ∧ q.done ≤ ps.length)
  | _ => q.AtRest hasDestroyer

end ProducerPc

namespace QueueRunnerPc

/-- The task holds the lock. -/
@[simp] def critical : QueueRunnerPc → Bool
  | idle | tryLock => false
  | readFlag | checkCount | load | callFunction _ _ | clearFunction _ _ | callDestroyer _ _ _
  | clearDestroyer _ _ | setTail _ _ | decCount _ | checkLeft | loadLeft | setReady | unlock
  | panicked => true

/-- What a task relies on while it holds the lock. -/
def Place (hasDestroyer : ℕ → Bool) (q : SysQueue) : QueueRunnerPc → Prop
  | checkCount => q.AtRest hasDestroyer ∧ q.flag = .running
  | load => q.AtRest hasDestroyer ∧ q.flag = .running ∧ q.done < q.accepted.length
  | callFunction tail ctx =>
      q.flag = .running ∧ tail = q.done % q.queueSize ∧
        ∃ p, ctx = some p ∧ q.InHand hasDestroyer p q.done q.done []
  | clearFunction tail ctx =>
      q.flag = .running ∧ tail = q.done % q.queueSize ∧
        ∃ p, ctx = some p ∧ q.InHand hasDestroyer p q.done q.done [.ran p (some p)]
  | callDestroyer drain tail ctx =>
      q.flag = (if drain then .sendDeinitSignal else .running) ∧ tail = q.done % q.queueSize ∧
        ∃ p, ctx = some p ∧ (q.vector tail).destroyer = destroyerOf hasDestroyer p ∧
          q.InHand hasDestroyer p q.done (q.done + 1) (if drain then [] else [.ran p (some p)])
  | clearDestroyer drain tail | setTail drain tail =>
      q.flag = (if drain then .sendDeinitSignal else .running) ∧ tail = q.done % q.queueSize ∧
        ∃ p, q.InHand hasDestroyer p q.done (q.done + 1) (itemEvents hasDestroyer drain p)
  | decCount drain =>
      q.flag = (if drain then .sendDeinitSignal else .running) ∧
        ∃ p, q.InHand hasDestroyer p (q.done + 1) (q.done + 1) (itemEvents hasDestroyer drain p)
  | checkLeft => q.AtRest hasDestroyer ∧ q.flag = .sendDeinitSignal
  | loadLeft =>
      q.AtRest hasDestroyer ∧ q.flag = .sendDeinitSignal ∧ q.done < q.accepted.length
  | setReady =>
      q.AtRest hasDestroyer ∧ q.flag = .sendDeinitSignal ∧ q.done = q.accepted.length
  | _ => q.AtRest hasDestroyer

end QueueRunnerPc

namespace DeinitPc

/-- The call holds the lock. -/
@[simp] def critical : DeinitPc → Bool
  | idle | tryGlobal | tryLock | wait | tryLockAgain | unlockGlobal | returned => false
  | readFlag | setSignal | unlockSignal | setOff | free | unlock => true
  | panicked locked => locked

/-- What the call knows about the flag. -/
def Expects (flag : QueueFlag) : DeinitPc → Prop
  | idle | tryGlobal | tryLock | readFlag | setSignal => flag = .running
  | unlockSignal | wait => flag = .sendDeinitSignal ∨ flag = .readyDeinit
  | tryLockAgain | setOff => flag = .readyDeinit
  | free | unlock | unlockGlobal | returned => flag = .off
  | panicked _ => True

end DeinitPc

namespace QueueState

/-- The party is in a critical section. -/
def critical (s : QueueState) : Party → Bool
  | .producer p => (s.producer p).phase.critical
  | .runner r => (s.runner r).critical
  | .deinit => s.deinit.critical

/-- What the party relies on while it holds the lock. -/
def Place (hasDestroyer : ℕ → Bool) (s : QueueState) : Party → Prop
  | .producer p => (s.producer p).Place hasDestroyer s.queue p
  | .runner r => (s.runner r).Place hasDestroyer s.queue
  | .deinit => s.queue.AtRest hasDestroyer

end QueueState

/-- What is true of the calls of `sys_queue`. -/
structure QueueState.Calls (s : QueueState) : Prop where
  committed : ∀ p, (s.producer p).phase.committed = true ↔ p ∈ s.queue.accepted
  wrote : ∀ p ∈ s.changes, (s.producer p).phase.wrote = true

structure QueueInv (hasDestroyer : ℕ → Bool) (s : QueueState) : Prop where
  lock_eq : s.lock = s.owner.isSome
  critical_iff : ∀ x, s.critical x = true ↔ s.owner = some x
  ok : s.queue.Ok
  rest : s.owner = none → s.queue.AtRest hasDestroyer
  place : ∀ x, s.owner = some x → s.Place hasDestroyer x
  expects : s.deinit.Expects s.queue.flag
  calls : s.Calls

variable {s t : QueueState} {q : SysQueue} {x : Party} {p r : ℕ}

theorem sysQueueInit_inv (queueSize : ℤ) : QueueInv hasDestroyer (sysQueueInit queueSize) where
  lock_eq := rfl
  critical_iff x := by cases x <;> simp [sysQueueInit, QueueState.critical]
  ok := by
    refine ⟨?_, le_rfl, Nat.zero_le _, rfl, List.nodup_nil, by simp [sysQueueInit], nofun,
      fun _ => rfl⟩
    dsimp only [sysQueueInit]
    split <;> omega
  rest _ := ⟨(Nat.zero_mod _).symm, (Nat.zero_mod _).symm, holds_nil _ _ _, rfl⟩
  place := nofun
  expects := rfl
  calls := ⟨fun p => by simp [sysQueueInit], nofun⟩

/-! ### The queue under one write -/

theorem SysQueue.Ok.store (h : q.Ok) (i : ℕ) (v : SysQueueVec) : (q.store i v).Ok :=
  ⟨h.1, h.2, h.3, h.4, h.5, h.6, h.7, h.8⟩

theorem SysQueue.Ok.of_log (h : q.Ok) (log : List QueueEvent) : { q with log := log }.Ok :=
  ⟨h.1, h.2, h.3, h.4, h.5, h.6, h.7, h.8⟩

theorem SysQueue.Ok.of_head (h : q.Ok) (head : ℕ) : { q with head := head }.Ok :=
  ⟨h.1, h.2, h.3, h.4, h.5, h.6, h.7, h.8⟩

theorem SysQueue.Ok.of_tail (h : q.Ok) (tail : ℕ) : { q with tail := tail }.Ok :=
  ⟨h.1, h.2, h.3, h.4, h.5, h.6, h.7, h.8⟩

/-- Once the signal is given, and only then, it is noted. -/
theorem SysQueue.Ok.signalAt_eq_none (h : q.Ok) (hflag : q.flag = .running) : q.signalAt = none :=
  h.running_iff.1 hflag

theorem SysQueue.Ok.signalAt_isSome (h : q.Ok) (hflag : q.flag ≠ .running) :
    q.signalAt.isSome = true :=
  Option.isSome_iff_ne_none.2 fun hnone => hflag (h.running_iff.2 hnone)

/-- The queue is ready when the items left are drained. -/
theorem SysQueue.Ok.ready (h : q.Ok) (hflag : q.flag = .sendDeinitSignal)
    (hall : q.done = q.accepted.length) : { q with flag := .readyDeinit }.Ok := by
  have hsignal := h.signalAt_isSome (by rw [hflag]; decide)
  refine ⟨h.1, h.2, h.3, h.4, h.5, ?_, h.7, fun _ => hall⟩
  refine iff_of_false nofun fun hnone => ?_
  change q.signalAt = none at hnone
  rw [hnone] at hsignal
  cases hsignal

section Shape

variable {head tail lo : ℕ} {part : List QueueEvent}

theorem SysQueue.Shape.store_head (h : q.Shape hasDestroyer head tail lo part)
    (hroom : q.accepted.length < lo + q.queueSize) (v : SysQueueVec) :
    (q.store (q.accepted.length % q.queueSize) v).Shape hasDestroyer head tail lo part := by
  refine ⟨h.head_eq, h.tail_eq, ?_, h.log_eq⟩
  have hlen : (q.accepted.map (queueItem hasDestroyer)).length = q.accepted.length :=
    List.length_map _
  have := h.holds.write_head (by rw [hlen]; exact hroom) v
  rwa [hlen] at this

theorem SysQueue.Shape.store_tail (h : q.Shape hasDestroyer head tail (lo + 1) part)
    (hroom : q.accepted.length ≤ lo + q.queueSize) (v : SysQueueVec) :
    (q.store (lo % q.queueSize) v).Shape hasDestroyer head tail (lo + 1) part :=
  ⟨h.head_eq, h.tail_eq, h.holds.write_tail (by rwa [List.length_map]) v, h.log_eq⟩

theorem SysQueue.Shape.mono (h : q.Shape hasDestroyer head tail lo part) :
    q.Shape hasDestroyer head tail (lo + 1) part :=
  ⟨h.head_eq, h.tail_eq, h.holds.mono (Nat.le_succ lo), h.log_eq⟩

theorem SysQueue.Shape.append (h : q.Shape hasDestroyer head tail lo part) (e : QueueEvent) :
    { q with log := q.log ++ [e] }.Shape hasDestroyer head tail lo (part ++ [e]) :=
  ⟨h.head_eq, h.tail_eq, h.holds, by
    change q.log ++ [e] = _
    rw [h.log_eq, List.append_assoc]⟩

theorem SysQueue.Shape.get (h : q.Shape hasDestroyer head tail lo part)
    (hp : q.accepted[lo]? = some p) : q.vector (lo % q.queueSize) = queueItem hasDestroyer p := by
  obtain ⟨hlt, hget⟩ := List.getElem?_eq_some_iff.1 hp
  have := h.holds.get (by rwa [List.length_map])
  rwa [List.getElem_map, hget] at this

end Shape

namespace QueueInv

/-! ### Moves -/

/-- While one party holds the lock no other is in a critical section. -/
theorem not_critical (h : QueueInv hasDestroyer s) (hx : s.owner = some x) {y : Party}
    (hne : y ≠ x) : s.critical y = false := by
  rw [Bool.eq_false_iff]
  intro hy
  rw [h.critical_iff, hx] at hy
  exact hne (Option.some.inj hy).symm

/-- A party outside its critical section moves on outside. -/
theorem elsewhere (h : QueueInv hasDestroyer s) (x : Party) (hx : s.critical x = false)
    (hx' : t.critical x = false) (hother : ∀ y, y ≠ x → t.critical y = s.critical y)
    (hplace : ∀ y, y ≠ x → s.Place hasDestroyer y → t.Place hasDestroyer y)
    (hlock : t.lock = s.lock) (howner : t.owner = s.owner) (hqueue : t.queue = s.queue)
    (hexpects : t.deinit.Expects t.queue.flag) (hcalls : t.Calls) : QueueInv hasDestroyer t := by
  have hne : ∀ y, s.owner = some y → y ≠ x := by
    rintro y hy rfl
    rw [(h.critical_iff y).2 hy] at hx
    cases hx
  refine ⟨by rw [hlock, howner]; exact h.lock_eq, fun y => ?_, hqueue ▸ h.ok, ?_, ?_, hexpects,
    hcalls⟩
  · rw [howner, ← h.critical_iff y]
    rcases eq_or_ne y x with rfl | hy
    · rw [hx, hx']
    · rw [hother y hy]
  · rw [howner, hqueue]
    exact h.rest
  · intro y hy
    rw [howner] at hy
    exact hplace y (hne y hy) (h.place y hy)

/-- The holder of the lock moves on and keeps it. -/
theorem inside (h : QueueInv hasDestroyer s) (hx : s.owner = some x)
    (hx' : t.critical x = true) (hother : ∀ y, y ≠ x → t.critical y = s.critical y)
    (hlock : t.lock = s.lock) (howner : t.owner = s.owner) (hok : t.queue.Ok)
    (hplace : t.Place hasDestroyer x) (hexpects : t.deinit.Expects t.queue.flag)
    (hcalls : t.Calls) : QueueInv hasDestroyer t := by
  refine ⟨by rw [hlock, howner]; exact h.lock_eq, fun y => ?_, hok, fun hnone => ?_,
    fun y hy => ?_, hexpects, hcalls⟩
  · rw [howner, ← h.critical_iff y]
    rcases eq_or_ne y x with rfl | hy
    · rw [hx', (h.critical_iff y).2 hx]
    · rw [hother y hy]
  · rw [howner, hx] at hnone
    cases hnone
  · rw [howner, hx] at hy
    obtain rfl := Option.some.inj hy
    exact hplace

/-- A party gets the lock, and finds the queue at rest. -/
theorem enter (h : QueueInv hasDestroyer s) (hfree : s.lock = false) (x : Party)
    (hx' : t.critical x = true) (hother : ∀ y, y ≠ x → t.critical y = s.critical y)
    (hlock : t.lock = true) (howner : t.owner = some x) (hqueue : t.queue = s.queue)
    (hplace : s.queue.AtRest hasDestroyer → t.Place hasDestroyer x)
    (hexpects : t.deinit.Expects t.queue.flag) (hcalls : t.Calls) : QueueInv hasDestroyer t := by
  have hnone : s.owner = none := by
    rw [h.lock_eq] at hfree
    exact Option.not_isSome_iff_eq_none.1 (by rw [hfree]; exact Bool.false_ne_true)
  refine ⟨by rw [hlock, howner]; rfl, fun y => ?_, hqueue ▸ h.ok, fun hno => ?_, fun y hy => ?_,
    hexpects, hcalls⟩
  · rw [howner]
    rcases eq_or_ne y x with rfl | hy
    · rw [hx']
      exact iff_of_true rfl rfl
    · rw [hother y hy, h.critical_iff y, hnone]
      exact iff_of_false nofun fun heq => hy (Option.some.inj heq).symm
  · rw [howner] at hno
    cases hno
  · rw [howner] at hy
    obtain rfl := Option.some.inj hy
    exact hplace (h.rest hnone)

/-- The holder gives the lock back, and leaves the queue at rest. -/
theorem leave (h : QueueInv hasDestroyer s) (hx : s.owner = some x)
    (hx' : t.critical x = false) (hother : ∀ y, y ≠ x → t.critical y = s.critical y)
    (hlock : t.lock = false) (howner : t.owner = none) (hqueue : t.queue = s.queue)
    (hrest : s.queue.AtRest hasDestroyer) (hexpects : t.deinit.Expects t.queue.flag)
    (hcalls : t.Calls) : QueueInv hasDestroyer t := by
  refine ⟨by rw [hlock, howner]; rfl, fun y => ?_, hqueue ▸ h.ok, fun _ => hqueue ▸ hrest,
    fun y hy => ?_, hexpects, hcalls⟩
  · rw [howner]
    rcases eq_or_ne y x with rfl | hy
    · rw [hx']
      exact iff_of_false nofun nofun
    · rw [hother y hy, h.not_critical hx hy]
      exact iff_of_false nofun nofun
  · rw [howner] at hy
    cases hy

/-! ### Statements of `sys_queue` -/

theorem producer_other (s : QueueState) (pc : ProducerPc) :
    ∀ y, y ≠ .producer p → (s.gotoProducer p pc).critical y = s.critical y := by
  intro y hy
  cases y with
  | producer p' =>
      have hne : p' ≠ p := fun heq => hy (heq ▸ rfl)
      rw [QueueState.critical, QueueState.critical, QueueState.gotoProducer_of_ne s hne]
  | runner r => rfl
  | deinit => rfl

/-- What the calls know when one of them moves on and does not accept anything. -/
theorem calls_producer {pc : ProducerPc} (h : s.Calls)
    (hproducer : t.producer = Function.update s.producer p pc)
    (haccepted : t.queue.accepted = s.queue.accepted)
    (hcommitted : pc.phase.committed = (s.producer p).phase.committed)
    (hchanges : ∀ p' ∈ t.changes, p' ≠ p → p' ∈ s.changes)
    (hwrote : p ∈ t.changes → pc.phase.wrote = true) : t.Calls := by
  constructor
  · intro p'
    rw [haccepted, ← h.committed p', hproducer]
    rcases eq_or_ne p' p with rfl | hne
    · rw [Function.update_self, hcommitted]
    · rw [Function.update_of_ne hne]
  · intro p' hp'
    rw [hproducer]
    rcases eq_or_ne p' p with rfl | hne
    · rw [Function.update_self]
      exact hwrote hp'
    · rw [Function.update_of_ne hne]
      exact h.wrote p' (hchanges p' hp' hne)

/-- A call without the lock moves on, and may give up. -/
theorem producer_elsewhere (h : QueueInv hasDestroyer s) {old new : ProducerPc}
    (hpc : s.producer p = old) (hold : old.phase = .outside) (hnew : new.phase = .outside) :
    QueueInv hasDestroyer (s.gotoProducer p new) := by
  subst hpc
  refine h.elsewhere (.producer p) (by rw [QueueState.critical, hold]; rfl)
    (by rw [QueueState.critical, QueueState.gotoProducer_self, hnew]; rfl)
    (producer_other s new) (fun y hy hplace => ?_) rfl rfl rfl h.expects
    (calls_producer h.calls rfl rfl (by rw [hold, hnew]) (fun _ hp' _ => hp') fun hp => ?_)
  · cases y with
    | producer p' =>
        have hne : p' ≠ p := fun heq => hy (heq ▸ rfl)
        rw [QueueState.Place, QueueState.gotoProducer_of_ne s hne]
        exact hplace
    | runner r => exact hplace
    | deinit => exact hplace
  · have := h.calls.wrote p hp
    rw [hold] at this
    cases this

/-- A call with the lock looks at the queue. -/
theorem producer_read (h : QueueInv hasDestroyer s) {old new : ProducerPc}
    (hpc : s.producer p = old) (hold : old.phase = .reading) (hnew : new.phase = .reading)
    (hplace : new.Place hasDestroyer s.queue p) :
    QueueInv hasDestroyer (s.gotoProducer p new) := by
  subst hpc
  refine h.inside ((h.critical_iff (.producer p)).1 (by rw [QueueState.critical, hold]; rfl))
    (by rw [QueueState.critical, QueueState.gotoProducer_self, hnew]; rfl) (producer_other s new)
    rfl rfl h.ok (by rw [QueueState.Place, QueueState.gotoProducer_self]; exact hplace) h.expects
    (calls_producer h.calls rfl rfl (by rw [hold, hnew]) (fun _ hp' _ => hp') fun hp => ?_)
  have := h.calls.wrote p hp
  rw [hold] at this
  cases this

/-- A call with the lock writes to the queue. -/
theorem producer_write (h : QueueInv hasDestroyer s) {old new : ProducerPc}
    (hpc : s.producer p = old) (hold : old.phase = .reading ∨ old.phase = .writing)
    (hnew : new.phase = .writing) (hok : q.Ok) (haccepted : q.accepted = s.queue.accepted)
    (hflag : q.flag = s.queue.flag) (hplace : new.Place hasDestroyer q p) :
    QueueInv hasDestroyer ((s.change p q).gotoProducer p new) := by
  subst hpc
  have hcrit : s.critical (.producer p) = true := by
    rw [QueueState.critical]
    rcases hold with hold | hold <;> rw [hold] <;> rfl
  have hcommitted : (s.producer p).phase.committed = false := by
    rcases hold with hold | hold <;> rw [hold] <;> rfl
  refine h.inside ((h.critical_iff (.producer p)).1 hcrit)
    (by rw [QueueState.critical, QueueState.gotoProducer_self, hnew]; rfl)
    (producer_other (s.change p q) new) rfl rfl hok
    (by rw [QueueState.Place, QueueState.gotoProducer_self]; exact hplace) (hflag ▸ h.expects)
    (calls_producer h.calls rfl haccepted (by rw [hcommitted, hnew]; rfl)
      (fun p' hp' hne => ?_) fun _ => by rw [hnew]; rfl)
  rcases List.mem_append.1 hp' with hmem | hmem
  · exact hmem
  · exact absurd (List.mem_singleton.1 hmem) hne

/-- An item joins the queue. -/
theorem producer_commit (h : QueueInv hasDestroyer s) (hpc : s.producer p = .incCount) :
    QueueInv hasDestroyer ((s.change p { s.queue with
      count := s.queue.count + 1, accepted := s.queue.accepted ++ [p] }).gotoProducer p
        (.unlock 0)) := by
  have hx : s.owner = some (.producer p) :=
    (h.critical_iff (.producer p)).1 (by rw [QueueState.critical, hpc]; rfl)
  have hplace := h.place _ hx
  rw [QueueState.Place, hpc] at hplace
  obtain ⟨hshape, hflag, hroom, hitem⟩ := hplace
  have hnew : p ∉ s.queue.accepted := by
    rw [← h.calls.committed, hpc]
    exact Bool.false_ne_true
  have hlen : (s.queue.accepted ++ [p]).length = s.queue.accepted.length + 1 := by simp
  refine h.inside hx ?_ (producer_other (s.change p _) _) rfl rfl ?_ ?_ h.expects
    ⟨fun p' => ?_, fun p' hp' => ?_⟩
  · rw [QueueState.critical, QueueState.gotoProducer_self]
    rfl
  · refine ⟨h.ok.size_pos, ?_, ?_, ?_, ?_, h.ok.running_iff, h.ok.signal_le, ?_⟩
    · have := h.ok.done_le
      change s.queue.done ≤ (s.queue.accepted ++ [p]).length
      omega
    · change (s.queue.accepted ++ [p]).length ≤ s.queue.done + s.queue.queueSize
      omega
    · have := h.ok.count_eq
      change s.queue.count + 1 = ((s.queue.accepted ++ [p]).length : ℤ) - s.queue.done
      omega
    · exact List.nodup_append.2 ⟨h.ok.accepted_nodup, List.nodup_singleton p, by
        rintro a ha b hb rfl
        rw [List.mem_singleton.1 hb] at ha
        exact hnew ha⟩
    · intro hoff
      change s.queue.flag = .readyDeinit ∨ s.queue.flag = .off at hoff
      rw [hflag] at hoff
      rcases hoff with hoff | hoff <;> cases hoff
  · rw [QueueState.Place, QueueState.gotoProducer_self]
    refine ⟨⟨?_, hshape.tail_eq, ?_, ?_⟩, fun _ => ⟨_, rfl, h.ok.done_le⟩⟩
    · change s.queue.head = (s.queue.accepted ++ [p]).length % s.queue.queueSize
      rw [hlen]
      exact hshape.head_eq
    · change Holds s.queue.vector s.queue.queueSize
        ((s.queue.accepted ++ [p]).map (queueItem hasDestroyer)) s.queue.done
      rw [List.map_append]
      exact hshape.holds.push (by rw [List.length_map]; exact hitem)
    · change s.queue.log = history hasDestroyer (s.queue.accepted ++ [p]) s.queue.done
        s.queue.signalAt ++ []
      rw [history_append p h.ok.done_le h.ok.signal_le]
      exact hshape.log_eq
  · change (Function.update s.producer p (.unlock 0) p').phase.committed = true ↔
      p' ∈ s.queue.accepted ++ [p]
    rw [List.mem_append, List.mem_singleton, ← h.calls.committed p']
    rcases eq_or_ne p' p with rfl | hne
    · rw [Function.update_self]
      exact iff_of_true rfl (Or.inr rfl)
    · rw [Function.update_of_ne hne]
      exact ⟨Or.inl, fun hor => hor.resolve_right hne⟩
  · change (Function.update s.producer p (.unlock 0) p').phase.wrote = true
    rcases eq_or_ne p' p with rfl | hne
    · rw [Function.update_self]
      rfl
    · rw [Function.update_of_ne hne]
      rcases List.mem_append.1 hp' with hmem | hmem
      · exact h.calls.wrote p' hmem
      · exact absurd (List.mem_singleton.1 hmem) hne

/-- A call gives the lock back. -/
theorem producer_unlock (h : QueueInv hasDestroyer s) {err : ℤ} (hpc : s.producer p = .unlock err) :
    QueueInv hasDestroyer (s.release.gotoProducer p (.returned err)) := by
  have hphase := ProducerPc.phase_cases err
  have hx : s.owner = some (.producer p) := by
    rw [← h.critical_iff, QueueState.critical, hpc]
    rcases hphase with ⟨-, hold, -⟩ | ⟨-, hold, -⟩ <;> rw [hold] <;> rfl
  have hplace := h.place _ hx
  rw [QueueState.Place, hpc] at hplace
  refine h.leave hx ?_ (producer_other s.release _) rfl rfl rfl hplace.1 h.expects
    (calls_producer h.calls rfl rfl ?_ (fun _ hp' _ => hp') fun hp => ?_)
  · rw [QueueState.critical, QueueState.gotoProducer_self]
    rcases hphase with ⟨-, -, hnew⟩ | ⟨-, -, hnew⟩ <;> rw [hnew] <;> rfl
  · rw [hpc]
    rcases hphase with ⟨-, hold, hnew⟩ | ⟨-, hold, hnew⟩ <;> rw [hold, hnew] <;> rfl
  · have hwrote := h.calls.wrote p hp
    rw [hpc] at hwrote
    rcases hphase with ⟨-, hold, hnew⟩ | ⟨-, hold, hnew⟩
    · rw [hnew]
      rfl
    · rw [hold] at hwrote
      cases hwrote

/-- A call gets the lock. -/
theorem producer_lock (h : QueueInv hasDestroyer s) (hpc : s.producer p = .tryLock)
    (hlock : s.lock = false) :
    QueueInv hasDestroyer ((s.acquire (.producer p)).gotoProducer p .readFlag) := by
  refine h.enter hlock (.producer p) ?_ (producer_other (s.acquire _) _) rfl rfl rfl
    (fun hrest => ?_) h.expects (calls_producer h.calls rfl rfl (by rw [hpc]; rfl)
      (fun _ hp' _ => hp') fun hp => ?_)
  · rw [QueueState.critical, QueueState.gotoProducer_self]
    rfl
  · rw [QueueState.Place, QueueState.gotoProducer_self]
    exact hrest
  · have := h.calls.wrote p hp
    rw [hpc] at this
    cases this

/-- There is a free slot exactly if the count says so. -/
theorem count_lt_iff (h : q.Ok) :
    ¬ q.count ≥ q.queueSize ↔ q.accepted.length < q.done + q.queueSize := by
  have := h.count_eq
  omega

/-- **One statement of `sys_queue`.** -/
theorem producer (h : QueueInv hasDestroyer s)
    (hstep : producerStep hasDestroyer p s = some t) : QueueInv hasDestroyer t := by
  unfold producerStep at hstep
  have hplace : (s.producer p).phase.critical = true →
      (s.producer p).Place hasDestroyer s.queue p := fun hcrit =>
    h.place (.producer p) ((h.critical_iff (.producer p)).1 hcrit)
  cases hpc : s.producer p with
  | idle =>
      rw [hpc] at hstep
      obtain rfl := Option.some.inj hstep
      exact h.producer_elsewhere hpc rfl rfl
  | checkFlag =>
      rw [hpc] at hstep
      obtain rfl := Option.some.inj hstep
      split
      · exact h.producer_elsewhere hpc rfl rfl
      · exact h.producer_elsewhere hpc rfl rfl
  | checkGlobal =>
      rw [hpc] at hstep
      obtain rfl := Option.some.inj hstep
      split
      · exact h.producer_elsewhere hpc rfl rfl
      · exact h.producer_elsewhere hpc rfl rfl
  | tryLock =>
      simp only [hpc] at hstep
      split at hstep
      · obtain rfl := Option.some.inj hstep
        exact h.producer_elsewhere hpc rfl rfl
      · rename_i hlock
        obtain rfl := Option.some.inj hstep
        exact h.producer_lock hpc (Bool.eq_false_iff.2 hlock)
  | readFlag =>
      rw [hpc] at hstep hplace
      obtain rfl := Option.some.inj hstep
      split
      · exact h.producer_read hpc rfl rfl
          ⟨hplace rfl, nofun⟩
      · rename_i hflag
        exact h.producer_read hpc rfl rfl
          ⟨hplace rfl, not_not.1 hflag⟩
  | checkCount =>
      rw [hpc] at hstep hplace
      obtain rfl := Option.some.inj hstep
      obtain ⟨hrest, hflag⟩ := hplace rfl
      split
      · exact h.producer_read hpc rfl rfl
          ⟨hrest, nofun⟩
      · rename_i hcount
        exact h.producer_read hpc rfl rfl
          ⟨hrest, hflag, (count_lt_iff h.ok).1 hcount⟩
  | loadHead =>
      rw [hpc] at hstep hplace
      obtain rfl := Option.some.inj hstep
      obtain ⟨hrest, hflag, hroom⟩ := hplace rfl
      exact h.producer_read hpc rfl rfl
        ⟨hrest, hflag, hroom, hrest.head_eq⟩
  | storeCtx head =>
      rw [hpc] at hstep hplace
      obtain rfl := Option.some.inj hstep
      obtain ⟨hrest, hflag, hroom, rfl⟩ := hplace rfl
      -- the slot at the head is free, so the stored items do not see this write
      refine h.producer_write hpc (Or.inl rfl) rfl (h.ok.store _ _)
        rfl rfl ⟨hrest.store_head hroom _, hflag, hroom, rfl, ?_⟩
      rw [SysQueue.store_self]
  | storeFunction head =>
      rw [hpc] at hstep hplace
      obtain rfl := Option.some.inj hstep
      obtain ⟨hrest, hflag, hroom, rfl, hctx⟩ := hplace rfl
      refine h.producer_write hpc (Or.inr rfl) rfl (h.ok.store _ _)
        rfl rfl ⟨hrest.store_head hroom _, hflag, hroom, rfl, ?_, ?_⟩
      · rw [SysQueue.store_self]
        exact hctx
      · rw [SysQueue.store_self]
  | storeDestroyer head =>
      rw [hpc] at hstep hplace
      obtain rfl := Option.some.inj hstep
      obtain ⟨hrest, hflag, hroom, rfl, hctx, hfunction⟩ := hplace rfl
      refine h.producer_write hpc (Or.inr rfl) rfl (h.ok.store _ _)
        rfl rfl ⟨hrest.store_head hroom _, hflag, hroom, rfl, ?_⟩
      rw [SysQueue.store_self]
      dsimp only
      -- the two earlier stores are still there, because nobody else writes to the slot
      rw [hctx, hfunction]
      rfl
  | setHead head =>
      rw [hpc] at hstep hplace
      obtain rfl := Option.some.inj hstep
      obtain ⟨hrest, hflag, hroom, rfl, hitem⟩ := hplace rfl
      refine h.producer_write hpc (Or.inr rfl) rfl (h.ok.of_head _)
        rfl rfl ⟨⟨?_, hrest.tail_eq, hrest.holds, hrest.log_eq⟩, hflag, hroom, hitem⟩
      exact Nat.mod_add_mod _ _ _
  | incCount =>
      rw [hpc] at hstep
      obtain rfl := Option.some.inj hstep
      exact h.producer_commit hpc
  | unlock err =>
      rw [hpc] at hstep
      obtain rfl := Option.some.inj hstep
      exact h.producer_unlock hpc
  | returned err =>
      rw [hpc] at hstep
      cases hstep

theorem producerTimeout (h : QueueInv hasDestroyer s)
    (hstep : Solar48.producerTimeout p s = some t) : QueueInv hasDestroyer t := by
  unfold Solar48.producerTimeout at hstep
  cases hpc : s.producer p with
  | tryLock =>
      rw [hpc] at hstep
      obtain rfl := Option.some.inj hstep
      exact h.producer_elsewhere hpc rfl rfl
  | _ =>
      rw [hpc] at hstep
      cases hstep

/-! ### Statements of `run_queue_run` -/

theorem runner_other (s : QueueState) (pc : QueueRunnerPc) :
    ∀ y, y ≠ .runner r → (s.gotoRunner r pc).critical y = s.critical y := by
  intro y hy
  cases y with
  | runner r' =>
      have hne : r' ≠ r := fun heq => hy (heq ▸ rfl)
      rw [QueueState.critical, QueueState.critical, QueueState.gotoRunner_of_ne s hne]
  | producer p => rfl
  | deinit => rfl

/-- A task without the lock moves on. -/
theorem runner_elsewhere (h : QueueInv hasDestroyer s) {old new : QueueRunnerPc}
    (hpc : s.runner r = old) (hold : old.critical = false) (hnew : new.critical = false) :
    QueueInv hasDestroyer (s.gotoRunner r new) := by
  subst hpc
  refine h.elsewhere (.runner r) hold
    (by rw [QueueState.critical, QueueState.gotoRunner_self]; exact hnew)
    (runner_other s new) (fun y hy hplace => ?_) rfl rfl rfl h.expects
    ⟨h.calls.committed, h.calls.wrote⟩
  cases y with
  | runner r' =>
      have hne : r' ≠ r := fun heq => hy (heq ▸ rfl)
      rw [QueueState.Place, QueueState.gotoRunner_of_ne s hne]
      exact hplace
  | producer p => exact hplace
  | deinit => exact hplace

/-- A task with the lock reads, writes or calls. -/
theorem runner_inside (h : QueueInv hasDestroyer s) {old new : QueueRunnerPc}
    (hpc : s.runner r = old) (hold : old.critical = true) (hnew : new.critical = true) (hok : q.Ok)
    (haccepted : q.accepted = s.queue.accepted) (hexpects : s.deinit.Expects q.flag)
    (hplace : new.Place hasDestroyer q) :
    QueueInv hasDestroyer ({ s with queue := q }.gotoRunner r new) := by
  subst hpc
  refine h.inside ((h.critical_iff (.runner r)).1 hold)
    (by rw [QueueState.critical, QueueState.gotoRunner_self]; exact hnew)
    (runner_other { s with queue := q } new) rfl rfl hok
    (by rw [QueueState.Place, QueueState.gotoRunner_self]; exact hplace) hexpects
    ⟨fun p => ?_, h.calls.wrote⟩
  change (s.producer p).phase.committed = true ↔ p ∈ q.accepted
  rw [haccepted]
  exact h.calls.committed p

theorem runner_lock (h : QueueInv hasDestroyer s) (hlock : s.lock = false) :
    QueueInv hasDestroyer ((s.acquire (.runner r)).gotoRunner r .readFlag) := by
  refine h.enter hlock (.runner r) ?_ (runner_other (s.acquire _) _) rfl rfl rfl (fun hrest => ?_)
    h.expects ⟨h.calls.committed, h.calls.wrote⟩
  · rw [QueueState.critical, QueueState.gotoRunner_self]
    rfl
  · rw [QueueState.Place, QueueState.gotoRunner_self]
    exact hrest

theorem runner_unlock (h : QueueInv hasDestroyer s) (hpc : s.runner r = .unlock) :
    QueueInv hasDestroyer (s.release.gotoRunner r .idle) := by
  have hx : s.owner = some (.runner r) :=
    (h.critical_iff (.runner r)).1 (by rw [QueueState.critical, hpc]; rfl)
  have hplace := h.place _ hx
  rw [QueueState.Place, hpc] at hplace
  refine h.leave hx ?_ (runner_other s.release _) rfl rfl rfl hplace h.expects
    ⟨h.calls.committed, h.calls.wrote⟩
  rw [QueueState.critical, QueueState.gotoRunner_self]
  rfl

/-- The oldest item, if there is one. -/
theorem exists_oldest (h : q.Ok) (hcount : ¬ q.count < 1) :
    q.done < q.accepted.length := by
  have := h.count_eq
  omega

theorem getElem?_done (hlt : q.done < q.accepted.length) :
    q.accepted[q.done]? = some q.accepted[q.done] := List.getElem?_eq_getElem hlt

/-- An item that was taken out is history. -/
theorem atRest_of_inHand {part : List QueueEvent} (hok : q.Ok)
    (h : q.InHand hasDestroyer p (q.done + 1) (q.done + 1) part)
    (hpart : part = itemEvents hasDestroyer q.signalAt.isSome p) :
    { q with count := q.count - 1, done := q.done + 1 }.AtRest hasDestroyer := by
  obtain ⟨hp, hshape⟩ := h
  refine ⟨hshape.head_eq, hshape.tail_eq, hshape.holds, ?_⟩
  change q.log = history hasDestroyer q.accepted (q.done + 1) q.signalAt ++ []
  rw [history_succ hp hok.signal_le, List.append_nil, ← hpart]
  exact hshape.log_eq

theorem ok_of_inHand {part : List QueueEvent} {tail lo : ℕ} (h : q.Ok)
    (hhand : q.InHand hasDestroyer p tail lo part) (hflag : q.flag ≠ .readyDeinit ∧ q.flag ≠ .off) :
    { q with count := q.count - 1, done := q.done + 1 }.Ok := by
  have hlt := (List.getElem?_eq_some_iff.1 hhand.1).1
  refine ⟨h.size_pos, hlt, ?_, ?_, h.accepted_nodup, h.running_iff, fun k hk => ?_, fun hoff => ?_⟩
  · have := h.le_size
    change q.accepted.length ≤ q.done + 1 + q.queueSize
    omega
  · have := h.count_eq
    change q.count - 1 = (q.accepted.length : ℤ) - ((q.done + 1 : ℕ) : ℤ)
    omega
  · exact (h.signal_le k hk).trans (Nat.le_succ _)
  · rcases hoff with hoff | hoff
    · exact absurd hoff hflag.1
    · exact absurd hoff hflag.2

/-- The deinit call waits for that. -/
theorem expects_ready {pc : DeinitPc} (h : pc.Expects .sendDeinitSignal) :
    pc.Expects .readyDeinit := by
  cases pc with
  | unlockSignal | wait => exact Or.inr rfl
  | panicked locked => trivial
  | _ => cases h

/-- **One statement of `run_queue_run`.** -/
theorem runner (h : QueueInv hasDestroyer s) (hstep : runnerStep r s = some t) :
    QueueInv hasDestroyer t := by
  unfold runnerStep at hstep
  have hplace : (s.runner r).critical = true → (s.runner r).Place hasDestroyer s.queue :=
    fun hcrit => h.place (.runner r) ((h.critical_iff (.runner r)).1 hcrit)
  cases hpc : s.runner r with
  | idle =>
      rw [hpc] at hstep
      obtain rfl := Option.some.inj hstep
      split
      · exact h.runner_elsewhere hpc rfl rfl
      · exact h.runner_elsewhere hpc rfl rfl
  | tryLock =>
      simp only [hpc] at hstep
      split at hstep
      · obtain rfl := Option.some.inj hstep
        exact h
      · rename_i hlock
        obtain rfl := Option.some.inj hstep
        exact h.runner_lock (Bool.eq_false_iff.2 hlock)
  | readFlag =>
      rw [hpc] at hstep hplace
      obtain rfl := Option.some.inj hstep
      have hrest := hplace rfl
      cases hflag : s.queue.flag with
      | running =>
          exact h.runner_inside hpc rfl rfl h.ok rfl h.expects ⟨hrest, hflag⟩
      | sendDeinitSignal =>
          exact h.runner_inside hpc rfl rfl h.ok rfl h.expects ⟨hrest, hflag⟩
      | readyDeinit | off =>
          exact h.runner_inside hpc rfl rfl h.ok rfl h.expects hrest
  | checkCount =>
      rw [hpc] at hstep hplace
      obtain rfl := Option.some.inj hstep
      obtain ⟨hrest, hflag⟩ := hplace rfl
      split
      · exact h.runner_inside hpc rfl rfl h.ok rfl h.expects hrest
      · rename_i hcount
        exact h.runner_inside hpc rfl rfl h.ok rfl h.expects
          ⟨hrest, hflag, exists_oldest h.ok hcount⟩
  | load =>
      rw [hpc] at hstep hplace
      obtain rfl := Option.some.inj hstep
      obtain ⟨hrest, hflag, hlt⟩ := hplace rfl
      have hp := getElem?_done hlt
      refine h.runner_inside hpc rfl rfl h.ok rfl h.expects
        ⟨hflag, hrest.tail_eq, _, ?_, hp, hrest⟩
      rw [hrest.tail_eq, hrest.get hp]
      rfl
  | callFunction tail ctx =>
      simp only [hpc] at hstep
      rw [hpc] at hplace
      obtain ⟨hflag, rfl, p, rfl, hp, hshape⟩ := hplace rfl
      -- the slot holds the oldest item, so its function is there and the branch without one is not
      -- taken
      rw [hshape.get hp] at hstep
      obtain rfl := Option.some.inj hstep
      exact h.runner_inside hpc rfl rfl (h.ok.of_log _) rfl h.expects
        ⟨hflag, rfl, p, rfl, hp, hshape.append _⟩
  | clearFunction tail ctx =>
      rw [hpc] at hstep hplace
      obtain rfl := Option.some.inj hstep
      obtain ⟨hflag, rfl, p, rfl, hp, hshape⟩ := hplace rfl
      refine h.runner_inside hpc rfl rfl (h.ok.store _ _) rfl h.expects
        -- from here on the slot of the item in hand may be written
        ⟨hflag, rfl, p, rfl, ?_, hp, hshape.mono.store_tail h.ok.le_size _⟩
      refine (congrArg SysQueueVec.destroyer (SysQueue.store_self _ _ _)).trans ?_
      dsimp only
      rw [hshape.get hp]
      rfl
  | callDestroyer drain tail ctx =>
      simp only [hpc] at hstep
      rw [hpc] at hplace
      obtain ⟨hflag, rfl, p, rfl, hd, hp, hshape⟩ := hplace rfl
      rw [hd, destroyerOf] at hstep
      have hevents := itemEvents_eq hasDestroyer drain p
      cases hhas : hasDestroyer p with
      | true =>
          rw [hhas] at hstep
          obtain rfl := Option.some.inj hstep
          rw [destroyEvents, hhas, if_pos rfl] at hevents
          exact h.runner_inside hpc rfl rfl (h.ok.of_log _) rfl h.expects
            ⟨hflag, rfl, p, hp, hevents ▸ hshape.append _⟩
      | false =>
          rw [hhas] at hstep
          obtain rfl := Option.some.inj hstep
          rw [destroyEvents, hhas, if_neg Bool.false_ne_true, List.append_nil] at hevents
          exact h.runner_inside hpc rfl rfl h.ok rfl h.expects ⟨hflag, rfl, p, hp, hevents ▸ hshape⟩
  | clearDestroyer drain tail =>
      rw [hpc] at hstep hplace
      obtain rfl := Option.some.inj hstep
      obtain ⟨hflag, rfl, p, hp, hshape⟩ := hplace rfl
      exact h.runner_inside hpc rfl rfl (h.ok.store _ _) rfl h.expects
        ⟨hflag, rfl, p, hp, hshape.store_tail h.ok.le_size _⟩
  | setTail drain tail =>
      rw [hpc] at hstep hplace
      obtain rfl := Option.some.inj hstep
      obtain ⟨hflag, rfl, p, hp, hshape⟩ := hplace rfl
      exact h.runner_inside hpc rfl rfl (h.ok.of_tail _) rfl h.expects
        ⟨hflag, p, hp, hshape.head_eq, Nat.mod_add_mod _ _ _, hshape.holds, hshape.log_eq⟩
  | decCount drain =>
      rw [hpc] at hstep hplace
      obtain rfl := Option.some.inj hstep
      obtain ⟨hflag, p, hhand⟩ := hplace rfl
      cases drain with
      | true =>
          have hne : s.queue.flag ≠ .running := by rw [hflag]; decide
          have hok := ok_of_inHand h.ok hhand (by rw [hflag]; decide)
          exact h.runner_inside hpc rfl rfl hok rfl h.expects
            ⟨atRest_of_inHand h.ok hhand (by rw [h.ok.signalAt_isSome hne]), hflag⟩
      | false =>
          have hok := ok_of_inHand h.ok hhand (by rw [hflag]; decide)
          exact h.runner_inside hpc rfl rfl hok rfl h.expects
            (atRest_of_inHand h.ok hhand (by rw [h.ok.signalAt_eq_none hflag]; rfl))
  | checkLeft =>
      rw [hpc] at hstep hplace
      obtain rfl := Option.some.inj hstep
      obtain ⟨hrest, hflag⟩ := hplace rfl
      have hcount := h.ok.count_eq
      have hdone := h.ok.done_le
      split
      · rename_i hpos
        exact h.runner_inside hpc rfl rfl h.ok rfl h.expects
          ⟨hrest, hflag, by omega⟩
      · rename_i hpos
        exact h.runner_inside hpc rfl rfl h.ok rfl h.expects
          ⟨hrest, hflag, by omega⟩
  | loadLeft =>
      rw [hpc] at hstep hplace
      obtain rfl := Option.some.inj hstep
      obtain ⟨hrest, hflag, hlt⟩ := hplace rfl
      have hp := getElem?_done hlt
      refine h.runner_inside hpc rfl rfl h.ok rfl h.expects
        ⟨hflag, hrest.tail_eq, _, ?_, ?_, hp, hrest.mono⟩
      · rw [hrest.tail_eq, hrest.get hp]
        rfl
      · rw [hrest.tail_eq, hrest.get hp]
        rfl
  | setReady =>
      rw [hpc] at hstep hplace
      obtain rfl := Option.some.inj hstep
      obtain ⟨hrest, hflag, hall⟩ := hplace rfl
      exact h.runner_inside hpc rfl rfl (h.ok.ready hflag hall) rfl
        (expects_ready (hflag ▸ h.expects))
        ⟨hrest.head_eq, hrest.tail_eq, hrest.holds, hrest.log_eq⟩
  | unlock =>
      rw [hpc] at hstep
      obtain rfl := Option.some.inj hstep
      exact h.runner_unlock hpc
  | panicked =>
      rw [hpc] at hstep
      cases hstep

theorem runnerTimeout (h : QueueInv hasDestroyer s)
    (hstep : Solar48.runnerTimeout r s = some t) : QueueInv hasDestroyer t := by
  unfold Solar48.runnerTimeout at hstep
  cases hpc : s.runner r with
  | tryLock =>
      rw [hpc] at hstep
      obtain rfl := Option.some.inj hstep
      exact h.runner_elsewhere hpc rfl rfl
  | checkLeft =>
      simp only [hpc] at hstep
      split at hstep
      · obtain rfl := Option.some.inj hstep
        have hplace := h.place (.runner r)
          ((h.critical_iff (.runner r)).1 (by rw [QueueState.critical, hpc]; rfl))
        rw [QueueState.Place, hpc] at hplace
        exact h.runner_inside hpc rfl rfl h.ok rfl h.expects hplace.1
      · cases hstep
  | _ =>
      rw [hpc] at hstep
      cases hstep

/-! ### Statements of `sys_queue_deinit` -/

theorem deinit_other (s : QueueState) (pc : DeinitPc) :
    ∀ y, y ≠ .deinit → { s with deinit := pc }.critical y = s.critical y := by
  intro y hy
  cases y with
  | producer p => rfl
  | runner r => rfl
  | deinit => exact absurd rfl hy

/-- The call moves on without the lock. -/
theorem deinit_elsewhere (h : QueueInv hasDestroyer s) {old new : DeinitPc} (g : Bool)
    (hpc : s.deinit = old) (hold : old.critical = false) (hnew : new.critical = false)
    (hexpects : new.Expects s.queue.flag) :
    QueueInv hasDestroyer { s with globalLock := g, deinit := new } := by
  subst hpc
  refine h.elsewhere .deinit hold hnew (deinit_other { s with globalLock := g } new)
    (fun y hy hplace => ?_) rfl rfl rfl hexpects ⟨h.calls.committed, h.calls.wrote⟩
  cases y with
  | producer p => exact hplace
  | runner r => exact hplace
  | deinit => exact absurd rfl hy

/-- The call reads or writes with the lock. -/
theorem deinit_inside (h : QueueInv hasDestroyer s) {old new : DeinitPc}
    (hpc : s.deinit = old) (hold : old.critical = true) (hnew : new.critical = true) (hok : q.Ok)
    (haccepted : q.accepted = s.queue.accepted) (hrest : q.AtRest hasDestroyer)
    (hexpects : new.Expects q.flag) :
    QueueInv hasDestroyer { s with queue := q, deinit := new } := by
  subst hpc
  refine h.inside ((h.critical_iff .deinit).1 hold) hnew (deinit_other { s with queue := q } new)
    rfl rfl hok hrest hexpects ⟨fun p => ?_, h.calls.wrote⟩
  change (s.producer p).phase.committed = true ↔ p ∈ q.accepted
  rw [haccepted]
  exact h.calls.committed p

theorem deinit_lock (h : QueueInv hasDestroyer s) {new : DeinitPc} (hlock : s.lock = false)
    (hnew : new.critical = true) (hexpects : new.Expects s.queue.flag) :
    QueueInv hasDestroyer { s.acquire .deinit with deinit := new } :=
  h.enter hlock .deinit hnew (deinit_other (s.acquire .deinit) new) rfl rfl rfl id hexpects
    ⟨h.calls.committed, h.calls.wrote⟩

theorem deinit_unlock (h : QueueInv hasDestroyer s) {old new : DeinitPc}
    (hpc : s.deinit = old) (hold : old.critical = true) (hnew : new.critical = false)
    (hexpects : new.Expects s.queue.flag) :
    QueueInv hasDestroyer { s.release with deinit := new } := by
  subst hpc
  have howner := (h.critical_iff .deinit).1 hold
  exact h.leave howner hnew (deinit_other s.release new) rfl rfl rfl (h.place _ howner) hexpects
    ⟨h.calls.committed, h.calls.wrote⟩

/-- The signal. -/
theorem deinit_signal (h : QueueInv hasDestroyer s) (hpc : s.deinit = .setSignal) :
    QueueInv hasDestroyer { s with
      queue := { s.queue with
        flag := .sendDeinitSignal, signalAt := some s.queue.done,
        log := s.queue.log ++ [.deinitSignal] }
      deinit := .unlockSignal } := by
  have hcrit : s.deinit.critical = true := by rw [hpc]; rfl
  have hrest := h.place _ ((h.critical_iff .deinit).1 hcrit)
  have hflag := h.expects
  rw [hpc] at hflag
  refine h.deinit_inside hpc rfl rfl ⟨h.ok.1, h.ok.2, h.ok.3, h.ok.4, h.ok.5, ?_, ?_, ?_⟩ rfl
    ⟨hrest.head_eq, hrest.tail_eq, hrest.holds, ?_⟩ (Or.inl rfl)
  · exact iff_of_false nofun nofun
  · intro k hk
    exact (Option.some.inj hk).ge
  · intro hor
    rcases hor with hor | hor <;> cases hor
  · change s.queue.log ++ [.deinitSignal] =
      history hasDestroyer s.queue.accepted s.queue.done (some s.queue.done) ++ []
    have hlog := hrest.log_eq
    rw [h.ok.signalAt_eq_none hflag] at hlog
    rw [history_signal, hlog, List.append_nil, List.append_nil]

/-- **One statement of `sys_queue_deinit`.** -/
theorem deinit (h : QueueInv hasDestroyer s) (hstep : deinitStep s = some t) :
    QueueInv hasDestroyer t := by
  unfold deinitStep at hstep
  have hexpects := h.expects
  have hplace : s.deinit.critical = true → s.queue.AtRest hasDestroyer :=
    fun hcrit => h.place .deinit ((h.critical_iff .deinit).1 hcrit)
  cases hpc : s.deinit with
  | idle =>
      rw [hpc] at hstep hexpects
      obtain rfl := Option.some.inj hstep
      exact h.deinit_elsewhere s.globalLock hpc rfl rfl hexpects
  | tryGlobal =>
      simp only [hpc] at hstep
      rw [hpc] at hexpects
      split at hstep
      · obtain rfl := Option.some.inj hstep
        exact h
      · obtain rfl := Option.some.inj hstep
        exact h.deinit_elsewhere true hpc rfl rfl hexpects
  | tryLock | tryLockAgain =>
      simp only [hpc] at hstep
      rw [hpc] at hexpects
      split at hstep
      · obtain rfl := Option.some.inj hstep
        exact h
      · rename_i hlock
        obtain rfl := Option.some.inj hstep
        exact h.deinit_lock (Bool.eq_false_iff.2 hlock) rfl hexpects
  | readFlag =>
      rw [hpc] at hexpects
      -- no other party takes the flag away from running, so the other branches are not taken
      have hflag : s.queue.flag = .running := hexpects
      simp only [hpc, hflag] at hstep
      obtain rfl := Option.some.inj hstep
      exact h.deinit_inside hpc rfl rfl h.ok rfl (hplace (by rw [hpc]; rfl)) hexpects
  | setSignal =>
      rw [hpc] at hstep
      obtain rfl := Option.some.inj hstep
      exact h.deinit_signal hpc
  | unlockSignal =>
      rw [hpc] at hstep hexpects
      obtain rfl := Option.some.inj hstep
      exact h.deinit_unlock hpc rfl rfl hexpects
  | wait =>
      rw [hpc] at hstep hexpects
      obtain rfl := Option.some.inj hstep
      split
      · rename_i hready
        exact h.deinit_elsewhere s.globalLock hpc rfl rfl hready
      · exact h.deinit_elsewhere s.globalLock hpc rfl rfl hexpects
  | setOff =>
      rw [hpc] at hstep hexpects
      obtain rfl := Option.some.inj hstep
      have hrest := hplace (by rw [hpc]; rfl)
      -- a runner has stored this flag, and has found nothing left
      have hready : s.queue.flag = .readyDeinit := hexpects
      have hall := h.ok.drained (Or.inl hready)
      refine h.deinit_inside hpc rfl rfl
        ⟨h.ok.1, h.ok.2, h.ok.3, h.ok.4, h.ok.5, ?_, h.ok.7, fun _ => hall⟩ rfl
        ⟨hrest.head_eq, hrest.tail_eq, hrest.holds, hrest.log_eq⟩ rfl
      refine iff_of_false nofun fun hnone => ?_
      have := h.ok.running_iff.2 hnone
      rw [hready] at this
      cases this
  | free =>
      rw [hpc] at hstep hexpects
      obtain rfl := Option.some.inj hstep
      have hrest := hplace (by rw [hpc]; rfl)
      exact h.deinit_inside hpc rfl rfl
        ⟨h.ok.1, h.ok.2, h.ok.3, h.ok.4, h.ok.5, h.ok.6, h.ok.7, h.ok.8⟩ rfl
        ⟨hrest.head_eq, hrest.tail_eq, hrest.holds, hrest.log_eq⟩ hexpects
  | unlock =>
      rw [hpc] at hstep hexpects
      obtain rfl := Option.some.inj hstep
      exact h.deinit_unlock hpc rfl rfl hexpects
  | unlockGlobal =>
      rw [hpc] at hstep hexpects
      obtain rfl := Option.some.inj hstep
      exact h.deinit_elsewhere false hpc rfl rfl hexpects
  | returned =>
      rw [hpc] at hstep
      cases hstep
  | panicked locked =>
      rw [hpc] at hstep
      cases hstep

theorem deinitTimeout (h : QueueInv hasDestroyer s)
    (hstep : Solar48.deinitTimeout s = some t) : QueueInv hasDestroyer t := by
  unfold Solar48.deinitTimeout at hstep
  cases hpc : s.deinit with
  | tryGlobal | tryLock | wait | tryLockAgain =>
      rw [hpc] at hstep
      obtain rfl := Option.some.inj hstep
      exact h.deinit_elsewhere s.globalLock hpc rfl rfl trivial
  | _ =>
      rw [hpc] at hstep
      cases hstep

/-! ### Runs -/

/-- **What one step preserves.** -/
theorem step {turn : QueueTurn} (h : QueueInv hasDestroyer s)
    (hstep : queueStep hasDestroyer turn s = some t) : QueueInv hasDestroyer t := by
  cases turn with
  | producer p => exact h.producer hstep
  | producerTimeout p => exact h.producerTimeout hstep
  | runner r => exact h.runner hstep
  | runnerTimeout r => exact h.runnerTimeout hstep
  | deinit => exact h.deinit hstep
  | deinitTimeout => exact h.deinitTimeout hstep

end QueueInv

/-- The invariant holds in every state that the parties can reach. -/
theorem queueInv_of_run {queueSize : ℤ}
    (h : Run (queueStep hasDestroyer) (fun _ _ => true) (sysQueueInit queueSize) s) :
    QueueInv hasDestroyer s :=
  h.invariant (sysQueueInit_inv queueSize) fun _ _ _ hinv _ hstep => hinv.step hstep

end Solar48
