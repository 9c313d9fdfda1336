/-
**The queue is first in, first out.**

The log of a queue is the history of the items taken out, and a start of the next item's events.
What the history says about all its items is therefore true of the log.

Main definitions:

* `QueueEvent.Before` — the order of events.

Main results:

* `ranEvents_history`, `destroyedEvents_history`, `pairwise_history` — what the history says;
* `fifoQueue_of_run` — **first in, first out in every state that the parties can reach**.
-/

import Solar48.SysQueueInvariant

set_option relaxedAutoImplicit false
set_option autoImplicit false

namespace Solar48

open StepSystem

variable {hasDestroyer : ℕ → Bool} {s t : QueueState} {q : SysQueue} {p : ℕ}

/-! ### What the history says -/

/-- The order of events: nothing runs after the signal, or after its own destroyer. -/
def QueueEvent.Before : QueueEvent → QueueEvent → Prop
  | .deinitSignal, .ran _ _ => False
  | .destroyed d _, .ran f _ => d ≠ f
  | _, _ => True

theorem ranEvents_append (l₁ l₂ : List QueueEvent) :
    ranEvents (l₁ ++ l₂) = ranEvents l₁ ++ ranEvents l₂ := List.filterMap_append

theorem destroyedEvents_append (l₁ l₂ : List QueueEvent) :
    destroyedEvents (l₁ ++ l₂) = destroyedEvents l₁ ++ destroyedEvents l₂ :=
  List.filterMap_append

theorem ranEvents_destroyEvents (p : ℕ) : ranEvents (destroyEvents hasDestroyer p) = [] := by
  rw [destroyEvents]
  split <;> rfl

theorem destroyedEvents_destroyEvents (p : ℕ) :
    destroyedEvents (destroyEvents hasDestroyer p) =
      if hasDestroyer p then [(p, some p)] else [] := by
  rw [destroyEvents]
  split <;> rfl

/-- Before the signal the functions of all items run. -/
theorem ranEvents_items_false (ps : List ℕ) :
    ranEvents (ps.flatMap (itemEvents hasDestroyer false)) = ps.map fun p => (p, some p) := by
  induction ps with
  | nil => rfl
  | cons p ps ih =>
      rw [List.flatMap_cons, ranEvents_append, ih]
      change (p, some p) :: ranEvents (destroyEvents hasDestroyer p) ++ _ = _
      rw [ranEvents_destroyEvents]
      rfl

/-- After it none does. -/
theorem ranEvents_items_true (ps : List ℕ) :
    ranEvents (ps.flatMap (itemEvents hasDestroyer true)) = [] := by
  induction ps with
  | nil => rfl
  | cons p ps ih =>
      rw [List.flatMap_cons, ranEvents_append, ih, List.append_nil]
      exact ranEvents_destroyEvents p

/-- Destroyers are called before the signal and after it. -/
theorem destroyedEvents_items (signalled : Bool) (ps : List ℕ) :
    destroyedEvents (ps.flatMap (itemEvents hasDestroyer signalled)) =
      (ps.filter hasDestroyer).map fun p => (p, some p) := by
  induction ps with
  | nil => rfl
  | cons p ps ih =>
      have hitem : destroyedEvents (itemEvents hasDestroyer signalled p) =
          if hasDestroyer p then [(p, some p)] else [] := by
        rw [← destroyedEvents_destroyEvents]
        cases signalled <;> rfl
      rw [List.flatMap_cons, destroyedEvents_append, ih, hitem, List.filter_cons]
      split <;> rfl

section History

variable {accepted : List ℕ} {done : ℕ} {signalAt : Option ℕ}

theorem ranEvents_history :
    ranEvents (history hasDestroyer accepted done signalAt) =
      (accepted.take (signalAt.getD done)).map fun p => (p, some p) := by
  cases signalAt with
  | none => exact ranEvents_items_false _
  | some k =>
      rw [history, ranEvents_append, ranEvents_items_false]
      change _ ++ ranEvents (List.flatMap _ _) = _
      rw [ranEvents_items_true, List.append_nil]
      rfl

theorem destroyedEvents_history (hsig : ∀ k, signalAt = some k → k ≤ done) :
    destroyedEvents (history hasDestroyer accepted done signalAt) =
      ((accepted.take done).filter hasDestroyer).map fun p => (p, some p) := by
  cases signalAt with
  | none => exact destroyedEvents_items false _
  | some k =>
      rw [history, destroyedEvents_append, destroyedEvents_items]
      change _ ++ destroyedEvents (List.flatMap _ _) = _
      rw [destroyedEvents_items, ← List.map_append, ← List.filter_append]
      have htake : accepted.take k = (accepted.take done).take k := by
        rw [List.take_take, Nat.min_eq_left (hsig k rfl)]
      rw [htake, List.take_append_drop]

/-- The events of different items do not conflict. -/
theorem pairwise_items (signalled : Bool) {ps : List ℕ} (h : ps.Nodup) :
    (ps.flatMap (itemEvents hasDestroyer signalled)).Pairwise QueueEvent.Before := by
  have hitem : ∀ p, ∀ e ∈ itemEvents hasDestroyer signalled p,
      e = .ran p (some p) ∨ e = .destroyed p (some p) := by
    intro p e he
    cases signalled <;> cases hhas : hasDestroyer p <;>
      simp_all [itemEvents, destroyEvents]
  refine List.pairwise_flatMap.2 ⟨fun p _ => ?_, h.imp fun {p p'} hne e he e' he' => ?_⟩
  · cases signalled <;> cases hhas : hasDestroyer p <;>
      simp [itemEvents, destroyEvents, hhas, QueueEvent.Before]
  · rcases hitem p e he with rfl | rfl <;> rcases hitem p' e' he' with rfl | rfl
    · trivial
    · trivial
    · exact hne
    · trivial

theorem pairwise_history (h : accepted.Nodup) :
    (history hasDestroyer accepted done signalAt).Pairwise QueueEvent.Before := by
  cases signalAt with
  | none => exact pairwise_items false (h.sublist (List.take_sublist _ _))
  | some k =>
      have hlate : ∀ e ∈ ((accepted.take done).drop k).flatMap (itemEvents hasDestroyer true),
          ∀ f ctx, e ≠ .ran f ctx := by
        rintro e he f ctx rfl
        have hran : (f, ctx) ∈ ranEvents
            (((accepted.take done).drop k).flatMap (itemEvents hasDestroyer true)) :=
          List.mem_filterMap.2 ⟨_, he, rfl⟩
        rw [ranEvents_items_true] at hran
        cases hran
      have hbefore : ∀ e e', (∀ f ctx, e' ≠ .ran f ctx) → QueueEvent.Before e e' := by
        intro e e' he'
        cases e' with
        | ran f ctx => exact absurd rfl (he' f ctx)
        | destroyed f ctx => cases e <;> trivial
        | deinitSignal => cases e <;> trivial
      refine List.pairwise_append.2 ⟨pairwise_items false (h.sublist (List.take_sublist _ _)),
        List.pairwise_cons.2 ⟨fun e he => hbefore _ e (hlate e he), pairwise_items true
          (h.sublist ((List.drop_sublist _ _).trans (List.take_sublist _ _)))⟩,
        fun e _ e' he' => hbefore e e' ?_⟩
      rcases List.mem_cons.1 he' with rfl | hmem
      · nofun
      · exact hlate e' hmem

end History

/-! ### What the log says -/

/-- The log is the history, and a start of the events of the next item. -/
def SysQueue.Logged (hasDestroyer : ℕ → Bool) (q : SysQueue) : Prop :=
  ∃ part, q.log = history hasDestroyer q.accepted q.done q.signalAt ++ part ∧
    (part = [] ∨ ∃ p, q.accepted[q.done]? = some p ∧
      part <+: itemEvents hasDestroyer q.signalAt.isSome p)

theorem SysQueue.Shape.logged {head tail lo : ℕ} (h : q.Shape hasDestroyer head tail lo []) :
    q.Logged hasDestroyer := ⟨[], h.log_eq, Or.inl rfl⟩

theorem SysQueue.InHand.logged {tail lo : ℕ} {part : List QueueEvent}
    (h : q.InHand hasDestroyer p tail lo part)
    (hpart : part <+: itemEvents hasDestroyer q.signalAt.isSome p) : q.Logged hasDestroyer :=
  ⟨part, h.2.log_eq, Or.inr ⟨p, h.1, hpart⟩⟩

/-- A call of `sys_queue` calls nothing. -/
theorem ProducerPc.Place.logged {pc : ProducerPc} (h : pc.Place hasDestroyer q p) :
    q.Logged hasDestroyer := by
  cases pc with
  | checkCount | loadHead | storeCtx _ | storeFunction _ | storeDestroyer _ | setHead _
  | incCount | unlock _ => exact h.1.logged
  | _ => exact SysQueue.Shape.logged h

/-- The part that the two paths of `run_queue_run` share is on the one that the flag tells. -/
theorem SysQueue.Ok.signalAt_of_drain (h : q.Ok) {drain : Bool}
    (hflag : q.flag = (if drain then .sendDeinitSignal else .running)) :
    q.signalAt.isSome = drain := by
  cases drain with
  | true => exact h.signalAt_isSome (by rw [hflag]; decide)
  | false => rw [h.signalAt_eq_none hflag]; rfl

/-- A runner calls what belongs to the oldest item. -/
theorem QueueRunnerPc.Place.logged {pc : QueueRunnerPc} (h : pc.Place hasDestroyer q)
    (hok : q.Ok) : q.Logged hasDestroyer := by
  cases pc with
  | checkCount | load | checkLeft | loadLeft | setReady => exact h.1.logged
  -- with an item in hand, the part grows to all its events, which then become history
  | callFunction tail ctx =>
      obtain ⟨hflag, _, p, _, hhand⟩ := h
      exact hhand.logged List.nil_prefix
  | clearFunction tail ctx =>
      obtain ⟨hflag, _, p, _, hhand⟩ := h
      refine hhand.logged ?_
      rw [hok.signalAt_eq_none hflag]
      exact ⟨_, rfl⟩
  | callDestroyer drain tail ctx =>
      obtain ⟨hflag, _, p, _, _, hhand⟩ := h
      refine hhand.logged ?_
      rw [hok.signalAt_of_drain hflag]
      cases drain with
      | true => exact List.nil_prefix
      | false => exact ⟨_, rfl⟩
  | clearDestroyer drain tail | setTail drain tail =>
      obtain ⟨hflag, _, p, hhand⟩ := h
      rw [← hok.signalAt_of_drain hflag] at hhand
      exact hhand.logged (List.prefix_refl _)
  | decCount drain =>
      obtain ⟨hflag, p, hhand⟩ := h
      rw [← hok.signalAt_of_drain hflag] at hhand
      exact hhand.logged (List.prefix_refl _)
  | _ => exact SysQueue.Shape.logged h

namespace QueueInv

theorem logged (h : QueueInv hasDestroyer s) : s.queue.Logged hasDestroyer := by
  cases howner : s.owner with
  | none => exact (h.rest howner).logged
  | some x =>
      have hplace := h.place x howner
      cases x with
      | producer p => exact ProducerPc.Place.logged hplace
      | runner r => exact QueueRunnerPc.Place.logged hplace h.ok
      | deinit => exact SysQueue.Shape.logged hplace

/-- What has happened is the beginning of a history. -/
theorem log_prefix (h : QueueInv hasDestroyer s) :
    ∃ done, done ≤ s.queue.accepted.length ∧ (∀ k, s.queue.signalAt = some k → k ≤ done) ∧
      s.queue.log <+: history hasDestroyer s.queue.accepted done s.queue.signalAt := by
  obtain ⟨part, hlog, rfl | ⟨p, hp, hpart⟩⟩ := h.logged
  · exact ⟨s.queue.done, h.ok.done_le, h.ok.signal_le, [],
      by rw [hlog, List.append_nil, List.append_nil]⟩
  · refine ⟨s.queue.done + 1, (List.getElem?_eq_some_iff.1 hp).1,
      fun k hk => (h.ok.signal_le k hk).trans (Nat.le_succ _), ?_⟩
    rw [hlog, history_succ hp h.ok.signal_le]
    exact (List.prefix_append_right_inj _).2 hpart

theorem pairwise_log (h : QueueInv hasDestroyer s) :
    s.queue.log.Pairwise QueueEvent.Before := by
  obtain ⟨done, _, _, hlog⟩ := h.log_prefix
  exact (pairwise_history h.ok.accepted_nodup).sublist hlog.sublist

theorem counters (h : QueueInv hasDestroyer s) (hfree : s.lock = false) :
    0 ≤ s.queue.count ∧ s.queue.count ≤ s.queue.queueSize ∧
      s.queue.head < s.queue.queueSize ∧ s.queue.tail < s.queue.queueSize ∧
      (s.queue.head : ℤ) = (s.queue.tail + s.queue.count) % s.queue.queueSize := by
  have hnone : s.owner = none := by
    rw [h.lock_eq] at hfree
    exact Option.not_isSome_iff_eq_none.1 (by rw [hfree]; exact Bool.false_ne_true)
  have hrest := h.rest hnone
  have hcount := h.ok.count_eq
  have hdone := h.ok.done_le
  have hsize := h.ok.le_size
  refine ⟨by omega, by omega, ?_, ?_, ?_⟩
  · rw [hrest.head_eq]
    exact Nat.mod_lt _ h.ok.size_pos
  · rw [hrest.tail_eq]
    exact Nat.mod_lt _ h.ok.size_pos
  · have hcount' : s.queue.count = ((s.queue.accepted.length - s.queue.done : ℕ) : ℤ) := by omega
    have hhead : s.queue.head = (s.queue.tail + (s.queue.accepted.length - s.queue.done)) %
        s.queue.queueSize := by
      rw [hrest.head_eq, hrest.tail_eq, Nat.mod_add_mod, Nat.add_sub_cancel' hdone]
    rw [hcount']
    exact_mod_cast hhead

/-- A call that has put its item into the queue returns 0. -/
theorem accepted_returns (h : QueueInv hasDestroyer s) (hp : p ∈ s.queue.accepted) :
    s.producer p = .unlock 0 ∨ s.producer p = .returned 0 := by
  have hcommitted := (h.calls.committed p).2 hp
  cases hpc : s.producer p with
  | unlock err =>
      rw [hpc] at hcommitted
      exact Or.inl (congrArg _ (ProducerPc.committed_unlock_iff.1 hcommitted))
  | returned err =>
      rw [hpc] at hcommitted
      exact Or.inr (congrArg _ (ProducerPc.committed_returned_iff.1 hcommitted))
  | _ =>
      rw [hpc] at hcommitted
      cases hcommitted

theorem ran_prefix (h : QueueInv hasDestroyer s) :
    ranEvents s.queue.log <+: s.queue.accepted.map fun p => (p, some p) := by
  obtain ⟨done, _, _, hlog⟩ := h.log_prefix
  refine (hlog.filterMap _).trans ?_
  -- the functions run are those of the items taken out before the signal
  change ranEvents (history _ _ _ _) <+: _
  rw [ranEvents_history]
  exact (List.take_prefix _ _).map _

/-- An item whose function has run was put into the queue by a call that has returned. -/
theorem ran_returned (h : QueueInv hasDestroyer s) {f : ℕ} {ctx : Option ℕ}
    (hran : (f, ctx) ∈ ranEvents s.queue.log) : s.producer f = .returned 0 := by
  have hmem : f ∈ s.queue.accepted := by
    obtain ⟨p, hp, heq⟩ := List.mem_map.1 (h.ran_prefix.subset hran)
    cases heq
    exact hp
  refine (h.accepted_returns hmem).resolve_left fun hpc => ?_
  -- the call would hold the lock, and its item be the last one
  have howner := (h.critical_iff (.producer f)).1 (by rw [QueueState.critical, hpc]; rfl)
  have hplace := h.place _ howner
  rw [QueueState.Place, hpc] at hplace
  obtain ⟨hrest, hlast⟩ := hplace
  obtain ⟨ps, hps, hdone⟩ := hlast rfl
  rw [hrest.log_eq, List.append_nil, ranEvents_history] at hran
  obtain ⟨p, hp, heq⟩ := List.mem_map.1 hran
  cases heq
  have hle : s.queue.signalAt.getD s.queue.done ≤ ps.length := by
    cases hsig : s.queue.signalAt with
    | none => exact hdone
    | some k => exact (h.ok.signal_le k hsig).trans hdone
  have hnodup := h.ok.accepted_nodup
  rw [hps] at hp hnodup
  rw [List.take_append_of_le_length hle] at hp
  exact (List.nodup_append.1 hnodup).2.2 f (List.mem_of_mem_take hp) f (List.mem_singleton_self f)
    rfl

theorem destroyed_sublist (h : QueueInv hasDestroyer s) :
    (destroyedEvents s.queue.log).Sublist
      ((s.queue.accepted.filter hasDestroyer).map fun p => (p, some p)) := by
  obtain ⟨done, _, hsig, hlog⟩ := h.log_prefix
  refine (hlog.filterMap _).sublist.trans ?_
  change (destroyedEvents (history _ _ _ _)).Sublist _
  rw [destroyedEvents_history hsig]
  exact ((List.take_sublist _ _).filter _).map _

theorem all_destroyed (h : QueueInv hasDestroyer s) (hoff : s.queue.flag = .off)
    (hp : p ∈ s.queue.accepted) (hhas : hasDestroyer p = true) :
    (p, some p) ∈ destroyedEvents s.queue.log := by
  obtain ⟨part, hlog, _⟩ := h.logged
  -- the flag says that all items were taken out
  rw [hlog, destroyedEvents_append, destroyedEvents_history h.ok.signal_le,
    h.ok.drained (Or.inr hoff), List.take_length]
  exact List.mem_append_left _
    (List.mem_map_of_mem (List.mem_filter.2 ⟨hp, hhas⟩))

end QueueInv

/-- A statement of `sys_queue` that is not recorded leaves the queue alone. -/
theorem contents_of_changes_eq (hstep : producerStep hasDestroyer p s = some t)
    (hchanges : t.changes = s.changes) : t.queue.contents = s.queue.contents := by
  unfold producerStep at hstep
  cases hpc : s.producer p with
  | storeCtx _ | storeFunction _ | storeDestroyer _ | setHead _ | incCount =>
      rw [hpc] at hstep
      obtain rfl := Option.some.inj hstep
      exact absurd (List.append_right_eq_self.1 hchanges) (List.cons_ne_nil _ _)
  | tryLock =>
      simp only [hpc] at hstep
      split at hstep
      · obtain rfl := Option.some.inj hstep
        rfl
      · obtain rfl := Option.some.inj hstep
        rfl
  | returned _ =>
      rw [hpc] at hstep
      cases hstep
  | _ =>
      rw [hpc] at hstep
      obtain rfl := Option.some.inj hstep
      rfl

/-- **First in, first out in every state that the parties can reach**, for every size and every
choice of destroyers. -/
theorem fifoQueue_of_run {queueSize : ℤ}
    (hrun : Run (queueStep hasDestroyer) (fun _ _ => true) (sysQueueInit queueSize) s) :
    FifoQueue hasDestroyer s := by
  have h := queueInv_of_run hrun
  refine
    { counters := h.counters
      accepted_nodup := h.ok.accepted_nodup
      accepted_iff := fun p err hpc => ?_
      accepted_returns := fun p hp => h.accepted_returns hp
      ran_prefix := h.ran_prefix
      ran_returned := fun f ctx hran => h.ran_returned hran
      destroyed_once := ?_
      destroyed_accepted := fun f ctx hmem => ?_
      ran_before := fun f l₁ l₂ hlog hran => ?_
      all_destroyed := fun hoff p hp hhas => h.all_destroyed hoff hp hhas
      no_run_after_signal := fun l₁ l₂ hlog => ?_
      error_unchanged := fun p err hpc herr hp => ?_
      changes_recorded := fun p t hstep hchanges => contents_of_changes_eq hstep hchanges }
  · have hcommitted := h.calls.committed p
    rw [hpc] at hcommitted
    rw [← hcommitted]
    exact ProducerPc.committed_returned_iff.symm
  · refine (List.Nodup.map (fun a b hab => congrArg Prod.fst hab)
      (h.ok.accepted_nodup.filter _)).sublist h.destroyed_sublist
  · obtain ⟨p, hp, heq⟩ := List.mem_map.1 (h.destroyed_sublist.subset hmem)
    cases heq
    exact ⟨rfl, (List.mem_filter.1 hp).1, (List.mem_filter.1 hp).2⟩
  · have hpairs := h.pairwise_log
    rw [hlog] at hpairs
    exact List.rel_of_pairwise_cons (List.pairwise_append.1 hpairs).2.1 hran rfl
  · have hpairs := h.pairwise_log
    rw [hlog] at hpairs
    refine List.filterMap_eq_nil_iff.2 fun e he => ?_
    have hbefore := List.rel_of_pairwise_cons (List.pairwise_append.1 hpairs).2.1 he
    cases e with
    | ran f ctx => exact hbefore.elim
    | destroyed f ctx => rfl
    | deinitSignal => rfl
  · have hwrote := h.calls.wrote p hp
    rw [hpc] at hwrote
    exact herr (ProducerPc.wrote_returned_iff.1 hwrote)

/-- An item is run, while another call finds the queue full; the next one is still there at the
shutdown, and only its destroyer is called. -/
def fullQueueRun : List QueueTurn :=
  List.replicate 13 (.producer 0) ++ List.replicate 7 (.producer 1) ++
    List.replicate 12 (.runner 0) ++ List.replicate 13 (.producer 2) ++
    List.replicate 6 .deinit ++ List.replicate 12 (.runner 0) ++ List.replicate 6 .deinit

theorem fifoQueue_of_run_full : ∃ s,
    exec (queueStep fun _ => true) (fun _ _ => true) fullQueueRun (sysQueueInit 1) = some s ∧
    s.queue.log = [.ran 0 (some 0), .destroyed 0 (some 0), .deinitSignal, .destroyed 2 (some 2)] ∧
    FifoQueue (fun _ => true) s := by
  have hrun : (exec (queueStep fun _ => true) (fun _ _ => true) fullQueueRun
      (sysQueueInit 1)).map (fun s => s.queue.log) =
      some [.ran 0 (some 0), .destroyed 0 (some 0), .deinitSignal, .destroyed 2 (some 2)] := by
    decide
  obtain ⟨s, hs, hlog⟩ := Option.map_eq_some_iff.1 hrun
  exact ⟨s, hs, hlog, fifoQueue_of_run (run_of_exec _ hs)⟩

end Solar48
