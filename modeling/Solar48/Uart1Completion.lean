/-
**One completion per Modbus exchange.**

The invariant says for each place in `master_send_req` what the call holds and what is its own
there, and for each place of the polling task on what it relies.  Exactly one call can be between
its `sys_try_lock` and the hand-over to the handlers; while it is, nothing is monitored and the
polling task is at rest, or about to call the callback of an exchange that has ended.  These two
calls must not meet, which is the first condition on a step; the second is that the timer, which a
transmission that outlives its timeout leaves running, does not start to monitor an exchange that
is none.

Main results:

* `MasterInv.step` — what one step preserves, with one lemma for each kind of step;
* `oneCompletion_of_run` — **one completion per exchange, in every run whose steps meet the
  condition**;
* `MasterInv.not_oneCompletion` — a callback stored in between is told about the other's exchange.
-/

import Solar48.Uart1Master

set_option relaxedAutoImplicit false
set_option autoImplicit false

namespace Solar48

open StepSystem

/-! ### What a place in `master_send_req` implies -/

namespace SenderPc

/-- The call holds the lock of `master_rs485_rtu`. -/
@[simp] def holding : SenderPc → Bool
  | idle | tryLock | enableCcr4 | returned _ => false
  | store _ | storeCallback | prepare | checkData _ | checkBusy | tryUart | clearMonitore
  | clearRe | clearCcr4 | clearCcr5 | clearStatus | storeUartCallback | setMonitore
  | unlock _ => true

/-- The exchange is left to the handlers and to the polling task. -/
@[simp] def sent : SenderPc → Bool
  | enableCcr4 => true
  | returned err => err = 0
  | idle | tryLock | store _ | storeCallback | prepare | checkData _ | checkBusy | tryUart
  | clearMonitore | clearRe | clearCcr4 | clearCcr5 | clearStatus | storeUartCallback
  | setMonitore | unlock _ => false

/-- The call has stored the field. -/
@[simp] def stored (f : RtuField) : SenderPc → Bool
  | idle | tryLock => false
  | store g => f.index < g.index
  | storeCallback | prepare | checkData _ | checkBusy | tryUart | clearMonitore | clearRe
  | clearCcr4 | clearCcr5 | clearStatus | storeUartCallback | setMonitore | enableCcr4
  | unlock _ | returned _ => true

/-- The call has stored its callback. -/
@[simp] def callbackStored : SenderPc → Bool
  | idle | tryLock | store _ | storeCallback => false
  | prepare | checkData _ | checkBusy | tryUart | clearMonitore | clearRe | clearCcr4
  | clearCcr5 | clearStatus | storeUartCallback | setMonitore | enableCcr4 | unlock _
  | returned _ => true

/-- The call has written its frame. -/
@[simp] def prepared : SenderPc → Bool
  | idle | tryLock | store _ | storeCallback | prepare => false
  | checkData _ | checkBusy | tryUart | clearMonitore | clearRe | clearCcr4 | clearCcr5
  | clearStatus | storeUartCallback | setMonitore | enableCcr4 | unlock _ | returned _ => true

/-- The call holds `uart1_control.locked` and is not monitored yet. -/
@[simp] def starting : SenderPc → Bool
  | clearMonitore | clearRe | clearCcr4 | clearCcr5 | clearStatus | storeUartCallback
  | setMonitore => true
  | idle | tryLock | store _ | storeCallback | prepare | checkData _ | checkBusy | tryUart
  | enableCcr4 | unlock _ | returned _ => false

/-- The call has cleared the status register, and is not monitored yet. -/
@[simp] def cleared : SenderPc → Bool
  | storeUartCallback | setMonitore => true
  | idle | tryLock | store _ | storeCallback | prepare | checkData _ | checkBusy | tryUart
  | clearMonitore | clearRe | clearCcr4 | clearCcr5 | clearStatus | enableCcr4 | unlock _
  | returned _ => false

variable {pc : SenderPc}

theorem not_holding_of_sent (h : pc.sent = true) : pc.holding = false := by
  cases pc <;> simp_all

theorem stored_of_sent (h : pc.sent = true) (f : RtuField) : pc.stored f = true := by
  cases pc <;> simp_all

theorem callbackStored_of_sent (h : pc.sent = true) : pc.callbackStored = true := by
  cases pc <;> simp_all

theorem prepared_of_sent (h : pc.sent = true) : pc.prepared = true := by
  cases pc <;> simp_all

theorem stored_of_prepared (h : pc.prepared = true) (f : RtuField) : pc.stored f = true := by
  cases pc <;> simp_all

theorem callbackStored_of_prepared (h : pc.prepared = true) : pc.callbackStored = true := by
  cases pc <;> simp_all

theorem holding_of_starting (h : pc.starting = true) : pc.holding = true := by
  cases pc <;> simp_all

theorem starting_of_cleared (h : pc.cleared = true) : pc.starting = true := by
  cases pc <;> simp_all

end SenderPc

/-- A field is stored by the statement about it, and by no other. -/
theorem RtuField.stored_next {f g : RtuField} (h : f.next.stored g = true) :
    g = f ∨ (SenderPc.store f).stored g = true := by
  cases f <;> cases g <;> simp_all [RtuField.next, RtuField.index]

/-! ### The invariant -/

/-- What call `c` relies on at the place where it is. -/
structure MasterState.CallInv (s : MasterState) (c : ℕ) : Prop where
  holding : (s.sender c).holding = true → s.holder = some c
  place : s.holder = some c → (s.sender c).holding = true ∨ (s.sender c).sent = true
  fields : s.holder = some c → ∀ f, (s.sender c).stored f = true → s.fields f = some c
  callback : s.holder = some c → (s.sender c).callbackStored = true → s.callback = some c
  buffer : s.holder = some c → (s.sender c).prepared = true → s.buffer = some c
  starting : (s.sender c).starting = true → s.owner = some c
  cleared : (s.sender c).cleared = true → s.statusOf = some c
  failing : ∀ err, s.sender c = .unlock err → err ≠ 0

/-- Call `c` has left its exchange to others and still holds the lock. -/
structure MasterState.InFlight (s : MasterState) (c : ℕ) : Prop where
  holder_eq : s.holder = some c
  sent : (s.sender c).sent = true

/-- What the polling task relies on at the place where it is. -/
def PollPc.Rely (s : MasterState) : PollPc → Prop
  | .idle => True
  | .loadStatus tx | .checkTimeout tx => s.startMonitore = true ∧ tx = s.owner
  | .finish .locked tx _ of | .finish .callback tx _ of | .checkReceive tx of =>
      s.startMonitore = false ∧ of = tx ∧ ∃ c, tx = some c ∧ s.InFlight c
  | .finish _ tx _ of => s.startMonitore = true ∧ tx = s.owner ∧ of = tx
  | .unlock tx outcome =>
      s.startMonitore = false ∧
        ∃ c, tx = some c ∧ s.InFlight c ∧ Completion.Own ⟨c, tx, outcome⟩
  | .invoke tx outcome =>
      s.startMonitore = false ∧ ∃ c, Completion.Own ⟨c, tx, outcome⟩ ∧
        (s.sender c).sent = true ∧ s.holder ≠ some c ∧ s.callback = some c ∧
        (∀ d, s.holder = some d → (s.sender d).callbackStored = false) ∧
        ∀ e ∈ s.completions, e.callback ≠ c

structure MasterInv (s : MasterState) : Prop where
  lock_eq : s.lock = s.holder.isSome
  calls : ∀ c, s.CallInv c
  monitored : s.startMonitore = true →
    ∃ c, s.InFlight c ∧ s.owner = some c ∧ s.statusOf = some c
  rely : s.poll.Rely s
  own : ∀ e ∈ s.completions, e.Own
  done : ∀ e ∈ s.completions, (s.sender e.callback).sent = true ∧ s.holder ≠ some e.callback
  once : (s.completions.map Completion.callback).Nodup
  released : ∀ r ∈ s.releases, ∃ c, r = (some c, some c)

variable {s t : MasterState} {c d : ℕ}

theorem masterInit_inv : MasterInv masterInit where
  lock_eq := rfl
  calls _ := ⟨nofun, nofun, nofun, nofun, nofun, nofun, nofun, nofun⟩
  monitored := nofun
  rely := trivial
  own := nofun
  done := nofun
  once := List.nodup_nil
  released := nofun

/-- A call that does not hold the lock is outside, and nothing more is asked of it. -/
theorem MasterState.callInv_of_not_holder (h : s.holder ≠ some c)
    (hout : (s.sender c).holding = false) : s.CallInv c where
  holding hh := by rw [hout] at hh; cases hh
  place hc := absurd hc h
  fields hc := absurd hc h
  callback hc := absurd hc h
  buffer hc := absurd hc h
  starting hs := by rw [SenderPc.holding_of_starting hs] at hout; cases hout
  cleared hs := by
    rw [SenderPc.holding_of_starting (SenderPc.starting_of_cleared hs)] at hout
    cases hout
  failing err herr := by rw [herr] at hout; cases hout

/-- What the holder relies on, from the place where it is. -/
theorem MasterState.CallInv.of_place {pc : SenderPc} (hself : s.sender c = pc)
    (hheld : s.holder = some c) (hplace : pc.holding = true ∨ pc.sent = true)
    (hfields : ∀ f, pc.stored f = true → s.fields f = some c)
    (hcallback : pc.callbackStored = true → s.callback = some c)
    (hbuffer : pc.prepared = true → s.buffer = some c)
    (hstarting : pc.starting = true → s.owner = some c)
    (hcleared : pc.cleared = true → s.statusOf = some c)
    (hfailing : ∀ err, pc = .unlock err → err ≠ 0) : s.CallInv c := by
  subst hself
  exact ⟨fun _ => hheld, fun _ => hplace, fun _ => hfields, fun _ => hcallback,
    fun _ => hbuffer, hstarting, hcleared, hfailing⟩

/-- What a call relies on is not touched. -/
theorem MasterState.CallInv.congr (h : s.CallInv c) (hsender : t.sender c = s.sender c)
    (hholder : t.holder = s.holder) (hfields : t.fields = s.fields)
    (hcallback : t.callback = s.callback) (hbuffer : t.buffer = s.buffer)
    (howner : t.owner = s.owner) (hstatus : t.statusOf = s.statusOf) : t.CallInv c where
  holding := by rw [hsender, hholder]; exact h.holding
  place := by rw [hsender, hholder]; exact h.place
  fields := by rw [hsender, hholder, hfields]; exact h.fields
  callback := by rw [hsender, hholder, hcallback]; exact h.callback
  buffer := by rw [hsender, hholder, hbuffer]; exact h.buffer
  starting := by rw [hsender, howner]; exact h.starting
  cleared := by rw [hsender, hstatus]; exact h.cleared
  failing := by rw [hsender]; exact h.failing

/-- What the polling task relies on is not touched. -/
theorem PollPc.Rely.congr {p : PollPc} (h : p.Rely s)
    (hstart : t.startMonitore = s.startMonitore) (hholder : t.holder = s.holder)
    (howner : t.owner = s.owner) (hcallback : t.callback = s.callback)
    (hcompletions : t.completions = s.completions)
    (hsent : ∀ d, (s.sender d).sent = true → (t.sender d).sent = true)
    (hout : ∀ d, s.holder = some d → (s.sender d).callbackStored = false →
      (t.sender d).callbackStored = false) : p.Rely t := by
  have hflight : ∀ d, s.InFlight d → t.InFlight d := fun d hd =>
    ⟨hholder.trans hd.holder_eq, hsent d hd.sent⟩
  cases p with
  | idle => trivial
  | loadStatus tx | checkTimeout tx => exact ⟨hstart.trans h.1, howner ▸ h.2⟩
  | finish stage tx st of =>
      cases stage with
      | locked | callback =>
          obtain ⟨h1, h2, d, hd, hf⟩ := h
          exact ⟨hstart.trans h1, h2, d, hd, hflight d hf⟩
      | _ => exact ⟨hstart.trans h.1, howner ▸ h.2.1, h.2.2⟩
  | checkReceive tx of =>
      obtain ⟨h1, h2, d, hd, hf⟩ := h
      exact ⟨hstart.trans h1, h2, d, hd, hflight d hf⟩
  | unlock tx outcome =>
      obtain ⟨h1, d, hd, hf, hown⟩ := h
      exact ⟨hstart.trans h1, d, hd, hflight d hf, hown⟩
  | invoke tx outcome =>
      obtain ⟨h1, d, hown, hd, hne, hback, hall, hnone⟩ := h
      refine ⟨hstart.trans h1, d, hown, hsent d hd, by rwa [hholder], by rwa [hcallback],
        fun e he => ?_, hcompletions ▸ hnone⟩
      rw [hholder] at he
      exact hout e he (hall e he)

namespace MasterInv

/-- Two calls do not both hold the lock. -/
theorem not_holding (h : MasterInv s) (hc : s.holder = some c) (hne : d ≠ c) :
    (s.sender d).holding = false := by
  rw [Bool.eq_false_iff]
  intro hd
  have := (h.calls d).holding hd
  rw [hc] at this
  exact hne (Option.some.inj this).symm

/-- Outside its own exchange the holder's call sees nothing monitored. -/
theorem startMonitore_of_holding (h : MasterInv s) (hc : (s.sender c).holding = true) :
    s.startMonitore = false := by
  rw [Bool.eq_false_iff]
  intro hstart
  obtain ⟨d, ⟨hd, hsent⟩, -⟩ := h.monitored hstart
  rw [(h.calls c).holding hc] at hd
  obtain rfl := Option.some.inj hd
  rw [SenderPc.not_holding_of_sent hsent] at hc
  cases hc

/-- While nothing is monitored and no exchange is in flight, the polling task is at rest or about
to call a callback. -/
theorem poll_of_not_inFlight (h : MasterInv s) (hstart : s.startMonitore = false)
    (hno : ∀ d, ¬ s.InFlight d) : s.poll = .idle ∨ s.poll.invoking = true := by
  have hrely := h.rely
  cases hp : s.poll with
  | idle => exact Or.inl rfl
  | invoke tx outcome => exact Or.inr rfl
  | loadStatus tx | checkTimeout tx =>
      rw [hp] at hrely
      rw [hrely.1] at hstart
      cases hstart
  | finish stage tx st of =>
      rw [hp] at hrely
      cases stage with
      | locked | callback =>
          obtain ⟨-, -, d, -, hd⟩ := hrely
          exact absurd hd (hno d)
      | _ =>
          rw [hrely.1] at hstart
          cases hstart
  | checkReceive tx of =>
      rw [hp] at hrely
      obtain ⟨-, -, d, -, hd⟩ := hrely
      exact absurd hd (hno d)
  | unlock tx outcome =>
      rw [hp] at hrely
      obtain ⟨-, d, -, hd, -⟩ := hrely
      exact absurd hd (hno d)

theorem not_inFlight_of_holding (h : MasterInv s) (hc : (s.sender c).holding = true) :
    ∀ d, ¬ s.InFlight d := by
  rintro d ⟨hd, hsent⟩
  rw [(h.calls c).holding hc] at hd
  obtain rfl := Option.some.inj hd
  rw [SenderPc.not_holding_of_sent hsent] at hc
  cases hc

/-- While a callback is about to be called the holder has not stored its own. -/
theorem callbackStored_of_invoking (h : MasterInv s) (hc : s.holder = some c)
    (hinvoke : s.poll.invoking = true) : (s.sender c).callbackStored = false := by
  have hrely := h.rely
  cases hp : s.poll with
  | invoke tx outcome =>
      rw [hp] at hrely
      obtain ⟨-, d, -, -, -, -, hout, -⟩ := hrely
      exact hout c hc
  | _ =>
      rw [hp] at hinvoke
      cases hinvoke

/-! ### Statements of `master_send_req` -/

/-- **A call that holds the lock takes a step and keeps it.** -/
theorem advance (h : MasterInv s) {pc : SenderPc} (hc : (s.sender c).holding = true)
    (hsender : t.sender = Function.update s.sender c pc) (hlock : t.lock = s.lock)
    (hholder : t.holder = s.holder) (hpoll : t.poll = s.poll)
    (hcompletions : t.completions = s.completions) (hreleases : t.releases = s.releases)
    (hcall : t.CallInv c)
    (hmonitored : t.startMonitore = true →
      pc.sent = true ∧ t.owner = some c ∧ t.statusOf = some c)
    (hinvoke : s.poll.invoking = true →
      t.startMonitore = false ∧ t.callback = s.callback ∧ pc.callbackStored = false) :
    MasterInv t := by
  have hself : t.sender c = pc := by rw [hsender, Function.update_self]
  have hother : ∀ d, d ≠ c → t.sender d = s.sender d := by
    intro d hd
    rw [hsender, Function.update_of_ne hd]
  have hheld : s.holder = some c := (h.calls c).holding hc
  have hne : ∀ e ∈ s.completions, e.callback ≠ c := by
    rintro e he rfl
    exact (h.done e he).2 hheld
  refine ⟨by rw [hlock, hholder]; exact h.lock_eq, fun d => ?_, fun hstart => ?_, ?_,
    hcompletions ▸ h.own, ?_, hcompletions ▸ h.once, hreleases ▸ h.released⟩
  · rcases eq_or_ne d c with rfl | hd
    · exact hcall
    · refine MasterState.callInv_of_not_holder ?_ ?_
      · rw [hholder, hheld]
        exact fun heq => hd (Option.some.inj heq).symm
      · rw [hother d hd]
        exact h.not_holding hheld hd
  · obtain ⟨hsent, howner, hstatus⟩ := hmonitored hstart
    exact ⟨c, ⟨hholder.trans hheld, by rw [hself]; exact hsent⟩, howner, hstatus⟩
  · rw [hpoll]
    rcases h.poll_of_not_inFlight (h.startMonitore_of_holding hc)
      (h.not_inFlight_of_holding hc) with hidle | hinvoking
    · rw [hidle]
      trivial
    -- the callback about to be called is that of another call, whose exchange has ended
    · obtain ⟨hstart, hcallback, hpc⟩ := hinvoke hinvoking
      have hrely := h.rely
      cases hp : s.poll with
      | invoke tx outcome =>
          rw [hp] at hrely
          obtain ⟨-, d, hown, hsent, hout, hback, -, hnone⟩ := hrely
          have hd : d ≠ c := by
            rintro rfl
            exact hout hheld
          refine ⟨hstart, d, hown, by rw [hother d hd]; exact hsent, by rwa [hholder],
            by rwa [hcallback], fun e he => ?_, hcompletions ▸ hnone⟩
          rw [hholder, hheld] at he
          obtain rfl := Option.some.inj he
          rw [hself]
          exact hpc
      | _ =>
          rw [hp] at hinvoking
          cases hinvoking
  · intro e he
    rw [hcompletions] at he
    rw [hother _ (hne e he), hholder]
    exact h.done e he

/-- **Nothing happens that the exchange in flight depends on.** -/
theorem quiet (h : MasterInv s) (hcalls : ∀ d, t.CallInv d) (hlock : t.lock = s.lock)
    (hholder : t.holder = s.holder) (hstart : t.startMonitore = s.startMonitore)
    (howner : t.owner = s.owner) (hcallback : t.callback = s.callback)
    (hpoll : t.poll = s.poll) (hcompletions : t.completions = s.completions)
    (hreleases : t.releases = s.releases)
    (hstatus : t.statusOf = s.statusOf ∨ t.statusOf = s.owner)
    (hsent : ∀ d, (s.sender d).sent = true → (t.sender d).sent = true)
    (hout : ∀ d, s.holder = some d → (s.sender d).callbackStored = false →
      (t.sender d).callbackStored = false) : MasterInv t := by
  refine ⟨by rw [hlock, hholder]; exact h.lock_eq, hcalls, fun ht => ?_, ?_,
    hcompletions ▸ h.own, fun e he => ?_, hcompletions ▸ h.once, hreleases ▸ h.released⟩
  · obtain ⟨d, hd, hd', hd''⟩ := h.monitored (hstart ▸ ht)
    -- the status is still the old one, or was found during the same exchange
    refine ⟨d, ⟨hholder.trans hd.holder_eq, hsent d hd.sent⟩, howner.trans hd', ?_⟩
    rcases hstatus with heq | heq
    · exact heq.trans hd''
    · exact heq.trans hd'
  · rw [hpoll]
    exact h.rely.congr hstart hholder howner hcallback hcompletions hsent hout
  · rw [hcompletions] at he
    exact ⟨hsent _ (h.done e he).1, by rw [hholder]; exact (h.done e he).2⟩

/-- A call that neither gets nor holds the lock goes on. -/
theorem outside (h : MasterInv s) {pc : SenderPc} (hc : s.holder ≠ some c)
    (hsent : (s.sender c).sent = false) (hpc : pc.holding = false) : MasterInv (s.goto c pc) := by
  have hother : ∀ d, d ≠ c → (s.goto c pc).sender d = s.sender d := fun d hd =>
    Function.update_of_ne hd _ _
  have hself : (s.goto c pc).sender c = pc := Function.update_self _ _ _
  refine h.quiet (fun d => ?_) rfl rfl rfl rfl rfl rfl rfl rfl (Or.inl rfl) (fun d hd => ?_)
    (fun d hd hfalse => ?_)
  · rcases eq_or_ne d c with rfl | hd
    · exact MasterState.callInv_of_not_holder hc (by rwa [hself])
    · exact (h.calls d).congr (hother d hd) rfl rfl rfl rfl rfl rfl
  · rcases eq_or_ne d c with rfl | hne
    · rw [hsent] at hd
      cases hd
    · rwa [hother d hne]
  · have hne : d ≠ c := by
      rintro rfl
      exact hc hd
    rwa [hother d hne]

theorem holder_none (h : MasterInv s) (hlock : s.lock = false) : s.holder = none := by
  rw [h.lock_eq] at hlock
  exact Option.not_isSome_iff_eq_none.1 (by rw [hlock]; exact Bool.false_ne_true)

/-- A call gets the lock. -/
theorem acquire (h : MasterInv s) (hlock : s.lock = false) (hpc : s.sender c = .tryLock) :
    MasterInv ({ s with lock := true, holder := some c }.goto c (.store .address)) := by
  have hfree := h.holder_none hlock
  have hself : Function.update s.sender c (.store .address) c = .store .address :=
    Function.update_self _ _ _
  have hother : ∀ d, d ≠ c → Function.update s.sender c (.store .address) d = s.sender d :=
    fun d hd => Function.update_of_ne hd _ _
  have hne : ∀ d, (s.sender d).sent = true → d ≠ c := by
    rintro d hd rfl
    rw [hpc] at hd
    cases hd
  have hno : ∀ d, ¬ s.InFlight d := by
    rintro d ⟨hd, -⟩
    rw [hfree] at hd
    cases hd
  have hstart : s.startMonitore = false := by
    rw [Bool.eq_false_iff]
    intro hstart
    obtain ⟨d, hd, -⟩ := h.monitored hstart
    exact hno d hd
  refine ⟨rfl, fun d => ?_, fun ht => ?_, ?_, h.own, fun e he => ?_, h.once, h.released⟩
  · rcases eq_or_ne d c with rfl | hd
    · constructor <;> simp [MasterState.goto, RtuField.index]
    · refine MasterState.callInv_of_not_holder (fun heq => hd (Option.some.inj heq).symm) ?_
      change (Function.update s.sender c (.store .address) d).holding = false
      rw [hother d hd, Bool.eq_false_iff]
      intro hh
      have := (h.calls d).holding hh
      rw [hfree] at this
      cases this
  · exact absurd ht (by rw [MasterState.goto, hstart]; exact Bool.false_ne_true)
  · change PollPc.Rely _ s.poll
    rcases h.poll_of_not_inFlight hstart hno with hidle | hinvoking
    · rw [hidle]
      trivial
    · have hrely := h.rely
      cases hp : s.poll with
      | invoke tx outcome =>
          rw [hp] at hrely
          obtain ⟨-, d, hown, hsent, -, hback, -, hnone⟩ := hrely
          have hd := hne d hsent
          refine ⟨hstart, d, hown, ?_, fun heq => hd (Option.some.inj heq).symm, hback,
            fun e he => ?_, hnone⟩
          · change (Function.update s.sender c (.store .address) d).sent = true
            rwa [hother d hd]
          · obtain rfl := Option.some.inj he
            change (Function.update s.sender c (.store .address) c).callbackStored = false
            rw [hself]
            rfl
      | _ =>
          rw [hp] at hinvoking
          cases hinvoking
  · obtain ⟨hsent, -⟩ := h.done e he
    have hd := hne _ hsent
    refine ⟨?_, fun heq => hd (Option.some.inj heq).symm⟩
    change (Function.update s.sender c (.store .address) e.callback).sent = true
    rwa [hother _ hd]

/-- A call gives the lock back and returns an error. -/
theorem giveBack (h : MasterInv s) {err : ℤ} (hpc : s.sender c = .unlock err) :
    MasterInv ((s.release (some c)).goto c (.returned err)) := by
  have hc : (s.sender c).holding = true := by rw [hpc]; rfl
  have hheld := (h.calls c).holding hc
  have hstart := h.startMonitore_of_holding hc
  have hother : ∀ d, d ≠ c → Function.update s.sender c (.returned err) d = s.sender d :=
    fun d hd => Function.update_of_ne hd _ _
  refine ⟨rfl, fun d => ?_, fun ht => ?_, ?_, h.own, fun e he => ?_, h.once, fun r hr => ?_⟩
  · refine MasterState.callInv_of_not_holder nofun ?_
    change (Function.update s.sender c (.returned err) d).holding = false
    rcases eq_or_ne d c with rfl | hd
    · rw [Function.update_self]
      rfl
    · rw [hother d hd]
      exact h.not_holding hheld hd
  · exact absurd (hstart ▸ ht : false = true) Bool.false_ne_true
  · change PollPc.Rely _ s.poll
    rcases h.poll_of_not_inFlight hstart (h.not_inFlight_of_holding hc) with hidle | hinvoking
    · rw [hidle]
      trivial
    · have := h.callbackStored_of_invoking hheld hinvoking
      rw [hpc] at this
      cases this
  · obtain ⟨hsent, hne⟩ := h.done e he
    have hd : e.callback ≠ c := by
      intro heq
      exact hne (heq ▸ hheld)
    refine ⟨?_, nofun⟩
    change (Function.update s.sender c (.returned err) e.callback).sent = true
    rwa [hother _ hd]
  · rcases List.mem_append.1 hr with hr | hr
    · exact h.released r hr
    · obtain rfl := List.mem_singleton.1 hr
      exact ⟨c, by rw [hheld]⟩

/-- A call hands over to the handlers and returns. -/
theorem handOver (h : MasterInv s) (hpc : s.sender c = .enableCcr4) :
    MasterInv ({ s with ccr4 := true }.goto c (.returned 0)) := by
  have hself : Function.update s.sender c (.returned 0) c = .returned 0 :=
    Function.update_self _ _ _
  have hother : ∀ d, d ≠ c → Function.update s.sender c (.returned 0) d = s.sender d :=
    fun d hd => Function.update_of_ne hd _ _
  refine h.quiet (fun d => ?_) rfl rfl rfl rfl rfl rfl rfl rfl (Or.inl rfl) (fun d hd => ?_)
    (fun d hd hfalse => ?_)
  · rcases eq_or_ne d c with rfl | hd
    · obtain ⟨-, -, hf, hcb, hbuf, -, -, -⟩ := h.calls d
      rw [hpc] at hf hcb hbuf
      constructor <;> simp [MasterState.goto]
      · exact fun hd f => hf hd f rfl
      · exact fun hd => hcb hd rfl
      · exact fun hd => hbuf hd rfl
    · exact (h.calls d).congr (hother d hd) rfl rfl rfl rfl rfl rfl
  · change (Function.update s.sender c (.returned 0) d).sent = true
    rcases eq_or_ne d c with rfl | hne
    · rw [hself]
      rfl
    · rwa [hother d hne]
  · have hne : d ≠ c := by
      rintro rfl
      rw [hpc] at hfalse
      cases hfalse
    change (Function.update s.sender c (.returned 0) d).callbackStored = false
    rwa [hother d hne]

/-- A call stores one of its arguments. -/
theorem storeField (h : MasterInv s) {f : RtuField} (hpc : s.sender c = .store f) :
    MasterInv ({ s with fields := Function.update s.fields f (some c) }.goto c f.next) := by
  have hc : (s.sender c).holding = true := by rw [hpc]; rfl
  have hheld := (h.calls c).holding hc
  have hstart := h.startMonitore_of_holding hc
  have hnext : f.next.holding = true ∧ f.next.callbackStored = false ∧ f.next.prepared = false ∧
      f.next.starting = false ∧ f.next.cleared = false ∧ ∀ err, f.next ≠ .unlock err := by
    cases f <;> exact ⟨rfl, rfl, rfl, rfl, rfl, nofun⟩
  obtain ⟨hholding, hback, hprep, hstarting, hcleared, hunlock⟩ := hnext
  refine h.advance hc rfl rfl rfl rfl rfl rfl (.of_place (Function.update_self _ _ _) hheld
    (Or.inl hholding) (fun g hg => ?_) ?_ ?_ ?_ ?_ fun err herr => absurd herr (hunlock err))
    (fun ht => absurd (hstart ▸ ht : false = true) Bool.false_ne_true)
    fun _ => ⟨hstart, rfl, hback⟩
  · change Function.update s.fields f (some c) g = some c
    rcases RtuField.stored_next hg with rfl | hg
    · exact Function.update_self _ _ _
    · rcases eq_or_ne g f with rfl | hne
      · exact Function.update_self _ _ _
      · rw [Function.update_of_ne hne]
        exact (h.calls c).fields hheld g (by rwa [hpc])
  · exact fun ht => absurd (hback ▸ ht : false = true) Bool.false_ne_true
  · exact fun ht => absurd (hprep ▸ ht : false = true) Bool.false_ne_true
  · exact fun ht => absurd (hstarting ▸ ht : false = true) Bool.false_ne_true
  · exact fun ht => absurd (hcleared ▸ ht : false = true) Bool.false_ne_true

/-- A call stores its callback, and none is about to be called. -/
theorem storeCallback (h : MasterInv s) (hpc : s.sender c = .storeCallback)
    (hok : s.poll.invoking = false) :
    MasterInv ({ s with callback := some c }.goto c .prepare) := by
  have hc : (s.sender c).holding = true := by rw [hpc]; rfl
  have hheld := (h.calls c).holding hc
  have hstart := h.startMonitore_of_holding hc
  refine h.advance hc rfl rfl rfl rfl rfl rfl (.of_place (Function.update_self _ _ _) hheld
    (Or.inl rfl) (fun g _ => (h.calls c).fields hheld g (by rw [hpc]; rfl)) (fun _ => rfl) nofun
    nofun nofun nofun) (fun ht => absurd (hstart ▸ ht : false = true) Bool.false_ne_true)
    fun hinvoke => absurd (hok ▸ hinvoke : false = true) Bool.false_ne_true

/-- A call returns from `master_prepare_to_send`. -/
theorem prepared (h : MasterInv s) {pc : SenderPc} (hpc : s.sender c = .prepare)
    (hholding : pc.holding = true) (hstarting : pc.starting = false)
    (hfailing : ∀ err, pc = .unlock err → err ≠ 0) :
    MasterInv ({ s with buffer := some c }.goto c pc) := by
  have hc : (s.sender c).holding = true := by rw [hpc]; rfl
  have hheld := (h.calls c).holding hc
  have hstart := h.startMonitore_of_holding hc
  refine h.advance hc rfl rfl rfl rfl rfl rfl (.of_place (Function.update_self _ _ _) hheld
    (Or.inl hholding) (fun g _ => (h.calls c).fields hheld g (by rw [hpc]; rfl))
    (fun _ => (h.calls c).callback hheld (by rw [hpc]; rfl)) (fun _ => rfl)
    (fun ht => absurd (hstarting ▸ ht : false = true) Bool.false_ne_true)
    (fun ht => ?_) hfailing)
    (fun ht => absurd (hstart ▸ ht : false = true) Bool.false_ne_true)
    fun hinvoke => ?_
  · rw [SenderPc.starting_of_cleared ht] at hstarting
    cases hstarting
  · have := h.callbackStored_of_invoking hheld hinvoke
    rw [hpc] at this
    cases this

/-- A call that has prepared its frame goes on with `uart1_transmit`. -/
theorem transmit (h : MasterInv s) {pc : SenderPc} (hc : (s.sender c).holding = true)
    (hprep : (s.sender c).prepared = true)
    (hsender : t.sender = Function.update s.sender c pc) (hlock : t.lock = s.lock)
    (hholder : t.holder = s.holder) (hpoll : t.poll = s.poll)
    (hcompletions : t.completions = s.completions) (hreleases : t.releases = s.releases)
    (hfields : t.fields = s.fields) (hcallback : t.callback = s.callback)
    (hbuffer : t.buffer = s.buffer) (hplace : pc.holding = true ∨ pc.sent = true)
    (hstarting : pc.starting = true → t.owner = some c)
    (hcleared : pc.cleared = true → t.statusOf = some c)
    (hfailing : ∀ err, pc = .unlock err → err ≠ 0)
    (hmonitored : t.startMonitore = true →
      pc.sent = true ∧ t.owner = some c ∧ t.statusOf = some c) : MasterInv t := by
  have hheld := (h.calls c).holding hc
  refine h.advance hc hsender hlock hholder hpoll hcompletions hreleases
    (.of_place (by rw [hsender, Function.update_self]) (hholder.trans hheld) hplace
      (fun g _ => ?_) (fun _ => ?_) (fun _ => ?_) hstarting hcleared hfailing)
    hmonitored fun hinvoke => ?_
  · rw [hfields]
    exact (h.calls c).fields hheld g (SenderPc.stored_of_prepared hprep g)
  · rw [hcallback]
    exact (h.calls c).callback hheld (SenderPc.callbackStored_of_prepared hprep)
  · rw [hbuffer]
    exact (h.calls c).buffer hheld hprep
  · have := h.callbackStored_of_invoking hheld hinvoke
    rw [SenderPc.callbackStored_of_prepared hprep] at this
    cases this

/-- A call that neither holds the lock nor has handed over does not have it. -/
theorem not_holder (h : MasterInv s) (hholding : (s.sender c).holding = false)
    (hsent : (s.sender c).sent = false) : s.holder ≠ some c := by
  intro hheld
  rcases (h.calls c).place hheld with hh | hh
  · rw [hholding] at hh
    cases hh
  · rw [hsent] at hh
    cases hh

/-- **One statement of `master_send_req`.** -/
theorem send (h : MasterInv s) (hok : keepsExchange (.send c) s = true)
    (hstep : sendStep c s = some t) : MasterInv t := by
  unfold sendStep at hstep
  have hquiet : (s.sender c).holding = true → ¬ s.startMonitore = true := fun hc =>
    Bool.eq_false_iff.1 (h.startMonitore_of_holding hc)
  have hstarting := (h.calls c).starting
  have hcleared := (h.calls c).cleared
  cases hpc : s.sender c with
  | idle =>
      rw [hpc] at hstep
      obtain rfl := Option.some.inj hstep
      exact h.outside (h.not_holder (by rw [hpc]; rfl) (by rw [hpc]; rfl)) (by rw [hpc]; rfl) rfl
  | tryLock =>
      simp only [hpc] at hstep
      split at hstep
      · obtain rfl := Option.some.inj hstep
        exact h
      · rename_i hlock
        obtain rfl := Option.some.inj hstep
        exact h.acquire (Bool.eq_false_iff.2 hlock) hpc
  | store f =>
      rw [hpc] at hstep
      obtain rfl := Option.some.inj hstep
      exact h.storeField hpc
  | storeCallback =>
      rw [hpc] at hstep
      obtain rfl := Option.some.inj hstep
      refine h.storeCallback hpc ?_
      simpa [keepsExchange, hpc] using hok
  | prepare =>
      rw [hpc] at hstep
      cases hstep
  | checkData size =>
      rw [hpc] at hstep hquiet
      obtain rfl := Option.some.inj hstep
      split
      · exact h.transmit (by rw [hpc]; rfl) (by rw [hpc]; rfl) rfl rfl rfl rfl rfl rfl rfl rfl rfl
          (Or.inr rfl) nofun nofun nofun fun ht => absurd ht (hquiet rfl)
      · exact h.transmit (by rw [hpc]; rfl) (by rw [hpc]; rfl) rfl rfl rfl rfl rfl rfl rfl rfl rfl
          (Or.inl rfl) nofun nofun nofun fun ht => absurd ht (hquiet rfl)
  | checkBusy =>
      rw [hpc] at hstep hquiet
      obtain rfl := Option.some.inj hstep
      split
      · refine h.transmit (by rw [hpc]; rfl) (by rw [hpc]; rfl) rfl rfl rfl rfl rfl rfl rfl rfl rfl
          (Or.inl rfl) nofun nofun ?_ fun ht => absurd ht (hquiet rfl)
        rintro err ⟨⟩
        decide
      · exact h.transmit (by rw [hpc]; rfl) (by rw [hpc]; rfl) rfl rfl rfl rfl rfl rfl rfl rfl rfl
          (Or.inl rfl) nofun nofun nofun fun ht => absurd ht (hquiet rfl)
  | tryUart =>
      simp only [hpc] at hstep
      rw [hpc] at hquiet
      split at hstep
      · obtain rfl := Option.some.inj hstep
        exact h
      · obtain rfl := Option.some.inj hstep
        exact h.transmit (by rw [hpc]; rfl) (by rw [hpc]; rfl) rfl rfl rfl rfl rfl rfl rfl rfl rfl
          (Or.inl rfl) (fun _ => rfl) nofun nofun fun ht => absurd ht (hquiet rfl)
  | clearMonitore =>
      rw [hpc] at hstep hstarting
      obtain rfl := Option.some.inj hstep
      exact h.transmit (by rw [hpc]; rfl) (by rw [hpc]; rfl) rfl rfl rfl rfl rfl rfl rfl rfl rfl
        (Or.inl rfl) (fun _ => hstarting rfl) nofun nofun nofun
  | clearRe | clearCcr4 | clearCcr5 =>
      rw [hpc] at hstep hstarting hquiet
      obtain rfl := Option.some.inj hstep
      exact h.transmit (by rw [hpc]; rfl) (by rw [hpc]; rfl) rfl rfl rfl rfl rfl rfl rfl rfl rfl
        (Or.inl rfl) (fun _ => hstarting rfl) nofun nofun fun ht => absurd ht (hquiet rfl)
  | clearStatus =>
      rw [hpc] at hstep hstarting hquiet
      obtain rfl := Option.some.inj hstep
      exact h.transmit (by rw [hpc]; rfl) (by rw [hpc]; rfl) rfl rfl rfl rfl rfl rfl rfl rfl rfl
        (Or.inl rfl) (fun _ => hstarting rfl) (fun _ => rfl) nofun fun ht => absurd ht (hquiet rfl)
  | storeUartCallback =>
      rw [hpc] at hstep hstarting hcleared hquiet
      obtain rfl := Option.some.inj hstep
      exact h.transmit (by rw [hpc]; rfl) (by rw [hpc]; rfl) rfl rfl rfl rfl rfl rfl rfl rfl rfl
        (Or.inl rfl) (fun _ => hstarting rfl) (fun _ => hcleared rfl) nofun
        fun ht => absurd ht (hquiet rfl)
  | setMonitore =>
      rw [hpc] at hstep hstarting hcleared
      obtain rfl := Option.some.inj hstep
      exact h.transmit (by rw [hpc]; rfl) (by rw [hpc]; rfl) rfl rfl rfl rfl rfl rfl rfl rfl rfl
        (Or.inr rfl) nofun nofun nofun fun _ => ⟨rfl, hstarting rfl, hcleared rfl⟩
  | enableCcr4 =>
      rw [hpc] at hstep
      obtain rfl := Option.some.inj hstep
      exact h.handOver hpc
  | unlock err =>
      rw [hpc] at hstep
      obtain rfl := Option.some.inj hstep
      exact h.giveBack hpc
  | returned err =>
      rw [hpc] at hstep
      cases hstep

theorem sendTimeout (h : MasterInv s) (hstep : Solar48.sendTimeout c s = some t) :
    MasterInv t := by
  unfold Solar48.sendTimeout at hstep
  cases hpc : s.sender c with
  | tryLock =>
      rw [hpc] at hstep
      obtain rfl := Option.some.inj hstep
      exact h.outside (h.not_holder (by rw [hpc]; rfl) (by rw [hpc]; rfl)) (by rw [hpc]; rfl) rfl
  | tryUart =>
      have hc : (s.sender c).holding = true := by rw [hpc]; rfl
      have hstart := h.startMonitore_of_holding hc
      rw [hpc] at hstep
      obtain rfl := Option.some.inj hstep
      refine h.transmit hc (by rw [hpc]; rfl) rfl rfl rfl rfl rfl rfl rfl rfl rfl
        (Or.inl rfl) nofun nofun ?_ fun ht => absurd (hstart ▸ ht : false = true) Bool.false_ne_true
      rintro err ⟨⟩
      decide
  | _ =>
      rw [hpc] at hstep
      cases hstep

theorem sendPrepared (h : MasterInv s) {err : ℤ} {size : ℕ}
    (hstep : Solar48.sendPrepared c err size s = some t) : MasterInv t := by
  unfold Solar48.sendPrepared at hstep
  cases hpc : s.sender c with
  | prepare =>
      rw [hpc] at hstep
      obtain rfl := Option.some.inj hstep
      split
      · rename_i herr
        refine h.prepared hpc rfl rfl ?_
        rintro err' ⟨⟩
        exact herr
      · exact h.prepared hpc rfl rfl nofun
  | _ =>
      rw [hpc] at hstep
      cases hstep

/-! ### Interrupt handlers -/

/-- **A handler stores a status**, and may start the timer. -/
theorem handler (h : MasterInv s) (hsender : t.sender = s.sender) (hlock : t.lock = s.lock)
    (hholder : t.holder = s.holder) (hfields : t.fields = s.fields)
    (hcallback : t.callback = s.callback) (hbuffer : t.buffer = s.buffer)
    (hstart : t.startMonitore = s.startMonitore) (howner : t.owner = s.owner)
    (hstatus : t.statusOf = s.owner) (hpoll : t.poll = s.poll)
    (hcompletions : t.completions = s.completions) (hreleases : t.releases = s.releases) :
    MasterInv t := by
  refine h.quiet (fun d => ?_) hlock hholder hstart howner hcallback hpoll hcompletions hreleases
    (Or.inr hstatus) (fun d hd => by rwa [hsender]) fun d _ hd => by rwa [hsender]
  obtain ⟨h1, h2, h3, h4, h5, h6, -, h8⟩ := h.calls d
  refine ⟨?_, ?_, ?_, ?_, ?_, ?_, fun hcleared => ?_, ?_⟩
  · rwa [hsender, hholder]
  · rwa [hsender, hholder]
  · rwa [hsender, hholder, hfields]
  · rwa [hsender, hholder, hcallback]
  · rwa [hsender, hholder, hbuffer]
  · rwa [hsender, howner]
  · rw [hsender] at hcleared
    rw [hstatus]
    exact h6 (SenderPc.starting_of_cleared hcleared)
  · rwa [hsender]

/-- **The timer's handler starts the reception**, during a monitored exchange. -/
theorem tim2 (h : MasterInv s) (hok : s.startMonitore = true) :
    MasterInv (uart1Receive { s with cen := false, buffer := s.owner }) := by
  obtain ⟨c, ⟨hheld, hsent⟩, howner, -⟩ := h.monitored hok
  refine h.quiet (fun d => ?_) rfl rfl hok.symm rfl rfl rfl rfl rfl (Or.inr rfl)
    (fun _ hd => hd) fun _ _ hd => hd
  obtain ⟨h1, h2, h3, h4, -, h6, -, h8⟩ := h.calls d
  refine ⟨h1, h2, h3, h4, fun hd _ => ?_, h6,
    fun hcleared => h6 (SenderPc.starting_of_cleared hcleared), h8⟩
  -- the buffer is invalidated on behalf of the exchange in flight
  exact howner.trans (hheld.symm.trans hd)

/-! ### The polling task -/

/-- The polling task moves on, and switches a unit off. -/
theorem pollTo (h : MasterInv s) (hsender : t.sender = s.sender) (hlock : t.lock = s.lock)
    (hholder : t.holder = s.holder) (hfields : t.fields = s.fields)
    (hcallback : t.callback = s.callback) (hbuffer : t.buffer = s.buffer)
    (hstart : t.startMonitore = s.startMonitore) (howner : t.owner = s.owner)
    (hstatus : t.statusOf = s.statusOf) (hrely : t.poll.Rely t)
    (hcompletions : t.completions = s.completions) (hreleases : t.releases = s.releases) :
    MasterInv t := by
  refine ⟨by rw [hlock, hholder]; exact h.lock_eq, fun d => (h.calls d).congr (by rw [hsender])
    hholder hfields hcallback hbuffer howner hstatus, fun ht => ?_, hrely, hcompletions ▸ h.own,
    fun e he => ?_, hcompletions ▸ h.once, hreleases ▸ h.released⟩
  · obtain ⟨d, hd, hd', hd''⟩ := h.monitored (hstart ▸ ht)
    exact ⟨d, ⟨hholder.trans hd.holder_eq, by rw [hsender]; exact hd.sent⟩, howner.trans hd',
      hstatus.trans hd''⟩
  · rw [hcompletions] at he
    rw [hsender, hholder]
    exact h.done e he

/-- The exchange in flight has ended, and is judged or not. -/
theorem own_outcome (h : MasterInv s) (hc : s.InFlight c) {of : Option ℕ} (hof : of = some c)
    (status : ℤ) : Completion.Own ⟨c, some c, ⟨status, of, some ⟨s.fields, s.buffer⟩⟩⟩ := by
  obtain ⟨hheld, hsent⟩ := hc
  refine ⟨rfl, hof, ?_, ?_⟩
  · rintro x ⟨⟩ f
    exact (h.calls c).fields hheld f (SenderPc.stored_of_sent hsent f)
  · rintro x ⟨⟩
    exact (h.calls c).buffer hheld (SenderPc.prepared_of_sent hsent)

/-- The polling task stops monitoring. -/
theorem clearMonitore (h : MasterInv s) {tx of : Option ℕ} {st : ℕ}
    (hp : s.poll = .finish .monitore tx st of) :
    MasterInv { s with startMonitore := false, poll := .finish .locked tx st of } := by
  have hrely := h.rely
  rw [hp] at hrely
  obtain ⟨hstart, htx, hof⟩ := hrely
  obtain ⟨c, hc, howner, -⟩ := h.monitored hstart
  refine ⟨h.lock_eq, fun d => (h.calls d).congr rfl rfl rfl rfl rfl rfl rfl, nofun, ?_, h.own,
    h.done, h.once, h.released⟩
  exact ⟨rfl, hof, c, htx.trans howner, hc.1, hc.2⟩

/-- The polling task gives `uart1_control.locked` back. -/
theorem clearLocked (h : MasterInv s) {tx of : Option ℕ} {st : ℕ}
    (hp : s.poll = .finish .locked tx st of) :
    MasterInv { s with
      locked := false, owner := none, poll := .finish .callback tx st of } := by
  have hrely := h.rely
  rw [hp] at hrely
  obtain ⟨hstart, hof, c, htx, hheld, hsent⟩ := hrely
  refine ⟨h.lock_eq, fun d => ?_, fun ht => ?_, ?_, h.own, h.done, h.once, h.released⟩
  · obtain ⟨h1, h2, h3, h4, h5, -, h7, h8⟩ := h.calls d
    refine ⟨h1, h2, h3, h4, h5, fun hs => ?_, h7, h8⟩
    -- no call is on its way to be monitored while one is in flight
    have hd := h1 (SenderPc.holding_of_starting hs)
    rw [hheld] at hd
    obtain rfl := Option.some.inj hd
    have hno := SenderPc.not_holding_of_sent hsent
    rw [SenderPc.holding_of_starting hs] at hno
    cases hno
  · exact absurd (hstart ▸ ht : false = true) Bool.false_ne_true
  · exact ⟨hstart, hof, c, htx, hheld, hsent⟩

/-- The polling task releases the lock of an exchange that has ended. -/
theorem release (h : MasterInv s) {tx : Option ℕ} {outcome : Outcome}
    (hp : s.poll = .unlock tx outcome) :
    MasterInv { s.release tx with poll := .invoke tx outcome } := by
  have hrely := h.rely
  rw [hp] at hrely
  obtain ⟨hstart, c, rfl, ⟨hheld, hsent⟩, hown⟩ := hrely
  refine ⟨rfl, fun d => ?_, fun ht => ?_, ?_, h.own, fun e he => ⟨(h.done e he).1, nofun⟩, h.once,
    fun r hr => ?_⟩
  · refine MasterState.callInv_of_not_holder nofun ?_
    rcases eq_or_ne d c with rfl | hd
    · exact SenderPc.not_holding_of_sent hsent
    · exact h.not_holding hheld hd
  · exact absurd (hstart ▸ ht : false = true) Bool.false_ne_true
  · refine ⟨hstart, c, hown, hsent, nofun,
      (h.calls c).callback hheld (SenderPc.callbackStored_of_sent hsent), nofun, ?_⟩
    rintro e he rfl
    exact (h.done e he).2 hheld
  · rcases List.mem_append.1 hr with hr | hr
    · exact h.released r hr
    · obtain rfl := List.mem_singleton.1 hr
      exact ⟨c, by rw [hheld]⟩

/-- The polling task calls the callback. -/
theorem invoke (h : MasterInv s) {tx : Option ℕ} {outcome : Outcome}
    (hp : s.poll = .invoke tx outcome) (hcb : s.callback = some c) :
    MasterInv { s with
      completions := s.completions ++ [⟨c, tx, outcome⟩], poll := .idle } := by
  have hrely := h.rely
  rw [hp] at hrely
  obtain ⟨hstart, d, hown, hsent, hout, hback, -, hnone⟩ := hrely
  rw [hcb] at hback
  obtain rfl := Option.some.inj hback
  refine ⟨h.lock_eq, fun d => (h.calls d).congr rfl rfl rfl rfl rfl rfl rfl,
    fun ht => absurd (hstart ▸ ht : false = true) Bool.false_ne_true, trivial, fun e he => ?_,
    fun e he => ?_, ?_, h.released⟩
  · rcases List.mem_append.1 he with he | he
    · exact h.own e he
    · obtain rfl := List.mem_singleton.1 he
      exact hown
  · rcases List.mem_append.1 he with he | he
    · exact h.done e he
    · obtain rfl := List.mem_singleton.1 he
      exact ⟨hsent, hout⟩
  · rw [List.map_append, List.map_singleton, List.nodup_append]
    refine ⟨h.once, List.nodup_singleton _, ?_⟩
    rintro x hx y hy
    obtain ⟨e, he, rfl⟩ := List.mem_map.1 hx
    obtain rfl := List.mem_singleton.1 hy
    exact hnone e he

/-- **One statement of the polling task.** -/
theorem poll (h : MasterInv s) (hstep : pollStep s = some t) : MasterInv t := by
  unfold pollStep at hstep
  have hrely := h.rely
  cases hp : s.poll with
  | idle =>
      rw [hp] at hstep
      obtain rfl := Option.some.inj hstep
      split
      · rename_i hstart
        exact h.pollTo rfl rfl rfl rfl rfl rfl rfl rfl rfl ⟨hstart, rfl⟩ rfl rfl
      · exact h
  | loadStatus tx =>
      simp only [hp] at hstep
      rw [hp] at hrely
      obtain ⟨hstart, htx⟩ := hrely
      -- the handlers have stored this status during the exchange that is monitored
      obtain ⟨c, -, howner, hstatus⟩ := h.monitored hstart
      have hof : s.statusOf = tx := hstatus.trans (howner.symm.trans htx.symm)
      split at hstep
      · obtain rfl := Option.some.inj hstep
        exact h.pollTo rfl rfl rfl rfl rfl rfl rfl rfl rfl ⟨hstart, htx⟩ rfl rfl
      · split at hstep
        · obtain rfl := Option.some.inj hstep
          exact h.pollTo rfl rfl rfl rfl rfl rfl rfl rfl rfl ⟨hstart, htx, hof⟩ rfl rfl
        · split at hstep
          · obtain rfl := Option.some.inj hstep
            exact h.pollTo rfl rfl rfl rfl rfl rfl rfl rfl rfl ⟨hstart, htx, hof⟩ rfl rfl
          · obtain rfl := Option.some.inj hstep
            exact h.pollTo rfl rfl rfl rfl rfl rfl rfl rfl rfl ⟨hstart, htx⟩ rfl rfl
  | checkTimeout tx =>
      rw [hp] at hstep
      obtain rfl := Option.some.inj hstep
      exact h.pollTo rfl rfl rfl rfl rfl rfl rfl rfl rfl trivial rfl rfl
  | finish stage tx st of =>
      cases stage with
      | monitore =>
          rw [hp] at hstep
          obtain rfl := Option.some.inj hstep
          exact h.clearMonitore hp
      | locked =>
          rw [hp] at hstep
          obtain rfl := Option.some.inj hstep
          exact h.clearLocked hp
      | callback =>
          simp only [hp] at hstep
          rw [hp] at hrely
          obtain ⟨hstart, hof, c, rfl, hc⟩ := hrely
          have hown : ∀ st : ℤ, Completion.Own ⟨c, some c, ⟨st, of, none⟩⟩ := fun st =>
            ⟨rfl, hof, nofun, nofun⟩
          split at hstep
          · cases hstep
          · obtain rfl := Option.some.inj hstep
            refine h.pollTo rfl rfl rfl rfl rfl rfl rfl rfl rfl ?_ rfl rfl
            dsimp only
            split
            · exact ⟨hstart, c, rfl, ⟨hc.1, hc.2⟩, hown _⟩
            · trivial
          · obtain rfl := Option.some.inj hstep
            refine h.pollTo rfl rfl rfl rfl rfl rfl rfl rfl rfl ?_ rfl rfl
            dsimp only
            split
            · exact ⟨hstart, hof, c, rfl, hc.1, hc.2⟩
            · exact ⟨hstart, c, rfl, ⟨hc.1, hc.2⟩, hown _⟩
      | _ =>
          rw [hp] at hstep hrely
          obtain rfl := Option.some.inj hstep
          exact h.pollTo rfl rfl rfl rfl rfl rfl rfl rfl rfl hrely rfl rfl
  | checkReceive tx of =>
      rw [hp] at hstep
      cases hstep
  | unlock tx outcome =>
      rw [hp] at hstep
      obtain rfl := Option.some.inj hstep
      exact h.release hp
  | invoke tx outcome =>
      simp only [hp] at hstep
      split at hstep
      · cases hstep
      · rename_i c hcb
        obtain rfl := Option.some.inj hstep
        exact h.invoke hp hcb

theorem pollTimeout (h : MasterInv s) (hstep : Solar48.pollTimeout s = some t) :
    MasterInv t := by
  unfold Solar48.pollTimeout at hstep
  have hrely := h.rely
  cases hp : s.poll with
  | checkTimeout tx =>
      rw [hp] at hstep hrely
      obtain rfl := Option.some.inj hstep
      exact h.pollTo rfl rfl rfl rfl rfl rfl rfl rfl rfl ⟨hrely.1, hrely.2, hrely.2.symm⟩ rfl rfl
  | _ =>
      rw [hp] at hstep
      cases hstep

theorem pollVerdict (h : MasterInv s) {status : ℤ}
    (hstep : Solar48.pollVerdict status s = some t) : MasterInv t := by
  unfold Solar48.pollVerdict at hstep
  have hrely := h.rely
  cases hp : s.poll with
  | checkReceive tx of =>
      rw [hp] at hstep hrely
      obtain rfl := Option.some.inj hstep
      obtain ⟨hstart, hof, c, rfl, hc⟩ := hrely
      exact h.pollTo rfl rfl rfl rfl rfl rfl rfl rfl rfl
        ⟨hstart, c, rfl, ⟨hc.1, hc.2⟩, h.own_outcome hc hof status⟩ rfl rfl
  | _ =>
      rw [hp] at hstep
      cases hstep

/-! ### Steps and runs -/

/-- **The step lemma.** -/
theorem step {turn : MasterTurn} (h : MasterInv s) (hok : keepsExchange turn s = true)
    (hstep : masterStep turn s = some t) : MasterInv t := by
  cases turn with
  | send c => exact h.send hok hstep
  | sendTimeout c => exact h.sendTimeout hstep
  | sendPrepared c err size => exact h.sendPrepared hstep
  | poll => exact h.poll hstep
  | pollTimeout => exact h.pollTimeout hstep
  | pollVerdict status => exact h.pollVerdict hstep
  | tim2 =>
      rw [masterStep] at hstep
      split at hstep
      · obtain rfl := Option.some.inj hstep
        exact h.tim2 hok
      · cases hstep
  | _ =>
      rw [masterStep] at hstep
      split at hstep
      · obtain rfl := Option.some.inj hstep
        exact h.handler rfl rfl rfl rfl rfl rfl rfl rfl rfl rfl rfl rfl
      · cases hstep

/-- Nothing goes wrong while the invariant holds. -/
theorem oneCompletion (h : MasterInv s) : OneCompletion s where
  own := h.own
  once := h.once
  failed := by
    rintro c err hc herr e he rfl
    have hsent := (h.done e he).1
    rw [hc] at hsent
    exact herr (of_decide_eq_true hsent)
  released := h.released

end MasterInv

/-- **The run lemma.** -/
theorem masterInv_of_run (h : Run masterStep keepsExchange masterInit s) : MasterInv s :=
  h.invariant masterInit_inv fun _ _ _ hinv hok hstep => hinv.step hok hstep

/-- A callback stored while another is about to be called is told about the other's exchange. -/
theorem MasterInv.not_oneCompletion {u : MasterState} (h : MasterInv s)
    (hok : keepsExchange (.send c) s = false) (hsend : sendStep c s = some t)
    (hpoll : pollStep t = some u) : ¬ OneCompletion u := by
  obtain ⟨hpc, hinvoke⟩ : s.sender c = .storeCallback ∧ s.poll.invoking = true := by
    simpa [keepsExchange] using hok
  have hheld := (h.calls c).holding (by rw [hpc]; rfl)
  have hrely := h.rely
  cases hp : s.poll with
  | invoke tx outcome =>
      rw [hp] at hrely
      obtain ⟨-, d, hown, -, hne, -⟩ := hrely
      rw [sendStep, hpc] at hsend
      obtain rfl := Option.some.inj hsend
      simp only [pollStep, MasterState.goto, hp] at hpoll
      obtain rfl := Option.some.inj hpoll
      intro hone
      have hmem := List.mem_append_right s.completions (List.mem_singleton_self ⟨c, tx, outcome⟩)
      have htx := (hone.own _ hmem).tx_eq
      rw [hown.1] at htx
      exact hne (hheld.trans htx.symm)
  | _ =>
      rw [hp] at hinvoke
      cases hinvoke

/-- **One completion per exchange**, in every run in which no call stores its callback between
the release of the lock and the call of the callback, and the timer's handler runs during a
monitored exchange only.  The first call to break the former rule has the next completion go
wrong. -/
theorem oneCompletion_of_run (h : Run masterStep keepsExchange masterInit s) :
    OneCompletion s ∧ ∀ c t u, keepsExchange (.send c) s = false → sendStep c s = some t →
      pollStep t = some u → ¬ OneCompletion u :=
  ⟨(masterInv_of_run h).oneCompletion, fun _ _ _ hok => (masterInv_of_run h).not_oneCompletion hok⟩

/-! ### Two runs -/

/-- Call `c` from its beginning to the hand-over. -/
def sendRun (c : ℕ) : List MasterTurn :=
  List.replicate 10 (.send c) ++ .sendPrepared c 0 8 :: List.replicate 11 (.send c)

/-- The frame is sent, the answer received, and the polling task about to call the callback. -/
def answerRun : List MasterTurn :=
  [.dma4Complete, .tim2, .usart1Idle] ++ List.replicate 9 .poll ++ [.pollVerdict 0, .poll]

/-- A call is answered, and then another. -/
theorem oneCompletion_of_run_two_calls : ∃ s,
    exec masterStep keepsExchange
      (sendRun 0 ++ answerRun ++ .poll :: sendRun 1 ++ answerRun ++ [.poll]) masterInit = some s ∧
    s.completions.map Completion.callback = [0, 1] ∧ OneCompletion s := by
  have hrun : (exec masterStep keepsExchange
      (sendRun 0 ++ answerRun ++ .poll :: sendRun 1 ++ answerRun ++ [.poll]) masterInit).map
      (fun s => s.completions.map Completion.callback) = some [0, 1] := by decide
  obtain ⟨s, hs, hcompletions⟩ := Option.map_eq_some_iff.1 hrun
  exact ⟨s, hs, hcompletions, (oneCompletion_of_run (run_of_exec _ hs)).1⟩

/-- The second call stores its callback before the first one's is called. -/
theorem oneCompletion_stored_early :
    ¬ ∀ s, Run masterStep (fun _ _ => true) masterInit s → OneCompletion s := by
  intro hall
  have hrun : (exec masterStep (fun _ _ => true)
      (sendRun 0 ++ answerRun ++ List.replicate 10 (.send 1) ++ [.poll]) masterInit).map
      (fun s => s.completions.map fun e => (e.callback, e.tx)) = some [(1, some 0)] := by
    decide
  obtain ⟨s, hs, heq⟩ := Option.map_eq_some_iff.1 hrun
  obtain ⟨e, he, hpair⟩ : ∃ e ∈ s.completions, (e.callback, e.tx) = (1, some 0) :=
    List.mem_map.1 (by rw [heq]; exact List.mem_singleton_self _)
  have htx := ((hall s (run_of_exec _ hs)).own e he).tx_eq
  simp only [Prod.mk.injEq] at hpair
  rw [hpair.1, hpair.2] at htx
  exact absurd htx (by decide)

end Solar48
