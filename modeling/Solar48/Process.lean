/-
**The one-slot mailbox of `process.c`.**

`PROCESS_DECLARE`, `ADD_PROCESS` and `RUN_PROCESS` make a mailbox for one job: a function to call
and its context, two variables without a lock.  An interrupt puts a job in if the function is
`NULL`; the task calls the function and then clears both variables.  The three copies `process`,
`process_int_ext` and `process_int_int` differ in nothing but the name.

The model is one step function.  The task goes through `run_process` again and again, statement by
statement, and `add_process`, which an interrupt or the job itself may call, is one step between
any two of them.  The functions and contexts are of any type, `none` is `NULL`.

The state also records the jobs that were accepted and the calls that were made.

Main definitions:

* `runProcess`, `addProcess`, `processStep` — the task's statements and the producer;
* `MailboxOk` — every accepted job is called once, in order and with its own context;
* `keepsCtx` — the condition on a step under which this stays so.

Main results:

* `mailboxOk_of_run` — **nothing is lost or mixed as long as no context is passed in the window
  between the two statements that clear the mailbox**, and only then.
-/

import Solar48.StepSystem
import Mathlib.Data.Int.Notation
import Mathlib.Data.List.Infix

set_option relaxedAutoImplicit false
set_option autoImplicit false

namespace Solar48

open StepSystem

variable {Caller Ctx : Type*}

/-! ### The mailbox -/

/-- Where the task is in `run_process`: each place is about to do what it is named after. -/
inductive RunProcessPc (Ctx : Type*)
  /-- not in it, or about to test the function -/
  | idle
  | loadCtx
  | call (ctx : Option Ctx)
  /-- in the function that it called -/
  | running
  | clearCaller
  | clearCtx

/-- The variables of `PROCESS_DECLARE`, the task, and what happened. -/
structure Mailbox (Caller Ctx : Type*) where
  /-- `_name` -/
  caller : Option Caller
  /-- `ctx_ptr_name` -/
  ctxPtr : Option Ctx
  /-- `ret_code_name` -/
  retCode : ℤ
  pc : RunProcessPc Ctx
  /-- the jobs for which `add_process` returned true, the oldest first -/
  accepted : List (Caller × Option Ctx)
  /-- the functions called, with what they were passed -/
  executed : List (Caller × Option Ctx)

def mailboxInit : Mailbox Caller Ctx where
  caller := none
  ctxPtr := none
  retCode := 0
  pc := .idle
  accepted := []
  executed := []

/-- `add_process`. -/
def addProcess (caller : Caller) (ctx : Option Ctx) (m : Mailbox Caller Ctx) :
    Bool × Mailbox Caller Ctx :=
  match m.caller with
  | some _ => (false, m)
  | none =>
      (true, { m with
        ctxPtr := ctx, caller := some caller, accepted := m.accepted ++ [(caller, ctx)] })

/-- One statement of `run_process`. -/
def runProcess (m : Mailbox Caller Ctx) : Option (Mailbox Caller Ctx) :=
  match m.pc with
  | .idle =>
      match m.caller with
      | some _ => some { m with pc := .loadCtx }
      | none => some m
  | .loadCtx => some { m with pc := .call m.ctxPtr }
  | .call ctx =>
      match m.caller with
      | some f => some { m with pc := .running, executed := m.executed ++ [(f, ctx)] }
      -- a call through `NULL`
      | none => none
  | .running => none
  | .clearCaller => some { m with caller := none, pc := .clearCtx }
  | .clearCtx => some { m with ctxPtr := none, pc := .idle }

/-- The function returns. -/
def processReturns (ret : ℤ) (m : Mailbox Caller Ctx) : Option (Mailbox Caller Ctx) :=
  match m.pc with
  | .running => some { m with retCode := ret, pc := .clearCaller }
  | _ => none

/-- Whose turn it is. -/
inductive ProcessTurn (Caller Ctx : Type*)
  | run
  | returns (ret : ℤ)
  | add (caller : Caller) (ctx : Option Ctx)

/-- It is the task's turn, or that of the function it called. -/
def ProcessTurn.task : ProcessTurn Caller Ctx → Bool
  | .run | .returns _ => true
  | .add _ _ => false

/-- One step of whoever's turn it is, if it is possible. -/
def processStep (turn : ProcessTurn Caller Ctx) (m : Mailbox Caller Ctx) :
    Option (Mailbox Caller Ctx) :=
  match turn with
  | .run => runProcess m
  | .returns ret => processReturns ret m
  | .add caller ctx => some (addProcess caller ctx m).2

/-! ### Nothing lost, nothing mixed -/

/-- The steps of the task alone. -/
def taskOnly (turn : ProcessTurn Caller Ctx) (_ : Mailbox Caller Ctx) : Bool := turn.task

/-- **Every accepted job is called once, in order and with its own context.** -/
structure MailboxOk (m : Mailbox Caller Ctx) : Prop where
  /-- the calls made are those of the jobs accepted first, each with the context passed for it -/
  executed_isPrefix : m.executed <+: m.accepted
  /-- all of them when `run_process` is left with the mailbox empty -/
  all_executed : m.pc = .idle → m.caller = none → m.executed = m.accepted
  /-- the task by itself calls those that are left and empties the mailbox -/
  executes : ∃ t, Run processStep taskOnly m t ∧ t.pc = .idle ∧ t.caller = none ∧
    t.accepted = m.accepted ∧ t.executed = m.accepted
  /-- a call that returns false changes nothing -/
  rejected : ∀ caller ctx, (addProcess caller ctx m).1 = false → (addProcess caller ctx m).2 = m

/-- The task is about to clear the context, having cleared the function. -/
def RunProcessPc.clearing : RunProcessPc Ctx → Bool
  | .clearCtx => true
  | _ => false

/-- The condition on a step: no context is passed between the two statements that clear the
mailbox, unless it is full again. -/
def keepsCtx : ProcessTurn Caller Ctx → Mailbox Caller Ctx → Bool
  | .add _ ctx, m => !(m.pc.clearing && m.caller.isNone && ctx.isSome)
  | _, _ => true

/-! ### The invariant -/

/-- The job that is in the mailbox and has not been called. -/
def Mailbox.pending (m : Mailbox Caller Ctx) : List (Caller × Option Ctx) :=
  match m.pc with
  | .idle | .loadCtx | .clearCtx => (m.caller.map fun f => (f, m.ctxPtr)).toList
  | .call ctx => (m.caller.map fun f => (f, ctx)).toList
  | .running | .clearCaller => []

/-- The places at which the task relies on the mailbox being full. -/
def RunProcessPc.busy : RunProcessPc Ctx → Bool
  | .loadCtx | .call _ | .running | .clearCaller => true
  | .idle | .clearCtx => false

/-- What holds as long as every step meets the condition. -/
structure MailboxInv (m : Mailbox Caller Ctx) : Prop where
  accepted_eq : m.accepted = m.executed ++ m.pending
  busy : m.pc.busy = true → m.caller.isSome = true
  /-- a job that came in while the mailbox was being cleared has no context to lose -/
  clearing : m.pc.clearing = true → m.caller.isSome = true → m.ctxPtr = none

variable {m t u : Mailbox Caller Ctx}

theorem mailboxInit_inv : MailboxInv (mailboxInit : Mailbox Caller Ctx) where
  accepted_eq := rfl
  busy := nofun
  clearing := nofun

/-- A full mailbox takes nothing. -/
theorem addProcess_of_isSome (h : m.caller.isSome = true) (caller : Caller) (ctx : Option Ctx) :
    addProcess caller ctx m = (false, m) := by
  obtain ⟨f, hf⟩ := Option.isSome_iff_exists.1 h
  rw [addProcess, hf]

theorem addProcess_of_none (h : m.caller = none) (caller : Caller) (ctx : Option Ctx) :
    addProcess caller ctx m = (true, { m with
      ctxPtr := ctx, caller := some caller, accepted := m.accepted ++ [(caller, ctx)] }) := by
  rw [addProcess, h]

namespace MailboxInv

theorem add (h : MailboxInv m) {caller : Caller} {ctx : Option Ctx}
    (hok : keepsCtx (.add caller ctx) m = true) : MailboxInv (addProcess caller ctx m).2 := by
  cases hcaller : m.caller with
  | some f =>
      rw [addProcess_of_isSome (by rw [hcaller]; rfl)]
      exact h
  | none =>
      rw [addProcess_of_none hcaller]
      have hidle : m.pc.busy = false := by
        cases hbusy : m.pc.busy with
        | false => rfl
        | true =>
            have := h.busy hbusy
            rw [hcaller] at this
            cases this
      refine ⟨?_, fun hbusy => ?_, fun hclearing _ => ?_⟩
      · have hold := h.accepted_eq
        cases hpc : m.pc with
        | idle | clearCtx => simp [hold, Mailbox.pending, hpc, hcaller]
        | loadCtx | call ctx | running | clearCaller =>
            rw [hpc] at hidle
            cases hidle
      · rw [hidle] at hbusy
        cases hbusy
      · rw [keepsCtx, hclearing, hcaller] at hok
        simpa using hok

theorem run (h : MailboxInv m) (hstep : runProcess m = some t) : MailboxInv t := by
  have hold := h.accepted_eq
  unfold runProcess at hstep
  cases hpc : m.pc with
  | idle =>
      rw [hpc] at hstep
      cases hcaller : m.caller with
      | none =>
          rw [hcaller] at hstep
          obtain rfl := Option.some.inj hstep
          exact h
      | some f =>
          rw [hcaller] at hstep
          obtain rfl := Option.some.inj hstep
          refine ⟨?_, fun _ => by simp, nofun⟩
          simpa [Mailbox.pending, hpc, hcaller] using hold
  | loadCtx =>
      rw [hpc] at hstep
      obtain rfl := Option.some.inj hstep
      refine ⟨?_, fun _ => h.busy (by rw [hpc]; rfl), nofun⟩
      simpa [Mailbox.pending, hpc] using hold
  | call ctx =>
      rw [hpc] at hstep
      cases hcaller : m.caller with
      | none =>
          rw [hcaller] at hstep
          cases hstep
      | some f =>
          rw [hcaller] at hstep
          obtain rfl := Option.some.inj hstep
          refine ⟨?_, fun _ => by simp, nofun⟩
          simpa [Mailbox.pending, hpc, hcaller] using hold
  | running =>
      rw [hpc] at hstep
      cases hstep
  | clearCaller =>
      rw [hpc] at hstep
      obtain rfl := Option.some.inj hstep
      refine ⟨?_, nofun, nofun⟩
      simpa [Mailbox.pending, hpc] using hold
  | clearCtx =>
      rw [hpc] at hstep
      obtain rfl := Option.some.inj hstep
      refine ⟨?_, nofun, nofun⟩
      cases hcaller : m.caller with
      | none => simpa [Mailbox.pending, hpc, hcaller] using hold
      | some f =>
          -- the job came in while the mailbox was being cleared
          have hctx := h.clearing (by rw [hpc]; rfl) (by rw [hcaller]; rfl)
          simpa [Mailbox.pending, hpc, hcaller, hctx] using hold

theorem returns (h : MailboxInv m) {ret : ℤ} (hstep : processReturns ret m = some t) :
    MailboxInv t := by
  have hold := h.accepted_eq
  unfold processReturns at hstep
  split at hstep
  · rename_i hpc
    obtain rfl := Option.some.inj hstep
    refine ⟨?_, fun _ => h.busy (by rw [hpc]; rfl), nofun⟩
    simpa [Mailbox.pending, hpc] using hold
  · cases hstep

/-- **The invariant is kept by every step that meets the condition.** -/
theorem step (h : MailboxInv m) {turn : ProcessTurn Caller Ctx} (hok : keepsCtx turn m = true)
    (hstep : processStep turn m = some t) : MailboxInv t := by
  cases turn with
  | run => exact h.run hstep
  | returns ret => exact h.returns hstep
  | add caller ctx =>
      obtain rfl := Option.some.inj hstep
      exact h.add hok

end MailboxInv

/-! ### The task gets there -/

/-- The task by itself empties the mailbox. -/
def Finishes (m : Mailbox Caller Ctx) : Prop :=
  ∃ t, Run processStep taskOnly m t ∧ t.pc = .idle ∧ t.caller = none ∧ t.accepted = m.accepted

theorem Finishes.of_step (turn : ProcessTurn Caller Ctx) (hu : Finishes u)
    (htask : turn.task = true) (hstep : processStep turn m = some u)
    (haccepted : u.accepted = m.accepted) : Finishes m := by
  obtain ⟨t, hrun, hpc, hcaller, haccepted'⟩ := hu
  exact ⟨t, (Run.refl.tail turn htask hstep).trans hrun, hpc, hcaller,
    haccepted'.trans haccepted⟩

theorem finishes_of_clearCtx (hpc : m.pc = .clearCtx) (hcaller : m.caller = none) :
    Finishes m := by
  refine ⟨{ m with ctxPtr := none, pc := .idle }, Run.refl.tail .run rfl ?_, rfl, hcaller, rfl⟩
  rw [processStep, runProcess, hpc]

theorem finishes_of_clearCaller (hpc : m.pc = .clearCaller) : Finishes m := by
  refine Finishes.of_step .run (u := { m with caller := none, pc := .clearCtx })
    (finishes_of_clearCtx rfl rfl) rfl ?_ rfl
  rw [processStep, runProcess, hpc]

theorem finishes_of_running (hpc : m.pc = .running) : Finishes m := by
  refine Finishes.of_step (.returns 0) (u := { m with retCode := 0, pc := .clearCaller })
    (finishes_of_clearCaller rfl) rfl ?_ rfl
  rw [processStep, processReturns, hpc]

theorem finishes_of_call {ctx : Option Ctx} (hpc : m.pc = .call ctx)
    (hcaller : m.caller.isSome = true) : Finishes m := by
  obtain ⟨f, hf⟩ := Option.isSome_iff_exists.1 hcaller
  refine Finishes.of_step .run
    (u := { m with pc := .running, executed := m.executed ++ [(f, ctx)] })
    (finishes_of_running rfl) rfl ?_ rfl
  rw [processStep, runProcess, hpc, hf]

theorem finishes_of_loadCtx (hpc : m.pc = .loadCtx) (hcaller : m.caller.isSome = true) :
    Finishes m := by
  refine Finishes.of_step .run (u := { m with pc := .call m.ctxPtr })
    (finishes_of_call rfl hcaller) rfl ?_ rfl
  rw [processStep, runProcess, hpc]

theorem finishes_of_idle (hpc : m.pc = .idle) : Finishes m := by
  cases hcaller : m.caller with
  | none => exact ⟨m, .refl, hpc, hcaller, rfl⟩
  | some f =>
      refine Finishes.of_step .run (u := { m with pc := .loadCtx })
        (finishes_of_loadCtx rfl (by simp [hcaller])) rfl ?_ rfl
      rw [processStep, runProcess, hpc, hcaller]

/-- **The task by itself always empties the mailbox.** -/
theorem MailboxInv.finishes (h : MailboxInv m) : Finishes m := by
  cases hpc : m.pc with
  | idle => exact finishes_of_idle hpc
  | loadCtx => exact finishes_of_loadCtx hpc (h.busy (by rw [hpc]; rfl))
  | call ctx => exact finishes_of_call hpc (h.busy (by rw [hpc]; rfl))
  | running => exact finishes_of_running hpc
  | clearCaller => exact finishes_of_clearCaller hpc
  | clearCtx =>
      refine Finishes.of_step .run (u := { m with ctxPtr := none, pc := .idle })
        (finishes_of_idle rfl) rfl ?_ rfl
      rw [processStep, runProcess, hpc]

/-! ### Runs -/

theorem mailboxInv_of_run (h : Run processStep keepsCtx mailboxInit m) : MailboxInv m :=
  h.invariant mailboxInit_inv fun _ _ _ hinv hok hstep => hinv.step hok hstep

theorem MailboxInv.run_task (h : MailboxInv m) (hrun : Run processStep taskOnly m t) :
    MailboxInv t := by
  refine hrun.invariant h fun turn s u hinv htask hstep => hinv.step ?_ hstep
  cases turn with
  | run => rfl
  | returns ret => rfl
  | add caller ctx => cases htask

/-- An empty mailbox that the task has left owes nothing. -/
theorem MailboxInv.executed_eq (h : MailboxInv m) (hpc : m.pc = .idle) (hcaller : m.caller = none) :
    m.executed = m.accepted := by
  rw [h.accepted_eq, Mailbox.pending, hpc, hcaller]
  simp

theorem MailboxInv.mailboxOk (h : MailboxInv m) : MailboxOk m where
  executed_isPrefix := ⟨m.pending, h.accepted_eq.symm⟩
  all_executed := h.executed_eq
  executes := by
    obtain ⟨t, hrun, hpc, hcaller, haccepted⟩ := h.finishes
    refine ⟨t, hrun, hpc, hcaller, haccepted, ?_⟩
    rw [← haccepted]
    exact (h.run_task hrun).executed_eq hpc hcaller
  rejected := by
    intro caller ctx hfalse
    cases hcaller : m.caller with
    | some f => rw [addProcess_of_isSome (by rw [hcaller]; rfl)]
    | none =>
        rw [addProcess_of_none hcaller] at hfalse
        cases hfalse

/-- A context that is passed in the window is cleared, and the job is called with `NULL`. -/
theorem MailboxInv.mixes (h : MailboxInv m) {turn : ProcessTurn Caller Ctx}
    (hok : keepsCtx turn m = false) (hstep : processStep turn m = some u) :
    ∃ t, Run processStep taskOnly u t ∧ ¬ MailboxOk t := by
  cases turn with
  | run => cases hok
  | returns ret => cases hok
  | add caller ctx =>
      obtain rfl := Option.some.inj hstep
      rw [keepsCtx, Bool.not_eq_false', Bool.and_eq_true, Bool.and_eq_true] at hok
      obtain ⟨⟨hclearing, hnone⟩, hctx⟩ := hok
      obtain ⟨x, rfl⟩ := Option.isSome_iff_exists.1 hctx
      have hcaller : m.caller = none := Option.isNone_iff_eq_none.1 hnone
      have hpc : m.pc = .clearCtx := by
        cases hpc : m.pc with
        | clearCtx => rfl
        | idle | loadCtx | call ctx | running | clearCaller =>
            rw [hpc] at hclearing
            cases hclearing
      have haccepted : m.accepted = m.executed := by
        rw [h.accepted_eq, Mailbox.pending, hpc, hcaller]
        simp
      rw [addProcess_of_none hcaller]
      obtain ⟨c, p, r, pc, accepted, executed⟩ := m
      dsimp only at hpc hcaller haccepted
      subst hpc hcaller haccepted
      refine ⟨_, run_of_exec [.run, .run, .run, .run] rfl, fun hbad => ?_⟩
      have heq := hbad.executed_isPrefix.eq_of_length (by simp)
      simp at heq

/-- **Nothing is lost or mixed as long as no context is passed between the two statements that
clear the mailbox**; a context that is passed there is lost. -/
theorem mailboxOk_of_run (h : Run processStep keepsCtx mailboxInit m) :
    MailboxOk m ∧ ∀ turn u, keepsCtx turn m = false → processStep turn m = some u →
      ∃ t, Run processStep taskOnly u t ∧ ¬ MailboxOk t :=
  ⟨(mailboxInv_of_run h).mailboxOk, fun _ _ => (mailboxInv_of_run h).mixes⟩

/-- A job that puts itself in again as soon as it can, without a context. -/
theorem mailboxOk_of_run_rearmed : ∃ m : Mailbox ℕ ℕ,
    Run processStep keepsCtx mailboxInit m ∧
      m.executed = [(1, some 7), (2, none)] ∧ MailboxOk m := by
  obtain ⟨m, hexec, hexecuted⟩ : ∃ m : Mailbox ℕ ℕ, exec processStep keepsCtx
      [.add 1 (some 7), .run, .run, .run, .add 2 none, .returns 0, .run, .add 2 none, .run, .run,
        .run, .run] mailboxInit = some m ∧ m.executed = [(1, some 7), (2, none)] := ⟨_, rfl, rfl⟩
  have hrun := run_of_exec _ hexec
  exact ⟨m, hrun, hexecuted, (mailboxOk_of_run hrun).1⟩

/-- With a context it is called without one. -/
theorem mailboxOk_context_lost : ¬ ∀ m : Mailbox ℕ ℕ,
    Run processStep (fun _ _ => true) mailboxInit m → MailboxOk m := by
  intro h
  obtain ⟨m, hexec, hexecuted, haccepted⟩ : ∃ m : Mailbox ℕ ℕ, exec processStep (fun _ _ => true)
      [.add 1 (some 7), .run, .run, .run, .returns 0, .run, .add 2 (some 8), .run, .run, .run,
        .run] mailboxInit = some m ∧ m.executed = [(1, some 7), (2, none)] ∧
      m.accepted = [(1, some 7), (2, some 8)] := ⟨_, rfl, rfl, rfl⟩
  have hprefix := (h m (run_of_exec _ hexec)).executed_isPrefix
  rw [hexecuted, haccepted] at hprefix
  exact absurd hprefix (by decide)

/-! ### The producers of the program -/

/-- `realtime`, in the interrupt of the clock: `print_text` has no context. -/
def realtime (oledIsInitialized : Bool) (printText : Caller) (m : Mailbox Caller Ctx) :
    Mailbox Caller Ctx :=
  if oledIsInitialized then (addProcess printText none m).2 else m

/-- No context is ever passed. -/
def passesNull : ProcessTurn Caller Ctx → Mailbox Caller Ctx → Bool
  | .add _ ctx, _ => ctx.isNone
  | _, _ => true

/-- **Producers that pass `NULL`, as `realtime` does, may come at any time.** -/
theorem mailboxOk_of_passesNull (h : Run processStep passesNull mailboxInit m)
    (oledIsInitialized : Bool) (printText : Caller) :
    MailboxOk m ∧ MailboxOk (realtime oledIsInitialized printText m) := by
  have hkeeps : ∀ (turn : ProcessTurn Caller Ctx) t, passesNull turn t = true →
      keepsCtx turn t = true := by
    intro turn t hnull
    cases turn with
    | run => rfl
    | returns ret => rfl
    | add caller ctx =>
        obtain rfl : ctx = none := Option.isNone_iff_eq_none.1 hnull
        simp [keepsCtx]
  have hinv := mailboxInv_of_run (h.mono hkeeps)
  refine ⟨hinv.mailboxOk, ?_⟩
  cases oledIsInitialized with
  | false => exact hinv.mailboxOk
  | true => exact (hinv.add (hkeeps (.add printText none) m rfl)).mailboxOk

end Solar48
