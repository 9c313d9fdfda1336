/-
**Texts of several callers.**

All calls of `oled_cursor_printf` format into one static buffer.  The lock is taken behind the
formatting, so that it keeps two calls from copying at once, but not one from formatting before the
other has copied.

Here any number of calls take their steps in any order: a call formats its text, waits for the lock,
cuts the length, allocates, fills in and copies, and hands over to the queue.

Main definitions:

* `Solar48.OledPc`, `Solar48.OledState`, `Solar48.oledStep` — the code, with any number of calls;
* `Solar48.OwnRequests` — the requests in the queue belong to their callers;
* `Solar48.copiesOwn` — the condition on a step.

Main results:

* `Solar48.OledInv.step` — what one step preserves;
* `Solar48.run_oledCursorPrintf` — a call on its own does what `Solar48.oledCursorPrintf` says;
* `Solar48.ownRequests_of_run` — **the requests belong to their callers as long as no call copies
  after another has formatted**.
-/

import Solar48.OledText
import Solar48.StepSystem
import Mathlib.Logic.Function.Basic

set_option relaxedAutoImplicit false
set_option autoImplicit false

namespace Solar48

open ByteMem StepSystem

/-! ### The code -/

/-- The arguments of a call; the format and what belongs to it give a text. -/
structure OledArgs where
  x : UInt8
  y : UInt8
  formatted : Formatted

/-- The places in `oled_cursor_printf`, with the local variables. -/
inductive OledPc
  | idle
  | format
  | tryLock (len : ℤ)
  | checkLen (len : ℤ)
  | malloc (len : ℕ)
  | store (len : ℕ)
  | mallocText (print : OledCursorPrintf)
  | copy (print : OledCursorPrintf)
  | enqueue (print : OledCursorPrintf)
  | unlock (err : ℤ)
  | ended (result : OledResult)

/-- `oled_buffer`, `oled_util_lock`, `current_font` and `current_color`, the requests that the queue
has taken, each with its call, and where the calls are. -/
structure OledState where
  buffer : Mem
  /-- the call that has formatted last -/
  formatter : Option ℕ
  lock : Bool
  font : FontDef
  color : Ssd1306Color
  queue : List (ℕ × OledCursorPrintf)
  call : ℕ → OledPc

/-- Call `c` goes on elsewhere. -/
def OledState.goto (s : OledState) (c : ℕ) (pc : OledPc) : OledState :=
  { s with call := Function.update s.call c pc }

/-- One statement of `oled_cursor_printf`. -/
def printfStep (args : OledArgs) (c : ℕ) (i : OledInput) (s : OledState) : Option OledState :=
  match s.call c with
  | .idle =>
      if !i.initialized then some (s.goto c (.ended (.returned eOledNotInitialized)))
      else some (s.goto c .format)
  | .format =>
      let (buffer, len) := vsnprintf s.buffer oledBufMaxSize args.formatted
      some ({ s with buffer, formatter := some c }.goto c (.tryLock len))
  | .tryLock len =>
      if s.lock then
        -- the call waits, or the timeout is over
        if i.locked then some s
        else some (s.goto c (.ended (.returned eOledCursorPrintfLockTimeout)))
      else some ({ s with lock := true }.goto c (.checkLen len))
  | .checkLen len =>
      match cutLen len with
      | .error err => some (s.goto c (.unlock err))
      | .ok len => some (s.goto c (.malloc len))
  | .malloc len =>
      if !i.malloc then some ({ s with lock := false }.goto c (.ended (.panic "CURPRN:ERR1")))
      else some (s.goto c (.store len))
  | .store len => some (s.goto c (.mallocText ⟨args.x, args.y, len, [], s.font, s.color⟩))
  | .mallocText print =>
      if !i.mallocText then some ({ s with lock := false }.goto c (.ended (.panic "CURPRN:ERR2")))
      else some (s.goto c (.copy print))
  | .copy print =>
      some (s.goto c (.enqueue { print with text := read s.buffer 0 print.size }))
  | .enqueue print =>
      if i.queue ≠ 0 then some (s.goto c (.unlock i.queue))
      else some ({ s with queue := s.queue ++ [(c, print)] }.goto c (.unlock 0))
  | .unlock err => some ({ s with lock := false }.goto c (.ended (.returned err)))
  | .ended _ => none

/-- Whose turn it is: a call's, or that of someone who sets the font or the colour. -/
inductive OledTurn
  | call (c : ℕ) (i : OledInput)
  | setFontSize (font : FontDef)
  | setColor (color : Ssd1306Color)

/-- One step of one of them. -/
def oledStep (args : ℕ → OledArgs) (turn : OledTurn) (s : OledState) : Option OledState :=
  match turn with
  | .call c i => printfStep (args c) c i s
  | .setFontSize font => some { s with font }
  | .setColor color => some { s with color }

/-- At first there is no call, and nothing is in the queue. -/
def oledInit (buffer : Mem) : OledState where
  buffer
  formatter := none
  lock := false
  font := font7x10
  color := .white
  queue := []
  call := fun _ => .idle

/-! ### Whose text it is -/

/-- A request has the position of a call, the length of its text and the text itself. -/
structure OledCursorPrintf.Own (print : OledCursorPrintf) (args : OledArgs) : Prop where
  x_eq : print.x = args.x
  y_eq : print.y = args.y
  size_eq : print.size = oledSize args.formatted
  text_eq : print.text = oledText args.formatted

/-- **The requests in the queue belong to their callers.** -/
def OwnRequests (args : ℕ → OledArgs) (s : OledState) : Prop :=
  ∀ c print, (c, print) ∈ s.queue → print.Own (args c)

/-- The condition on a step: a call that copies is the one that has formatted last. -/
def copiesOwn (turn : OledTurn) (s : OledState) : Bool :=
  match turn with
  | .call c _ =>
      match s.call c with
      | .copy _ => s.formatter == some c
      | _ => true
  | .setFontSize _ | .setColor _ => true

/-- The length that `vsnprintf` gives. -/
def formattedLen (f : Formatted) : ℤ := if f.failed then -1 else f.text.length

/-- What the local variables are. -/
def OledPc.Local (args : OledArgs) : OledPc → Prop
  | tryLock len | checkLen len => len = formattedLen args.formatted
  | malloc len | store len => len = oledSize args.formatted
  | mallocText print | copy print =>
      print.x = args.x ∧ print.y = args.y ∧ print.size = oledSize args.formatted
  | enqueue print => print.Own args
  | idle | format | unlock _ | ended _ => True

/-- The local variables are those of the own call, as is the buffer for the one that has formatted
last, and the requests belong to their callers. -/
structure OledInv (args : ℕ → OledArgs) (s : OledState) : Prop where
  buffer : ∀ c, s.formatter = some c →
    read s.buffer 0 (oledSize (args c).formatted) = oledText (args c).formatted
  locals : ∀ c, (s.call c).Local (args c)
  queue : OwnRequests args s

variable {args : ℕ → OledArgs} {s t : OledState} {c : ℕ} {pc : OledPc} {i : OledInput}
  {turn : OledTurn} {buffer : Mem}

theorem oledInit_inv (args : ℕ → OledArgs) (buffer : Mem) : OledInv args (oledInit buffer) where
  buffer := nofun
  locals _ := trivial
  queue _ _ h := absurd h List.not_mem_nil

/-- The length that is left of a cut. -/
theorem cutLen_formattedLen {f : Formatted} {len : ℕ} (h : cutLen (formattedLen f) = .ok len) :
    len = oledSize f := by
  unfold formattedLen at h
  split at h
  · cases h
  · by_cases hpos : 1 ≤ f.text.length
    · rw [cutLen_length hpos] at h
      exact (Except.ok.inj h).symm
    · have hzero : f.text.length = 0 := by omega
      rw [hzero] at h
      cases h

/-- Call `c` goes on, and its local variables are its own. -/
theorem OledInv.goto (h : OledInv args s) (hbuffer : t.buffer = s.buffer)
    (hformatter : t.formatter = s.formatter) (hqueue : t.queue = s.queue)
    (hcall : t.call = Function.update s.call c pc) (hlocal : pc.Local (args c)) :
    OledInv args t where
  buffer d hd := by
    rw [hbuffer]
    exact h.buffer d (hformatter ▸ hd)
  locals d := by
    rw [hcall]
    rcases eq_or_ne d c with rfl | hne
    · rw [Function.update_self]
      exact hlocal
    · rw [Function.update_of_ne hne]
      exact h.locals d
  queue d print hmem := by
    rw [hqueue] at hmem
    exact h.queue d print hmem

/-- Formatting makes the buffer one's own. -/
theorem OledInv.format (h : OledInv args s) (c : ℕ) :
    OledInv args ({ s with
      buffer := (vsnprintf s.buffer oledBufMaxSize (args c).formatted).1
      formatter := some c }.goto c (.tryLock (formattedLen (args c).formatted))) where
  buffer d hd := by
    obtain rfl : c = d := Option.some.inj hd
    exact read_vsnprintf s.buffer (args c).formatted
  locals := (h.goto (t := s.goto c (.tryLock (formattedLen (args c).formatted))) rfl rfl rfl rfl
    (c := c) rfl).locals
  queue := h.queue

/-- The queue takes a request of the call. -/
theorem OledInv.enqueue (h : OledInv args s) {print : OledCursorPrintf}
    (hown : print.Own (args c)) :
    OledInv args ({ s with queue := s.queue ++ [(c, print)] }.goto c (.unlock 0)) where
  buffer := h.buffer
  locals := (h.goto (t := s.goto c (.unlock 0)) rfl rfl rfl rfl (c := c) trivial).locals
  queue d print' hmem := by
    rcases List.mem_append.1 hmem with hold | hnew
    · exact h.queue d print' hold
    · obtain ⟨rfl, rfl⟩ := Prod.mk.inj (List.mem_singleton.1 hnew)
      exact hown

/-- **What one statement preserves.** -/
theorem OledInv.printfStep (h : OledInv args s) (hok : copiesOwn (.call c i) s = true)
    (hstep : printfStep (args c) c i s = some t) : OledInv args t := by
  have hlocal := h.locals c
  unfold Solar48.printfStep at hstep
  cases hpc : s.call c with
  | idle =>
      simp only [hpc] at hstep
      split at hstep <;> cases hstep
      · exact h.goto rfl rfl rfl rfl trivial
      · exact h.goto rfl rfl rfl rfl trivial
  | format =>
      simp only [hpc] at hstep
      cases hstep
      exact h.format c
  | tryLock len =>
      rw [hpc] at hlocal
      simp only [hpc] at hstep
      split at hstep
      · split at hstep <;> cases hstep
        · exact h
        · exact h.goto rfl rfl rfl rfl trivial
      · cases hstep
        exact h.goto rfl rfl rfl rfl hlocal
  | checkLen len =>
      rw [hpc] at hlocal
      simp only [hpc] at hstep
      obtain rfl : len = formattedLen (args c).formatted := hlocal
      cases hcut : cutLen (formattedLen (args c).formatted) with
      | error err =>
          rw [hcut] at hstep
          cases hstep
          exact h.goto rfl rfl rfl rfl trivial
      | ok len =>
          rw [hcut] at hstep
          cases hstep
          exact h.goto rfl rfl rfl rfl (cutLen_formattedLen hcut)
  | malloc len =>
      rw [hpc] at hlocal
      simp only [hpc] at hstep
      split at hstep <;> cases hstep
      · exact h.goto rfl rfl rfl rfl trivial
      · exact h.goto rfl rfl rfl rfl hlocal
  | store len =>
      rw [hpc] at hlocal
      simp only [hpc] at hstep
      cases hstep
      exact h.goto rfl rfl rfl rfl ⟨rfl, rfl, hlocal⟩
  | mallocText print =>
      rw [hpc] at hlocal
      simp only [hpc] at hstep
      split at hstep <;> cases hstep
      · exact h.goto rfl rfl rfl rfl trivial
      · exact h.goto rfl rfl rfl rfl hlocal
  | copy print =>
      rw [hpc] at hlocal
      simp only [hpc] at hstep
      cases hstep
      obtain ⟨hx, hy, hsize⟩ := hlocal
      -- the call has formatted last, so that the buffer is its own
      have hformatter : s.formatter = some c := by simpa [copiesOwn, hpc] using hok
      have htext : read s.buffer 0 print.size = oledText (args c).formatted := by
        rw [hsize]
        exact h.buffer c hformatter
      have hown : OledCursorPrintf.Own { print with text := read s.buffer 0 print.size } (args c) :=
        ⟨hx, hy, hsize, htext⟩
      exact h.goto rfl rfl rfl rfl hown
  | enqueue print =>
      rw [hpc] at hlocal
      simp only [hpc] at hstep
      split at hstep <;> cases hstep
      · exact h.goto rfl rfl rfl rfl trivial
      · exact h.enqueue hlocal
  | unlock err =>
      simp only [hpc] at hstep
      cases hstep
      exact h.goto rfl rfl rfl rfl trivial
  | ended result =>
      simp only [hpc] at hstep
      cases hstep

/-- **What one step preserves.** -/
theorem OledInv.step (h : OledInv args s) (hok : copiesOwn turn s = true)
    (hstep : oledStep args turn s = some t) : OledInv args t := by
  cases turn with
  | call c i => exact h.printfStep hok hstep
  | setFontSize font | setColor color =>
      cases hstep
      exact ⟨h.buffer, h.locals, h.queue⟩

/-! ### A call on its own -/

/-- From a state on, steps of call `c` lead to its end; it has queued a request or none. -/
def Ends (args : ℕ → OledArgs) (c : ℕ) (s : OledState)
    (out : OledResult × Option OledCursorPrintf) : Prop :=
  ∃ t, Run (oledStep args) (fun _ _ => true) s t ∧ t.call c = .ended out.1 ∧
    t.queue = s.queue ++ (out.2.map (Prod.mk c)).toList

variable {out : OledResult × Option OledCursorPrintf} {result : OledResult}
  {print : OledCursorPrintf} {len : ℕ}

theorem OledState.goto_call (s : OledState) (c : ℕ) (pc : OledPc) : (s.goto c pc).call c = pc := by
  show Function.update s.call c pc c = pc
  rw [Function.update_self]

theorem Ends.of_ended (h : s.call c = .ended result) : Ends args c s (result, none) :=
  ⟨s, .refl, h, (List.append_nil _).symm⟩

/-- A statement that queues nothing. -/
theorem Ends.step (h : Ends args c t out) (hstep : Solar48.printfStep (args c) c i s = some t)
    (hqueue : t.queue = s.queue) : Ends args c s out := by
  obtain ⟨u, hrun, hended, hu⟩ := h
  refine ⟨u, (Run.refl.tail (.call c i) rfl hstep).trans hrun, hended, ?_⟩
  rw [hu, hqueue]

/-- The statement that queues the request. -/
theorem Ends.enqueue (h : Ends args c t (result, none))
    (hstep : Solar48.printfStep (args c) c i s = some t)
    (hqueue : t.queue = s.queue ++ [(c, print)]) : Ends args c s (result, some print) := by
  obtain ⟨u, hrun, hended, hu⟩ := h
  refine ⟨u, (Run.refl.tail (.call c i) rfl hstep).trans hrun, hended, ?_⟩
  rw [hu, hqueue]
  exact List.append_nil _

theorem ends_unlock {err : ℤ} (i : OledInput) (hpc : s.call c = .unlock err) :
    Ends args c s (.returned err, none) := by
  have hstep : printfStep (args c) c i s =
      some ({ s with lock := false }.goto c (.ended (.returned err))) := by
    simp only [printfStep, hpc]
  exact (Ends.of_ended (OledState.goto_call _ _ _)).step hstep rfl

theorem ends_enqueue (i : OledInput) (hpc : s.call c = .enqueue print) :
    Ends args c s
      (if i.queue ≠ 0 then (.returned i.queue, none) else (.returned 0, some print)) := by
  split
  · rename_i hqueue
    have hstep : printfStep (args c) c i s = some (s.goto c (.unlock i.queue)) := by
      simp only [printfStep, hpc, if_pos hqueue]
    exact (ends_unlock i (OledState.goto_call _ _ _)).step hstep rfl
  · rename_i hqueue
    have hstep : printfStep (args c) c i s =
        some ({ s with queue := s.queue ++ [(c, print)] }.goto c (.unlock 0)) := by
      simp only [printfStep, hpc, if_neg hqueue]
    exact (ends_unlock i (OledState.goto_call _ _ _)).enqueue hstep rfl

theorem ends_mallocText (i : OledInput) (hpc : s.call c = .mallocText print) :
    Ends args c s
      (if !i.mallocText then (.panic "CURPRN:ERR2", none)
        else if i.queue ≠ 0 then (.returned i.queue, none)
        else (.returned 0, some { print with text := read s.buffer 0 print.size })) := by
  by_cases hmalloc : (!i.mallocText) = true
  · have hstep : printfStep (args c) c i s =
        some ({ s with lock := false }.goto c (.ended (.panic "CURPRN:ERR2"))) := by
      simp only [printfStep, hpc, if_pos hmalloc]
    rw [if_pos hmalloc]
    exact (Ends.of_ended (OledState.goto_call _ _ _)).step hstep rfl
  · have hstep : printfStep (args c) c i s = some (s.goto c (.copy print)) := by
      simp only [printfStep, hpc, if_neg hmalloc]
    have hcopy : printfStep (args c) c i (s.goto c (.copy print)) =
        some ((s.goto c (.copy print)).goto c
          (.enqueue { print with text := read s.buffer 0 print.size })) := by
      simp only [printfStep, OledState.goto_call]
      rfl
    rw [if_neg hmalloc]
    exact ((ends_enqueue i (OledState.goto_call _ _ _)).step hcopy rfl).step hstep rfl

/-- From the place on at which the length is known. -/
theorem ends_malloc (i : OledInput) (hpc : s.call c = .malloc len) :
    Ends args c s
      (if !i.malloc then (.panic "CURPRN:ERR1", none)
        else if !i.mallocText then (.panic "CURPRN:ERR2", none)
        else if i.queue ≠ 0 then (.returned i.queue, none)
        else (.returned 0,
          some ⟨(args c).x, (args c).y, len, read s.buffer 0 len, s.font, s.color⟩)) := by
  by_cases hmalloc : (!i.malloc) = true
  · have hstep : printfStep (args c) c i s =
        some ({ s with lock := false }.goto c (.ended (.panic "CURPRN:ERR1"))) := by
      simp only [printfStep, hpc, if_pos hmalloc]
    rw [if_pos hmalloc]
    exact (Ends.of_ended (OledState.goto_call _ _ _)).step hstep rfl
  · have hstep : printfStep (args c) c i s = some (s.goto c (.store len)) := by
      simp only [printfStep, hpc, if_neg hmalloc]
    have hstore : printfStep (args c) c i (s.goto c (.store len)) =
        some ((s.goto c (.store len)).goto c
          (.mallocText ⟨(args c).x, (args c).y, len, [], s.font, s.color⟩)) := by
      simp only [printfStep, OledState.goto_call]
      rfl
    rw [if_neg hmalloc]
    exact ((ends_mallocText i (OledState.goto_call _ _ _)).step hstore rfl).step hstep rfl

/-- From the cut of the length on. -/
theorem ends_checkLen {len : ℤ} (i : OledInput) (hpc : s.call c = .checkLen len) :
    Ends args c s
      (match cutLen len with
        | .error err => (.returned err, none)
        | .ok len =>
            if !i.malloc then (.panic "CURPRN:ERR1", none)
            else if !i.mallocText then (.panic "CURPRN:ERR2", none)
            else if i.queue ≠ 0 then (.returned i.queue, none)
            else (.returned 0,
              some ⟨(args c).x, (args c).y, len, read s.buffer 0 len, s.font, s.color⟩)) := by
  cases hcut : cutLen len with
  | error err =>
      have hstep : printfStep (args c) c i s = some (s.goto c (.unlock err)) := by
        simp only [printfStep, hpc, hcut]
      exact (ends_unlock i (OledState.goto_call _ _ _)).step hstep rfl
  | ok len =>
      have hstep : printfStep (args c) c i s = some (s.goto c (.malloc len)) := by
        simp only [printfStep, hpc, hcut]
      exact (ends_malloc i (OledState.goto_call _ _ _)).step hstep rfl

/-- **A call on its own does what `oledCursorPrintf` says**: with a free lock, or one that it does
not get. -/
theorem run_oledCursorPrintf (i : OledInput) (hidle : s.call c = .idle)
    (hlock : s.lock = !i.locked) :
    Ends args c s (oledCursorPrintf i s.buffer s.font s.color (args c).x (args c).y
      (args c).formatted) := by
  unfold oledCursorPrintf
  by_cases hinit : (!i.initialized) = true
  · have hstep : printfStep (args c) c i s =
        some (s.goto c (.ended (.returned eOledNotInitialized))) := by
      simp only [printfStep, hidle, if_pos hinit]
    rw [if_pos hinit]
    exact (Ends.of_ended (OledState.goto_call _ _ _)).step hstep rfl
  · have hstart : printfStep (args c) c i s = some (s.goto c .format) := by
      simp only [printfStep, hidle, if_neg hinit]
    obtain ⟨buffer, len, hvsnprintf⟩ : ∃ buffer len,
        vsnprintf s.buffer oledBufMaxSize (args c).formatted = (buffer, len) := ⟨_, _, rfl⟩
    -- behind the formatting
    obtain ⟨t, ht⟩ : ∃ t, t = { s.goto c .format with buffer, formatter := some c }.goto c
      (.tryLock len) := ⟨_, rfl⟩
    have hformat : printfStep (args c) c i (s.goto c .format) = some t := by
      have hbuffer : (s.goto c .format).buffer = s.buffer := rfl
      simp only [printfStep, OledState.goto_call, hbuffer, hvsnprintf, ht]
    have hpc : t.call c = .tryLock len := by
      rw [ht]
      exact OledState.goto_call _ _ _
    rw [if_neg hinit, hvsnprintf]
    refine Ends.step (Ends.step ?_ hformat (by rw [ht]; rfl)) hstart rfl
    by_cases hlocked : (!i.locked) = true
    · have hheld : t.lock = true := by
        rw [ht]
        exact hlock.trans hlocked
      have hnot : ¬ i.locked = true := by simpa using hlocked
      have hstep : printfStep (args c) c i t =
          some (t.goto c (.ended (.returned eOledCursorPrintfLockTimeout))) := by
        simp only [printfStep, hpc, if_pos hheld, if_neg hnot]
      simp only [if_pos hlocked]
      exact (Ends.of_ended (OledState.goto_call _ _ _)).step hstep rfl
    · have hfree : ¬ t.lock = true := by
        rw [ht]
        exact fun hheld => hlocked (hlock.symm.trans hheld)
      have hstep : printfStep (args c) c i t =
          some ({ t with lock := true }.goto c (.checkLen len)) := by
        simp only [printfStep, hpc, if_neg hfree]
      simp only [if_neg hlocked]
      refine Ends.step ?_ hstep rfl
      subst ht
      exact ends_checkLen i (OledState.goto_call _ _ _)

/-! ### All runs -/

/-- **The requests belong to their callers**, in every run in which no call copies after another
has formatted. -/
theorem ownRequests_of_run (h : Run (oledStep args) copiesOwn (oledInit buffer) s) :
    OwnRequests args s :=
  (h.invariant (oledInit_inv args buffer) fun _ _ _ ht hok hstep => ht.step hok hstep).queue

/-- A call on its own. -/
def soloTurns (c k : ℕ) : List OledTurn :=
  List.replicate k (.call c ⟨true, true, true, true, 0⟩)

/-- Three texts, of calls that do not meet. -/
def shortArgs (c : ℕ) : OledArgs := ⟨0, UInt8.ofNat (16 * c), ⟨[0x41 + UInt8.ofNat c], false⟩⟩

/-- Two calls, one after the other: both requests belong to their callers. -/
theorem ownRequests_solo : ∃ s,
    exec (oledStep shortArgs) copiesOwn (soloTurns 0 10 ++ soloTurns 1 10)
      (oledInit fun _ => 0) = some s ∧ s.queue.length = 2 ∧ OwnRequests shortArgs s :=
  ⟨_, rfl, rfl, ownRequests_of_run (run_of_exec (soloTurns 0 10 ++ soloTurns 1 10) rfl)⟩

/-- One call formats between the formatting and the copy of the other, which queues its text. -/
theorem not_ownRequests : ¬ ∀ (args : ℕ → OledArgs) (buffer : Mem) (s : OledState),
    Run (oledStep args) (fun _ _ => true) (oledInit buffer) s → OwnRequests args s := by
  intro h
  obtain ⟨s, hrun, hqueue⟩ : ∃ s,
      exec (oledStep shortArgs) (fun _ _ => true) (soloTurns 0 2 ++ soloTurns 1 2 ++ soloTurns 0 7)
        (oledInit fun _ => 0) = some s ∧
      s.queue = [(0, ⟨0, 0, 1, [0x42], font7x10, .white⟩)] := ⟨_, rfl, rfl⟩
  have hown := h shortArgs _ s (run_of_exec _ hrun) 0 _
    (by rw [hqueue]; exact List.mem_singleton_self _)
  exact absurd hown.text_eq (by decide)

end Solar48
