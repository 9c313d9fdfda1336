/-
**USB command reception: the one-slot mailbox and the reception lock.**

A packet from the host arrives in an interrupt.  `usb_receive` takes its first line into `text`
unless a command is pending or the transmitter is busy; `usb_receive_complete` then puts
`usb_receive_complete_process` into the mailbox of `run_process_int_ext`, whether or not the
packet was taken.  The task that runs the mailbox executes the line, waits, releases the lock and
only then clears the mailbox.

The interrupt runs between any two steps of the task, so the model is one step function with a
label for whose turn it is.  What happened is recorded in two lists that the program does not
have: the packets that were taken and the lines that were executed.

Main definitions:

* `cdcReceiveFs` — the interrupt's half;
* `runProcessIntExt` — one step of the task's half;
* `OncePerAcceptedPacket` — the lines executed are the lines of the packets taken, in order, but
  for one that may still be pending;
* `keepsMailbox` — the condition on an arrival: taken exactly when the mailbox is free.

Main results:

* `UsbState.Sound.step` — what one step preserves;
* `oncePerAcceptedPacket_iff` — **as long as every arrival met the condition each packet taken is
  executed once, and the first arrival that does not meet it breaks this**;
* `exists_left_eq_zero` — the task always gets to clear the mailbox.
-/

import Solar48.ByteMem
import Solar48.StepSystem
import Mathlib.Logic.Function.Iterate

set_option relaxedAutoImplicit false
set_option autoImplicit false

namespace Solar48

open ByteMem StepSystem

/-! ### Command lines -/

abbrev eUsbReceiveError : ℤ := 140
abbrev eUsbLockError : ℤ := 150
abbrev eUsbReceiveProcBusy : ℤ := 160
abbrev processBusy : ℤ := 90

/-- `APP_TX_DATA_SIZE`, the size of `text`. -/
def appTxDataSize : ℕ := 256

/-- The commands that `usb_receive_complete_process` knows. -/
inductive Command
  | ping | meminfo | timestamp | setdate | getdate | help | milliseconds | cpuinfo | sensors
  | error | readep2000Status | readep2000OvrTemp | readep2000 | ctfEp2000
  | rdTr6415RatedDatum | rdTr6415RealTimeStatus | rdTr6415RealTime | rdTr6415StatParam
  | rdTr6415SettingParam
  deriving DecidableEq, Repr

/-- The `COMMAND_CHECK_CALL_ARG` lines in the order in which they are tried. -/
def commandTable : List (Command × String) :=
  [(.ping, "ping"), (.meminfo, "meminfo"), (.timestamp, "timestamp"), (.setdate, "setdate"),
    (.getdate, "getdate"), (.help, "help"), (.milliseconds, "milliseconds"),
    (.cpuinfo, "cpuinfo"), (.sensors, "sensors"), (.error, "error"),
    (.readep2000Status, "readep2000_status"), (.readep2000OvrTemp, "readep2000_ovr_temp"),
    (.readep2000, "readep2000"), (.ctfEp2000, "ctf_ep2000"),
    (.rdTr6415RatedDatum, "rd_tr6415_rated_datum"),
    (.rdTr6415RealTimeStatus, "rd_tr6415_real_time_status"),
    (.rdTr6415RealTime, "rd_tr6415_real_time"), (.rdTr6415StatParam, "rd_tr6415_stat_param"),
    (.rdTr6415SettingParam, "rd_tr6415_setting_param")]

/-- The bytes of a command's name. -/
def nameBytes (name : String) : List UInt8 := name.toList.map fun c => UInt8.ofNat c.toNat

/-- The first command whose name the line begins with, as the `strncmp` chain finds it. -/
def findCommand (line : List UInt8) : Option Command :=
  (commandTable.find? fun c => (nameBytes c.2).isPrefixOf line).map Prod.fst

/-- What one call of `usb_receive_complete_process` does. -/
inductive Execution
  /-- at most two bytes: the line is refused -/
  | tooShort
  /-- a command, called with the line -/
  | command (c : Command) (line : List UInt8)
  /-- the answer "Invalid command" with the line -/
  | invalid (line : List UInt8)
  deriving DecidableEq, Repr

/-- The `strncmp` chain ended with this command, or with none. -/
def Execution.ofCommand (line : List UInt8) (textSz : ℕ) : Option Command → Execution
  | some c => .command c line
  | none => .invalid (line.take textSz)

/-- `usb_receive_complete_process` on a line that stays as it is. -/
def execution (line : List UInt8) (textSz : ℕ) : Execution :=
  if textSz ≤ 2 then .tooShort else .ofCommand line textSz (findCommand line)

/-- The string that a `char` array of `APP_TX_DATA_SIZE` bytes holds. -/
def cString (text : Mem) : List UInt8 := (read text 0 appTxDataSize).takeWhile (· ≠ 0)

/-- Neither `'\r'` nor `'\n'`. -/
def inLine (c : UInt8) : Bool := c ≠ 13 && c ≠ 10

/-- The line of a packet: what `text` holds after `usb_receive` took the packet. -/
def packetLine (packet : List UInt8) : List UInt8 :=
  ((packet.take (appTxDataSize - 1)).takeWhile inLine).takeWhile (· ≠ 0)

/-- The execution that a packet asks for. -/
def packetExecution (packet : List UInt8) : Execution :=
  execution (packetLine packet) (min packet.length (appTxDataSize - 1))

/-! ### The state -/

/-- The processes that are put into the mailbox of `run_process_int_ext`. -/
inductive ProcessCaller
  | usbReceiveCompleteProcess
  deriving DecidableEq, Repr

/-- Where the task is: in `run_process_int_ext`, and inside the process it called. -/
inductive RunnerPc
  /-- about to look into the mailbox -/
  | idle
  /-- about to read `text_sz` -/
  | readSize
  /-- about to compare `text` with the commands -/
  | compare
  /-- about to call a command, or to answer that there is none -/
  | call (c : Option Command)
  /-- about to clear `last_usb_error`, and to wait -/
  | finish (err : ℤ)
  /-- about to clear `usb_io_locked` -/
  | unlock (err : ℤ)
  /-- about to store the return code -/
  | store (err : ℤ)
  /-- about to clear the mailbox -/
  | clear
  deriving DecidableEq, Repr

structure UsbState where
  usbIoLocked : Bool
  text : Mem
  textSz : ℕ
  lastUsbError : ℤ
  /-- the mailbox, `_process_int_ext` -/
  processIntExt : Option ProcessCaller
  /-- `ret_code_process_int_ext` -/
  retCode : ℤ
  runner : RunnerPc
  /-- the packets that `usb_receive` took, the oldest first -/
  accepted : List (List UInt8)
  /-- what the process did, the oldest first -/
  executed : List Execution

/-- After `init_usb`. -/
def usbInit : UsbState where
  usbIoLocked := false
  text := fun _ => 0
  textSz := 0
  lastUsbError := 0
  processIntExt := none
  retCode := 0
  runner := .idle
  accepted := []
  executed := []

/-! ### The interrupt -/

/-- The `while` loop of `usb_receive`, with `tmp` bytes to go and `p` the next place in `text`. -/
def copyLine : List UInt8 → ℕ → ℕ → Mem → Mem
  | c :: buf, tmp + 1, p, text =>
      if inLine c then copyLine buf tmp (p + 1) (write text p [c])
      else write text p [0]
  | _, _, _, text => text

/-- `usb_error`. -/
def usbError (value : ℤ) (s : UsbState) : UsbState := { s with lastUsbError := value }

/-- `usb_receive`; `busy` is what `cdc_transmit_is_busy` says. -/
def usbReceive (packet : List UInt8) (busy : Bool) (s : UsbState) : UsbState :=
  if s.usbIoLocked then usbError eUsbLockError s
  else if busy then usbError eUsbReceiveError s
  else
    let textSz := if packet.length > appTxDataSize - 1 then appTxDataSize - 1 else packet.length
    { s with
      usbIoLocked := true
      textSz := textSz
      text := copyLine packet textSz 0 (write s.text textSz [0])
      accepted := s.accepted ++ [packet] }

/-- `usb_receive_complete`, with `add_process_int_ext` and `is_process_int_ext_running`. -/
def usbReceiveComplete (s : UsbState) : UsbState :=
  if s.processIntExt = none then
    { s with processIntExt := some .usbReceiveCompleteProcess }
  else if s.processIntExt = some .usbReceiveCompleteProcess then
    usbError eUsbReceiveProcBusy s
  else { usbError processBusy s with usbIoLocked := false }

/-- `CDC_Receive_FS`, with both callbacks set. -/
def cdcReceiveFs (packet : List UInt8) (busy : Bool) (s : UsbState) : UsbState :=
  -- the second callback is called for every packet
  usbReceiveComplete (if packet.length > 0 then usbReceive packet busy s else s)

/-! ### The task -/

/-- One step of `run_process_int_ext`.  The wait of `usb_receive_complete_process` takes the step
that leads to `unlock`. -/
def runProcessIntExt (s : UsbState) : UsbState :=
  match s.runner with
  | .idle =>
      match s.processIntExt with
      | some .usbReceiveCompleteProcess => { s with runner := .readSize }
      | none => s
  | .readSize =>
      if s.textSz ≤ 2 then
        { s with runner := .finish (-2), executed := s.executed ++ [.tooShort] }
      else { s with runner := .compare }
  | .compare => { s with runner := .call (findCommand (cString s.text)) }
  | .call c =>
      { s with
        runner := .finish 0
        executed := s.executed ++ [.ofCommand (cString s.text) s.textSz c] }
  | .finish err => { s with lastUsbError := 0, runner := .unlock err }
  | .unlock err => { s with usbIoLocked := false, runner := .store err }
  | .store err => { s with retCode := err, runner := .clear }
  | .clear => { s with processIntExt := none, runner := .idle }

/-- Whose turn it is. -/
inductive UsbTurn
  /-- a packet arrives, while the transmitter is busy or not -/
  | packet (packet : List UInt8) (busy : Bool)
  /-- the task takes a step -/
  | task
  deriving DecidableEq, Repr

def usbStep : UsbTurn → UsbState → Option UsbState
  | .packet packet busy, s => some (cdcReceiveFs packet busy s)
  | .task, s => some (runProcessIntExt s)

/-- The lines executed are those of the packets taken, each once and in their order; while the
mailbox is full one may be missing. -/
def OncePerAcceptedPacket (s : UsbState) : Prop :=
  s.executed <+: s.accepted.map packetExecution ∧
    (s.processIntExt = none → s.executed = s.accepted.map packetExecution)

instance (s : UsbState) : Decidable (OncePerAcceptedPacket s) :=
  inferInstanceAs (Decidable (_ ∧ _))

/-- `usb_receive` is called and takes the packet. -/
def UsbState.takes (s : UsbState) (packet : List UInt8) (busy : Bool) : Bool :=
  !s.usbIoLocked && !busy && packet.length > 0

/-- The condition on a turn: a packet is taken exactly when the mailbox is free. -/
def keepsMailbox : UsbTurn → UsbState → Bool
  | .packet packet busy, s => s.takes packet busy == s.processIntExt.isNone
  | .task, _ => true

/-! ### Taking a line -/

/-- The loop copies up to the end of the line, and closes the string there if it finds one. -/
theorem copyLine_eq {buf : List UInt8} {tmp : ℕ} (p : ℕ) (text : Mem) (h : tmp ≤ buf.length) :
    copyLine buf tmp p text = write text p ((buf.take tmp).takeWhile inLine) ∧
        ((buf.take tmp).takeWhile inLine).length = tmp ∨
      copyLine buf tmp p text = write text p ((buf.take tmp).takeWhile inLine ++ [0]) := by
  induction tmp generalizing buf p text with
  | zero => exact Or.inl ⟨by simp [copyLine], rfl⟩
  | succ tmp ih =>
      cases buf with
      | nil => cases h
      | cons c buf =>
          rw [copyLine]
          cases hc : inLine c with
          | true =>
              have hline : (c :: buf).take (tmp + 1) = c :: buf.take tmp := rfl
              rw [if_pos rfl, hline, List.takeWhile_cons_of_pos hc]
              rcases ih (p + 1) (write text p [c]) (Nat.le_of_succ_le_succ h) with ⟨heq, hlen⟩ | heq
              · exact Or.inl ⟨heq.trans (write_append text p [c] _), by simp [hlen]⟩
              · exact Or.inr (heq.trans (write_append text p [c] _))
          | false =>
              have hline : (c :: buf).take (tmp + 1) = c :: buf.take tmp := rfl
              rw [if_neg Bool.false_ne_true, hline,
                List.takeWhile_cons_of_neg (by rw [hc]; exact Bool.false_ne_true)]
              exact Or.inr rfl

theorem cString_write {line : List UInt8} (text : Mem) (h : line.length < appTxDataSize) :
    cString (write text 0 (line ++ [0])) = line.takeWhile (· ≠ 0) := by
  obtain ⟨rest, hrest⟩ := Nat.exists_eq_add_of_le (Nat.succ_le_of_lt h)
  have hread : read (write text 0 (line ++ [0])) 0 (line.length + 1) = line ++ [0] := by
    have := read_write_self text 0 (line ++ [0])
    rwa [List.length_append] at this
  rw [cString, hrest, read_add, hread, List.append_assoc, List.takeWhile_append]
  split
  · rename_i hall
    rw [(List.takeWhile_prefix _).eq_of_length hall]
    simp
  · rfl

/-- **After `usb_receive` took a packet, `text` holds its line.** -/
theorem cString_copyLine (packet : List UInt8) (text : Mem) (n : ℕ)
    (hn : n = min packet.length (appTxDataSize - 1)) :
    cString (copyLine packet n 0 (write text n [0])) = packetLine packet := by
  have htake : packet.take (appTxDataSize - 1) = packet.take n := by
    rw [hn, Nat.min_comm, ← List.take_take, List.take_length]
  have hlt : ((packet.take n).takeWhile inLine).length < appTxDataSize := by
    have := (List.takeWhile_sublist inLine (l := packet.take n)).length_le
    have : (packet.take n).length = n := by simp [hn]
    have : n ≤ appTxDataSize - 1 := by omega
    have : 0 < appTxDataSize := by decide
    omega
  rw [packetLine, htake]
  change _ = ((packet.take n).takeWhile inLine).takeWhile _
  rcases copyLine_eq 0 (write text n [0]) (show n ≤ packet.length by omega) with ⟨heq, hlen⟩ | heq
  · rw [heq, write_write_before text 0 n _ _ (by omega), cString_write _ hlt]
  · rw [heq, cString_write _ hlt]

/-! ### What the two halves do -/

variable {s t : UsbState}

/-- The state after `usb_receive` took a packet. -/
def UsbState.take (s : UsbState) (packet : List UInt8) : UsbState :=
  let n := min packet.length (appTxDataSize - 1)
  { s with
    usbIoLocked := true
    textSz := n
    text := copyLine packet n 0 (write s.text n [0])
    accepted := s.accepted ++ [packet] }

/-- The state after `usb_receive_complete`: the mailbox is full, and an error may be noted. -/
def UsbState.fill (s : UsbState) (value : ℤ) : UsbState :=
  { s with lastUsbError := value, processIntExt := some .usbReceiveCompleteProcess }

theorem usbReceiveComplete_eq (s : UsbState) : ∃ value, usbReceiveComplete s = s.fill value := by
  unfold usbReceiveComplete UsbState.fill
  cases hm : s.processIntExt with
  | none => exact ⟨s.lastUsbError, rfl⟩
  | some caller =>
      cases caller
      exact ⟨eUsbReceiveProcBusy, by rw [if_neg nofun, if_pos rfl, usbError, hm]⟩

theorem usbReceive_of_takes {packet : List UInt8} {busy : Bool}
    (h : s.takes packet busy = true) : usbReceive packet busy s = s.take packet := by
  simp only [UsbState.takes, Bool.and_eq_true, Bool.not_eq_true'] at h
  unfold usbReceive UsbState.take
  have hn : (if packet.length > appTxDataSize - 1 then appTxDataSize - 1 else packet.length) =
      min packet.length (appTxDataSize - 1) := by
    split <;> omega
  rw [h.1.1, h.1.2, if_neg Bool.false_ne_true, if_neg Bool.false_ne_true, hn]

theorem usbReceive_of_not_takes {packet : List UInt8} {busy : Bool}
    (h : s.takes packet busy = false) (hpos : packet.length > 0) :
    ∃ value, usbReceive packet busy s = usbError value s := by
  unfold usbReceive
  split
  · exact ⟨eUsbLockError, rfl⟩
  · rename_i hlock
    split
    · exact ⟨eUsbReceiveError, rfl⟩
    · rename_i hbusy
      simp [UsbState.takes, hlock, hbusy, hpos] at h

/-- **An arrival, all in all**: the packet is taken or not, and the mailbox is full afterwards. -/
theorem cdcReceiveFs_cases (packet : List UInt8) (busy : Bool) (s : UsbState) :
    ∃ value, cdcReceiveFs packet busy s =
      if s.takes packet busy then (s.take packet).fill value else s.fill value := by
  unfold cdcReceiveFs
  cases htakes : s.takes packet busy with
  | true =>
      have hpos : packet.length > 0 := by
        simp only [UsbState.takes, Bool.and_eq_true, decide_eq_true_eq] at htakes
        exact htakes.2
      rw [if_pos hpos, usbReceive_of_takes htakes]
      exact usbReceiveComplete_eq _
  | false =>
      split
      · rename_i hpos
        obtain ⟨value, heq⟩ := usbReceive_of_not_takes htakes hpos
        rw [heq]
        exact usbReceiveComplete_eq _
      · exact usbReceiveComplete_eq _

/-! ### The invariant -/

/-- The process has not yet done its work. -/
@[simp] def RunnerPc.unread : RunnerPc → Bool
  | .idle | .readSize | .compare | .call _ => true
  | .finish _ | .unlock _ | .store _ | .clear => false

/-- The process has not yet given the lock back. -/
@[simp] def RunnerPc.holds : RunnerPc → Bool
  | .idle | .readSize | .compare | .call _ | .finish _ | .unlock _ => true
  | .store _ | .clear => false

/-- What the process is still to do. -/
def UsbState.pending (s : UsbState) : List Execution :=
  if s.processIntExt.isSome && s.runner.unread then [execution (cString s.text) s.textSz] else []

/-- What the task relies on at the place where it is. -/
def RunnerPc.AtPlace (s : UsbState) : RunnerPc → Prop
  | .compare => 2 < s.textSz
  | .call c => 2 < s.textSz ∧ c = findCommand (cString s.text)
  | _ => True

/-- What holds as long as every packet was taken exactly when the mailbox was free. -/
structure UsbState.Sound (s : UsbState) : Prop where
  /-- the packets taken are those executed and the one pending -/
  log : s.accepted.map packetExecution = s.executed ++ s.pending
  /-- the lock is held while the mailbox is full, up to the process's return -/
  locked : s.usbIoLocked = (s.processIntExt.isSome && s.runner.holds)
  /-- the task works on a full mailbox -/
  full : s.runner ≠ .idle → s.processIntExt.isSome = true
  place : s.runner.AtPlace s

theorem usbInit_sound : usbInit.Sound :=
  ⟨rfl, rfl, fun h => absurd rfl h, trivial⟩

theorem UsbState.Sound.idle_of_free (h : s.Sound) (hfree : s.processIntExt = none) :
    s.runner = .idle := by
  by_contra hne
  have := h.full hne
  rw [hfree] at this
  cases this

/-- One step of the task. -/
theorem UsbState.Sound.task (h : s.Sound) : (runProcessIntExt s).Sound := by
  obtain ⟨hlog, hlocked, hfull, hplace⟩ := h
  unfold runProcessIntExt
  cases hr : s.runner with
  | idle =>
      dsimp only
      split
      · rename_i hm
        simp only [UsbState.pending, hr, hm] at hlog hlocked
        exact ⟨by simpa [UsbState.pending, hm] using hlog, by simpa [hm] using hlocked,
          fun _ => by simp [hm], trivial⟩
      · rw [hr] at hplace
        exact ⟨hlog, hlocked, hfull, by rw [hr]; exact hplace⟩
  | readSize =>
      have hm := hfull (by rw [hr]; nofun)
      simp only [UsbState.pending, hr, hm] at hlog hlocked
      dsimp only
      -- a line of at most two bytes is refused, and that is its execution
      split
      · rename_i hshort
        refine ⟨?_, by simpa [hm] using hlocked, fun _ => hm, trivial⟩
        simpa [UsbState.pending, execution, hshort] using hlog
      · rename_i hlong
        refine ⟨?_, by simpa [hm] using hlocked, fun _ => hm, Nat.lt_of_not_le hlong⟩
        simpa [UsbState.pending, hm] using hlog
  | compare =>
      have hm := hfull (by rw [hr]; nofun)
      simp only [UsbState.pending, hr, hm] at hlog hlocked hplace
      refine ⟨?_, by simpa [hm] using hlocked, fun _ => hm, hplace, rfl⟩
      simpa [UsbState.pending, hm] using hlog
  | call c =>
      have hm := hfull (by rw [hr]; nofun)
      simp only [UsbState.pending, hr, hm] at hlog hlocked hplace
      obtain ⟨hlong, rfl⟩ := hplace
      refine ⟨?_, by simpa [hm] using hlocked, fun _ => hm, trivial⟩
      simpa [UsbState.pending, execution, Nat.not_le.2 hlong] using hlog
  | finish err =>
      have hm := hfull (by rw [hr]; nofun)
      simp only [UsbState.pending, hr] at hlog hlocked
      exact ⟨by simpa [UsbState.pending] using hlog,
        by simpa using hlocked, fun _ => hm, trivial⟩
  | unlock err =>
      have hm := hfull (by rw [hr]; nofun)
      simp only [UsbState.pending, hr] at hlog
      exact ⟨by simpa [UsbState.pending] using hlog,
        by simp, fun _ => hm, trivial⟩
  | store err =>
      have hm := hfull (by rw [hr]; nofun)
      simp only [UsbState.pending, hr] at hlog hlocked
      exact ⟨by simpa [UsbState.pending] using hlog,
        by simpa using hlocked, fun _ => hm, trivial⟩
  | clear =>
      simp only [UsbState.pending, hr] at hlog hlocked
      exact ⟨by simpa [UsbState.pending] using hlog,
        by simpa using hlocked, fun h => absurd rfl h, trivial⟩

/-- A packet taken while the mailbox is free is the one pending. -/
theorem UsbState.Sound.take_fill (h : s.Sound) (hfree : s.processIntExt = none)
    (packet : List UInt8) (value : ℤ) : ((s.take packet).fill value).Sound := by
  have hidle := h.idle_of_free hfree
  have hlog : s.accepted.map packetExecution = s.executed := by
    have := h.log
    rwa [UsbState.pending, hfree, if_neg (by simp), List.append_nil] at this
  refine ⟨?_, ?_, fun _ => rfl, ?_⟩
  -- the task is at rest, so what it finds is what was just copied
  · change (s.accepted ++ [packet]).map packetExecution = s.executed ++ UsbState.pending _
    rw [List.map_append, hlog]
    refine congrArg (s.executed ++ ·) ?_
    simp only [UsbState.pending, UsbState.fill, UsbState.take, hidle]
    rw [cString_copyLine packet s.text _ rfl]
    rfl
  · simp [UsbState.fill, UsbState.take, hidle]
  · simp [UsbState.fill, UsbState.take, hidle, RunnerPc.AtPlace]

/-- A packet that is not taken while the mailbox is full changes nothing but the error. -/
theorem UsbState.Sound.fill (h : s.Sound) (hm : s.processIntExt.isSome = true) (value : ℤ) :
    (s.fill value).Sound := by
  have hm' : s.processIntExt = some .usbReceiveCompleteProcess := by
    obtain ⟨caller, hcaller⟩ := Option.isSome_iff_exists.1 hm
    cases caller
    exact hcaller
  have hplace := h.place
  refine ⟨?_, ?_, fun _ => rfl, ?_⟩
  · simpa [UsbState.pending, UsbState.fill, hm'] using h.log
  · simpa [UsbState.fill, hm'] using h.locked
  · unfold UsbState.fill
    cases hr : s.runner with
    | compare =>
        rw [hr] at hplace
        exact hplace
    | call c =>
        rw [hr] at hplace
        exact hplace
    | _ => trivial

/-- One arrival. -/
theorem UsbState.Sound.packet {packet : List UInt8} {busy : Bool} (h : s.Sound)
    (hok : keepsMailbox (.packet packet busy) s = true) : (cdcReceiveFs packet busy s).Sound := by
  have hiff : s.takes packet busy = s.processIntExt.isNone := by
    simpa [keepsMailbox] using hok
  obtain ⟨value, heq⟩ := cdcReceiveFs_cases packet busy s
  rw [heq, hiff]
  cases hm : s.processIntExt with
  | none => exact h.take_fill hm packet value
  | some caller => exact h.fill (by rw [hm]; rfl) value

/-- **The step lemma.** -/
theorem UsbState.Sound.step {turn : UsbTurn} (h : s.Sound) (hok : keepsMailbox turn s = true)
    (hstep : usbStep turn s = some t) : t.Sound := by
  cases turn with
  | packet packet busy =>
      obtain rfl := Option.some.inj hstep
      exact h.packet hok
  | task =>
      obtain rfl := Option.some.inj hstep
      exact h.task

theorem UsbState.Sound.oncePerAcceptedPacket (h : s.Sound) : OncePerAcceptedPacket s := by
  refine ⟨⟨s.pending, h.log.symm⟩, fun hfree => ?_⟩
  rw [h.log, UsbState.pending, hfree]
  simp

/-- **The run lemma.** -/
theorem sound_of_run (h : Run usbStep keepsMailbox usbInit s) : s.Sound :=
  h.invariant usbInit_sound fun _ _ _ hsound hok hstep => hsound.step hok hstep

/-! ### The task alone -/

/-- How many steps the task needs at most until the mailbox is clear. -/
def UsbState.left (s : UsbState) : ℕ :=
  match s.runner with
  | .idle => if s.processIntExt = none then 0 else 8
  | .readSize => 7
  | .compare => 6
  | .call _ => 5
  | .finish _ => 4
  | .unlock _ => 3
  | .store _ => 2
  | .clear => 1

theorem left_runProcessIntExt (h : s.left ≠ 0) : (runProcessIntExt s).left < s.left := by
  unfold runProcessIntExt
  cases hr : s.runner with
  | idle =>
      cases hm : s.processIntExt with
      | none => exact absurd (by simp [UsbState.left, hr, hm]) h
      | some caller =>
          cases caller
          simp [UsbState.left, hr, hm]
  | readSize =>
      dsimp only
      split <;> simp [UsbState.left, hr]
  | _ => simp [UsbState.left, hr]

/-- **Left alone, the task clears the mailbox.** -/
theorem exists_left_eq_zero (s : UsbState) : ∃ k, (runProcessIntExt^[k] s).left = 0 := by
  induction hn : s.left using Nat.strongRecOn generalizing s with
  | _ n ih =>
      rcases Nat.eq_zero_or_pos s.left with hz | hpos
      · exact ⟨0, hz⟩
      · obtain ⟨k, hk⟩ := ih _ (hn ▸ left_runProcessIntExt (Nat.ne_of_gt hpos)) _ rfl
        exact ⟨k + 1, by rwa [Function.iterate_succ_apply]⟩

theorem free_of_left (h : s.left = 0) : s.processIntExt = none := by
  unfold UsbState.left at h
  split at h
  · split at h
    · assumption
    · cases h
  all_goals cases h

@[simp] theorem accepted_runProcessIntExt (s : UsbState) :
    (runProcessIntExt s).accepted = s.accepted := by
  unfold runProcessIntExt
  repeat' split
  all_goals rfl

theorem accepted_iterate (k : ℕ) (s : UsbState) :
    (runProcessIntExt^[k] s).accepted = s.accepted := by
  induction k generalizing s with
  | zero => rfl
  | succ k ih => rw [Function.iterate_succ_apply, ih, accepted_runProcessIntExt]

theorem UsbState.Sound.iterate (h : s.Sound) (k : ℕ) : (runProcessIntExt^[k] s).Sound := by
  induction k generalizing s with
  | zero => exact h
  | succ k ih => exact ih h.task

/-- What is pending gets executed. -/
theorem UsbState.Sound.exists_executed (h : s.Sound) :
    ∃ k, (runProcessIntExt^[k] s).executed = s.accepted.map packetExecution := by
  obtain ⟨k, hk⟩ := exists_left_eq_zero s
  refine ⟨k, ?_⟩
  rw [← accepted_iterate k s]
  exact (h.iterate k).oncePerAcceptedPacket.2 (free_of_left hk)

/-! ### Arrivals that do not meet the condition -/

/-- Nothing was executed that was not taken, so there are no more lines than packets. -/
theorem OncePerAcceptedPacket.length_le (h : OncePerAcceptedPacket s) :
    s.executed.length ≤ s.accepted.length := by
  simpa using h.1.length_le

/-- A packet that is not taken while the mailbox is free has the last line executed again. -/
theorem UsbState.Sound.replay (h : s.Sound) (hfree : s.processIntExt = none) (value : ℤ) :
    ∃ k, ¬ OncePerAcceptedPacket (runProcessIntExt^[k] (s.fill value)) := by
  have hidle := h.idle_of_free hfree
  have hlen : s.executed.length = s.accepted.length := by
    rw [h.oncePerAcceptedPacket.2 hfree, List.length_map]
  have hextra : ∀ k, (runProcessIntExt^[k] (s.fill value)).executed.length =
      s.accepted.length + 1 → ¬ OncePerAcceptedPacket (runProcessIntExt^[k] (s.fill value)) := by
    intro k hexecuted hno
    have hle := hno.length_le
    rw [accepted_iterate, hexecuted] at hle
    exact Nat.not_succ_le_self _ hle
  rcases Nat.lt_or_ge 2 s.textSz with hlong | hshort
  · refine ⟨4, hextra 4 ?_⟩
    simp [UsbState.fill, runProcessIntExt, hidle, Nat.not_le.2 hlong, hlen]
  · refine ⟨2, hextra 2 ?_⟩
    simp [UsbState.fill, runProcessIntExt, hidle, hshort, hlen]

/-- A packet that is taken while the mailbox is full is lost when the mailbox is cleared. -/
theorem UsbState.Sound.lost (h : s.Sound) (hm : s.processIntExt.isSome = true)
    (hunlocked : s.usbIoLocked = false) (packet : List UInt8) (value : ℤ) :
    ∃ k, ¬ OncePerAcceptedPacket (runProcessIntExt^[k] ((s.take packet).fill value)) := by
  have hholds : s.runner.holds = false := by
    have := h.locked
    rwa [hunlocked, hm, Bool.true_and, eq_comm] at this
  have hlen : s.executed.length = s.accepted.length := by
    have hlog := congrArg List.length h.log
    cases hr : s.runner <;> simp [hr, UsbState.pending] at hholds hlog
    all_goals exact hlog.symm
  cases hr : s.runner with
  | store err =>
      refine ⟨2, fun hno => ?_⟩
      have hfree := hno.2 (by simp [UsbState.fill, UsbState.take, runProcessIntExt, hr])
      have := congrArg List.length hfree
      simp [UsbState.fill, UsbState.take, runProcessIntExt, hr, hlen] at this
  | clear =>
      refine ⟨1, fun hno => ?_⟩
      have hfree := hno.2 (by simp [UsbState.fill, UsbState.take, runProcessIntExt, hr])
      have := congrArg List.length hfree
      simp [UsbState.fill, UsbState.take, runProcessIntExt, hr, hlen] at this
  | _ => simp [hr] at hholds

theorem UsbState.Sound.exists_not_once {packet : List UInt8} {busy : Bool} (h : s.Sound)
    (hok : keepsMailbox (.packet packet busy) s = false) :
    ∃ k, ¬ OncePerAcceptedPacket (runProcessIntExt^[k] (cdcReceiveFs packet busy s)) := by
  obtain ⟨value, heq⟩ := cdcReceiveFs_cases packet busy s
  rw [heq]
  cases htakes : s.takes packet busy with
  | true =>
      have hm : s.processIntExt.isSome = true := by
        simpa [keepsMailbox, htakes, Option.isSome_iff_ne_none] using hok
      have hunlocked : s.usbIoLocked = false := by
        simp only [UsbState.takes, Bool.and_eq_true, Bool.not_eq_true'] at htakes
        exact htakes.1.1
      exact h.lost hm hunlocked packet value
  | false =>
      have hfree : s.processIntExt = none := by
        simpa [keepsMailbox, htakes] using hok
      exact h.replay hfree value

/-- **USB commands run once per packet taken, as long as packets are taken exactly when the
mailbox is free.**  The first arrival of which this is not true breaks it: as the task goes on, a
line is executed again or a packet is lost. -/
theorem oncePerAcceptedPacket_iff (h : Run usbStep keepsMailbox usbInit s) :
    OncePerAcceptedPacket s ∧
      (∃ k, (runProcessIntExt^[k] s).executed = s.accepted.map packetExecution) ∧
      ∀ packet busy, keepsMailbox (.packet packet busy) s = true ↔
        ∀ k, OncePerAcceptedPacket (runProcessIntExt^[k] (cdcReceiveFs packet busy s)) := by
  have hsound := sound_of_run h
  refine ⟨hsound.oncePerAcceptedPacket, hsound.exists_executed, fun packet busy => ⟨?_, ?_⟩⟩
  · intro hok k
    exact ((hsound.packet hok).iterate k).oncePerAcceptedPacket
  · intro hall
    by_contra hok
    obtain ⟨k, hk⟩ := hsound.exists_not_once (Bool.eq_false_iff.2 hok)
    exact hk (hall k)

/-- A `ping` arrives and is carried out. -/
def pingRun : List UsbTurn :=
  .packet (nameBytes "ping\r\n") false :: List.replicate 8 .task

/-- After a `ping` the next one is answered again, and an empty packet must not arrive. -/
theorem oncePerAcceptedPacket_iff_ping : ∃ s, exec usbStep keepsMailbox pingRun usbInit = some s ∧
    s.executed = [.command .ping (nameBytes "ping")] ∧ OncePerAcceptedPacket s ∧
    (∀ k, OncePerAcceptedPacket
      (runProcessIntExt^[k] (cdcReceiveFs (nameBytes "ping\r\n") false s))) ∧
    ¬ ∀ k, OncePerAcceptedPacket (runProcessIntExt^[k] (cdcReceiveFs [] false s)) := by
  have hrun : (exec usbStep keepsMailbox pingRun usbInit).map (fun s =>
      (s.executed, keepsMailbox (.packet (nameBytes "ping\r\n") false) s,
        keepsMailbox (.packet [] false) s)) =
      some ([.command .ping (nameBytes "ping")], true, false) := by decide
  obtain ⟨s, hs, heq⟩ := Option.map_eq_some_iff.1 hrun
  simp only [Prod.mk.injEq] at heq
  obtain ⟨hexec, hping, hempty⟩ := heq
  obtain ⟨honce, -, hiff⟩ := oncePerAcceptedPacket_iff (run_of_exec _ hs)
  refine ⟨s, hs, hexec, honce, (hiff _ _).1 hping, fun hall => ?_⟩
  rw [← hiff, hempty] at hall
  cases hall

/-- A `ping` is carried out, then an empty packet arrives. -/
def emptyPacketRun : List UsbTurn :=
  pingRun ++ .packet [] false :: List.replicate 8 .task

/-- The empty packet makes the task carry out `ping` once more. -/
theorem oncePerAcceptedPacket_empty_packet :
    ¬ ∀ s, Run usbStep (fun _ _ => true) usbInit s → OncePerAcceptedPacket s := by
  intro hall
  have hrun : (exec usbStep (fun _ _ => true) emptyPacketRun usbInit).map (fun s =>
      (s.executed.length, s.accepted.length)) = some (2, 1) := by decide
  obtain ⟨s, hs, heq⟩ := Option.map_eq_some_iff.1 hrun
  simp only [Prod.mk.injEq] at heq
  have hle := (hall s (run_of_exec _ hs)).length_le
  omega

end Solar48
