/-
**What the IP2000 reports.**

A handler of the IP2000 copies the block that the master has delivered into a variable of its own,
all of it at once: 24 bytes for the sensors, two for anything else.  It copies if the number of
data is the one that it expects.  For the coils that is one, and one handler serves both reading
and writing them.

The echo of a write is delivered as two bytes, so a write that was made is reported as an error
(`Solar48.confirmsWrite_iff`).  A read is delivered as one byte, so the second byte of the value is
what an earlier response has left in the block (`Solar48.reportsCoilOnly_iff`).

Main definitions:

* `Solar48.EpIp2000`, `Solar48.ep2000Deliver` — the record of the sensors, and what a handler gives
  its callback;
* `Solar48.ep2000Complete` — the end of a request, from the response to the callback;
* `Solar48.ConfirmsWrite` — a write is reported by what became of it;
* `Solar48.CoilRun`, `Solar48.ReportsCoilOnly` — a coil is read, after any transactions;
* `Solar48.ModbusTransaction.leaves` — what a transaction leaves behind the first byte.

Main results:

* `Solar48.confirmsWrite_iff` — **a write is reported rightly if it was not made**;
* `Solar48.reportsCoilOnly_iff` — **two runs agree if the same byte was left in the block, and
  report the coil if its byte is odd, or zero and nothing was left**;
* `Solar48.second_afterTransactions` — **what was left is the second byte of the last transaction
  that delivered two**.
-/

import Solar48.CursorCopy
import Solar48.Ep2000
import Solar48.Rs485WriteResponse

set_option relaxedAutoImplicit false
set_option autoImplicit false

namespace Solar48

open ByteMem CursorCopy

/-! ### The records -/

/-- `EP_IP2000`, with the two bytes at its end that align its size. -/
structure EpIp2000 where
  inputVoltage : Int16
  inputCurrent : Int16
  inputPower : Int32
  outputVoltage : Int16
  outputCurrent : Int16
  outputPower : Int32
  reserved1 : UInt16
  temp : Int16
  heatSinkTemp : Int16
  padding : UInt16
  deriving Inhabited

/-- `sizeof(EP_IP2000)`. -/
def epIp2000Size : ℕ := 24

/-- The record whose bytes are in memory. -/
def EpIp2000.ofMem (m : Mem) : EpIp2000 where
  inputVoltage := (read16 m 0).toInt16
  inputCurrent := (read16 m 2).toInt16
  inputPower := (read32 m 4).toInt32
  outputVoltage := (read16 m 8).toInt16
  outputCurrent := (read16 m 10).toInt16
  outputPower := (read32 m 12).toInt32
  reserved1 := read16 m 16
  temp := (read16 m 18).toInt16
  heatSinkTemp := (read16 m 20).toInt16
  padding := read16 m 22

/-- What a handler copies to: the record of the sensors, or a half-word. -/
def Ep2000Slot.Record : Ep2000Slot → Type
  | sensors => EpIp2000
  | status | overTemperature | readWriteCoils => UInt16

/-- The one copy of each handler. -/
def Ep2000Slot.copies : (x : Ep2000Slot) → List (Copy x.Record)
  | sensors =>
      [ { size := epIp2000Size
          advance := 0
          store := fun bytes _ => EpIp2000.ofMem fun i => bytes.getD i 0 } ]
  | status => [half fun x _ => x]
  | overTemperature => [half fun x _ => x]
  | readWriteCoils => [half fun x _ => x]

/-- What a handler gives its callback, the error variable and the record, by what the record was.
The block is not looked at unless the transfer was a success. -/
def ep2000Deliver (x : Ep2000Slot) (status : ℤ) (data : Mem) (dataSize : UInt16) (r : x.Record) :
    ℤ × x.Record :=
  (ep2000Err x status dataSize,
    if status = masterTransferSuccess then
      if x.handler.elements = dataSize then run data 0 x.copies r else r
    else r)

/-- The end of a request whose response is in the buffer: what its callback is called with. -/
def ep2000Complete (f : Ep2000Function) (buf : Mem) (heap : Heap) (dynamic : Solar48Mem)
    (old : f.slot.Record) : Except String (ℤ × f.slot.Record) :=
  match masterReceive f.request.rtu buf heap dynamic with
  | .error msg => .error msg
  -- a null pointer comes with a failure, and is not followed
  | .ok r => .ok (ep2000Deliver f.slot r.status (r.data.getD fun _ => 0) r.dataSize old)

/-- Any code but a success is handed on. -/
theorem ep2000Deliver_of_ne {x : Ep2000Slot} {status : ℤ} (data : Mem) (dataSize : UInt16)
    (r : x.Record) (h : status ≠ masterTransferSuccess) :
    ep2000Deliver x status data dataSize r = (status, r) := by
  simp [ep2000Deliver, ep2000Err, h]

/-- A number of data that the handler does not expect. -/
theorem ep2000Deliver_of_elements_ne {x : Ep2000Slot} (data : Mem) {dataSize : UInt16}
    (r : x.Record) (h : dataSize ≠ x.handler.elements) :
    ep2000Deliver x masterTransferSuccess data dataSize r = (x.handler.elemNotMatch, r) := by
  simp [ep2000Deliver, ep2000Err, h.symm]

/-- The number that it expects. -/
theorem ep2000Deliver_of_elements_eq {x : Ep2000Slot} (data : Mem) {dataSize : UInt16}
    (r : x.Record) (h : dataSize = x.handler.elements) :
    ep2000Deliver x masterTransferSuccess data dataSize r = (0, run data 0 x.copies r) := by
  simp [ep2000Deliver, ep2000Err, h, masterTransferSuccess]

/-- A success reaches the handler with its data. -/
theorem ep2000Complete_of_success {f : Ep2000Function} {buf : Mem} {heap : Heap}
    {dynamic : Solar48Mem} {r : CheckReceive} {d : Mem} (old : f.slot.Record)
    (h : masterCheckReceive f.request.rtu buf heap dynamic = .ok r)
    (hs : r.status = masterTransferSuccess) (hd : r.data = some d) :
    ep2000Complete f buf heap dynamic old =
      .ok (ep2000Deliver f.slot masterTransferSuccess d r.dataSize old) := by
  rw [ep2000Complete, masterReceive_of_success h (Or.inl hs)]
  simp only [hs, hd, Option.getD_some]

/-- Any other code reaches the callback as it is. -/
theorem ep2000Complete_of_status {f : Ep2000Function} {buf : Mem} {heap : Heap}
    {dynamic : Solar48Mem} {r : CheckReceive} (old : f.slot.Record)
    (h : masterCheckReceive f.request.rtu buf heap dynamic = .ok r)
    (hs : r.status = masterTransferSuccessWithErrorCode ∨ IsFailure r.status ∧ r.data = none) :
    ep2000Complete f buf heap dynamic old = .ok (r.status, old) := by
  have hne : r.status ≠ masterTransferSuccess := by
    rcases hs with hs | ⟨hf, -⟩
    · rw [hs]
      decide
    · exact hf.1
  rcases hs with hs | ⟨hf, hd⟩
  · rw [ep2000Complete, masterReceive_of_success h (Or.inr hs)]
    exact congrArg Except.ok (ep2000Deliver_of_ne _ _ old hne)
  · rw [ep2000Complete, masterReceive_of_failure h hf hd]
    exact congrArg Except.ok (ep2000Deliver_of_ne _ _ old hne)

/-- Without a verdict the program has stopped. -/
theorem ep2000Complete_of_error {f : Ep2000Function} {buf : Mem} {heap : Heap}
    {dynamic : Solar48Mem} {msg : String} (old : f.slot.Record)
    (h : masterCheckReceive f.request.rtu buf heap dynamic = .error msg) :
    ep2000Complete f buf heap dynamic old = .error msg := by
  rw [ep2000Complete, masterReceive_of_error h]

/-! ### Writing a coil -/

/-- The pending request of a write. -/
abbrev coilWriteRtu (memAddress : UInt8) (value : UInt16) : Solar48Rs485Rtu :=
  (Ep2000Function.readEp2000WriteCoil memAddress value).request.rtu

/-- The callback of a write is called, with a success and the value if the coil was written, and
with an error if it was not. -/
def ConfirmsWrite (memAddress : UInt8) (value : UInt16) (buf : Mem) (heap : Heap)
    (dynamic : Solar48Mem) (old : UInt16) : Prop :=
  ∃ (err : ℤ) (v : UInt16),
    ep2000Complete (.readEp2000WriteCoil memAddress value) buf heap dynamic old = .ok (err, v) ∧
      (IsWriteEcho (coilWriteRtu memAddress value) buf → err = 0 ∧ v = value) ∧
      (¬ IsWriteEcho (coilWriteRtu memAddress value) buf → err ≠ 0)

variable {memAddress : UInt8} {value : UInt16} {buf : Mem} {heap : Heap} {dynamic : Solar48Mem}
  {r : CheckReceive}

theorem coilWriteRtu_mem_writeFunctions :
    (coilWriteRtu memAddress value).function ∈ writeFunctions :=
  List.mem_cons_self

/-- **The echo of a write is never accepted**: it has two bytes, and the handler expects one. -/
theorem ep2000Complete_echo (old : UInt16)
    (hr : masterCheckReceive (coilWriteRtu memAddress value) buf heap dynamic = .ok r)
    (hecho : IsWriteEcho (coilWriteRtu memAddress value) buf) :
    ep2000Complete (.readEp2000WriteCoil memAddress value) buf heap dynamic old =
      .ok (eEpIp2000ReadWriteCoilNotMatch, old) := by
  have hverdict := writeVerdict_of_masterCheckReceive coilWriteRtu_mem_writeFunctions hr
  obtain ⟨d, hd, -, hsize⟩ := hverdict.echo hecho
  have hne : r.dataSize ≠ Ep2000Slot.readWriteCoils.handler.elements := by
    rw [hsize]
    decide
  have hcall := ep2000Complete_of_success (f := .readEp2000WriteCoil memAddress value) old hr
    (hverdict.success_iff.2 hecho) hd
  exact hcall.trans
    (congrArg Except.ok (ep2000Deliver_of_elements_ne (x := .readWriteCoils) d old hne))

/-- What is no echo is handed on as the error that it is. -/
theorem ep2000Complete_not_echo (old : UInt16)
    (hr : masterCheckReceive (coilWriteRtu memAddress value) buf heap dynamic = .ok r)
    (hecho : ¬ IsWriteEcho (coilWriteRtu memAddress value) buf) :
    ep2000Complete (.readEp2000WriteCoil memAddress value) buf heap dynamic old =
        .ok (r.status, old) ∧ r.status ≠ 0 := by
  have hverdict := writeVerdict_of_masterCheckReceive coilWriteRtu_mem_writeFunctions hr
  refine ⟨ep2000Complete_of_status (f := .readEp2000WriteCoil memAddress value) old hr ?_,
    mt hverdict.success_iff.1 hecho⟩
  by_cases hex : IsException (coilWriteRtu memAddress value) buf
  · exact Or.inl (hverdict.exception_iff.2 hex)
  · obtain ⟨hf, hd, -⟩ := hverdict.failure hecho hex
    exact Or.inr ⟨hf, hd⟩

/-- **A write is reported rightly exactly when the response is not its echo**, unless it is an
exception and there is no room for its two bytes. -/
theorem confirmsWrite_iff (memAddress : UInt8) (value : UInt16) (buf : Mem) (heap : Heap)
    (dynamic : Solar48Mem) (old : UInt16) :
    ConfirmsWrite memAddress value buf heap dynamic old ↔
      ¬ IsWriteEcho (coilWriteRtu memAddress value) buf ∧
        ¬ (IsException (coilWriteRtu memAddress value) buf ∧
          ∃ msg, solar48Mem heap dynamic 2 = .error msg) := by
  cases hr : masterCheckReceive (coilWriteRtu memAddress value) buf heap dynamic with
  | error msg =>
      obtain ⟨hor, hroom⟩ := no_room_of_masterCheckReceive_write coilWriteRtu_mem_writeFunctions hr
      refine iff_of_false ?_ ?_
      · rintro ⟨err, v, hcall, -⟩
        have hstop := ep2000Complete_of_error (f := .readEp2000WriteCoil memAddress value) old hr
        rw [hstop] at hcall
        cases hcall
      · rintro ⟨hecho, hex⟩
        rcases hor with h | h
        · exact hecho h
        · exact hex ⟨h, hroom⟩
  | ok r =>
      by_cases hecho : IsWriteEcho (coilWriteRtu memAddress value) buf
      · refine iff_of_false ?_ fun h => h.1 hecho
        rintro ⟨err, v, hcall, hok, -⟩
        rw [ep2000Complete_echo old hr hecho] at hcall
        obtain ⟨rfl, -⟩ := Prod.mk.inj (Except.ok.inj hcall)
        exact absurd (hok hecho).1 (by decide)
      · obtain ⟨hcall, hne⟩ := ep2000Complete_not_echo old hr hecho
        refine iff_of_true ⟨r.status, old, hcall, fun h => absurd h hecho, fun _ => hne⟩
          ⟨hecho, ?_⟩
        rintro ⟨hex, msg, hroom⟩
        have hj := (masterCheckReceiveJudge_write_iff coilWriteRtu_mem_writeFunctions).2
          (Or.inr ⟨hex, rfl, rfl, rfl⟩)
        obtain ⟨dynamic', hok⟩ := solar48Mem_of_masterCheckReceive hj hr
        exact absurd (hok.symm.trans hroom) (by simp)

/-- The inverter is switched on, and says so. -/
theorem not_confirmsWrite_inverter_on :
    ¬ ConfirmsWrite 0x0F 0xFF00
      (write (fun _ => 0) 0 (closeFrame [3, 5, 0, 0x0F, 0xFF, 0])) .roomy ⟨none, 0⟩ 0 := by
  have hecho : IsWriteEcho (coilWriteRtu 0x0F 0xFF00)
      (write (fun _ => 0) 0 (closeFrame [3, 5, 0, 0x0F, 0xFF, 0])) :=
    ⟨rfl, rfl, rfl, rfl, by decide⟩
  rintro ⟨err, v, hcall, hok, -⟩
  obtain ⟨r, hr⟩ : ∃ r, masterCheckReceive (coilWriteRtu 0x0F 0xFF00)
      (write (fun _ => 0) 0 (closeFrame [3, 5, 0, 0x0F, 0xFF, 0])) .roomy ⟨none, 0⟩ = .ok r :=
    ⟨_, rfl⟩
  rw [ep2000Complete_echo 0 hr hecho] at hcall
  obtain ⟨rfl, -⟩ := Prod.mk.inj (Except.ok.inj hcall)
  exact absurd (hok hecho).1 (by decide)

/-! ### Reading a coil -/

/-- The pending request of a read. -/
abbrev coilReadRtu (memAddress : UInt8) : Solar48Rs485Rtu :=
  (Ep2000Function.readEp2000ReadCoil memAddress).request.rtu

/-- A transaction whose reception was complete: the request, what was in the buffer, and what the
allocator had to answer. -/
structure ModbusTransaction where
  rtu : Solar48Rs485Rtu
  buf : Mem
  heap : Heap

/-- `modbus_master_buffer_receive_dynamic` after a history of transactions. -/
def afterTransactions (dynamic : Solar48Mem) : List ModbusTransaction → Except String Solar48Mem
  | [] => .ok dynamic
  | t :: ts =>
      match masterReceive t.rtu t.buf t.heap dynamic with
      | .error msg => .error msg
      | .ok r => afterTransactions r.dynamic ts

/-- A run of the program: a history of transactions, and then a valid response of one byte to the
read of a coil. -/
structure CoilRun (memAddress statusByte : UInt8) where
  history : List ModbusTransaction
  /-- the block that the history leaves -/
  dynamic : Solar48Mem
  history_eq : afterTransactions ⟨none, 0⟩ history = .ok dynamic
  buf : Mem
  response : AcceptedRead (coilReadRtu memAddress) buf
  one_byte : buf 2 = 1
  status_byte : buf 3 = statusByte
  heap : Heap
  /-- the block with room for the response -/
  block : Solar48Mem
  room : solar48Mem heap dynamic 1 = .ok block
  /-- `ep_ip2000_coil_rd_wr_value` -/
  old : UInt16

namespace CoilRun

variable {memAddress statusByte : UInt8}

/-- What the callback of the read is called with. -/
def result (run : CoilRun memAddress statusByte) : Except String (ℤ × UInt16) :=
  match afterTransactions ⟨none, 0⟩ run.history with
  | .error msg => .error msg
  | .ok dynamic =>
      ep2000Complete (.readEp2000ReadCoil memAddress) run.buf run.heap dynamic run.old

/-- What is in the block behind the one byte of the response. -/
def stale (run : CoilRun memAddress statusByte) : UInt8 :=
  match run.block.memory with
  | some m => m 1
  | none => 0

/-- The response is delivered at the start of the block. -/
theorem masterCheckReceive_eq (run : CoilRun memAddress statusByte) :
    ∃ m r, run.block.memory = some m ∧
      masterCheckReceive (coilReadRtu memAddress) run.buf run.heap run.dynamic = .ok r ∧
        r.status = masterTransferSuccess ∧ r.data = some (write m 0 [statusByte]) ∧
          r.dataSize = 1 := by
  have hresp : (coilReadRtu memAddress).function.response =
      some (.read 1 251 false, masterRs485ExceptionCode 0) := rfl
  have hsrc : [statusByte] = read run.buf 3 (run.buf 2).toNat := by
    rw [run.one_byte]
    exact congrArg (fun b => [b]) run.status_byte.symm
  have hj := (masterCheckReceiveJudge_eq_success_iff hresp).2 ⟨run.response, hsrc, rfl⟩
  obtain ⟨m, hm⟩ := solar48Mem_ok (by decide) run.room
  have hlen : [statusByte].length < 256 := by simp
  have hcopy := masterCheckReceiveCopyBuffer1_eq (coilReadRtu memAddress).function
    masterTransferSuccess false hlen run.room hm
  have hr : masterCheckReceive (coilReadRtu memAddress) run.buf run.heap run.dynamic =
      masterCheckReceiveCopyBuffer1 run.heap run.dynamic (coilReadRtu memAddress).function
        masterTransferSuccess [statusByte] false := by
    rw [masterCheckReceive, hj]
  exact ⟨m, _, hm, hr.trans hcopy, rfl, rfl, rfl⟩

/-- **The value is the status byte with the byte behind it in the block.** -/
theorem result_eq (run : CoilRun memAddress statusByte) :
    run.result = .ok (0, le16 statusByte run.stale) := by
  obtain ⟨m, r, hm, hr, hs, hd, hsize⟩ := run.masterCheckReceive_eq
  have hstale : run.stale = m 1 := by rw [stale, hm]
  have h₁ : write m 0 [statusByte] 1 = m 1 := write_of_ge m 0 [statusByte] (Nat.le_refl 1)
  have hvalue : CursorCopy.run (write m 0 [statusByte]) 0 Ep2000Slot.readWriteCoils.copies run.old =
      read16 (write m 0 [statusByte]) 0 := rfl
  have hcall := ep2000Complete_of_success (f := .readEp2000ReadCoil memAddress) run.old hr hs hd
  rw [result, run.history_eq]
  refine hcall.trans (congrArg Except.ok ?_)
  refine (ep2000Deliver_of_elements_eq (x := .readWriteCoils) _ run.old hsize).trans ?_
  rw [hvalue, read16, h₁, hstale]
  rfl

end CoilRun

/-- Two runs that end with the same response report the same value, and by it whether the coil is
on. -/
def ReportsCoilOnly {memAddress statusByte : UInt8} (run₁ run₂ : CoilRun memAddress statusByte) :
    Prop :=
  ∃ v₁ v₂, run₁.result = .ok (0, v₁) ∧ run₂.result = .ok (0, v₂) ∧ v₁ = v₂ ∧
    (v₁ ≠ 0 ↔ statusByte.toNat % 2 = 1)

/-- The value is zero when both bytes are. -/
theorem le16_ne_zero_iff {l h : UInt8} : le16 l h ≠ 0 ↔ ¬ (l = 0 ∧ h = 0) := by
  rw [Ne, le16_eq_iff]
  exact Iff.rfl

/-- **Two runs agree exactly when the same byte is behind the response, and they report the coil
exactly when its byte is odd, or zero with a zero behind it.** -/
theorem reportsCoilOnly_iff {memAddress statusByte : UInt8}
    (run₁ run₂ : CoilRun memAddress statusByte) :
    ReportsCoilOnly run₁ run₂ ↔
      run₁.stale = run₂.stale ∧
        (statusByte.toNat % 2 = 1 ∨ statusByte = 0 ∧ run₁.stale = 0) := by
  have hvalues : ReportsCoilOnly run₁ run₂ ↔
      le16 statusByte run₁.stale = le16 statusByte run₂.stale ∧
        (le16 statusByte run₁.stale ≠ 0 ↔ statusByte.toNat % 2 = 1) := by
    simp only [ReportsCoilOnly, CoilRun.result_eq, Except.ok.injEq, Prod.mk.injEq, true_and,
      exists_and_left, exists_eq_left']
  have hstale : le16 statusByte run₁.stale = le16 statusByte run₂.stale ↔
      run₁.stale = run₂.stale := by
    simp [le16_eq_iff]
  rw [hvalues, hstale, le16_ne_zero_iff]
  refine and_congr_right fun _ => ?_
  by_cases hodd : statusByte.toNat % 2 = 1
  · have hne : statusByte ≠ 0 := by
      rintro rfl
      exact absurd hodd (by decide)
    simp [hodd, hne]
  · simp [hodd]

/-- The read of a coil that is off, after a transaction that has left `dynamic`. -/
def coilOffAfter (history : List ModbusTransaction) (dynamic block : Solar48Mem)
    (history_eq : afterTransactions ⟨none, 0⟩ history = .ok dynamic)
    (room : solar48Mem .roomy dynamic 1 = .ok block) : CoilRun 0x0F 0 where
  history
  dynamic
  history_eq
  buf := write (fun _ => 0) 0 (closeFrame [3, 1, 1, 0])
  response := ⟨rfl, rfl, by decide, by decide, by decide⟩
  one_byte := rfl
  status_byte := rfl
  heap := .roomy
  block
  room
  old := 0

/-- The same coil is off in both runs; in the second, a register was read before. -/
theorem not_reportsCoilOnly_after_register :
    ¬ ∀ run₁ run₂ : CoilRun 0x0F 0, ReportsCoilOnly run₁ run₂ := by
  intro h
  have hagree := h (coilOffAfter [] _ _ rfl rfl)
    (coilOffAfter [⟨⟨1, .readHoldingRegisters, 0x4000, 1⟩,
      write (fun _ => 0) 0 (closeFrame [1, 3, 2, 0x11, 0x22]), .roomy⟩] _ _ rfl rfl)
  obtain ⟨v₁, v₂, h₁, h₂, rfl, -⟩ := hagree
  rw [CoilRun.result_eq] at h₁ h₂
  exact absurd (h₁.trans h₂.symm) (by decide)

/-! ### What a history leaves in the block -/

/-- The second byte that a transaction delivers, if it delivers two. -/
def ModbusTransaction.leaves (t : ModbusTransaction) : Option UInt8 :=
  match masterCheckReceiveJudge t.rtu t.buf with
  | .ret _ => none
  | .copyBuffer1 _ src rz => (delivered src rz)[1]?

/-- The second byte of a block. -/
def Solar48Mem.second (d : Solar48Mem) : Option UInt8 := d.memory.map fun m => m 1

/-- A block that is there has a size. -/
def Solar48Mem.Sized (d : Solar48Mem) : Prop := ∀ m, d.memory = some m → 1 ≤ d.size

/-- **A transaction leaves its second byte**, and a transaction without one leaves what was
there. -/
theorem masterReceive_second {t : ModbusTransaction} {d : Solar48Mem} {r : CheckReceive}
    (h : masterReceive t.rtu t.buf t.heap d = .ok r) (hsized : d.Sized) :
    r.dynamic.Sized ∧ (∀ b, t.leaves = some b → r.dynamic.second = some b) ∧
      (t.leaves = none → ∀ b, d.second = some b → r.dynamic.second = some b) := by
  rcases masterReceive_dynamic h with ⟨code, hj, hd⟩ | ⟨c, src, rz, d', m, hj, hmem, hm, hd⟩
  · have hleaves : t.leaves = none := by rw [ModbusTransaction.leaves, hj]
    rw [hd, hleaves]
    exact ⟨hsized, fun b hb => absurd hb (by simp), fun _ b hb => hb⟩
  · have hleaves : t.leaves = (delivered src rz)[1]? := by rw [ModbusTransaction.leaves, hj]
    have hsound := masterCheckReceiveJudge_sound t.rtu t.buf
    rw [hj] at hsound
    have hne : src.length ≠ 0 := Nat.ne_of_gt hsound.2.1
    have hsize := le_size_of_solar48Mem hne hmem
    rw [hd, hleaves]
    refine ⟨fun _ _ => ?_, ?_, ?_⟩
    · exact Nat.le_trans (Nat.pos_of_ne_zero hne) hsize
    · intro b hb
      obtain ⟨hlt, hget⟩ := List.getElem?_eq_some_iff.1 hb
      have hwrite := write_getElem m 0 (delivered src rz) hlt
      rw [Nat.zero_add, hget] at hwrite
      exact congrArg some hwrite
    · intro hnone b hb
      obtain ⟨m', hm', hbyte⟩ := Option.map_eq_some_iff.1 hb
      have hlen := length_delivered src rz
      have hle : (delivered src rz).length ≤ 1 := List.getElem?_eq_none_iff.1 hnone
      -- one byte goes into the block that is there
      have hroom := hsized m' hm'
      have hstays := solar48Mem_of_le t.heap hm' hne (by omega)
      obtain rfl := Except.ok.inj (hstays.symm.trans hmem)
      obtain rfl := Option.some.inj (hm'.symm.trans hm)
      have hwrite : write m' 0 (delivered src rz) 1 = m' 1 := write_of_ge _ _ _ (by omega)
      exact congrArg some (hwrite.trans hbyte)

/-- **A history leaves the second byte of the last transaction that delivered two.** -/
theorem second_afterTransactions {d d' : Solar48Mem} {history : List ModbusTransaction}
    (h : afterTransactions d history = .ok d') (hsized : d.Sized) :
    d'.Sized ∧
      (∀ b, (history.filterMap ModbusTransaction.leaves).getLast? = some b →
        d'.second = some b) ∧
      (history.filterMap ModbusTransaction.leaves = [] → ∀ b, d.second = some b →
        d'.second = some b) := by
  induction history generalizing d with
  | nil =>
      obtain rfl := Except.ok.inj h
      exact ⟨hsized, fun b hb => absurd hb (by simp), fun _ b hb => hb⟩
  | cons t ts ih =>
      rw [afterTransactions] at h
      cases hr : masterReceive t.rtu t.buf t.heap d with
      | error msg =>
          rw [hr] at h
          cases h
      | ok r =>
          rw [hr] at h
          obtain ⟨hsized', hsome, hnone⟩ := masterReceive_second hr hsized
          obtain ⟨hs, hlast, hkept⟩ := ih h hsized'
          cases ht : t.leaves with
          | none =>
              rw [List.filterMap_cons_none ht]
              exact ⟨hs, hlast, fun hnil b hb => hkept hnil b (hnone ht b hb)⟩
          | some b₀ =>
              rw [List.filterMap_cons_some ht]
              refine ⟨hs, ?_, fun hnil => absurd hnil (by simp)⟩
              intro b hb
              cases hts : ts.filterMap ModbusTransaction.leaves with
              | nil =>
                  rw [hts] at hb
                  obtain rfl : b₀ = b := by simpa using hb
                  exact hkept hts b₀ (hsome b₀ ht)
              | cons x xs =>
                  rw [hts, List.getLast?_cons_cons] at hb
                  exact hlast b (by rw [hts, hb])

/-- What a run reads behind the response is what its history has left. -/
theorem CoilRun.stale_eq_of_history {memAddress statusByte : UInt8}
    (run : CoilRun memAddress statusByte) {b : UInt8}
    (h : (run.history.filterMap ModbusTransaction.leaves).getLast? = some b) : run.stale = b := by
  have hstart : Solar48Mem.Sized ⟨none, 0⟩ := fun m hm => absurd hm (by simp)
  obtain ⟨hsized, hlast, -⟩ := second_afterTransactions run.history_eq hstart
  obtain ⟨m, hm, hbyte⟩ := Option.map_eq_some_iff.1 (hlast b h)
  have hstays := solar48Mem_of_le run.heap hm (by decide) (hsized m hm)
  have hblock : run.dynamic = run.block := Except.ok.inj (hstays.symm.trans run.room)
  rw [stale, ← hblock, hm]
  exact hbyte

end Solar48
