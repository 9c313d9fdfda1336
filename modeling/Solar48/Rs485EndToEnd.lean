/-
**One read of holding registers, from the master through the slave and back.**

The firmware contains both ends of the bus, and its own test joins them
(`TEST_RS485_SLAVE_AND_MASTER`).  The request encoder, the slave and the response checker were
written apart, and each has its own byte swap; here they are put together.  What
`master_prepare_to_send` produces is stored at the start of the slave's buffer, what
`slave_send_resp` produces at the start of the master's, and
**the master is handed the registers it asked for, in its own byte order, or the exception that the
slave answers with** (`Solar48.exchangeHoldingRegisters_spec`).

Main definitions:

* `Solar48.exchangeHoldingRegisters` — the exchange;
* `Solar48.Delivers`, `Solar48.DeliversException` — its two outcomes.
-/

import Solar48.Rs485Request
import Solar48.Rs485Response
import Solar48.Rs485Slave

set_option relaxedAutoImplicit false
set_option autoImplicit false

namespace Solar48

open ByteMem

/-! ### The exchange -/

/-- `MASTER_READ_HOLDING_REGISTERS` up to the callback, with the slave at the other end of the
bus.  `masterBuf` and `receiveBuf` are what is in the buffer of the master before the request is
written and before the response arrives; `none` is an exchange that has no response. -/
def exchangeHoldingRegisters (base : ℕ) (masterBuf receiveBuf : Mem) (heap : Heap)
    (dynamic : Solar48Mem) (slave : Slave) (address : UInt8) (start n : UInt16) :
    Option (Slave × Except String CheckReceive) :=
  match masterPrepareToSend base masterBuf address .readHoldingRegisters start n 0 0
      (fun _ => 0) with
  | (_, .error _) => none
  | (buf, .ok size) =>
      let request := read buf 0 size.toNat
      match slaveSendResp { slave with buffer := write slave.buffer 0 request } with
      | (_, _, none) => none
      | (slave', _, some dataSize) =>
          let response := read slave'.buffer 0 dataSize
          some (slave', masterCheckReceive ⟨address, .readHoldingRegisters, start, n⟩
            (write receiveBuf 0 response) heap dynamic)

/-- Register `i` of the holding area. -/
def holdingRegister (area : Mem) (i : ℕ) : UInt16 := read16 area (2 * i)

/-- The master is handed `n` registers of the slave, from the one at address `start` on. -/
def Delivers (area : Mem) (start n : UInt16) (c : CheckReceive) : Prop :=
  c.status = masterTransferSuccess ∧ c.dataSize = n ∧ ∃ data, c.data = some data ∧
    ∀ i < n.toNat, read16 data (2 * i) = holdingRegister area
      (start.toNat - slaveReadHoldingRegisterStartAddress.toNat + i)

/-- The master is handed the two bytes of an exception. -/
def DeliversException (bytes : List UInt8) (c : CheckReceive) : Prop :=
  c.status = masterTransferSuccessWithErrorCode ∧ c.dataSize.toNat = bytes.length ∧
    ∃ data, c.data = some data ∧ read data 0 bytes.length = bytes

/-! ### The way there -/

/-- The answer of a slave that has a request in its buffer. -/
theorem answerTo_requestPdu (buf area : Mem) (address : UInt8) (f : MbFunction)
    (start n : UInt16) :
    answerTo (write buf 0 (closeFrame (requestPdu address f start n))) area =
      slaveAnswer address f.code start n area := by
  have hbytes : ∀ i (h : i < 6), write buf 0 (closeFrame (requestPdu address f start n)) i =
      (requestPdu address f start n)[i] := by
    intro i h
    exact write_closeFrame_getElem buf _ (by rwa [length_requestPdu])
  simp only [answerTo, hbytes 0 (by decide), hbytes 1 (by decide), hbytes 2 (by decide),
    hbytes 3 (by decide), hbytes 4 (by decide), hbytes 5 (by decide)]
  simp [requestPdu, beBytes16]

/-- A request for holding registers reaches the slave and is answered. -/
theorem exchangeHoldingRegisters_answered (base : ℕ) (masterBuf receiveBuf : Mem) (heap : Heap)
    (dynamic : Solar48Mem) (slave : Slave) {address : UInt8} (start : UInt16) {n : UInt16}
    (ha : address ≤ 247) (hn : 1 ≤ n ∧ n ≤ 125) (haddr : slave.slaveAddress = address)
    (hlock : slave.lock = false) :
    ∃ slave', slave'.area = slave.area ∧
      exchangeHoldingRegisters base masterBuf receiveBuf heap dynamic slave address start n =
        some (slave', masterCheckReceive ⟨address, .readHoldingRegisters, start, n⟩
          (write receiveBuf 0 (closeFrame (slaveAnswer address 3 start n slave.area))) heap
          dynamic) := by
  have hsend := masterPrepareToSend_of_admits base masterBuf start 0 0 (fun _ => 0) ha
    (show MbFunction.readHoldingRegisters.Admits n from hn)
  have hquantity : sentQuantity .readHoldingRegisters n = n := rfl
  rw [hquantity] at hsend
  obtain ⟨pdu, hpdu⟩ : ∃ pdu, pdu = requestPdu address .readHoldingRegisters start n := ⟨_, rfl⟩
  rw [← hpdu] at hsend
  have hread : read (write masterBuf 0 (closeFrame pdu)) 0 (8 : UInt8).toNat = closeFrame pdu := by
    have h := read_write_self masterBuf 0 (closeFrame pdu)
    rw [length_closeFrame, hpdu, length_requestPdu] at h
    rw [hpdu]
    exact h
  obtain ⟨asked, hasked⟩ : ∃ asked : Slave,
    asked = { slave with buffer := write slave.buffer 0 (closeFrame pdu) } := ⟨_, rfl⟩
  have h₀ : asked.buffer 0 = asked.slaveAddress := by
    rw [hasked, hpdu]
    exact haddr.symm
  have h₆ : ClosedAt asked.buffer 6 := by
    have h := closedAt_write_closeFrame slave.buffer pdu
    rw [hpdu, length_requestPdu] at h
    rw [hasked, hpdu]
    exact h
  have hanswer : answerTo asked.buffer asked.area = slaveAnswer address 3 start n slave.area := by
    rw [hasked, hpdu]
    exact answerTo_requestPdu _ _ _ _ _ _
  have hlock' : asked.lock = false := by rw [hasked]; exact hlock
  -- the request is one to this slave, so it is answered over itself
  obtain ⟨hbuf, -, -, harea, hsize⟩ := slaveSendResp_of_request hlock' h₀ h₆
  refine ⟨(slaveSendResp asked).1, by rw [harea, hasked], ?_⟩
  rw [exchangeHoldingRegisters, hsend]
  dsimp only
  rw [hread, ← hasked]
  rcases hresp : slaveSendResp asked with ⟨slave', ret, size⟩
  rw [hresp] at hbuf hsize
  dsimp only at hbuf hsize
  rw [hsize]
  dsimp only
  rw [hbuf, read_write_self, hanswer]

/-! ### The way back -/

/-- The register at an even offset of a copy of the holding area. -/
theorem read16_write_read (m area : Mem) (k n i : ℕ) (h : i < n) :
    read16 (write m 0 (read area (2 * k) (2 * n))) (2 * i) = holdingRegister area (k + i) := by
  have hbyte : ∀ j < 2 * n, write m 0 (read area (2 * k) (2 * n)) j = area (2 * k + j) := by
    intro j hj
    have hget := write_getElem m 0 (read area (2 * k) (2 * n)) (i := j) (by simpa using hj)
    rwa [Nat.zero_add, getElem_read] at hget
  have hoff : 2 * (k + i) = 2 * k + 2 * i := by omega
  rw [holdingRegister, read16, read16, hbyte _ (by omega), hbyte _ (by omega), hoff, Nat.add_assoc]

section Back

variable (receiveBuf : Mem) {heap : Heap} (dynamic : Solar48Mem) (address : UInt8)
  (start n : UInt16) (area : Mem) (hn : 1 ≤ n ∧ n ≤ 125) (hheap : heap.Grants 250)

include hn hheap

/-- **Registers that the slave has are delivered.** -/
theorem masterCheckReceive_registers (hin : InArea start n) :
    ∃ c, masterCheckReceive ⟨address, .readHoldingRegisters, start, n⟩
        (write receiveBuf 0 (closeFrame (slaveAnswer address 3 start n area))) heap dynamic =
      .ok c ∧ Delivers area start n c := by
  obtain ⟨k, hk⟩ : ∃ k, k = start.toNat - slaveReadHoldingRegisterStartAddress.toNat := ⟨_, rfl⟩
  obtain ⟨data, hdata⟩ : ∃ data, data = read area (2 * k) (2 * n.toNat) := ⟨_, rfl⟩
  have hn₁ : 1 ≤ n.toNat := UInt16.le_iff_toNat_le.1 hn.1
  -- a request that the slave can answer asks for no more than it has
  have hn₈ : n.toNat ≤ 8 := by
    have hle := UInt16.le_iff_toNat_le.1 hin.1
    have hend := hin.2
    simp only [rs485HoldingRegistersMemoryAreaSize] at hend
    omega
  have hlen : data.length = 2 * n.toNat := by rw [hdata, length_read]
  have hanswer : slaveAnswer address 3 start n area =
      [address, 3, UInt8.ofNat (2 * n.toNat)] ++ swapPairs data := by
    have h₃ : ¬ ((3 : UInt8) ≠ MbFunction.readHoldingRegisters.code) := by decide
    rw [slaveAnswer, if_neg h₃, if_neg (not_not_intro hn), if_neg (not_not_intro hin), ← hk, hdata]
  obtain ⟨m, hm⟩ : ∃ m, m = write receiveBuf 0 (closeFrame (slaveAnswer address 3 start n area)) :=
    ⟨_, rfl⟩
  have hbyte : ∀ i (h : i < 3), m i = [address, 3, UInt8.ofNat (2 * n.toNat)][i] := by
    intro i h
    rw [hm, hanswer, write_closeFrame_getElem _ _ (by simp; omega)]
    exact List.getElem_append_left h
  have hcount : (m 2).toNat = 2 * n.toNat := by
    rw [hbyte 2 (by decide)]
    simp only [List.getElem_cons_succ, List.getElem_cons_zero, UInt8.toNat_ofNat']
    omega
  have hclosed : ClosedAt m (3 + (m 2).toNat) := by
    have h := closedAt_write_closeFrame receiveBuf (slaveAnswer address 3 start n area)
    rw [← hm, hanswer, List.length_append, length_swapPairs, hlen, ← hcount] at h
    exact h
  have hread : read m 3 (m 2).toNat = swapPairs data := by
    have h := read_write_take receiveBuf 0 (closeFrame (slaveAnswer address 3 start n area))
      (n := 3 + 2 * n.toNat) (by rw [hanswer]; simp [hlen]; omega)
    rw [← hm, closeFrame, hanswer, read_add, List.take_left' (by simp [hlen]; omega)] at h
    rw [hcount]
    exact (List.append_inj h (by simp)).2
  have hacc : AcceptedRead ⟨address, .readHoldingRegisters, start, n⟩ m := by
    refine ⟨hbyte 0 (by decide), hbyte 1 (by decide), ?_, ?_, hclosed⟩
    · rw [UInt8.le_iff_toNat_le, hcount]
      exact Nat.mul_le_mul_left 2 hn₁
    · rw [UInt8.le_iff_toNat_le, hcount]
      exact Nat.le_trans (Nat.mul_le_mul_left 2 hn₈) (by decide)
  have hj : masterCheckReceiveJudge ⟨address, .readHoldingRegisters, start, n⟩ m =
      .copyBuffer1 masterTransferSuccess (read m 3 (m 2).toNat) true :=
    (masterCheckReceiveJudge_eq_success_iff rfl).2 ⟨hacc, rfl, rfl⟩
  rw [hread] at hj
  obtain ⟨dynamic', hmem⟩ := solar48Mem_of_grants hheap dynamic
    (show (swapPairs data).length ≠ 0 by rw [length_swapPairs]; omega)
    (show (swapPairs data).length ≤ 250 by rw [length_swapPairs]; omega)
  obtain ⟨old, dynamic'', hret⟩ := masterCheckReceive_of_copyBuffer1 hj hmem
  refine ⟨_, by rw [← hm]; exact hret, rfl, ?_, write old 0 data, ?_, ?_⟩
  · refine UInt16.toNat_inj.1 ?_
    simp only [deliveredSize, if_true, length_swapPairs, hlen, UInt16.toNat_ofNat']
    omega
  · simp [delivered]
  · intro i hi
    rw [hdata, ← hk]
    exact read16_write_read old area k n.toNat i hi

/-- **The exception that the slave answers with is delivered.** -/
theorem masterCheckReceive_exception (hin : ¬ InArea start n) :
    ∃ c, masterCheckReceive ⟨address, .readHoldingRegisters, start, n⟩
        (write receiveBuf 0 (closeFrame (slaveAnswer address 3 start n area))) heap dynamic =
      .ok c ∧ DeliversException [0x83, 0x02] c := by
  have hanswer : slaveAnswer address 3 start n area = [address, 0x83, 0x02] := by
    have h₃ : ¬ ((3 : UInt8) ≠ MbFunction.readHoldingRegisters.code) := by decide
    rw [slaveAnswer, if_neg h₃, if_neg (not_not_intro hn), if_pos hin]
    rfl
  obtain ⟨m, hm⟩ : ∃ m, m = write receiveBuf 0 (closeFrame [address, 0x83, 0x02]) := ⟨_, rfl⟩
  have hbyte : ∀ i (h : i < 3), m i = [address, 0x83, 0x02][i] := by
    intro i h
    rw [hm]
    exact write_closeFrame_getElem _ _ h
  have hclosed : ClosedAt m 3 := by
    rw [hm]
    exact closedAt_write_closeFrame receiveBuf [address, 0x83, 0x02]
  have hword : read32 m 0 ≠ 0 := by
    rw [Ne, read32_eq_zero_iff, hbyte 1 (by decide)]
    rintro ⟨-, h, -⟩
    exact absurd h (by simp)
  have hframe : (exceptionFrame m (masterRs485ExceptionCode 2)).accepted =
      .copyBuffer1 masterTransferSuccessWithErrorCode [0x83, 0x02] false := by
    simp only [exceptionFrame, hbyte 1 (by decide), hbyte 2 (by decide)]
    exact if_pos (by simp)
  have hj : masterCheckReceiveJudge ⟨address, .readHoldingRegisters, start, n⟩ m =
      .copyBuffer1 masterTransferSuccessWithErrorCode [0x83, 0x02] false := by
    refine masterCheckReceiveJudge_eq_copyBuffer1_iff.2
      ⟨exceptionFrame m (masterRs485ExceptionCode 2), ?_, hclosed, hframe⟩
    exact expectedFrame_eq_ok_iff.2 ⟨hword, hbyte 0 (by decide), _, _, rfl,
      headFrame_eq_ok_iff.2 (Or.inl ⟨hbyte 1 (by decide), rfl⟩)⟩
  obtain ⟨dynamic', hmem⟩ := solar48Mem_of_grants hheap dynamic
    (show [(0x83 : UInt8), 0x02].length ≠ 0 by decide)
    (show [(0x83 : UInt8), 0x02].length ≤ 250 by decide)
  obtain ⟨old, dynamic'', hret⟩ := masterCheckReceive_of_copyBuffer1 hj hmem
  exact ⟨_, by rw [hanswer, ← hm]; exact hret, rfl, rfl, _, rfl, read_write_self _ _ _⟩

end Back

/-- **A read of holding registers delivers them, if the slave has them all, and its exception
otherwise**; the registers are unchanged. -/
theorem exchangeHoldingRegisters_spec (base : ℕ) (masterBuf receiveBuf : Mem) {heap : Heap}
    (dynamic : Solar48Mem) (slave : Slave) {address : UInt8} (start : UInt16) {n : UInt16}
    (ha : address ≤ 247) (hn : 1 ≤ n ∧ n ≤ 125) (haddr : slave.slaveAddress = address)
    (hlock : slave.lock = false) (hheap : heap.Grants 250) :
    ∃ slave' c, exchangeHoldingRegisters base masterBuf receiveBuf heap dynamic slave address
        start n = some (slave', .ok c) ∧ slave'.area = slave.area ∧
      if 0x4000 ≤ start.toNat ∧ start.toNat + n.toNat ≤ 0x4008 then Delivers slave.area start n c
      else DeliversException [0x83, 0x02] c := by
  obtain ⟨slave', harea, hex⟩ := exchangeHoldingRegisters_answered base masterBuf receiveBuf heap
    dynamic slave start ha hn haddr hlock
  have hin : InArea start n ↔ 0x4000 ≤ start.toNat ∧ start.toNat + n.toNat ≤ 0x4008 := Iff.rfl
  by_cases h : InArea start n
  · obtain ⟨c, hc, hdel⟩ := masterCheckReceive_registers receiveBuf dynamic address start n
      slave.area hn hheap h
    exact ⟨slave', c, by rw [hex, hc], harea, by rw [if_pos (hin.1 h)]; exact hdel⟩
  · obtain ⟨c, hc, hdel⟩ := masterCheckReceive_exception receiveBuf dynamic address start n
      slave.area hn hheap h
    exact ⟨slave', c, by rw [hex, hc], harea, by rw [if_neg (mt hin.2 h)]; exact hdel⟩

/-- The last three registers of a slave whose registers hold their own offsets. -/
theorem exchangeHoldingRegisters_three :
    let slave : Slave := ⟨fun _ => 0, false, 17, fun i => UInt8.ofNat i, fun _ => 0⟩
    ∃ slave' c, exchangeHoldingRegisters 0 (fun _ => 0) (fun _ => 0) .roomy ⟨none, 0⟩ slave 17
        0x4005 3 = some (slave', .ok c) ∧ slave'.area = slave.area ∧
      Delivers slave.area 0x4005 3 c := by
  intro slave
  obtain ⟨slave', c, hex, harea, hdel⟩ := exchangeHoldingRegisters_spec 0 (fun _ => 0) (fun _ => 0)
    ⟨none, 0⟩ slave 0x4005 (n := 3) (by decide) (by decide) rfl rfl
    (Heap.roomy_grants 250)
  exact ⟨slave', c, hex, harea, hdel⟩

end Solar48
