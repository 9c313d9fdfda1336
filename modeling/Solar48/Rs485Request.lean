/-
**The request encoder of the Modbus master.**

`master_prepare_to_send` writes one request frame into `modbus_master_buffer`.  It is a switch
over the function code whose branches check their quantity and then jump to one of four tails;
each tail is a definition here, and the switch is `Solar48.masterPrepareToSend`.

The buffer is a `ByteMem.Mem`, the caller's data another one.  The address the linker gives the
buffer is a parameter, because the byte swap of the register data dispatches on it.  The first
component of the result is the buffer the call leaves, the second is the error code or the value
stored through `out_data_size` together with the return code 0.

The four tails are characterised first, each by the byte string that is in the buffer afterwards.
Two of the three kinds of request do not come out as the specification has them:

* the two discrete reads put the number of *bytes* of the answer where the number of inputs
  belongs, so that their frame is right for a single input only
  (`Solar48.masterPrepareToSend_carriesArguments_iff`);
* the tails that carry data subtract two bytes from an offset that does not contain them, so that
  the CRC lands on the last two bytes of the request
  (`Solar48.masterPrepareToSendWrite_eq`, `Solar48.masterPrepareToSend_not_wellFormed`).

Main definitions:

* `Solar48.masterPrepareToSend` and its four tails;
* `Solar48.fixedFunctions`, `Solar48.MbFunction.Admits`, `Solar48.CarriesArguments` — the requests
  of fixed length, the quantities they allow, and what their frame should be;
* `Solar48.dataFunctions`, `Solar48.requestPayload`, `Solar48.WellFormedRequest` — the same for the
  requests of variable length.
-/

import Solar48.Memory
import Solar48.Rs485Frame

set_option relaxedAutoImplicit false
set_option autoImplicit false

namespace Solar48

open ByteMem

/-! ### The tails -/

/-- `master_prepare_to_send_write`.  `m` is the byte count, `q` the number of half-words to swap,
or zero for data that is sent as it is. -/
def masterPrepareToSendWrite (base : ℕ) (buf : Mem) (function : MbFunction)
    (memAddress n m q : UInt16) (any : Mem) : Mem × Except ℤ UInt8 :=
  let buf := moveUint8Safe buf (frameField functionCode) function.code
  let buf := swapAndMoveUint16Safe buf (frameField startingAddress) memAddress
  let buf := swapAndMoveUint16Safe buf (frameField numberOfRegisters) n
  let buf := moveUint8Safe buf (frameField writeReqByteCount) m.toUInt8
  let buf := write buf (frameField writeReqRegisterValues) (read any 0 m.toNat)
  let buf :=
    if q ≠ 0 then swap16ArrayFastSafe base buf (frameField writeReqRegisterValues) q.toNat
    else buf
  -- `WRITE_REGISTER_REQ_SIZE`: the offset of `register_values`, less two
  let q := UInt16.ofNat (1 + writeReqRegisterValues - 2) + m
  let crc := crc16 buf 0 q
  let buf := write buf q.toNat (bytes16 crc)
  (buf, .ok (q + 2).toUInt8)

/-- The branch of `READ_OR_WRITE_MULTIPLE_REGISTERS` behind its two range checks. -/
def masterPrepareToSendReadWrite (base : ℕ) (buf : Mem) (function : MbFunction)
    (memAddress n writeMemAddress nWrite : UInt16) (any : Mem) : Mem × Except ℤ UInt8 :=
  let m := nWrite <<< 1
  let buf := moveUint8Safe buf (frameField functionCode) function.code
  let buf := swapAndMoveUint16Safe buf (frameField startingAddress) memAddress
  let buf := swapAndMoveUint16Safe buf (frameField numberOfRegisters) n
  let buf := swapAndMoveUint16Safe buf (frameField readWriteReqWriteStartingAddress)
    writeMemAddress
  let buf := swapAndMoveUint16Safe buf (frameField readWriteReqQuantityToWrite) nWrite
  let buf := moveUint8Safe buf (frameField readWriteReqWriteByteCount) m.toUInt8
  let buf := write buf (frameField readWriteReqWriteRegisterValues) (read any 0 m.toNat)
  let buf := swap16ArrayFastSafe base buf (frameField readWriteReqWriteRegisterValues)
    nWrite.toNat
  -- `READ_WRITE_REGISTER_REQ_SIZE`: the offset of `write_register_values`, less two
  let q := UInt16.ofNat (1 + readWriteReqWriteRegisterValues - 2) + m
  let crc := crc16 buf 0 q
  let buf := write buf q.toNat (bytes16 crc)
  (buf, .ok (q + 2).toUInt8)

/-- The last part of the three tails of fixed length: function code, two half-words, CRC. -/
def storeFixedRequest (buf : Mem) (function : MbFunction) (memAddress n : UInt16) :
    Mem × Except ℤ UInt8 :=
  let buf := moveUint8Safe buf (frameField functionCode) function.code
  let buf := swapAndMoveUint16Safe buf (frameField startingAddress) memAddress
  let buf := swapAndMoveUint16Safe buf (frameField numberOfRegisters) n
  let crc := crc16 buf 0 (UInt16.ofNat (1 + pduReadReqSize))
  let buf := write buf (1 + pduReadReqSize) (bytes16 crc)
  (buf, .ok (UInt8.ofNat (1 + pduReadReqSize + 2)))

/-- `master_prepare_to_send_write_discrete`. -/
def masterPrepareToSendWriteDiscrete (buf : Mem) (function : MbFunction) (memAddress n : UInt16) :
    Mem × Except ℤ UInt8 :=
  storeFixedRequest buf function memAddress n

/-- `master_prepare_to_send_read_register`. -/
def masterPrepareToSendReadRegister (buf : Mem) (function : MbFunction) (memAddress n : UInt16)
    (errorOnInvalidN : ℤ) : Mem × Except ℤ UInt8 :=
  if n < 1 ∨ n > 125 then (buf, .error errorOnInvalidN)
  else storeFixedRequest buf function memAddress n

/-- The number of bytes that hold `n` bits, as the code rounds it up. -/
def bitBytes (n : UInt16) : UInt16 :=
  let m := n >>> 3
  if n &&& 7 ≠ 0 then m + 1 else m

/-- `master_prepare_to_send_read_discrete`. -/
def masterPrepareToSendReadDiscrete (buf : Mem) (function : MbFunction) (memAddress n : UInt16)
    (errorOnInvalidN : ℤ) : Mem × Except ℤ UInt8 :=
  if n < 1 ∨ n > 2000 then (buf, .error errorOnInvalidN)
  else
    let m := bitBytes n
    storeFixedRequest buf function memAddress m

/-! ### The encoder -/

/-- `master_prepare_to_send`. -/
def masterPrepareToSend (base : ℕ) (buf : Mem) (slaveAddress : UInt8) (function : MbFunction)
    (memAddress n writeMemAddress nWrite : UInt16) (any : Mem) : Mem × Except ℤ UInt8 :=
  if slaveAddress > 247 then (buf, .error eMasterInvalidSlaveAddress)
  else
    let buf := write buf 0 [slaveAddress]
    match function with
    | .readCoils =>
        masterPrepareToSendReadDiscrete buf function memAddress n eMasterInvalidNumberOfCoils
    | .readDiscreteInputs =>
        masterPrepareToSendReadDiscrete buf function memAddress n
          eMasterInvalidNumberOfDiscreteInputs
    | .readHoldingRegisters =>
        masterPrepareToSendReadRegister buf function memAddress n
          eMasterInvalidNumberOfHoldingRegisters
    | .readInputRegisters =>
        masterPrepareToSendReadRegister buf function memAddress n
          eMasterInvalidNumberOfInputRegisters
    | .writeSingleCoil =>
        if n = 0x0000 ∨ n = 0xFF00 then
          masterPrepareToSendWriteDiscrete buf function memAddress n
        else (buf, .error eInvalidSingleCoilState)
    | .writeSingleRegister => masterPrepareToSendWriteDiscrete buf function memAddress n
    | .writeMultipleCoils =>
        if n < 1 ∨ n > 0x07B0 then (buf, .error eInvalidWriteMultipleCoilsLimit)
        else masterPrepareToSendWrite base buf function memAddress n (bitBytes n) 0 any
    | .writeMultipleRegisters =>
        if n < 1 ∨ n > 0x007B then (buf, .error eInvalidWriteMultipleRegisterLimit)
        else masterPrepareToSendWrite base buf function memAddress n (n <<< 1) n any
    | .readOrWriteMultipleRegisters =>
        if n < 1 ∨ n > 0x007B then (buf, .error eInvalidReadWriteMultipleRegisterLimitRd)
        else if nWrite < 1 ∨ nWrite > 0x0079 then
          (buf, .error eInvalidReadWriteMultipleRegisterLimitWr)
        else
          masterPrepareToSendReadWrite base buf function memAddress n writeMemAddress nWrite any
    | .maskWriteRegister | .readFifoQueue | .readFileRecord | .writeFileRecord
    | .readExceptionStatus | .diagnostic | .getComEventCounter | .getComEventLog
    | .reportSlaveId | .readDeviceIndentification => (buf, .error eUnimplementedModbusFunction)
    | .mbFunctionUndefined => (buf, .error eUnexpectedFunction)

/-! ### What the tails leave in the buffer -/

theorem toNat_bitBytes (n : UInt16) : (bitBytes n).toNat = (n.toNat + 7) / 8 := by
  have hn := n.toNat_lt
  have h3 : (n >>> 3).toNat = n.toNat / 8 := by
    rw [UInt16.toNat_shiftRight]
    exact Nat.shiftRight_eq_div_pow _ _
  have h7 : n &&& 7 = 0 ↔ n.toNat % 8 = 0 := by
    rw [← UInt16.toNat_inj, UInt16.toNat_and]
    exact (Nat.and_two_pow_sub_one_eq_mod n.toNat 3).symm ▸ Iff.rfl
  unfold bitBytes
  by_cases h : n.toNat % 8 = 0
  · simp only [h7.2 h, ne_eq, not_true_eq_false, if_false, h3]
    omega
  · simp only [h7, h, ne_eq, not_false_eq_true, if_true, UInt16.toNat_add, h3]
    have h1 : (1 : UInt16).toNat = 1 := rfl
    rw [h1]
    omega

/-- The address, the function code and two half-words are the fixed part of every request. -/
theorem write_requestPdu (buf : Mem) (address : UInt8) (f : MbFunction) (s n : UInt16) :
    swapAndMoveUint16Safe (swapAndMoveUint16Safe (moveUint8Safe (write buf 0 [address])
      (frameField functionCode) f.code) (frameField startingAddress) s)
      (frameField numberOfRegisters) n = write buf 0 (requestPdu address f s n) := by
  rw [swapAndMoveUint16Safe_eq, swapAndMoveUint16Safe_eq, moveUint8Safe,
    write_write_of_eq buf 0 (frameField functionCode) [address] [f.code] rfl,
    write_write_of_eq buf 0 (frameField startingAddress) _ (beBytes16 s) rfl,
    write_write_of_eq buf 0 (frameField numberOfRegisters) _ (beBytes16 n) rfl]
  rfl

/-- The tails of fixed length close the frame of their two half-words. -/
theorem storeFixedRequest_eq (buf : Mem) (address : UInt8) (f : MbFunction) (s n : UInt16) :
    storeFixedRequest (write buf 0 [address]) f s n =
      (write buf 0 (closeFrame (requestPdu address f s n)), .ok 8) := by
  simp only [storeFixedRequest, write_requestPdu]
  rw [crc16_write _ _ _ _ rfl]
  refine Prod.ext ?_ rfl
  exact write_frameCrc buf (requestPdu address f s n)

/-- What a tail that carries data makes of a request: it stores the request, takes the CRC over all
but its last two bytes, and stores that CRC over those two. -/
def cutRequest (buf : Mem) (pdu : List UInt8) : Mem × Except ℤ UInt8 :=
  let k := pdu.length - 2
  (write (write buf 0 pdu) k (bytes16 (frameCrc (pdu.take k))), .ok (UInt8.ofNat pdu.length))

/-- The last four statements of both tails that carry data. -/
theorem storeCrc_eq_cutRequest (buf : Mem) {pdu : List UInt8} {q : UInt16}
    (hq : q.toNat + 2 = pdu.length) :
    (write (write buf 0 pdu) q.toNat (bytes16 (crc16 (write buf 0 pdu) 0 q)),
      Except.ok (ε := ℤ) (q + 2).toUInt8) = cutRequest buf pdu := by
  have hk : pdu.length - 2 = q.toNat := by omega
  rw [cutRequest, crc16_eq, read_write_take _ _ _ (by omega)]
  simp only [hk]
  refine Prod.ext rfl (congrArg Except.ok (UInt8.toNat_inj.1 ?_))
  have h2 : (2 : UInt16).toNat = 2 := rfl
  rw [UInt16.toNat_toUInt8, UInt16.toNat_add, UInt8.toNat_ofNat', h2, ← hq]
  omega

/-- **The tail of the two multiple writes cuts its last two bytes off.** -/
theorem masterPrepareToSendWrite_eq (base : ℕ) (buf : Mem) (address : UInt8) (f : MbFunction)
    (s n m q : UInt16) (any : Mem) (hm : m.toNat ≤ 246) (hq : q ≠ 0 → m.toNat = 2 * q.toNat) :
    masterPrepareToSendWrite base (write buf 0 [address]) f s n m q any =
      cutRequest buf (writeRequestPdu address f s n
        (if q ≠ 0 then swapPairs (read any 0 m.toNat) else read any 0 m.toNat)) := by
  obtain ⟨payload, hpay⟩ : ∃ payload, payload =
    if q ≠ 0 then swapPairs (read any 0 m.toNat) else read any 0 m.toNat := ⟨_, rfl⟩
  have hlen : payload.length = m.toNat := by
    rw [hpay]
    split <;> simp
  have hcount : m.toUInt8 = UInt8.ofNat payload.length := by rw [hlen]; rfl
  -- the buffer once the data is in place and, if it is made of half-words, swapped
  have hbuf : (if q ≠ 0 then swap16ArrayFastSafe base
      (write (write (write buf 0 (requestPdu address f s n)) (frameField writeReqByteCount)
        [m.toUInt8]) (frameField writeReqRegisterValues) (read any 0 m.toNat))
      (frameField writeReqRegisterValues) q.toNat
      else write (write (write buf 0 (requestPdu address f s n)) (frameField writeReqByteCount)
        [m.toUInt8]) (frameField writeReqRegisterValues) (read any 0 m.toNat)) =
      write buf 0 (writeRequestPdu address f s n payload) := by
    rw [write_write_of_eq buf 0 (frameField writeReqByteCount) _ [m.toUInt8] rfl,
      write_write_of_eq buf 0 (frameField writeReqRegisterValues) _ (read any 0 _) rfl, hcount]
    by_cases h : q = 0
    · rw [if_neg (not_not_intro h)] at hpay ⊢
      rw [← hpay]
      simp [writeRequestPdu]
    · rw [if_pos h] at hpay ⊢
      rw [swap16ArrayFastSafe_eq, ← hq h,
        write_swapPairs_read buf 0 (frameField writeReqRegisterValues) _ _ _ rfl (by simp), ← hpay]
      simp [writeRequestPdu]
  have hsize : (UInt16.ofNat (1 + writeReqRegisterValues - 2) + m).toNat = 5 + m.toNat := by
    have h5 : (UInt16.ofNat (1 + writeReqRegisterValues - 2)).toNat = 5 := rfl
    rw [UInt16.toNat_add, h5]
    omega
  rw [← hpay]
  simp only [masterPrepareToSendWrite, write_requestPdu]
  simp only [moveUint8Safe]
  rw [hbuf, storeCrc_eq_cutRequest buf (by rw [hsize, length_writeRequestPdu, hlen]; omega)]

/-- **So does the branch that reads and writes.** -/
theorem masterPrepareToSendReadWrite_eq (base : ℕ) (buf : Mem) (address : UInt8) (f : MbFunction)
    (s n ws nw : UInt16) (any : Mem) (hw : nw.toNat ≤ 121) :
    masterPrepareToSendReadWrite base (write buf 0 [address]) f s n ws nw any =
      cutRequest buf (readWriteRequestPdu address f s n ws nw
        (swapPairs (read any 0 (2 * nw.toNat)))) := by
  have hm : (nw <<< 1).toNat = 2 * nw.toNat := toNat_shiftLeft_one (by omega)
  obtain ⟨payload, hpay⟩ : ∃ payload, payload = swapPairs (read any 0 (2 * nw.toNat)) := ⟨_, rfl⟩
  have hlen : payload.length = 2 * nw.toNat := by rw [hpay, length_swapPairs, length_read]
  have hcount : (nw <<< 1).toUInt8 = UInt8.ofNat payload.length := by rw [hlen, ← hm]; rfl
  have hbuf : swap16ArrayFastSafe base (write (write (write (write
      (write buf 0 (requestPdu address f s n)) (frameField readWriteReqWriteStartingAddress)
        (beBytes16 ws)) (frameField readWriteReqQuantityToWrite) (beBytes16 nw))
        (frameField readWriteReqWriteByteCount) [(nw <<< 1).toUInt8])
        (frameField readWriteReqWriteRegisterValues) (read any 0 (nw <<< 1).toNat))
      (frameField readWriteReqWriteRegisterValues) nw.toNat =
      write buf 0 (readWriteRequestPdu address f s n ws nw payload) := by
    rw [write_write_of_eq buf 0 (frameField readWriteReqWriteStartingAddress) _ _ rfl,
      write_write_of_eq buf 0 (frameField readWriteReqQuantityToWrite) _ _ rfl,
      write_write_of_eq buf 0 (frameField readWriteReqWriteByteCount) _ _ rfl,
      write_write_of_eq buf 0 (frameField readWriteReqWriteRegisterValues) _ _ rfl,
      swap16ArrayFastSafe_eq,
      write_swapPairs_read buf 0 (frameField readWriteReqWriteRegisterValues) _ _ _ rfl
        (by simp [hm]), hm, ← hpay, hcount]
    simp [readWriteRequestPdu]
  have hsize : (UInt16.ofNat (1 + readWriteReqWriteRegisterValues - 2) + nw <<< 1).toNat =
      9 + 2 * nw.toNat := by
    have h9 : (UInt16.ofNat (1 + readWriteReqWriteRegisterValues - 2)).toNat = 9 := rfl
    rw [UInt16.toNat_add, h9, hm]
    omega
  rw [← hpay]
  simp only [masterPrepareToSendReadWrite, write_requestPdu]
  simp only [moveUint8Safe, swapAndMoveUint16Safe_eq]
  rw [hbuf, storeCrc_eq_cutRequest buf (by rw [hsize, length_readWriteRequestPdu, hlen]; omega)]

/-! ### Requests of fixed length -/

/-- The functions whose request is six bytes and a CRC. -/
def fixedFunctions : List MbFunction :=
  [.readCoils, .readDiscreteInputs, .readHoldingRegisters, .readInputRegisters, .writeSingleCoil,
    .writeSingleRegister]

/-- Those of them that read single bits. -/
def discreteReads : List MbFunction := [.readCoils, .readDiscreteInputs]

/-- The quantities and values that a function of fixed length allows. -/
def MbFunction.Admits (f : MbFunction) (n : UInt16) : Prop :=
  match f with
  | .readCoils | .readDiscreteInputs => 1 ≤ n ∧ n ≤ 2000
  | .readHoldingRegisters | .readInputRegisters => 1 ≤ n ∧ n ≤ 125
  | .writeSingleCoil => n = 0x0000 ∨ n = 0xFF00
  | .writeSingleRegister => True
  | _ => False

/-- The call accepts exactly the addresses and quantities that are allowed, and sends the address,
the function, the two arguments and the CRC of these six bytes. -/
def CarriesArguments (base : ℕ) (buf : Mem) (address : UInt8) (f : MbFunction)
    (s n ws nw : UInt16) (any : Mem) : Prop :=
  let r := masterPrepareToSend base buf address f s n ws nw any
  ((∃ size, r.2 = .ok size) ↔ address ≤ 247 ∧ f.Admits n) ∧
    ∀ size, r.2 = .ok size →
      size = 8 ∧ read r.1 0 size.toNat = closeFrame (requestPdu address f s n)

/-- What the code puts into the third field. -/
def sentQuantity (f : MbFunction) (n : UInt16) : UInt16 :=
  if f ∈ discreteReads then bitBytes n else n

/-- Only one discrete input has as many bytes as inputs. -/
theorem bitBytes_eq_self_iff {n : UInt16} (h : 1 ≤ n) : bitBytes n = n ↔ n = 1 := by
  rw [UInt16.le_iff_toNat_le] at h
  have h1 : (1 : UInt16).toNat = 1 := rfl
  rw [← UInt16.toNat_inj, ← UInt16.toNat_inj, toNat_bitBytes, h1]
  rw [h1] at h
  omega

/-- An allowed request of fixed length. -/
theorem masterPrepareToSend_of_admits (base : ℕ) (buf : Mem) {address : UInt8} {f : MbFunction}
    (s : UInt16) {n : UInt16} (ws nw : UInt16) (any : Mem) (ha : address ≤ 247)
    (hn : f.Admits n) :
    masterPrepareToSend base buf address f s n ws nw any =
      (write buf 0 (closeFrame (requestPdu address f s (sentQuantity f n))), .ok 8) := by
  have ha' : ¬ address > 247 := UInt8.not_lt.2 ha
  -- each of the three tails ends in `storeFixedRequest`, once its range check is passed
  cases f <;> simp only [MbFunction.Admits] at hn <;>
    simp only [masterPrepareToSend, ha', hn, masterPrepareToSendReadDiscrete,
      masterPrepareToSendReadRegister, masterPrepareToSendWriteDiscrete, lt_one_or_gt_iff,
      and_self, not_true_eq_false, if_false, if_true, storeFixedRequest_eq] <;>
    rfl

/-- No other request of fixed length is accepted. -/
theorem admits_of_masterPrepareToSend {base : ℕ} {buf : Mem} {address : UInt8} {f : MbFunction}
    {s n ws nw : UInt16} {any : Mem} {size : UInt8} (hf : f ∈ fixedFunctions)
    (h : (masterPrepareToSend base buf address f s n ws nw any).2 = .ok size) :
    address ≤ 247 ∧ f.Admits n := by
  by_cases ha : address > 247
  · simp [masterPrepareToSend, ha] at h
  · refine ⟨UInt8.not_lt.1 ha, ?_⟩
    by_contra hn
    cases f <;> simp [fixedFunctions] at hf <;>
      simp only [MbFunction.Admits, not_true_eq_false] at hn <;>
      simp only [masterPrepareToSend, ha, hn, masterPrepareToSendReadDiscrete,
        masterPrepareToSendReadRegister, lt_one_or_gt_iff, not_false_eq_true, if_true, if_false,
        reduceCtorEq] at h

/-- **The request of a function of fixed length carries its arguments, except that a discrete read
carries the number of bytes of its answer instead of the number of inputs.** -/
theorem masterPrepareToSend_carriesArguments_iff (base : ℕ) (buf : Mem) (address : UInt8)
    (f : MbFunction) (s n ws nw : UInt16) (any : Mem) (hf : f ∈ fixedFunctions) :
    CarriesArguments base buf address f s n ws nw any ↔
      f ∉ discreteReads ∨ n = 1 ∨ ¬ (address ≤ 247 ∧ f.Admits n) := by
  by_cases h : address ≤ 247 ∧ f.Admits n
  · obtain ⟨ha, hn⟩ := h
    have hsent : sentQuantity f n = n ↔ f ∉ discreteReads ∨ n = 1 := by
      by_cases hd : f ∈ discreteReads
      · have h1 : 1 ≤ n := by
          rcases List.mem_pair.1 hd with rfl | rfl
          · exact hn.1
          · exact hn.1
        simp [sentQuantity, hd, bitBytes_eq_self_iff h1]
      · simp [sentQuantity, hd]
    have hread : read (write buf 0 (closeFrame (requestPdu address f s (sentQuantity f n)))) 0 8 =
        closeFrame (requestPdu address f s (sentQuantity f n)) := read_write_self _ _ _
    simp only [CarriesArguments, masterPrepareToSend_of_admits base buf s ws nw any ha hn, ha, hn,
      and_self, not_true_eq_false, or_false, iff_true]
    rw [← hsent]
    -- the frame determines its third field
    constructor
    · rintro ⟨-, h⟩
      have h8 := (h 8 rfl).2
      exact requestPdu_inj (closeFrame_injective (hread.symm.trans h8))
    · intro hq
      refine ⟨⟨8, rfl⟩, ?_⟩
      rintro size ⟨⟩
      rw [hq] at hread ⊢
      exact ⟨rfl, hread⟩
  -- a refused call sends nothing, and is to be refused
  · have href : ∀ size, (masterPrepareToSend base buf address f s n ws nw any).2 ≠ .ok size :=
      fun size hs => h (admits_of_masterPrepareToSend hf hs)
    simp [CarriesArguments, h, href]

/-- Reading sixteen coils: the device is asked for two. -/
theorem masterPrepareToSend_sixteen_coils :
    ¬ CarriesArguments 0 (fun _ => 0) 1 .readCoils 0 16 0 0 (fun _ => 0) := by
  intro h
  have h8 := (h.2 8 rfl).2
  exact absurd h8 (by decide)

/-- Writing a single register has no such field. -/
theorem masterPrepareToSend_writeSingleRegister :
    CarriesArguments 0 (fun _ => 0) 1 .writeSingleRegister 0x4000 0xBEEF 0 0 (fun _ => 0) :=
  (masterPrepareToSend_carriesArguments_iff 0 (fun _ => 0) 1 .writeSingleRegister 0x4000 0xBEEF 0 0
    (fun _ => 0) (by decide)).2 (Or.inl (by decide))

/-! ### Requests that carry data -/

/-- The functions whose request carries data. -/
def dataFunctions : List MbFunction :=
  [.writeMultipleCoils, .writeMultipleRegisters, .readOrWriteMultipleRegisters]

/-- The data bytes of a request: coils as they are given, registers in network order. -/
def requestPayload (f : MbFunction) (n nw : UInt16) (any : Mem) : List UInt8 :=
  match f with
  | .writeMultipleCoils => read any 0 ((n.toNat + 7) / 8)
  | .writeMultipleRegisters => swapPairs (read any 0 (2 * n.toNat))
  | _ => swapPairs (read any 0 (2 * nw.toNat))

/-- The request of the specification, without its CRC. -/
def dataRequestPdu (address : UInt8) (f : MbFunction) (s n ws nw : UInt16) (any : Mem) :
    List UInt8 :=
  match f with
  | .readOrWriteMultipleRegisters =>
      readWriteRequestPdu address f s n ws nw (requestPayload f n nw any)
  | _ => writeRequestPdu address f s n (requestPayload f n nw any)

/-- If the call accepts the request, the bytes to send are the request and its CRC. -/
def WellFormedRequest (base : ℕ) (buf : Mem) (address : UInt8) (f : MbFunction)
    (s n ws nw : UInt16) (any : Mem) : Prop :=
  let r := masterPrepareToSend base buf address f s n ws nw any
  ∀ size, r.2 = .ok size →
    read r.1 0 size.toNat = closeFrame (dataRequestPdu address f s n ws nw any)

/-- An accepted request that carries data goes through `cutRequest`. -/
theorem masterPrepareToSend_data {base : ℕ} {buf : Mem} {address : UInt8} {f : MbFunction}
    {s n ws nw : UInt16} {any : Mem} {size : UInt8} (hf : f ∈ dataFunctions)
    (h : (masterPrepareToSend base buf address f s n ws nw any).2 = .ok size) :
    masterPrepareToSend base buf address f s n ws nw any =
        cutRequest buf (dataRequestPdu address f s n ws nw any) ∧
      2 ≤ (dataRequestPdu address f s n ws nw any).length ∧
      (dataRequestPdu address f s n ws nw any).length ≤ 255 := by
  have ha : ¬ address > 247 := by
    intro ha
    simp [masterPrepareToSend, ha] at h
  simp only [dataFunctions, List.mem_cons, List.not_mem_nil, or_false] at hf
  rcases hf with rfl | rfl | rfl
  · by_cases hn : n < 1 ∨ n > 0x07B0
    · simp only [masterPrepareToSend, ha, hn, if_true, if_false, reduceCtorEq] at h
    · simp only [masterPrepareToSend, ha, hn, if_false, dataRequestPdu, requestPayload]
      rw [lt_one_or_gt_iff, not_not, UInt16.le_iff_toNat_le, UInt16.le_iff_toNat_le] at hn
      have h1968 : (0x07B0 : UInt16).toNat = 1968 := rfl
      have hm := toNat_bitBytes n
      rw [masterPrepareToSendWrite_eq base buf address _ s n (bitBytes n) 0 any (by omega)
        (fun h => absurd rfl h), if_neg (not_not_intro rfl), hm]
      refine ⟨rfl, ?_, ?_⟩ <;> simp <;> omega
  · by_cases hn : n < 1 ∨ n > 0x007B
    · simp only [masterPrepareToSend, ha, hn, if_true, if_false, reduceCtorEq] at h
    · simp only [masterPrepareToSend, ha, hn, if_false, dataRequestPdu, requestPayload]
      rw [lt_one_or_gt_iff, not_not, UInt16.le_iff_toNat_le, UInt16.le_iff_toNat_le] at hn
      have h1 : (1 : UInt16).toNat = 1 := rfl
      have h123 : (0x007B : UInt16).toNat = 123 := rfl
      have hm : (n <<< 1).toNat = 2 * n.toNat := toNat_shiftLeft_one (by omega)
      have hq : n ≠ 0 := by
        rintro rfl
        simp at hn
      rw [masterPrepareToSendWrite_eq base buf address _ s n (n <<< 1) n any (by omega)
        (fun _ => hm), if_pos hq, hm]
      refine ⟨rfl, ?_, ?_⟩ <;> simp <;> omega
  · by_cases hn : n < 1 ∨ n > 0x007B
    · simp only [masterPrepareToSend, ha, hn, if_true, if_false, reduceCtorEq] at h
    · by_cases hw : nw < 1 ∨ nw > 0x0079
      · simp only [masterPrepareToSend, ha, hn, hw, if_true, if_false, reduceCtorEq] at h
      · simp only [masterPrepareToSend, ha, hn, hw, if_false, dataRequestPdu, requestPayload]
        rw [lt_one_or_gt_iff, not_not, UInt16.le_iff_toNat_le, UInt16.le_iff_toNat_le] at hw
        have h121 : (0x0079 : UInt16).toNat = 121 := rfl
        rw [masterPrepareToSendReadWrite_eq base buf address _ s n ws nw any (by omega)]
        refine ⟨rfl, ?_, ?_⟩ <;> simp <;> omega

/-- The bytes a cut request sends. -/
theorem read_cutRequest (buf : Mem) {pdu : List UInt8} (h₂ : 2 ≤ pdu.length) :
    read (cutRequest buf pdu).1 0 pdu.length = closeFrame (pdu.take (pdu.length - 2)) := by
  obtain ⟨k, hk⟩ : ∃ k, pdu.length = k + 2 := ⟨pdu.length - 2, by omega⟩
  -- below the CRC the request is read, above it the CRC that was stored over its end
  have hl : (bytes16 (frameCrc (pdu.take k))).length = 2 := rfl
  rw [cutRequest, hk, Nat.add_sub_cancel, read_add, read_write_of_le _ _ _ (by omega),
    read_write_take _ _ _ (by omega), Nat.zero_add, ← hl, read_write_self]
  rfl

/-- What is sent has the length of the request without its CRC: its last two bytes make room. -/
theorem read_masterPrepareToSend_data {base : ℕ} {buf : Mem} {address : UInt8} {f : MbFunction}
    {s n ws nw : UInt16} {any : Mem} {size : UInt8} (hf : f ∈ dataFunctions)
    (h : (masterPrepareToSend base buf address f s n ws nw any).2 = .ok size) :
    let pdu := dataRequestPdu address f s n ws nw any
    size.toNat = pdu.length ∧
      read (masterPrepareToSend base buf address f s n ws nw any).1 0 size.toNat =
        closeFrame (pdu.take (pdu.length - 2)) := by
  intro pdu
  obtain ⟨heq, (h₂ : 2 ≤ pdu.length), (h₂₅₅ : pdu.length ≤ 255)⟩ := masterPrepareToSend_data hf h
  rw [heq] at h ⊢
  have hsize : size.toNat = pdu.length := by
    obtain rfl : UInt8.ofNat pdu.length = size := Except.ok.inj h
    rw [UInt8.toNat_ofNat']
    omega
  rw [hsize]
  exact ⟨rfl, read_cutRequest buf h₂⟩

/-- **No request that carries data is well formed**: every one that is accepted is sent without its
last two bytes. -/
theorem masterPrepareToSend_not_wellFormed {base : ℕ} {buf : Mem} {address : UInt8} {f : MbFunction}
    {s n ws nw : UInt16} {any : Mem} {size : UInt8} (hf : f ∈ dataFunctions)
    (h : (masterPrepareToSend base buf address f s n ws nw any).2 = .ok size) :
    ¬ WellFormedRequest base buf address f s n ws nw any := by
  intro hw
  have hlen := congrArg List.length (hw size h)
  rw [length_read, (read_masterPrepareToSend_data hf h).1, length_closeFrame] at hlen
  omega

/-- Writing one register: the value does not leave the controller. -/
theorem masterPrepareToSend_one_register :
    ¬ WellFormedRequest 0 (fun _ => 0) 1 .writeMultipleRegisters 0x4000 1 0 0 (fun _ => 0x12) := by
  intro h
  exact absurd (h 9 rfl) (by decide)

/-- The same for reading and writing. -/
theorem masterPrepareToSend_read_and_write :
    ¬ WellFormedRequest 0 (fun _ => 0) 1 .readOrWriteMultipleRegisters 0x4000 1 0x4000 1
      (fun _ => 0x12) :=
  masterPrepareToSend_not_wellFormed (by decide)
    (rfl : (masterPrepareToSend 0 (fun _ => 0) 1 .readOrWriteMultipleRegisters 0x4000 1 0x4000 1
      (fun _ => 0x12)).2 = .ok 13)

end Solar48
