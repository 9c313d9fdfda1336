/-
**The bounds of the buffer of the Modbus master.**

`modbus_master_buffer` has one byte more than the longest frame.  A request is written into it by
quantities that are doubled or rounded, and a response is read from it by a byte count that the
slave sends, so that each access is at an offset that is not a constant.

The functions of the master are written down here once more, as programs that have no result if
they access the buffer outside of its 257 bytes, down to the loops of the CRC and of the swap.  That
they return, and what, is stated by the functions that are there already.

Main definitions:

* `Solar48.Bounded.masterPrepareToSend`, `Solar48.Bounded.masterCheckReceive` — the programs; the
  first gives the size of the frame before it is stored as a byte;
* `Solar48.Bounded.Prepares` — a program that does what `masterPrepareToSend` says.

Main results:

* `Solar48.Bounded.crc16_returns`, `Solar48.Bounded.swap16ArrayFastSafe_returns` — the loops;
* `Solar48.Bounded.masterCheckReceiveRead_returns` — a response with a byte count;
* `Solar48.Bounded.master_returns` — **no request and no response goes over the end of the buffer**,
  and no size of a frame wraps.
-/

import Solar48.BoundedMem
import Solar48.Rs485Request
import Solar48.Rs485Response

set_option relaxedAutoImplicit false
set_option autoImplicit false

namespace Solar48

namespace Bounded

open ByteMem BoundedMem

/-- `MODBUS_MASTER_BUFFER_SIZE`: `MODBUS_ADU_MAX_SIZE + 1`. -/
def modbusMasterBufferSize : ℕ := 256 + 1

/-- A program on `modbus_master_buffer`. -/
abbrev MasterAccess (α : Type) : Type := Access modbusMasterBufferSize α

/-! ### Words and loops -/

/-- `move_uint8_safe`. -/
def moveUint8Safe (dest : ℕ) (value : UInt8) : MasterAccess Unit := store dest [value]

/-- `swap_and_move_uint16_safe`. -/
def swapAndMoveUint16Safe (dest : ℕ) (src : UInt16) : MasterAccess Unit :=
  store dest ((bytes32 (rev16 src.toUInt32)).take 2)

/-- `read_uint8`. -/
def readUint8 (a : ℕ) : MasterAccess UInt8 := load8 a

/-- `read_and_swap_uint16_safe`. -/
def readAndSwapUint16Safe (src : ℕ) : MasterAccess UInt16 := do
  let l ← load8 src
  let h ← load8 (src + 1)
  pure (rev16 (le32 l h 0 0)).toUInt16

/-- `swap_and_compare_uint16`. -/
def swapAndCompareUint16 (a : ℕ) (b : UInt16) : MasterAccess Bool := do
  let bs ← load a 2
  pure (bs == (bytes32 (rev16 b.toUInt32)).take 2)

/-- `crc16`. -/
def crc16 (p : ℕ) (length : UInt16) : MasterAccess UInt16 :=
  words 1 (fun p inicial => do
    let byte ← load8 p
    pure (crcStep inicial byte)) p length.toNat 0xFFFF

/-- The loop of both array functions. -/
def swap16Words (p n : ℕ) : MasterAccess Unit :=
  words 4 (fun p _ => do
    let w ← load32 p
    store p (bytes32 (rev16 w))) p n ()

/-- `swap16_array_fast`. -/
def swap16ArrayFast (arr len : ℕ) : MasterAccess Unit := do
  swap16Words arr (len >>> 1)
  let p := arr + 4 * (len >>> 1)
  if len &&& 1 = 0 then pure ()
  else do
    let y ← load16 p
    store p (bytes16 ((y >>> 8) ||| (y <<< 8)))

/-- `swap16_array_fast_safe`. -/
def swap16ArrayFastSafe (base arr len : ℕ) : MasterAccess Unit :=
  if isAligned32 base arr then swap16ArrayFast arr len
  else do
    swap16Words arr (len >>> 1)
    let p := arr + 4 * (len >>> 1)
    if len &&& 1 = 0 then pure ()
    else do
      let l ← load8 p
      let h ← load8 (p + 1)
      store p ((bytes32 (rev16 (le32 l h 0 0))).take 2)

/-! ### Sending -/

/-- `master_prepare_to_send_write`. -/
def masterPrepareToSendWrite (base : ℕ) (function : MbFunction) (memAddress n m q : UInt16)
    (any : Mem) : MasterAccess (Except ℤ ℕ) := do
  moveUint8Safe (frameField functionCode) function.code
  swapAndMoveUint16Safe (frameField startingAddress) memAddress
  swapAndMoveUint16Safe (frameField numberOfRegisters) n
  moveUint8Safe (frameField writeReqByteCount) m.toUInt8
  store (frameField writeReqRegisterValues) (read any 0 m.toNat)
  (if q ≠ 0 then swap16ArrayFastSafe base (frameField writeReqRegisterValues) q.toNat
    else pure ())
  let q := UInt16.ofNat (1 + writeReqRegisterValues - 2) + m
  let crc ← crc16 0 q
  store q.toNat (bytes16 crc)
  pure (.ok (q.toNat + 2))

/-- The branch of `READ_OR_WRITE_MULTIPLE_REGISTERS` behind its two range checks. -/
def masterPrepareToSendReadWrite (base : ℕ) (function : MbFunction)
    (memAddress n writeMemAddress nWrite : UInt16) (any : Mem) : MasterAccess (Except ℤ ℕ) := do
  let m := nWrite <<< 1
  moveUint8Safe (frameField functionCode) function.code
  swapAndMoveUint16Safe (frameField startingAddress) memAddress
  swapAndMoveUint16Safe (frameField numberOfRegisters) n
  swapAndMoveUint16Safe (frameField readWriteReqWriteStartingAddress) writeMemAddress
  swapAndMoveUint16Safe (frameField readWriteReqQuantityToWrite) nWrite
  moveUint8Safe (frameField readWriteReqWriteByteCount) m.toUInt8
  store (frameField readWriteReqWriteRegisterValues) (read any 0 m.toNat)
  swap16ArrayFastSafe base (frameField readWriteReqWriteRegisterValues) nWrite.toNat
  let q := UInt16.ofNat (1 + readWriteReqWriteRegisterValues - 2) + m
  let crc ← crc16 0 q
  store q.toNat (bytes16 crc)
  pure (.ok (q.toNat + 2))

/-- The last part of the three tails of fixed length. -/
def storeFixedRequest (function : MbFunction) (memAddress n : UInt16) :
    MasterAccess (Except ℤ ℕ) := do
  moveUint8Safe (frameField functionCode) function.code
  swapAndMoveUint16Safe (frameField startingAddress) memAddress
  swapAndMoveUint16Safe (frameField numberOfRegisters) n
  let crc ← crc16 0 (UInt16.ofNat (1 + pduReadReqSize))
  store (1 + pduReadReqSize) (bytes16 crc)
  pure (.ok (1 + pduReadReqSize + 2))

/-- `master_prepare_to_send_write_discrete`. -/
def masterPrepareToSendWriteDiscrete (function : MbFunction) (memAddress n : UInt16) :
    MasterAccess (Except ℤ ℕ) :=
  storeFixedRequest function memAddress n

/-- `master_prepare_to_send_read_register`. -/
def masterPrepareToSendReadRegister (function : MbFunction) (memAddress n : UInt16)
    (errorOnInvalidN : ℤ) : MasterAccess (Except ℤ ℕ) :=
  if n < 1 ∨ n > 125 then pure (.error errorOnInvalidN)
  else storeFixedRequest function memAddress n

/-- `master_prepare_to_send_read_discrete`. -/
def masterPrepareToSendReadDiscrete (function : MbFunction) (memAddress n : UInt16)
    (errorOnInvalidN : ℤ) : MasterAccess (Except ℤ ℕ) :=
  if n < 1 ∨ n > 2000 then pure (.error errorOnInvalidN)
  else
    let m := bitBytes n
    storeFixedRequest function memAddress m

/-- `master_prepare_to_send`. -/
def masterPrepareToSend (base : ℕ) (slaveAddress : UInt8) (function : MbFunction)
    (memAddress n writeMemAddress nWrite : UInt16) (any : Mem) : MasterAccess (Except ℤ ℕ) :=
  if slaveAddress > 247 then pure (.error eMasterInvalidSlaveAddress)
  else do
    store 0 [slaveAddress]
    match function with
    | .readCoils =>
        masterPrepareToSendReadDiscrete function memAddress n eMasterInvalidNumberOfCoils
    | .readDiscreteInputs =>
        masterPrepareToSendReadDiscrete function memAddress n
          eMasterInvalidNumberOfDiscreteInputs
    | .readHoldingRegisters =>
        masterPrepareToSendReadRegister function memAddress n
          eMasterInvalidNumberOfHoldingRegisters
    | .readInputRegisters =>
        masterPrepareToSendReadRegister function memAddress n
          eMasterInvalidNumberOfInputRegisters
    | .writeSingleCoil =>
        if n = 0x0000 ∨ n = 0xFF00 then masterPrepareToSendWriteDiscrete function memAddress n
        else pure (.error eInvalidSingleCoilState)
    | .writeSingleRegister => masterPrepareToSendWriteDiscrete function memAddress n
    | .writeMultipleCoils =>
        if n < 1 ∨ n > 0x07B0 then pure (.error eInvalidWriteMultipleCoilsLimit)
        else masterPrepareToSendWrite base function memAddress n (bitBytes n) 0 any
    | .writeMultipleRegisters =>
        if n < 1 ∨ n > 0x007B then pure (.error eInvalidWriteMultipleRegisterLimit)
        else masterPrepareToSendWrite base function memAddress n (n <<< 1) n any
    | .readOrWriteMultipleRegisters =>
        if n < 1 ∨ n > 0x007B then pure (.error eInvalidReadWriteMultipleRegisterLimitRd)
        else if nWrite < 1 ∨ nWrite > 0x0079 then
          pure (.error eInvalidReadWriteMultipleRegisterLimitWr)
        else masterPrepareToSendReadWrite base function memAddress n writeMemAddress nWrite any
    | .maskWriteRegister | .readFifoQueue | .readFileRecord | .writeFileRecord
    | .readExceptionStatus | .diagnostic | .getComEventCounter | .getComEventLog
    | .reportSlaveId | .readDeviceIndentification => pure (.error eUnimplementedModbusFunction)
    | .mbFunctionUndefined => pure (.error eUnexpectedFunction)

/-! ### Receiving -/

/-- The body of the first `if` of every label. -/
def masterCheckException (codes : ExceptionCodes) : MasterAccess MasterCheck := do
  let crc ← load16 (frameField pduExceptionSize)
  let computed ← crc16 0 (UInt16.ofNat (pduExceptionSize + 1))
  if computed ≠ crc then pure (.ret codes.errorInvalidExceptionCrc)
  else do
    let errorCode ← readUint8 (frameField errorOrExceptionCode)
    if errorCode > 0 ∧ errorCode < 5 then do
      let src ← load (frameField functionCode) pduExceptionSize
      pure (.copyBuffer1 masterTransferSuccessWithErrorCode src false)
    else pure (.ret codes.errorOnCatchException)

/-- The three labels for read responses, with the copy from `ptr`. -/
def masterCheckReceiveRead (rtu : Solar48Rs485Rtu) (codes : ExceptionCodes) (least most : UInt8)
    (resizeVecSize : Bool) : MasterAccess MasterCheck := do
  let function ← readUint8 (frameField functionCode)
  if function = rtu.function.errorCode then masterCheckException codes
  else if function ≠ rtu.function.code then pure (.ret codes.errorUnexpectedFunction)
  else do
    let u8Sz ← readUint8 (frameField respByteCount)
    if u8Sz < least ∨ u8Sz > most then
      pure (.ret codes.errorInvalidDataSizeOrUnexpectedDiscrete)
    else do
      let crc ← load16 (frameField respStatus + u8Sz.toNat)
      let computed ← crc16 0 (UInt16.ofNat (u8Sz.toNat + respStatus + 1))
      if computed = crc then do
        let src ← load (frameField respStatus) u8Sz.toNat
        pure (.copyBuffer1 masterTransferSuccess src resizeVecSize)
      else pure (.ret codes.errorInvalidCrc)

/-- `master_check_receive_read_write`. -/
def masterCheckReceiveReadWrite (rtu : Solar48Rs485Rtu) (codes : ExceptionCodes) :
    MasterAccess MasterCheck :=
  masterCheckReceiveRead rtu codes 2 250 true

/-- `master_check_receive_read_register`. -/
def masterCheckReceiveReadRegister (rtu : Solar48Rs485Rtu) (codes : ExceptionCodes) :
    MasterAccess MasterCheck :=
  masterCheckReceiveRead rtu codes 2 250 true

/-- `master_check_receive_read_discrete`. -/
def masterCheckReceiveReadDiscrete (rtu : Solar48Rs485Rtu) (codes : ExceptionCodes) :
    MasterAccess MasterCheck :=
  masterCheckReceiveRead rtu codes 1 251 false

/-- The two labels for the responses that echo two half-words of the request. -/
def masterCheckReceiveEcho (rtu : Solar48Rs485Rtu) (codes : ExceptionCodes)
    (addressMismatch : ℤ) : MasterAccess MasterCheck := do
  let function ← readUint8 (frameField functionCode)
  if function = rtu.function.errorCode then masterCheckException codes
  else if function ≠ rtu.function.code then pure (.ret codes.errorUnexpectedFunction)
  else do
    let same ← swapAndCompareUint16 (frameField startingAddress) rtu.memAddress
    if ¬ same then pure (.ret addressMismatch)
    else do
      let u16Tmp ← readAndSwapUint16Safe (frameField numberOfRegisters)
      if rtu.nDataOrDiscrete ≠ u16Tmp then
        pure (.ret codes.errorInvalidDataSizeOrUnexpectedDiscrete)
      else do
        let crc ← load16 (frameField pduReadReqSize)
        let computed ← crc16 0 (UInt16.ofNat (1 + pduReadReqSize))
        if computed = crc then
          pure (.copyBuffer1 masterTransferSuccess (bytes16 u16Tmp) false)
        else pure (.ret codes.errorInvalidCrc)

/-- `master_check_receive_write`. -/
def masterCheckReceiveWrite (rtu : Solar48Rs485Rtu) (codes : ExceptionCodes) :
    MasterAccess MasterCheck :=
  masterCheckReceiveEcho rtu codes eReceivedWriteAddressMismatch

/-- `master_check_receive_write_discrete`. -/
def masterCheckReceiveWriteDiscrete (rtu : Solar48Rs485Rtu) (codes : ExceptionCodes) :
    MasterAccess MasterCheck :=
  masterCheckReceiveEcho rtu codes eReceivedWriteDiscreteAddressMismatch

/-- `MASTER_RS485_EXCEPTION_CODE[i]`. -/
def exceptionCode (i : ℕ) (h : i < 9 := by decide) : ExceptionCodes :=
  masterRs485ExceptionCode ⟨i, h⟩

/-- `master_check_receive`, up to what is done with the bytes that were copied. -/
def masterCheckReceive (rtu : Solar48Rs485Rtu) : MasterAccess MasterCheck := do
  let head ← load32 0
  if head = 0 then pure (.ret eMasterTimeoutOrNotRespondngReceiveSlaveAddress)
  else do
    let address ← load8 0
    if rtu.address ≠ address then pure (.ret eMasterInvalidReceiveSlaveAddress)
    else
      match rtu.function with
      | .readCoils => masterCheckReceiveReadDiscrete rtu (exceptionCode 0)
      | .readDiscreteInputs => masterCheckReceiveReadDiscrete rtu (exceptionCode 1)
      | .readHoldingRegisters => masterCheckReceiveReadRegister rtu (exceptionCode 2)
      | .readInputRegisters => masterCheckReceiveReadRegister rtu (exceptionCode 3)
      | .writeSingleCoil => masterCheckReceiveWriteDiscrete rtu (exceptionCode 4)
      | .writeSingleRegister => masterCheckReceiveWriteDiscrete rtu (exceptionCode 5)
      | .writeMultipleCoils => masterCheckReceiveWrite rtu (exceptionCode 6)
      | .writeMultipleRegisters => masterCheckReceiveWrite rtu (exceptionCode 7)
      | .readOrWriteMultipleRegisters => masterCheckReceiveReadWrite rtu (exceptionCode 8)
      | .maskWriteRegister | .readFifoQueue | .readFileRecord | .writeFileRecord
      | .readExceptionStatus | .diagnostic | .getComEventCounter | .getComEventLog
      | .reportSlaveId | .readDeviceIndentification => pure (.ret eUnimplementedModbusFunction)
      | .mbFunctionUndefined => pure (.ret eUnexpectedReceiveFunction)

/-! ### The loops return -/

variable {buf : Mem} {p n : ℕ}

/-- **The loop of the CRC.** -/
theorem crc16_returns {length : UInt16} (h : p + length.toNat ≤ modbusMasterBufferSize) :
    Returns (crc16 p length) buf (Solar48.crc16 buf p length) buf :=
  .words (fun p inicial m => (crcStep inicial (m p), m))
    (fun p n inicial m => (crcLoop inicial m p n, m)) (fun _ _ _ => rfl) (fun _ _ _ _ => rfl)
    (fun _ _ _ hp => .bind (.load8 hp) .pure) (by rwa [Nat.one_mul])

theorem swap16Words_returns (h : p + 4 * n ≤ modbusMasterBufferSize) :
    Returns (swap16Words p n) buf () (Solar48.swap16Words buf p n) :=
  .words (fun p _ m => ((), write m p (bytes32 (rev16 (read32 m p)))))
    (fun p n _ m => ((), Solar48.swap16Words m p n)) (fun _ _ _ => rfl) (fun _ _ _ _ => rfl)
    (fun _ _ _ hp => .bind (.load32 hp) (.store hp)) h

theorem swap16ArrayFast_returns (h : p + 2 * n ≤ modbusMasterBufferSize) :
    Returns (swap16ArrayFast p n) buf () (Solar48.swap16ArrayFast buf p n) := by
  unfold swap16ArrayFast Solar48.swap16ArrayFast
  rcases mod_two_cases n with ⟨heven, hwords⟩ | ⟨hodd, hwords⟩
  · refine .bind (swap16Words_returns (by omega)) ?_
    rw [if_pos heven, if_pos heven]
    exact .pure
  · refine .bind (swap16Words_returns (by omega)) ?_
    rw [if_neg hodd, if_neg hodd]
    exact .bind (.load16 (by omega)) (.store (by rw [length_bytes16]; omega))

/-- **The loop of the swap**, and the half-word behind it. -/
theorem swap16ArrayFastSafe_returns (base : ℕ) (h : p + 2 * n ≤ modbusMasterBufferSize) :
    Returns (swap16ArrayFastSafe base p n) buf () (Solar48.swap16ArrayFastSafe base buf p n) := by
  refine .ite_mem (fun _ => swap16ArrayFast_returns h) fun _ => ?_
  rcases mod_two_cases n with ⟨heven, hwords⟩ | ⟨hodd, hwords⟩
  · refine .bind (swap16Words_returns (by omega)) ?_
    simp only [if_pos heven]
    exact .pure
  · refine .bind (swap16Words_returns (by omega)) ?_
    simp only [if_neg hodd]
    refine .bind (.load8 (by omega)) (.bind (.load8 (by omega)) (.store ?_))
    rw [List.length_take, length_bytes32]
    omega

/-! ### Sending returns -/

/-- A program that leaves what a preparation leaves, and returns what it does: an error, or the size
of the frame, which is the byte that is stored. -/
def Prepares (x : MasterAccess (Except ℤ ℕ)) (buf : Mem) (prepared : Mem × Except ℤ UInt8) :
    Prop :=
  ∃ out, Returns x buf out prepared.1 ∧
    match out with
    | .error err => prepared.2 = .error err
    | .ok total => ∃ outDataSize, prepared.2 = .ok outDataSize ∧ outDataSize.toNat = total

theorem prepares_error (err : ℤ) :
    Prepares (pure (.error err) : MasterAccess (Except ℤ ℕ)) buf (buf, .error err) :=
  ⟨.error err, .pure, rfl⟩

theorem moveUint8Safe_returns {dest : ℕ} (value : UInt8)
    (h : dest + 1 ≤ modbusMasterBufferSize) :
    Returns (moveUint8Safe dest value) buf () (Solar48.moveUint8Safe buf dest value) := .store h

theorem swapAndMoveUint16Safe_returns {dest : ℕ} (src : UInt16)
    (h : dest + 2 ≤ modbusMasterBufferSize) :
    Returns (swapAndMoveUint16Safe dest src) buf ()
      (Solar48.swapAndMoveUint16Safe buf dest src) :=
  .store (by rw [List.length_take, length_bytes32]; exact h)

/-- The last two bytes of a frame, of which the size is not more than a byte holds. -/
theorem prepares_crc {q : UInt16} (hq : q.toNat + 2 ≤ 255) :
    Prepares (do
        let crc ← crc16 0 q
        store q.toNat (bytes16 crc)
        pure (.ok (q.toNat + 2)))
      buf (write buf q.toNat (bytes16 (Solar48.crc16 buf 0 q)), .ok (q + 2).toUInt8) := by
  refine ⟨.ok (q.toNat + 2), ?_, (q + 2).toUInt8, rfl, ?_⟩
  · refine .bind (crc16_returns ?_) (.bind (.store ?_) .pure)
    · unfold modbusMasterBufferSize
      omega
    · rw [length_bytes16]
      unfold modbusMasterBufferSize
      omega
  · have htwo : (2 : UInt16).toNat = 2 := rfl
    rw [UInt16.toNat_toUInt8, UInt16.toNat_add, htwo]
    omega

/-- A statement before the rest of a preparation. -/
theorem Prepares.bind {x : MasterAccess Unit} {y : MasterAccess (Except ℤ ℕ)} {buf' : Mem}
    {prepared : Mem × Except ℤ UInt8} (hx : Returns x buf () buf')
    (hy : Prepares y buf' prepared) : Prepares (do x; y) buf prepared := by
  obtain ⟨out, hreturns, hout⟩ := hy
  exact ⟨out, .bind hx hreturns, hout⟩

/-- A check before it. -/
theorem Prepares.ite {c : Prop} [Decidable c] {err : ℤ} {y : MasterAccess (Except ℤ ℕ)}
    {prepared : Mem × Except ℤ UInt8} (hy : ¬ c → Prepares y buf prepared) :
    Prepares (if c then pure (.error err) else y) buf
      (if c then (buf, .error err) else prepared) := by
  by_cases hc : c
  · rw [if_pos hc, if_pos hc]
    exact prepares_error err
  · rw [if_neg hc, if_neg hc]
    exact hy hc

theorem storeFixedRequest_prepares (function : MbFunction) (memAddress n : UInt16) :
    Prepares (storeFixedRequest function memAddress n) buf
      (Solar48.storeFixedRequest buf function memAddress n) :=
  .bind (moveUint8Safe_returns _ (by decide)) <|
    .bind (swapAndMoveUint16Safe_returns _ (by decide)) <|
    .bind (swapAndMoveUint16Safe_returns _ (by decide)) <|
    prepares_crc (q := 6) (by decide)

/-- **The tail of the two multiple writes**, for no more data than a frame holds. -/
theorem masterPrepareToSendWrite_prepares (base : ℕ) (function : MbFunction)
    (memAddress n m q : UInt16) (any : Mem) (hm : m.toNat ≤ 246) (hq : 2 * q.toNat ≤ 246) :
    Prepares (masterPrepareToSendWrite base function memAddress n m q any) buf
      (Solar48.masterPrepareToSendWrite base buf function memAddress n m q any) := by
  have hfive : (UInt16.ofNat (1 + writeReqRegisterValues - 2)).toNat = 5 := rfl
  have hsize : (UInt16.ofNat (1 + writeReqRegisterValues - 2) + m).toNat = 5 + m.toNat := by
    rw [UInt16.toNat_add, hfive]
    omega
  refine .bind (moveUint8Safe_returns _ (by decide)) <|
    .bind (swapAndMoveUint16Safe_returns _ (by decide)) <|
    .bind (swapAndMoveUint16Safe_returns _ (by decide)) <|
    .bind (moveUint8Safe_returns _ (by decide)) <|
    .bind (.store ?_) <| .bind (.ite_mem (fun _ => swap16ArrayFastSafe_returns base ?_)
      fun _ => .pure) <| prepares_crc ?_
  · rw [length_read]
    unfold modbusMasterBufferSize frameField writeReqRegisterValues
    omega
  · unfold modbusMasterBufferSize frameField writeReqRegisterValues
    omega
  · rw [hsize]
    omega

/-- **The branch that reads and writes.** -/
theorem masterPrepareToSendReadWrite_prepares (base : ℕ) (function : MbFunction)
    (memAddress n writeMemAddress nWrite : UInt16) (any : Mem) (hn : nWrite.toNat ≤ 121) :
    Prepares
      (masterPrepareToSendReadWrite base function memAddress n writeMemAddress nWrite any) buf
      (Solar48.masterPrepareToSendReadWrite base buf function memAddress n writeMemAddress nWrite
        any) := by
  have hm : (nWrite <<< 1).toNat = 2 * nWrite.toNat := toNat_shiftLeft_one (by omega)
  have hnine : (UInt16.ofNat (1 + readWriteReqWriteRegisterValues - 2)).toNat = 9 := rfl
  have hsize : (UInt16.ofNat (1 + readWriteReqWriteRegisterValues - 2) + nWrite <<< 1).toNat =
      9 + 2 * nWrite.toNat := by
    rw [UInt16.toNat_add, hnine, hm]
    omega
  refine .bind (moveUint8Safe_returns _ (by decide)) <|
    .bind (swapAndMoveUint16Safe_returns _ (by decide)) <|
    .bind (swapAndMoveUint16Safe_returns _ (by decide)) <|
    .bind (swapAndMoveUint16Safe_returns _ (by decide)) <|
    .bind (swapAndMoveUint16Safe_returns _ (by decide)) <|
    .bind (moveUint8Safe_returns _ (by decide)) <|
    .bind (.store ?_) <| .bind (swap16ArrayFastSafe_returns base ?_) <| prepares_crc ?_
  · rw [length_read, hm]
    unfold modbusMasterBufferSize frameField readWriteReqWriteRegisterValues
    omega
  · unfold modbusMasterBufferSize frameField readWriteReqWriteRegisterValues
    omega
  · rw [hsize]
    omega

/-- **No request goes over the end of the buffer.** -/
theorem masterPrepareToSend_prepares (base : ℕ) (slaveAddress : UInt8) (function : MbFunction)
    (memAddress n writeMemAddress nWrite : UInt16) (any : Mem) :
    Prepares
      (masterPrepareToSend base slaveAddress function memAddress n writeMemAddress nWrite any) buf
      (Solar48.masterPrepareToSend base buf slaveAddress function memAddress n writeMemAddress
        nWrite any) := by
  refine .ite fun _ => .bind (.store (Nat.le_add_left 1 256)) ?_
  cases function with
  | readCoils | readDiscreteInputs | readHoldingRegisters | readInputRegisters =>
      exact .ite fun _ => storeFixedRequest_prepares _ _ _
  | writeSingleRegister => exact storeFixedRequest_prepares _ _ _
  | writeSingleCoil =>
      simp only
      split
      · exact storeFixedRequest_prepares _ _ _
      · exact prepares_error _
  | writeMultipleCoils =>
      refine .ite fun hn => masterPrepareToSendWrite_prepares _ _ _ _ _ _ _ ?_ (by decide)
      have hle := UInt16.le_iff_toNat_le.1 (UInt16.not_lt.1 (not_or.1 hn).2)
      have hmax : (0x07B0 : UInt16).toNat = 1968 := rfl
      rw [toNat_bitBytes]
      omega
  | writeMultipleRegisters =>
      refine .ite fun hn => ?_
      have hle := UInt16.le_iff_toNat_le.1 (UInt16.not_lt.1 (not_or.1 hn).2)
      have hmax : (0x007B : UInt16).toNat = 123 := rfl
      have hm : (n <<< 1).toNat = 2 * n.toNat := toNat_shiftLeft_one (by omega)
      exact masterPrepareToSendWrite_prepares _ _ _ _ _ _ _ (by omega) (by omega)
  | readOrWriteMultipleRegisters =>
      refine .ite fun _ => .ite fun hn => ?_
      have hle := UInt16.le_iff_toNat_le.1 (UInt16.not_lt.1 (not_or.1 hn).2)
      have hmax : (0x0079 : UInt16).toNat = 121 := rfl
      exact masterPrepareToSendReadWrite_prepares _ _ _ _ _ _ _ (by omega)
  | _ => exact prepares_error _

/-! ### Receiving returns -/

theorem swapAndCompareUint16_returns {a : ℕ} (b : UInt16)
    (h : a + 2 ≤ modbusMasterBufferSize) :
    Returns (swapAndCompareUint16 a b) buf (Solar48.swapAndCompareUint16 buf a b) buf :=
  .bind (.load h) .pure

theorem readAndSwapUint16Safe_returns {a : ℕ} (h : a + 2 ≤ modbusMasterBufferSize) :
    Returns (readAndSwapUint16Safe a) buf (Solar48.readAndSwapUint16Safe buf a) buf :=
  .bind (.load8 (by omega)) (.bind (.load8 (by omega)) .pure)

theorem masterCheckException_returns (codes : ExceptionCodes) :
    Returns (masterCheckException codes) buf (Solar48.masterCheckException buf codes) buf :=
  .bind (.load16 (by decide)) <| .bind (crc16_returns (by decide)) <|
    .ite (fun _ => .pure) fun _ => .bind (.load8 (by decide)) <|
    .ite (fun _ => .bind (.load (by decide)) .pure) fun _ => .pure

/-- **A response with a byte count**: the CRC behind the data is in the buffer for all of them. -/
theorem masterCheckReceiveRead_returns (rtu : Solar48Rs485Rtu) (codes : ExceptionCodes)
    (least most : UInt8) (resizeVecSize : Bool) (hmost : most.toNat ≤ 251) :
    Returns (masterCheckReceiveRead rtu codes least most resizeVecSize) buf
      (Solar48.masterCheckReceiveRead rtu buf codes least most resizeVecSize) buf := by
  refine .bind (.load8 (by decide)) <| .ite (fun _ => masterCheckException_returns codes)
    fun _ => .ite (fun _ => .pure) fun _ => .bind (.load8 (by decide)) <| .ite (fun _ => .pure)
    fun hsize => ?_
  have hle : (buf (frameField respByteCount)).toNat ≤ 251 :=
    Nat.le_trans (UInt8.le_iff_toNat_le.1 (UInt8.not_lt.1 (not_or.1 hsize).2)) hmost
  have hbuffer : modbusMasterBufferSize = 257 := rfl
  have hstatus : respStatus = 2 := rfl
  have hfield : frameField respStatus = 3 := rfl
  have hlength : (UInt16.ofNat ((buf (frameField respByteCount)).toNat + respStatus + 1)).toNat =
      (buf (frameField respByteCount)).toNat + 3 := by
    rw [UInt16.toNat_ofNat', hstatus]
    omega
  refine .bind (.load16 ?_) <| .bind (crc16_returns ?_) <|
    .ite (fun _ => .bind (.load ?_) .pure) fun _ => .pure
  · rw [hfield, hbuffer]
    omega
  · rw [hlength, hbuffer]
    omega
  · rw [hfield, hbuffer]
    omega

theorem masterCheckReceiveEcho_returns (rtu : Solar48Rs485Rtu) (codes : ExceptionCodes)
    (addressMismatch : ℤ) :
    Returns (masterCheckReceiveEcho rtu codes addressMismatch) buf
      (Solar48.masterCheckReceiveEcho rtu buf codes addressMismatch) buf :=
  .bind (.load8 (by decide)) <| .ite (fun _ => masterCheckException_returns codes)
    fun _ => .ite (fun _ => .pure) fun _ =>
    .bind (swapAndCompareUint16_returns _ (by decide)) <| .ite (fun _ => .pure) fun _ =>
    .bind (readAndSwapUint16Safe_returns (by decide)) <| .ite (fun _ => .pure) fun _ =>
    .bind (.load16 (by decide)) <| .bind (crc16_returns (by decide)) <|
    .ite (fun _ => .pure) fun _ => .pure

/-- **No response is read behind the end of the buffer.** -/
theorem masterCheckReceive_returns (rtu : Solar48Rs485Rtu) :
    Returns (masterCheckReceive rtu) buf (masterCheckReceiveJudge rtu buf) buf := by
  refine .bind (.load32 (by decide)) <| .ite (fun _ => .pure) fun _ =>
    .bind (.load8 (by decide)) <| .ite (fun _ => .pure) fun _ => ?_
  cases rtu.function with
  | readCoils | readDiscreteInputs =>
      exact masterCheckReceiveRead_returns _ _ _ _ _ (by decide)
  | readHoldingRegisters | readInputRegisters | readOrWriteMultipleRegisters =>
      exact masterCheckReceiveRead_returns _ _ _ _ _ (by decide)
  | writeSingleCoil | writeSingleRegister | writeMultipleCoils | writeMultipleRegisters =>
      exact masterCheckReceiveEcho_returns _ _ _
  | _ => exact .pure

/-- **The buffer of the master is never over-run**: neither by a request, of which the size is the
one that is stored, nor by the check of a response. -/
theorem master_returns (base : ℕ) (buf : Mem) (slaveAddress : UInt8) (function : MbFunction)
    (memAddress n writeMemAddress nWrite : UInt16) (any : Mem) (rtu : Solar48Rs485Rtu) :
    Prepares
        (masterPrepareToSend base slaveAddress function memAddress n writeMemAddress nWrite any)
        buf
        (Solar48.masterPrepareToSend base buf slaveAddress function memAddress n writeMemAddress
          nWrite any) ∧
      Returns (masterCheckReceive rtu) buf (masterCheckReceiveJudge rtu buf) buf :=
  ⟨masterPrepareToSend_prepares base slaveAddress function memAddress n writeMemAddress nWrite any,
    masterCheckReceive_returns rtu⟩

end Bounded

end Solar48
