/-
**The response checker of the Modbus master.**

`master_check_receive` judges what is in `modbus_master_buffer` against the pending request in
`master_rs485_rtu`, and copies what it accepts into a buffer that only grows.  It is a switch over
the function code of the request with four labels behind it and a fifth one, the copy, behind
those.  A jump to the copy label is data here (`Solar48.MasterCheck.copyBuffer1`), so that judging
and copying are two functions.

Every label does the same thing: it looks at the head of the frame, which settles where the CRC
has to be, compares the CRC, and jumps.  `Solar48.expectedFrame` is that first part on its own,
and `Solar48.masterCheckReceiveJudge_eq` splits the judgement into it and the CRC.

The position of the CRC, the copy and the swap all follow the byte count *received*.  It is
compared with constants, never with the request, which is what
`Solar48.masterCheckReceive_matchesRequest_iff` is about.

Main definitions:

* `Solar48.Solar48Rs485Rtu` — the pending request;
* `Solar48.masterCheckReceiveJudge`, `Solar48.masterCheckReceive` — the code;
* `Solar48.expectedFrame` — what the head of a response promises;
* `Solar48.MatchesRequest`, `Solar48.AcceptedRead` — a read response and its size.
-/

import Solar48.Memory
import Solar48.Rs485Frame

set_option relaxedAutoImplicit false
set_option autoImplicit false

namespace Solar48

open ByteMem

/-! ### The code -/

/-- `SOLAR48_RS485_RTU`, the fields that describe the pending request and are compared with the
response. -/
structure Solar48Rs485Rtu where
  /-- `address`. -/
  address : UInt8
  /-- `function`. -/
  function : MbFunction
  /-- `mem_address`. -/
  memAddress : UInt16
  /-- `n_data_or_discrete`. -/
  nDataOrDiscrete : UInt16
  deriving DecidableEq, Repr

/-- How a label of `master_check_receive` ends: it returns a code, or it jumps to
`master_check_receive_copy_buffer1` with `ret_code`, the bytes at `ptr` (`u8_sz` of them) and
`resize_vec_size`. -/
inductive MasterCheck where
  | ret (code : ℤ)
  | copyBuffer1 (retCode : ℤ) (src : List UInt8) (resizeVecSize : Bool)
  deriving DecidableEq, Repr

/-- The body of the first `if` of every label, `RS485_CHECK_EXCEPTION_CRC` included. -/
def masterCheckException (buf : Mem) (codes : ExceptionCodes) : MasterCheck :=
  let crc := read16 buf (frameField pduExceptionSize)
  if crc16 buf 0 (UInt16.ofNat (pduExceptionSize + 1)) ≠ crc then
    .ret codes.errorInvalidExceptionCrc
  else
    let errorCode := readUint8 buf (frameField errorOrExceptionCode)
    if errorCode > 0 ∧ errorCode < 5 then
      .copyBuffer1 masterTransferSuccessWithErrorCode
        (read buf (frameField functionCode) pduExceptionSize) false
    else .ret codes.errorOnCatchException

/-- The three labels for read responses differ in the byte counts they let through and in whether
the data is made of half-words. -/
def masterCheckReceiveRead (rtu : Solar48Rs485Rtu) (buf : Mem) (codes : ExceptionCodes)
    (least most : UInt8) (resizeVecSize : Bool) : MasterCheck :=
  if readUint8 buf (frameField functionCode) = rtu.function.errorCode then
    masterCheckException buf codes
  else if readUint8 buf (frameField functionCode) ≠ rtu.function.code then
    .ret codes.errorUnexpectedFunction
  else
    -- the byte count received: it is compared with constants, not with the request
    let u8Sz := readUint8 buf (frameField respByteCount)
    if u8Sz < least ∨ u8Sz > most then .ret codes.errorInvalidDataSizeOrUnexpectedDiscrete
    else
      let crc := read16 buf (frameField respStatus + u8Sz.toNat)
      if crc16 buf 0 (UInt16.ofNat (u8Sz.toNat + respStatus + 1)) = crc then
        .copyBuffer1 masterTransferSuccess (read buf (frameField respStatus) u8Sz.toNat)
          resizeVecSize
      else .ret codes.errorInvalidCrc

/-- `master_check_receive_read_write`. -/
def masterCheckReceiveReadWrite (rtu : Solar48Rs485Rtu) (buf : Mem) (codes : ExceptionCodes) :
    MasterCheck :=
  masterCheckReceiveRead rtu buf codes 2 250 true

/-- `master_check_receive_read_register`. -/
def masterCheckReceiveReadRegister (rtu : Solar48Rs485Rtu) (buf : Mem) (codes : ExceptionCodes) :
    MasterCheck :=
  masterCheckReceiveRead rtu buf codes 2 250 true

/-- `master_check_receive_read_discrete`. -/
def masterCheckReceiveReadDiscrete (rtu : Solar48Rs485Rtu) (buf : Mem) (codes : ExceptionCodes) :
    MasterCheck :=
  masterCheckReceiveRead rtu buf codes 1 251 false

/-- The two labels for the responses that echo two half-words of the request differ in the code
for another address. -/
def masterCheckReceiveEcho (rtu : Solar48Rs485Rtu) (buf : Mem) (codes : ExceptionCodes)
    (addressMismatch : ℤ) : MasterCheck :=
  if readUint8 buf (frameField functionCode) = rtu.function.errorCode then
    masterCheckException buf codes
  else if readUint8 buf (frameField functionCode) ≠ rtu.function.code then
    .ret codes.errorUnexpectedFunction
  else if ¬ swapAndCompareUint16 buf (frameField startingAddress) rtu.memAddress then
    .ret addressMismatch
  else
    let u16Tmp := readAndSwapUint16Safe buf (frameField numberOfRegisters)
    if rtu.nDataOrDiscrete ≠ u16Tmp then .ret codes.errorInvalidDataSizeOrUnexpectedDiscrete
    else
      let crc := read16 buf (frameField pduReadReqSize)
      if crc16 buf 0 (UInt16.ofNat (1 + pduReadReqSize)) = crc then
        .copyBuffer1 masterTransferSuccess (bytes16 u16Tmp) false
      else .ret codes.errorInvalidCrc

/-- `master_check_receive_write`. -/
def masterCheckReceiveWrite (rtu : Solar48Rs485Rtu) (buf : Mem) (codes : ExceptionCodes) :
    MasterCheck :=
  masterCheckReceiveEcho rtu buf codes eReceivedWriteAddressMismatch

/-- `master_check_receive_write_discrete`. -/
def masterCheckReceiveWriteDiscrete (rtu : Solar48Rs485Rtu) (buf : Mem) (codes : ExceptionCodes) :
    MasterCheck :=
  masterCheckReceiveEcho rtu buf codes eReceivedWriteDiscreteAddressMismatch

/-- `master_check_receive`, up to the copy. -/
def masterCheckReceiveJudge (rtu : Solar48Rs485Rtu) (buf : Mem) : MasterCheck :=
  -- nothing has come since the buffer was invalidated
  if read32 buf 0 = 0 then .ret eMasterTimeoutOrNotRespondngReceiveSlaveAddress
  else if rtu.address ≠ buf 0 then .ret eMasterInvalidReceiveSlaveAddress
  else
    match rtu.function with
    | .readCoils => masterCheckReceiveReadDiscrete rtu buf (masterRs485ExceptionCode 0)
    | .readDiscreteInputs => masterCheckReceiveReadDiscrete rtu buf (masterRs485ExceptionCode 1)
    | .readHoldingRegisters => masterCheckReceiveReadRegister rtu buf (masterRs485ExceptionCode 2)
    | .readInputRegisters => masterCheckReceiveReadRegister rtu buf (masterRs485ExceptionCode 3)
    | .writeSingleCoil => masterCheckReceiveWriteDiscrete rtu buf (masterRs485ExceptionCode 4)
    | .writeSingleRegister => masterCheckReceiveWriteDiscrete rtu buf (masterRs485ExceptionCode 5)
    | .writeMultipleCoils => masterCheckReceiveWrite rtu buf (masterRs485ExceptionCode 6)
    | .writeMultipleRegisters => masterCheckReceiveWrite rtu buf (masterRs485ExceptionCode 7)
    | .readOrWriteMultipleRegisters =>
        masterCheckReceiveReadWrite rtu buf (masterRs485ExceptionCode 8)
    | .maskWriteRegister | .readFifoQueue | .readFileRecord | .writeFileRecord
    | .readExceptionStatus | .diagnostic | .getComEventCounter | .getComEventLog
    | .reportSlaveId | .readDeviceIndentification => .ret eUnimplementedModbusFunction
    | .mbFunctionUndefined => .ret eUnexpectedReceiveFunction

/-- What `master_check_receive` returns and stores: its return code, `*function`, the object at
`*data` (or `none` for a null pointer), `*data_size`, and `modbus_master_buffer_receive_dynamic`
afterwards. -/
structure CheckReceive where
  status : ℤ
  function : MbFunction
  data : Option Mem
  dataSize : UInt16
  dynamic : Solar48Mem

/-- `master_check_receive_copy_buffer1`. -/
def masterCheckReceiveCopyBuffer1 (heap : Heap) (dynamic : Solar48Mem) (function : MbFunction)
    (retCode : ℤ) (src : List UInt8) (resizeVecSize : Bool) : Except String CheckReceive :=
  let u8Sz := UInt8.ofNat src.length
  match solar48Mem heap dynamic u8Sz.toNat with
  | .error msg => .error msg
  | .ok dynamic =>
      match dynamic.memory with
      | some data =>
          let data := write data 0 src
          if resizeVecSize then
            -- an odd last byte has been copied, and is not counted
            let dataSize := (u8Sz >>> 1).toUInt16
            let data := swap16ArrayFast data 0 dataSize.toNat
            .ok { status := retCode, function, data := some data, dataSize,
                  dynamic := { dynamic with memory := some data } }
          else
            .ok { status := retCode, function, data := some data, dataSize := u8Sz.toUInt16,
                  dynamic := { dynamic with memory := some data } }
      | none => .error "mds:ckrcv1"

/-- `master_check_receive`. -/
def masterCheckReceive (rtu : Solar48Rs485Rtu) (buf : Mem) (heap : Heap) (dynamic : Solar48Mem) :
    Except String CheckReceive :=
  match masterCheckReceiveJudge rtu buf with
  | .ret code => .ok { status := code, function := rtu.function, data := none, dataSize := 0,
                       dynamic }
  | .copyBuffer1 retCode src resizeVecSize =>
      masterCheckReceiveCopyBuffer1 heap dynamic rtu.function retCode src resizeVecSize

/-- `_master_receive`, when a reception is complete: what the callback of the request is called
with. -/
def masterReceive (rtu : Solar48Rs485Rtu) (buf : Mem) (heap : Heap) (dynamic : Solar48Mem) :
    Except String CheckReceive :=
  match masterCheckReceive rtu buf heap dynamic with
  | .error msg => .error msg
  | .ok r =>
      if r.status = masterTransferSuccess ∨ r.status = masterTransferSuccessWithErrorCode then .ok r
      else if r.data.isSome then .error "_mrcv:mem2"
      else .ok { r with function := .mbFunctionUndefined, data := none, dataSize := 0 }

/-- What `master_send_req` stores of a request. -/
def MasterRequest.rtu (r : MasterRequest) : Solar48Rs485Rtu :=
  ⟨r.slaveAddress, r.function, r.memAddress, r.n⟩

/-! ### What the head of a response promises -/

/-- What a label expects once it has seen the head of a frame: the number of bytes before the CRC,
how it ends when the CRC is right, and the code when it is not. -/
structure ExpectedFrame where
  crcOffset : ℕ
  accepted : MasterCheck
  badCrc : ℤ
  deriving DecidableEq, Repr

/-- The kinds of response: a byte count between two bounds and as many bytes, or an echo. -/
inductive ResponseKind where
  | read (least most : UInt8) (resizeVecSize : Bool)
  | echo (addressMismatch : ℤ)
  deriving DecidableEq, Repr

/-- The kind of response a function has, and its row of status codes. -/
def MbFunction.response : MbFunction → Option (ResponseKind × ExceptionCodes)
  | .readCoils => some (.read 1 251 false, masterRs485ExceptionCode 0)
  | .readDiscreteInputs => some (.read 1 251 false, masterRs485ExceptionCode 1)
  | .readHoldingRegisters => some (.read 2 250 true, masterRs485ExceptionCode 2)
  | .readInputRegisters => some (.read 2 250 true, masterRs485ExceptionCode 3)
  | .writeSingleCoil =>
      some (.echo eReceivedWriteDiscreteAddressMismatch, masterRs485ExceptionCode 4)
  | .writeSingleRegister =>
      some (.echo eReceivedWriteDiscreteAddressMismatch, masterRs485ExceptionCode 5)
  | .writeMultipleCoils => some (.echo eReceivedWriteAddressMismatch, masterRs485ExceptionCode 6)
  | .writeMultipleRegisters =>
      some (.echo eReceivedWriteAddressMismatch, masterRs485ExceptionCode 7)
  | .readOrWriteMultipleRegisters => some (.read 2 250 true, masterRs485ExceptionCode 8)
  | _ => none

/-- The frame of an exception. -/
def exceptionFrame (buf : Mem) (codes : ExceptionCodes) : ExpectedFrame where
  crcOffset := 3
  accepted :=
    if buf 2 > 0 ∧ buf 2 < 5 then
      .copyBuffer1 masterTransferSuccessWithErrorCode [buf 1, buf 2] false
    else .ret codes.errorOnCatchException
  badCrc := codes.errorInvalidExceptionCrc

/-- The frame of a response that is no exception, or the code for its head. -/
def answerFrame (rtu : Solar48Rs485Rtu) (buf : Mem) (kind : ResponseKind)
    (codes : ExceptionCodes) : Except ℤ ExpectedFrame :=
  match kind with
  | .read least most resizeVecSize =>
      if buf 2 < least ∨ buf 2 > most then .error codes.errorInvalidDataSizeOrUnexpectedDiscrete
      else .ok
        { crcOffset := 3 + (buf 2).toNat
          accepted := .copyBuffer1 masterTransferSuccess (ByteMem.read buf 3 (buf 2).toNat)
            resizeVecSize
          badCrc := codes.errorInvalidCrc }
  | .echo addressMismatch =>
      if ByteMem.read buf 2 2 ≠ beBytes16 rtu.memAddress then .error addressMismatch
      else if ByteMem.read buf 4 2 ≠ beBytes16 rtu.nDataOrDiscrete then
        .error codes.errorInvalidDataSizeOrUnexpectedDiscrete
      else .ok
        { crcOffset := 6
          accepted := .copyBuffer1 masterTransferSuccess (bytes16 rtu.nDataOrDiscrete) false
          badCrc := codes.errorInvalidCrc }

/-- The frame of a function that has a response, once the address is right. -/
def headFrame (rtu : Solar48Rs485Rtu) (buf : Mem) (kind : ResponseKind) (codes : ExceptionCodes) :
    Except ℤ ExpectedFrame :=
  if buf 1 = rtu.function.errorCode then .ok (exceptionFrame buf codes)
  else if buf 1 ≠ rtu.function.code then .error codes.errorUnexpectedFunction
  else answerFrame rtu buf kind codes

/-- The frame that the head of the buffer promises, or the code for that head. -/
def expectedFrame (rtu : Solar48Rs485Rtu) (buf : Mem) : Except ℤ ExpectedFrame :=
  if read32 buf 0 = 0 then .error eMasterTimeoutOrNotRespondngReceiveSlaveAddress
  else if rtu.address ≠ buf 0 then .error eMasterInvalidReceiveSlaveAddress
  else
    match rtu.function.response with
    | some (kind, codes) =>
        headFrame rtu buf kind codes
    | none =>
        .error (if rtu.function = .mbFunctionUndefined then eUnexpectedReceiveFunction
          else eUnimplementedModbusFunction)

/-- The end of a label: the CRC decides. -/
def ExpectedFrame.check (fr : ExpectedFrame) (buf : Mem) : MasterCheck :=
  if ClosedAt buf fr.crcOffset then fr.accepted else .ret fr.badCrc

theorem ExpectedFrame.check_of_closedAt {fr : ExpectedFrame} {buf : Mem}
    (h : ClosedAt buf fr.crcOffset) : fr.check buf = fr.accepted := if_pos h

theorem ExpectedFrame.check_of_not_closedAt {fr : ExpectedFrame} {buf : Mem}
    (h : ¬ ClosedAt buf fr.crcOffset) : fr.check buf = .ret fr.badCrc := if_neg h

/-- The same for any way to compare the CRC. -/
theorem ExpectedFrame.check_eq_ite (fr : ExpectedFrame) {buf : Mem} {P : Prop} [Decidable P]
    (h : P ↔ ClosedAt buf fr.crcOffset) :
    fr.check buf = if P then fr.accepted else .ret fr.badCrc := by
  by_cases hc : ClosedAt buf fr.crcOffset
  · rw [check_of_closedAt hc, if_pos (h.2 hc)]
  · rw [check_of_not_closedAt hc, if_neg (mt h.1 hc)]

theorem masterCheckException_eq (buf : Mem) (codes : ExceptionCodes) :
    masterCheckException buf codes = (exceptionFrame buf codes).check buf := by
  have hcrc : crc16 buf 0 (UInt16.ofNat (pduExceptionSize + 1)) =
      read16 buf (frameField pduExceptionSize) ↔ ClosedAt buf 3 :=
    crc16_eq_read16_iff buf (by decide)
  rw [ExpectedFrame.check_eq_ite _ hcrc]
  exact ite_not _ _ _

/-- The head of a response, and then its CRC. -/
def judgeBy (buf : Mem) : Except ℤ ExpectedFrame → MasterCheck
  | .error code => .ret code
  | .ok fr => fr.check buf

theorem masterCheckReceiveRead_eq (rtu : Solar48Rs485Rtu) (buf : Mem) (codes : ExceptionCodes)
    (least most : UInt8) (resizeVecSize : Bool) :
    masterCheckReceiveRead rtu buf codes least most resizeVecSize =
      judgeBy buf (headFrame rtu buf (.read least most resizeVecSize) codes) := by
  have hlen : (buf 2).toNat < 256 := (buf 2).toNat_lt
  have hcrc : crc16 buf 0 (UInt16.ofNat ((buf 2).toNat + respStatus + 1)) =
      read16 buf (frameField respStatus + (buf 2).toNat) ↔ ClosedAt buf (3 + (buf 2).toNat) := by
    have hsize : (buf 2).toNat + respStatus + 1 = 3 + (buf 2).toNat := by
      simp only [respStatus]
      omega
    rw [hsize]
    exact crc16_eq_read16_iff buf (by omega)
  by_cases h₁ : buf 1 = rtu.function.errorCode
  · rw [headFrame, if_pos h₁, masterCheckReceiveRead, masterCheckException_eq]
    exact if_pos h₁
  by_cases h₂ : buf 1 ≠ rtu.function.code
  · rw [headFrame, if_neg h₁, if_pos h₂]
    exact (if_neg h₁).trans (if_pos h₂)
  by_cases h₃ : buf 2 < least ∨ buf 2 > most
  · rw [headFrame, if_neg h₁, if_neg h₂, answerFrame, if_pos h₃]
    exact (if_neg h₁).trans ((if_neg h₂).trans (if_pos h₃))
  rw [headFrame, if_neg h₁, if_neg h₂, answerFrame, if_neg h₃]
  have hcheck := ExpectedFrame.check_eq_ite ⟨3 + (buf 2).toNat, .copyBuffer1 masterTransferSuccess
    (read buf 3 (buf 2).toNat) resizeVecSize, codes.errorInvalidCrc⟩ hcrc
  exact (if_neg h₁).trans ((if_neg h₂).trans ((if_neg h₃).trans hcheck.symm))

/-- Two bytes are those of a half-word in network order. -/
theorem read_two_eq_beBytes16_iff (buf : Mem) (p : ℕ) (x : UInt16) :
    read buf p 2 = beBytes16 x ↔ buf p = hi x ∧ buf (p + 1) = lo x := by
  simp [read_succ, beBytes16]

theorem masterCheckReceiveEcho_eq (rtu : Solar48Rs485Rtu) (buf : Mem) (codes : ExceptionCodes)
    (addressMismatch : ℤ) :
    masterCheckReceiveEcho rtu buf codes addressMismatch =
      judgeBy buf (headFrame rtu buf (.echo addressMismatch) codes) := by
  have hcrc : crc16 buf 0 (UInt16.ofNat (1 + pduReadReqSize)) =
      read16 buf (frameField pduReadReqSize) ↔ ClosedAt buf 6 :=
    crc16_eq_read16_iff buf (by decide)
  have haddr : swapAndCompareUint16 buf (frameField startingAddress) rtu.memAddress = true ↔
      read buf 2 2 = beBytes16 rtu.memAddress := by
    rw [swapAndCompareUint16_iff, read_two_eq_beBytes16_iff]
    rfl
  have hnum : rtu.nDataOrDiscrete = readAndSwapUint16Safe buf (frameField numberOfRegisters) ↔
      read buf 4 2 = beBytes16 rtu.nDataOrDiscrete := by
    rw [readAndSwapUint16Safe_eq, eq_comm, le16_eq_iff, read_two_eq_beBytes16_iff, and_comm]
    rfl
  by_cases h₁ : buf 1 = rtu.function.errorCode
  · rw [headFrame, if_pos h₁, masterCheckReceiveEcho, masterCheckException_eq]
    exact if_pos h₁
  by_cases h₂ : buf 1 ≠ rtu.function.code
  · rw [headFrame, if_neg h₁, if_pos h₂]
    exact (if_neg h₁).trans (if_pos h₂)
  by_cases h₃ : read buf 2 2 ≠ beBytes16 rtu.memAddress
  · rw [headFrame, if_neg h₁, if_neg h₂, answerFrame, if_pos h₃]
    exact (if_neg h₁).trans ((if_neg h₂).trans (if_pos (mt haddr.1 h₃)))
  by_cases h₄ : read buf 4 2 ≠ beBytes16 rtu.nDataOrDiscrete
  · rw [headFrame, if_neg h₁, if_neg h₂, answerFrame, if_neg h₃, if_pos h₄]
    exact (if_neg h₁).trans ((if_neg h₂).trans
      ((if_neg (not_not_intro (haddr.2 (not_not.1 h₃)))).trans (if_pos (mt hnum.1 h₄))))
  have hn := hnum.2 (not_not.1 h₄)
  rw [headFrame, if_neg h₁, if_neg h₂, answerFrame, if_neg h₃, if_neg h₄]
  have hcheck := ExpectedFrame.check_eq_ite ⟨6, .copyBuffer1 masterTransferSuccess
    (bytes16 rtu.nDataOrDiscrete) false, codes.errorInvalidCrc⟩ hcrc
  have hsame := haddr.2 (not_not.1 h₃)
  refine (if_neg h₁).trans ((if_neg h₂).trans
    ((if_neg (not_not_intro hsame)).trans ((if_neg (not_not_intro hn)).trans ?_)))
  rw [← hn]
  exact hcheck.symm

/-- **The checker looks at the head of the frame and then at its CRC.** -/
theorem masterCheckReceiveJudge_eq (rtu : Solar48Rs485Rtu) (buf : Mem) :
    masterCheckReceiveJudge rtu buf = judgeBy buf (expectedFrame rtu buf) := by
  unfold masterCheckReceiveJudge expectedFrame
  by_cases h₁ : read32 buf 0 = 0
  · rw [if_pos h₁, if_pos h₁]
    rfl
  by_cases h₂ : rtu.address ≠ buf 0
  · rw [if_neg h₁, if_neg h₁, if_pos h₂, if_pos h₂]
    rfl
  rw [if_neg h₁, if_neg h₁, if_neg h₂, if_neg h₂]
  cases hf : rtu.function <;>
    simp only [MbFunction.response, masterCheckReceiveReadDiscrete, masterCheckReceiveReadRegister,
      masterCheckReceiveReadWrite, masterCheckReceiveWrite, masterCheckReceiveWriteDiscrete,
      masterCheckReceiveRead_eq, masterCheckReceiveEcho_eq] <;>
    rfl

theorem headFrame_eq_ok_iff {rtu : Solar48Rs485Rtu} {buf : Mem} {kind : ResponseKind}
    {codes : ExceptionCodes} {fr : ExpectedFrame} :
    headFrame rtu buf kind codes = .ok fr ↔
      (buf 1 = rtu.function.errorCode ∧ fr = exceptionFrame buf codes) ∨
        (buf 1 = rtu.function.code ∧ answerFrame rtu buf kind codes = .ok fr) := by
  have hne := rtu.function.errorCode_ne_code
  unfold headFrame
  by_cases h₁ : buf 1 = rtu.function.errorCode
  · simp [h₁, hne, eq_comm]
  · by_cases h₂ : buf 1 = rtu.function.code
    · simp [h₂, hne.symm]
    · simp [h₁, h₂]

/-- When the head of a buffer promises a frame. -/
theorem expectedFrame_eq_ok_iff {rtu : Solar48Rs485Rtu} {buf : Mem} {fr : ExpectedFrame} :
    expectedFrame rtu buf = .ok fr ↔
      read32 buf 0 ≠ 0 ∧ buf 0 = rtu.address ∧ ∃ kind codes,
        rtu.function.response = some (kind, codes) ∧ headFrame rtu buf kind codes = .ok fr := by
  unfold expectedFrame
  by_cases h₁ : read32 buf 0 = 0
  · simp [h₁]
  by_cases h₂ : rtu.address = buf 0
  · cases hf : rtu.function.response with
    | none => simp [h₁, h₂]
    | some p =>
        obtain ⟨kind, codes⟩ := p
        simp [h₁, h₂]
  · simp [h₁, h₂, Ne.symm h₂]

/-- When a response goes to the copy. -/
theorem masterCheckReceiveJudge_eq_copyBuffer1_iff {rtu : Solar48Rs485Rtu} {buf : Mem} {c : ℤ}
    {src : List UInt8} {rz : Bool} :
    masterCheckReceiveJudge rtu buf = .copyBuffer1 c src rz ↔
      ∃ fr, expectedFrame rtu buf = .ok fr ∧ ClosedAt buf fr.crcOffset ∧
        fr.accepted = .copyBuffer1 c src rz := by
  rw [masterCheckReceiveJudge_eq]
  cases h : expectedFrame rtu buf with
  | error e => simp [judgeBy]
  | ok fr =>
      by_cases hc : ClosedAt buf fr.crcOffset
      · simp [judgeBy, ExpectedFrame.check_of_closedAt hc, hc]
      · simp [judgeBy, ExpectedFrame.check_of_not_closedAt hc, hc]

/-! ### Status codes -/

/-- A judgement whose code fits: a failure is returned, a success is copied. -/
def MasterCheck.Sound : MasterCheck → Prop
  | .ret code => IsFailure code
  | .copyBuffer1 retCode src _ =>
      (retCode = masterTransferSuccess ∨ retCode = masterTransferSuccessWithErrorCode) ∧
        0 < src.length ∧ src.length < 256

/-- A frame that ends in a sound judgement either way, and not in the same one. -/
structure ExpectedFrame.Sound (fr : ExpectedFrame) : Prop where
  accepted : fr.accepted.Sound
  badCrc : IsFailure fr.badCrc
  accepted_ne : fr.accepted ≠ .ret fr.badCrc

/-- Bounds that let no zero through, and a code that says that the transfer failed. -/
def ResponseKind.WellFormed : ResponseKind → Prop
  | .read least most _ => 1 ≤ least ∧ most ≤ 251
  | .echo addressMismatch => IsFailure addressMismatch

theorem MbFunction.response_wellFormed {f : MbFunction} {kind : ResponseKind}
    {codes : ExceptionCodes} (h : f.response = some (kind, codes)) :
    kind.WellFormed ∧ codes.WellFormed := by
  cases f <;> simp only [response, Option.some.injEq, Prod.mk.injEq, reduceCtorEq] at h <;>
    obtain ⟨rfl, rfl⟩ := h <;>
    exact ⟨by simp only [ResponseKind.WellFormed]; decide, masterRs485ExceptionCode_wellFormed _⟩

/-- A failure code, or a frame that is sound. -/
def SoundHead : Except ℤ ExpectedFrame → Prop
  | .error code => IsFailure code
  | .ok fr => fr.Sound

theorem exceptionFrame_sound {codes : ExceptionCodes} (h : codes.WellFormed) (buf : Mem) :
    (exceptionFrame buf codes).Sound := by
  refine ⟨?_, h.errorInvalidExceptionCrc, ?_⟩
  · unfold exceptionFrame
    dsimp only
    split
    · exact ⟨Or.inr rfl, by simp, by simp⟩
    · exact h.errorOnCatchException
  · unfold exceptionFrame
    dsimp only
    split
    · simp
    · simp [h.invalidExceptionCrc_ne.symm]

theorem answerFrame_sound (rtu : Solar48Rs485Rtu) (buf : Mem) {kind : ResponseKind}
    {codes : ExceptionCodes} (hk : kind.WellFormed) (h : codes.WellFormed) :
    SoundHead (answerFrame rtu buf kind codes) := by
  cases kind with
  | read least most rz =>
      unfold answerFrame
      dsimp only
      split
      · exact h.errorInvalidDataSizeOrUnexpectedDiscrete
      · rename_i hb
        have hleast := UInt8.le_iff_toNat_le.1 hk.1
        have hcount := UInt8.le_iff_toNat_le.1 (UInt8.not_lt.1 (mt Or.inl hb))
        have h1 : (1 : UInt8).toNat = 1 := rfl
        have hlt := (buf 2).toNat_lt
        exact ⟨⟨Or.inl rfl, by rw [length_read]; omega, by rw [length_read]; omega⟩,
          h.errorInvalidCrc, by simp⟩
  | echo addressMismatch =>
      unfold answerFrame
      dsimp only
      split
      · exact hk
      split
      · exact h.errorInvalidDataSizeOrUnexpectedDiscrete
      · exact ⟨⟨Or.inl rfl, by simp, by simp⟩, h.errorInvalidCrc, by simp⟩

/-- Whatever the head of a response is, its codes fit. -/
theorem expectedFrame_sound (rtu : Solar48Rs485Rtu) (buf : Mem) :
    SoundHead (expectedFrame rtu buf) := by
  unfold expectedFrame
  split
  · simp only [SoundHead]
    decide
  split
  · simp only [SoundHead]
    decide
  split
  · rename_i kind codes hresp
    obtain ⟨hkind, hcodes⟩ := MbFunction.response_wellFormed hresp
    unfold headFrame
    split
    · exact exceptionFrame_sound hcodes buf
    split
    · exact hcodes.errorUnexpectedFunction
    · exact answerFrame_sound rtu buf hkind hcodes
  · simp only [SoundHead]
    split <;> decide

/-- **A success code comes with data, and only then.** -/
theorem masterCheckReceiveJudge_sound (rtu : Solar48Rs485Rtu) (buf : Mem) :
    (masterCheckReceiveJudge rtu buf).Sound := by
  rw [masterCheckReceiveJudge_eq]
  have hsound := expectedFrame_sound rtu buf
  cases h : expectedFrame rtu buf with
  | error e =>
      rw [h] at hsound
      exact hsound
  | ok fr =>
      rw [h] at hsound
      by_cases hc : ClosedAt buf fr.crcOffset
      · rw [judgeBy, ExpectedFrame.check_of_closedAt hc]
        exact hsound.accepted
      · rw [judgeBy, ExpectedFrame.check_of_not_closedAt hc]
        exact hsound.badCrc

/-! ### The copy -/

/-- The bytes a judgement hands over. -/
def delivered (src : List UInt8) (resizeVecSize : Bool) : List UInt8 :=
  if resizeVecSize then swapPairs src else src

@[simp] theorem length_delivered (src : List UInt8) (resizeVecSize : Bool) :
    (delivered src resizeVecSize).length = src.length := by
  cases resizeVecSize with
  | true => exact length_swapPairs src
  | false => rfl

/-- Their number, as the receiver is told it: of half-words, or of bytes. -/
def deliveredSize (src : List UInt8) (resizeVecSize : Bool) : ℕ :=
  if resizeVecSize then src.length / 2 else src.length

theorem deliveredSize_le (src : List UInt8) (resizeVecSize : Bool) :
    deliveredSize src resizeVecSize ≤ src.length := by
  cases resizeVecSize with
  | true => exact Nat.div_le_self _ _
  | false => exact Nat.le_refl _

/-- **What is copied is what was judged**, in the byte order of the machine. -/
theorem masterCheckReceiveCopyBuffer1_eq {heap : Heap} {dynamic dynamic' : Solar48Mem} {m : Mem}
    (function : MbFunction) (retCode : ℤ) {src : List UInt8} (resizeVecSize : Bool)
    (hlen : src.length < 256) (hmem : solar48Mem heap dynamic src.length = .ok dynamic')
    (hm : dynamic'.memory = some m) :
    masterCheckReceiveCopyBuffer1 heap dynamic function retCode src resizeVecSize =
      .ok { status := retCode, function
            data := some (write m 0 (delivered src resizeVecSize))
            dataSize := UInt16.ofNat (deliveredSize src resizeVecSize)
            dynamic :=
              { dynamic' with memory := some (write m 0 (delivered src resizeVecSize)) } } := by
  have hsz : (UInt8.ofNat src.length).toNat = src.length := UInt8.toNat_ofNat_of_lt' hlen
  have hhalf : (UInt8.ofNat src.length >>> 1).toUInt16 = UInt16.ofNat (src.length / 2) := by
    refine UInt16.toNat_inj.1 ?_
    have h1 : (1 : UInt8).toNat % 8 = 1 := rfl
    rw [UInt8.toNat_toUInt16, UInt8.toNat_shiftRight, hsz, h1, Nat.shiftRight_eq_div_pow,
      UInt16.toNat_ofNat']
    omega
  have hhalf' : (UInt16.ofNat (src.length / 2)).toNat = src.length / 2 := by
    rw [UInt16.toNat_ofNat']
    omega
  have hfull : (UInt8.ofNat src.length).toUInt16 = UInt16.ofNat src.length := by
    refine UInt16.toNat_inj.1 ?_
    rw [UInt8.toNat_toUInt16, hsz, UInt16.toNat_ofNat']
    omega
  simp only [masterCheckReceiveCopyBuffer1, hsz, hmem, hm]
  cases resizeVecSize with
  | true => simp [delivered, deliveredSize, hhalf, hhalf', swap16ArrayFast_write]
  | false => simp [delivered, deliveredSize, hfull]

/-- The code returned is the code of the judgement. -/
theorem masterCheckReceive_status {rtu : Solar48Rs485Rtu} {buf : Mem} {heap : Heap}
    {dynamic : Solar48Mem} {r : CheckReceive}
    (h : masterCheckReceive rtu buf heap dynamic = .ok r) :
    masterCheckReceiveJudge rtu buf = .ret r.status ∨
      ∃ src rz, masterCheckReceiveJudge rtu buf = .copyBuffer1 r.status src rz := by
  unfold masterCheckReceive at h
  split at h
  · rename_i code hj
    obtain rfl := Except.ok.inj h
    exact Or.inl hj
  · rename_i retCode src rz hj
    refine Or.inr ⟨src, rz, ?_⟩
    rw [hj]
    unfold masterCheckReceiveCopyBuffer1 at h
    dsimp only at h
    split at h
    · cases h
    · split at h
      · split at h <;> obtain rfl := Except.ok.inj h <;> rfl
      · cases h

/-- Whatever goes to the copy is returned, if the buffer can hold it. -/
theorem masterCheckReceive_of_copyBuffer1 {rtu : Solar48Rs485Rtu} {buf : Mem} {heap : Heap}
    {dynamic dynamic' : Solar48Mem} {c : ℤ} {src : List UInt8} {rz : Bool}
    (hj : masterCheckReceiveJudge rtu buf = .copyBuffer1 c src rz)
    (hmem : solar48Mem heap dynamic src.length = .ok dynamic') :
    ∃ m dynamic'', masterCheckReceive rtu buf heap dynamic =
      .ok { status := c, function := rtu.function, data := some (write m 0 (delivered src rz))
            dataSize := UInt16.ofNat (deliveredSize src rz), dynamic := dynamic'' } := by
  have hsound := masterCheckReceiveJudge_sound rtu buf
  rw [hj] at hsound
  obtain ⟨-, hpos, hlt⟩ := hsound
  obtain ⟨m, hm⟩ := solar48Mem_ok (Nat.ne_of_gt hpos) hmem
  refine ⟨m, { dynamic' with memory := some (write m 0 (delivered src rz)) }, ?_⟩
  rw [masterCheckReceive, hj]
  exact masterCheckReceiveCopyBuffer1_eq rtu.function c rz hlt hmem hm

/-- A call that returns what was copied had room for it. -/
theorem solar48Mem_of_masterCheckReceive {rtu : Solar48Rs485Rtu} {buf : Mem} {heap : Heap}
    {dynamic : Solar48Mem} {c : ℤ} {src : List UInt8} {rz : Bool} {r : CheckReceive}
    (hj : masterCheckReceiveJudge rtu buf = .copyBuffer1 c src rz)
    (hr : masterCheckReceive rtu buf heap dynamic = .ok r) :
    ∃ dynamic', solar48Mem heap dynamic src.length = .ok dynamic' := by
  have hsound := masterCheckReceiveJudge_sound rtu buf
  rw [hj] at hsound
  have hsize : (UInt8.ofNat src.length).toNat = src.length :=
    UInt8.toNat_ofNat_of_lt' hsound.2.2
  cases hmem : solar48Mem heap dynamic src.length with
  | ok dynamic' => exact ⟨dynamic', rfl⟩
  | error msg =>
      rw [masterCheckReceive, hj] at hr
      simp only [masterCheckReceiveCopyBuffer1, hsize, hmem] at hr
      cases hr

/-- A success is handed on. -/
theorem masterReceive_of_success {rtu : Solar48Rs485Rtu} {buf : Mem} {heap : Heap}
    {dynamic : Solar48Mem} {r : CheckReceive}
    (h : masterCheckReceive rtu buf heap dynamic = .ok r)
    (hs : r.status = masterTransferSuccess ∨ r.status = masterTransferSuccessWithErrorCode) :
    masterReceive rtu buf heap dynamic = .ok r := by
  rw [masterReceive, h]
  exact if_pos hs

/-- A failure comes without data. -/
theorem masterReceive_of_failure {rtu : Solar48Rs485Rtu} {buf : Mem} {heap : Heap}
    {dynamic : Solar48Mem} {r : CheckReceive}
    (h : masterCheckReceive rtu buf heap dynamic = .ok r) (hf : IsFailure r.status)
    (hd : r.data = none) : masterReceive rtu buf heap dynamic =
      .ok { r with function := .mbFunctionUndefined, data := none, dataSize := 0 } := by
  have hs : ¬ (r.status = masterTransferSuccess ∨ r.status = masterTransferSuccessWithErrorCode) :=
    not_or.2 hf
  have hnone : ¬ r.data.isSome = true := by simp [hd]
  rw [masterReceive, h]
  exact (if_neg hs).trans (if_neg hnone)

/-- What becomes of the buffer for responses: nothing, or what was judged is copied to its start. -/
theorem masterReceive_dynamic {rtu : Solar48Rs485Rtu} {buf : Mem} {heap : Heap}
    {dynamic : Solar48Mem} {r : CheckReceive} (h : masterReceive rtu buf heap dynamic = .ok r) :
    (∃ code, masterCheckReceiveJudge rtu buf = .ret code ∧ r.dynamic = dynamic) ∨
      ∃ c src rz dynamic' m, masterCheckReceiveJudge rtu buf = .copyBuffer1 c src rz ∧
        solar48Mem heap dynamic src.length = .ok dynamic' ∧ dynamic'.memory = some m ∧
          r.dynamic = { dynamic' with memory := some (write m 0 (delivered src rz)) } := by
  obtain ⟨r', hr', hdynamic⟩ : ∃ r', masterCheckReceive rtu buf heap dynamic = .ok r' ∧
      r.dynamic = r'.dynamic := by
    unfold masterReceive at h
    split at h
    · cases h
    · rename_i r' hr
      refine ⟨r', hr, ?_⟩
      split at h
      · rw [Except.ok.inj h]
      · split at h
        · cases h
        · rw [← Except.ok.inj h]
  rw [hdynamic]
  have hsound := masterCheckReceiveJudge_sound rtu buf
  cases hj : masterCheckReceiveJudge rtu buf with
  | ret code =>
      rw [masterCheckReceive, hj] at hr'
      obtain rfl := Except.ok.inj hr'
      exact Or.inl ⟨code, rfl, rfl⟩
  | copyBuffer1 c src rz =>
      rw [hj] at hsound
      obtain ⟨-, hpos, hlt⟩ := hsound
      obtain ⟨dynamic', hmem⟩ := solar48Mem_of_masterCheckReceive hj hr'
      obtain ⟨m, hm⟩ := solar48Mem_ok (Nat.ne_of_gt hpos) hmem
      have hcopy := masterCheckReceiveCopyBuffer1_eq rtu.function c rz hlt hmem hm
      rw [masterCheckReceive, hj] at hr'
      obtain rfl := Except.ok.inj (hcopy.symm.trans hr')
      exact Or.inr ⟨c, src, rz, dynamic', m, rfl, hmem, hm, rfl⟩

/-- Without a verdict there is no callback. -/
theorem masterReceive_of_error {rtu : Solar48Rs485Rtu} {buf : Mem} {heap : Heap}
    {dynamic : Solar48Mem} {msg : String}
    (h : masterCheckReceive rtu buf heap dynamic = .error msg) :
    masterReceive rtu buf heap dynamic = .error msg := by
  rw [masterReceive, h]

/-! ### The size of a read response -/

/-- The functions that read. -/
def readFunctions : List MbFunction :=
  [.readCoils, .readDiscreteInputs, .readHoldingRegisters, .readInputRegisters,
    .readOrWriteMultipleRegisters]

/-- The number of elements a read request asks for: registers, or bytes of eight bits. -/
def requestedSize (rtu : Solar48Rs485Rtu) : ℕ :=
  match rtu.function with
  | .readCoils | .readDiscreteInputs => (rtu.nDataOrDiscrete.toNat + 7) / 8
  | _ => rtu.nDataOrDiscrete.toNat

/-- The number of bytes that they take. -/
def requestedBytes (rtu : Solar48Rs485Rtu) : ℕ :=
  match rtu.function with
  | .readCoils | .readDiscreteInputs => (rtu.nDataOrDiscrete.toNat + 7) / 8
  | _ => 2 * rtu.nDataOrDiscrete.toNat

/-- If the checker reports success, the size it hands over and the byte count it went by are the
ones that were asked for. -/
def MatchesRequest (rtu : Solar48Rs485Rtu) (buf : Mem) (heap : Heap) (dynamic : Solar48Mem) :
    Prop :=
  ∀ r, masterCheckReceive rtu buf heap dynamic = .ok r → r.status = masterTransferSuccess →
    r.dataSize.toNat = requestedSize rtu ∧ (buf 2).toNat = requestedBytes rtu

/-- The buffer starts with a response of the slave to the function of the request, with a byte
count that the label lets through and with a right CRC. -/
def AcceptedRead (rtu : Solar48Rs485Rtu) (buf : Mem) : Prop :=
  match rtu.function.response with
  | some (.read least most _, _) =>
      buf 0 = rtu.address ∧ buf 1 = rtu.function.code ∧ least ≤ buf 2 ∧ buf 2 ≤ most ∧
        ClosedAt buf (3 + (buf 2).toNat)
  | _ => False

/-- No function that is answered has the code zero. -/
theorem MbFunction.code_ne_zero {f : MbFunction} {x : ResponseKind × ExceptionCodes}
    (h : f.response = some x) : f.code ≠ 0 := by
  cases f <;> first | decide | simp [response] at h

theorem answerFrame_read_eq_ok_iff {rtu : Solar48Rs485Rtu} {buf : Mem} {least most : UInt8}
    {rz : Bool} {codes : ExceptionCodes} {fr : ExpectedFrame} :
    answerFrame rtu buf (.read least most rz) codes = .ok fr ↔
      least ≤ buf 2 ∧ buf 2 ≤ most ∧
        fr = ⟨3 + (buf 2).toNat, .copyBuffer1 masterTransferSuccess
          (read buf 3 (buf 2).toNat) rz, codes.errorInvalidCrc⟩ := by
  unfold answerFrame
  dsimp only
  by_cases h : buf 2 < least ∨ buf 2 > most
  · rw [if_pos h]
    refine ⟨by rintro ⟨⟩, fun ⟨hl, hm, _⟩ => ?_⟩
    rcases h with h | h
    · exact absurd h (UInt8.not_lt.2 hl)
    · exact absurd h (UInt8.not_lt.2 hm)
  · rw [if_neg h]
    have hl := UInt8.not_lt.1 (mt Or.inl h)
    have hm := UInt8.not_lt.1 (mt Or.inr h)
    simp [hl, hm, eq_comm]

/-- **A read is reported as a success exactly when the buffer starts with an accepted response**,
and then its data goes to the copy. -/
theorem masterCheckReceiveJudge_eq_success_iff {rtu : Solar48Rs485Rtu} {buf : Mem}
    {least most : UInt8} {rz rz' : Bool} {codes : ExceptionCodes} {src : List UInt8}
    (hf : rtu.function.response = some (.read least most rz, codes)) :
    masterCheckReceiveJudge rtu buf = .copyBuffer1 masterTransferSuccess src rz' ↔
      AcceptedRead rtu buf ∧ src = read buf 3 (buf 2).toNat ∧ rz' = rz := by
  simp only [masterCheckReceiveJudge_eq_copyBuffer1_iff, expectedFrame_eq_ok_iff,
    headFrame_eq_ok_iff, AcceptedRead, hf]
  constructor
  · rintro ⟨fr, ⟨-, h₀, kind, codes', hk, hhead⟩, hc, hacc⟩
    obtain ⟨rfl, rfl⟩ : ResponseKind.read least most rz = kind ∧ codes = codes' := by simpa using hk
    rcases hhead with ⟨-, rfl⟩ | ⟨h₁, hans⟩
    · -- an exception has another code
      unfold exceptionFrame at hacc
      dsimp only at hacc
      split at hacc <;> cases hacc
    · obtain ⟨hl, hm, rfl⟩ := answerFrame_read_eq_ok_iff.1 hans
      cases hacc
      exact ⟨⟨h₀, h₁, hl, hm, hc⟩, rfl, rfl⟩
  · rintro ⟨⟨h₀, h₁, hl, hm, hc⟩, rfl, rfl⟩
    refine ⟨_, ⟨?_, h₀, _, _, rfl,
      Or.inr ⟨h₁, answerFrame_read_eq_ok_iff.2 ⟨hl, hm, rfl⟩⟩⟩, hc, rfl⟩
    rw [Ne, read32_eq_zero_iff]
    rintro ⟨-, hz, -⟩
    exact MbFunction.code_ne_zero hf (h₁.symm.trans hz)

/-- The functions that read have a byte count in their response. -/
theorem response_of_mem_readFunctions {f : MbFunction} (h : f ∈ readFunctions) :
    ∃ least most rz codes, f.response = some (.read least most rz, codes) := by
  simp only [readFunctions, List.mem_cons, List.not_mem_nil, or_false] at h
  rcases h with rfl | rfl | rfl | rfl | rfl <;> exact ⟨_, _, _, _, rfl⟩

/-- The byte count of a read response has the right size when it is the right number of bytes. -/
theorem deliveredSize_of_requestedBytes {rtu : Solar48Rs485Rtu} {least most : UInt8} {rz : Bool}
    {codes : ExceptionCodes} (hf : rtu.function.response = some (.read least most rz, codes))
    {src : List UInt8} (h : src.length = requestedBytes rtu) :
    deliveredSize src rz = requestedSize rtu := by
  cases hfun : rtu.function <;> rw [hfun] at hf <;>
    simp only [MbFunction.response, Option.some.injEq, Prod.mk.injEq, ResponseKind.read.injEq,
      reduceCtorEq, false_and] at hf <;>
    obtain ⟨⟨-, -, rfl⟩, -⟩ := hf <;>
    simp [deliveredSize, requestedSize, requestedBytes, hfun] at h ⊢ <;> omega

/-- **What a successful read hands over**: there was room for as many bytes as the byte count says,
and they are counted. -/
theorem masterCheckReceive_success_iff {rtu : Solar48Rs485Rtu} {buf : Mem} {heap : Heap}
    {dynamic : Solar48Mem} {least most : UInt8} {rz : Bool} {codes : ExceptionCodes} {n : UInt16}
    (hf : rtu.function.response = some (.read least most rz, codes)) :
    (∃ r, masterCheckReceive rtu buf heap dynamic = .ok r ∧ r.status = masterTransferSuccess ∧
        r.dataSize = n) ↔
      AcceptedRead rtu buf ∧ (∃ dynamic', solar48Mem heap dynamic (buf 2).toNat = .ok dynamic') ∧
        n = UInt16.ofNat (deliveredSize (read buf 3 (buf 2).toNat) rz) := by
  constructor
  · rintro ⟨r, hr, hs, rfl⟩
    rcases masterCheckReceive_status hr with hret | ⟨src, rz', hcopy⟩
    · have hsound := masterCheckReceiveJudge_sound rtu buf
      rw [hret] at hsound
      exact absurd hs hsound.1
    · obtain ⟨dynamic', hmem⟩ := solar48Mem_of_masterCheckReceive hcopy hr
      obtain ⟨m, d, hret⟩ := masterCheckReceive_of_copyBuffer1 hcopy hmem
      rw [hs] at hcopy
      obtain ⟨hacc, rfl, rfl⟩ := (masterCheckReceiveJudge_eq_success_iff hf).1 hcopy
      have hsize := congrArg CheckReceive.dataSize (Except.ok.inj (hret.symm.trans hr))
      rw [length_read] at hmem
      exact ⟨hacc, ⟨dynamic', hmem⟩, hsize.symm⟩
  · rintro ⟨hacc, ⟨dynamic', hmem⟩, rfl⟩
    have hcopy := (masterCheckReceiveJudge_eq_success_iff hf).2 ⟨hacc, rfl, rfl⟩
    have hmem' : solar48Mem heap dynamic (read buf 3 (buf 2).toNat).length = .ok dynamic' := by
      rw [length_read, hmem]
    obtain ⟨m, d, hret⟩ := masterCheckReceive_of_copyBuffer1 hcopy hmem'
    exact ⟨_, hret, rfl, rfl⟩

/-- **A read response has the size that was asked for exactly when its byte count does**: nothing
in the checker compares the two. -/
theorem masterCheckReceive_matchesRequest_iff (rtu : Solar48Rs485Rtu) (buf : Mem) (heap : Heap)
    (dynamic : Solar48Mem) (hf : rtu.function ∈ readFunctions) :
    MatchesRequest rtu buf heap dynamic ↔
      ¬ AcceptedRead rtu buf ∨ (∃ msg, solar48Mem heap dynamic (buf 2).toNat = .error msg) ∨
        (buf 2).toNat = requestedBytes rtu := by
  obtain ⟨least, most, rz, codes, hresp⟩ := response_of_mem_readFunctions hf
  have hlt := (buf 2).toNat_lt
  have hle : deliveredSize (read buf 3 (buf 2).toNat) rz ≤ (buf 2).toNat := by
    simpa using deliveredSize_le (read buf 3 (buf 2).toNat) rz
  have hdelivered : ∀ n, (∃ r, masterCheckReceive rtu buf heap dynamic = .ok r ∧
      r.status = masterTransferSuccess ∧ r.dataSize = n) ↔ _ :=
    fun _ => masterCheckReceive_success_iff hresp
  constructor
  · intro h
    by_contra hcon
    simp only [not_or, not_not, not_exists] at hcon
    obtain ⟨hacc, hroom, hbytes⟩ := hcon
    cases hmem : solar48Mem heap dynamic (buf 2).toNat with
    | error msg => exact hroom msg hmem
    | ok dynamic' =>
        obtain ⟨r, hr, hs, -⟩ := (hdelivered _).2 ⟨hacc, ⟨dynamic', hmem⟩, rfl⟩
        exact hbytes (h r hr hs).2
  · intro h r hr hs
    obtain ⟨hacc, ⟨dynamic', hmem⟩, hsize⟩ := (hdelivered r.dataSize).1 ⟨r, hr, hs, rfl⟩
    rcases h with h | ⟨msg, h⟩ | hbytes
    · exact absurd hacc h
    · rw [hmem] at h
      cases h
    · have hreq : deliveredSize (read buf 3 (buf 2).toNat) rz = requestedSize rtu :=
        deliveredSize_of_requestedBytes hresp (by simpa using hbytes)
      refine ⟨?_, hbytes⟩
      rw [hsize, UInt16.toNat_ofNat', ← hreq]
      omega

/-- One register was asked for, two come back. -/
theorem masterCheckReceive_two_registers :
    ¬ MatchesRequest ⟨1, .readHoldingRegisters, 0x4000, 1⟩
      (write (fun _ => 0) 0 (closeFrame [1, 3, 4, 0x11, 0x22, 0x33, 0x44])) .roomy ⟨none, 0⟩ := by
  intro h
  exact absurd (h _ rfl rfl).1 (by decide)

/-- A response of the right size. -/
theorem masterCheckReceive_one_register :
    MatchesRequest ⟨1, .readHoldingRegisters, 0x4000, 1⟩
      (write (fun _ => 0) 0 (closeFrame [1, 3, 2, 0x11, 0x22])) .roomy ⟨none, 0⟩ :=
  (masterCheckReceive_matchesRequest_iff _ _ _ _ (by decide)).2 (Or.inr (Or.inr rfl))

end Solar48
