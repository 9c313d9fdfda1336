/-
**Modbus function codes, frame layouts and status codes.**

`rs485.h` lays every frame out as a byte for the slave address followed by one of a dozen packed
structures, and `errors.h` numbers everything that can go wrong.  This module has both, as data:
the function codes, the offset of every field that the master or the slave touches, and the
status codes their functions return.

The structures are packed, so a field starts where the one before it ends.  The offsets below are
offsets into the structure; the structure itself starts at offset 1 of the buffer
(`Solar48.frameField`).

Main definitions:

* `Solar48.MbFunction`, `Solar48.MbFunction.code` — the function codes;
* `Solar48.ExceptionCodes`, `Solar48.masterRs485ExceptionCode` — the five status codes of each
  function;
* `Solar48.requestPdu`, `Solar48.writeRequestPdu`, `Solar48.readWriteRequestPdu` — the requests of
  the Modbus RTU specification, as byte strings.
-/

import Solar48.Crc
import Mathlib.Data.Int.Notation

set_option relaxedAutoImplicit false
set_option autoImplicit false

namespace Solar48

open ByteMem

/-! ### Function codes -/

/-- `MB_FUNCTION`. -/
inductive MbFunction where
  | readDiscreteInputs
  | readCoils
  | writeSingleCoil
  | writeMultipleCoils
  | readInputRegisters
  | readHoldingRegisters
  | writeSingleRegister
  | writeMultipleRegisters
  | readOrWriteMultipleRegisters
  | maskWriteRegister
  | readFifoQueue
  | readFileRecord
  | writeFileRecord
  | readExceptionStatus
  | diagnostic
  | getComEventCounter
  | getComEventLog
  | reportSlaveId
  | readDeviceIndentification
  | mbFunctionUndefined
  deriving DecidableEq, Repr

/-- The value of an enumerator, as the byte that goes on the wire. -/
def MbFunction.code : MbFunction → UInt8
  | readDiscreteInputs => 2
  | readCoils => 1
  | writeSingleCoil => 5
  | writeMultipleCoils => 15
  | readInputRegisters => 4
  | readHoldingRegisters => 3
  | writeSingleRegister => 6
  | writeMultipleRegisters => 16
  | readOrWriteMultipleRegisters => 23
  | maskWriteRegister => 22
  | readFifoQueue => 24
  | readFileRecord => 20
  | writeFileRecord => 21
  | readExceptionStatus => 7
  | diagnostic => 8
  | getComEventCounter => 11
  | getComEventLog => 12
  | reportSlaveId => 17
  | readDeviceIndentification => 43
  | mbFunctionUndefined => 0

/-- `RS485_ERROR_CODE`: the function byte of an exception response. -/
def MbFunction.errorCode (f : MbFunction) : UInt8 := f.code + 0x80

/-- No function byte is also an exception byte. -/
theorem MbFunction.errorCode_ne_code (f : MbFunction) : f.errorCode ≠ f.code := by
  cases f <;> decide

theorem MbFunction.errorCode_ne_zero (f : MbFunction) : f.errorCode ≠ 0 := by
  cases f <;> decide

/-! ### Layouts -/

/-- The place in the buffer of the field at offset `k` of the frame structure. -/
abbrev frameField (k : ℕ) : ℕ := 1 + k

/-- `function_code`, the first field of every structure. -/
abbrev functionCode : ℕ := 0

/-- `starting_address` and its other names, the second field of every request and of the echoes. -/
abbrev startingAddress : ℕ := 1

/-- `number_of_registers` and its other names, the third field of the same structures. -/
abbrev numberOfRegisters : ℕ := 3

/-- The size of `pdu_read_req_t`, `pdu_read_discrete_req_t`, `pdu_write_discrete_req_t`,
`pdu_write_discrete_resp_t` and `pdu_write_resp_t`: a byte and two half-words. -/
abbrev pduReadReqSize : ℕ := 5

/-- `byte_count` of `pdu_write_req_t`. -/
abbrev writeReqByteCount : ℕ := 5

/-- `register_values` of `pdu_write_req_t`. -/
abbrev writeReqRegisterValues : ℕ := 6

/-- `write_starting_address` of `pdu_read_write_req_t`. -/
abbrev readWriteReqWriteStartingAddress : ℕ := 5

/-- `quantity_to_write` of `pdu_read_write_req_t`. -/
abbrev readWriteReqQuantityToWrite : ℕ := 7

/-- `write_byte_count` of `pdu_read_write_req_t`. -/
abbrev readWriteReqWriteByteCount : ℕ := 9

/-- `write_register_values` of `pdu_read_write_req_t`. -/
abbrev readWriteReqWriteRegisterValues : ℕ := 10

/-- `byte_count` of the read responses, `quantity_read` of `pdu_read_write_resp_t`. -/
abbrev respByteCount : ℕ := 1

/-- `status` of the read responses, `read_register_value` of `pdu_read_write_resp_t`. -/
abbrev respStatus : ℕ := 2

/-- `error_or_exception_code` of every exception structure. -/
abbrev errorOrExceptionCode : ℕ := 1

/-- The size of every exception structure. -/
abbrev pduExceptionSize : ℕ := 2

/-- The byte count of `n` registers. -/
theorem toNat_shiftLeft_one {n : UInt16} (h : n.toNat < 2 ^ 15) :
    (n <<< 1).toNat = 2 * n.toNat := by
  rw [UInt16.toNat_shiftLeft]
  have h1 : (1 : UInt16).toNat % 16 = 1 := rfl
  rw [h1, Nat.shiftLeft_eq]
  omega

/-- The range checks of the code. -/
theorem lt_one_or_gt_iff {n k : UInt16} : n < 1 ∨ n > k ↔ ¬ (1 ≤ n ∧ n ≤ k) := by
  rw [not_and_or, UInt16.not_le, UInt16.not_le]

/-! ### The requests of the specification -/

/-- A request of fixed length, without its CRC. -/
def requestPdu (address : UInt8) (f : MbFunction) (start n : UInt16) : List UInt8 :=
  [address, f.code] ++ beBytes16 start ++ beBytes16 n

/-- A request that carries `payload`, without its CRC. -/
def writeRequestPdu (address : UInt8) (f : MbFunction) (start n : UInt16)
    (payload : List UInt8) : List UInt8 :=
  requestPdu address f start n ++ UInt8.ofNat payload.length :: payload

/-- The request that reads and writes, without its CRC. -/
def readWriteRequestPdu (address : UInt8) (f : MbFunction) (start n wstart nwrite : UInt16)
    (payload : List UInt8) : List UInt8 :=
  requestPdu address f start n ++ beBytes16 wstart ++ beBytes16 nwrite ++
    UInt8.ofNat payload.length :: payload

@[simp] theorem length_requestPdu (address : UInt8) (f : MbFunction) (start n : UInt16) :
    (requestPdu address f start n).length = 6 := rfl

@[simp] theorem length_writeRequestPdu (address : UInt8) (f : MbFunction) (start n : UInt16)
    (payload : List UInt8) :
    (writeRequestPdu address f start n payload).length = 7 + payload.length := by
  simp [writeRequestPdu]
  omega

@[simp] theorem length_readWriteRequestPdu (address : UInt8) (f : MbFunction)
    (start n wstart nwrite : UInt16) (payload : List UInt8) :
    (readWriteRequestPdu address f start n wstart nwrite payload).length =
      11 + payload.length := by
  simp [readWriteRequestPdu]
  omega

/-- A request determines its quantity. -/
theorem requestPdu_inj {address : UInt8} {f : MbFunction} {start n n' : UInt16}
    (h : requestPdu address f start n = requestPdu address f start n') : n = n' := by
  have h' : beBytes16 n = beBytes16 n' := (List.append_inj' h rfl).2
  simp only [beBytes16, List.cons.injEq, and_true] at h'
  rw [← le16_lo_hi n, ← le16_lo_hi n', h'.1, h'.2]

/-! ### Status codes -/

def eMasterInvalidSlaveAddress : ℤ := 401
def eMasterInvalidNumberOfCoils : ℤ := 402
def eMasterInvalidReceiveSlaveAddress : ℤ := 403
def eMasterInvalidNumberOfDiscreteInputs : ℤ := 410
def eMasterInvalidNumberOfHoldingRegisters : ℤ := 420
def eMasterInvalidNumberOfInputRegisters : ℤ := 421
def eInvalidSingleCoilState : ℤ := 427
def eInvalidWriteMultipleCoilsLimit : ℤ := 438
def eInvalidWriteMultipleRegisterLimit : ℤ := 439
def eInvalidReadWriteMultipleRegisterLimitRd : ℤ := 450
def eInvalidReadWriteMultipleRegisterLimitWr : ℤ := 451
def eUnimplementedModbusFunction : ℤ := 457
def eUnexpectedFunction : ℤ := 458
def eUnexpectedReceiveFunction : ℤ := 459
def eReceivedWriteDiscreteAddressMismatch : ℤ := 460
def eReceivedWriteAddressMismatch : ℤ := 461
def eMasterTimeoutOrNotRespondngReceiveSlaveAddress : ℤ := 463

def eRs485SlaveDoesNotMatch : ℤ := 503
def eRs485SlaveInvalidCrc16 : ℤ := 504
def eRs485SlaveFunctionCodeNotSupported : ℤ := 505
def eRs485SlaveQtyOfRegisterOutOfBounds : ℤ := 506
def eRs485SlaveMemoryOutOfBounds : ℤ := 506
def eRs485SlaveCopyMemoryHoldingAddressTimeout : ℤ := 509

/-- `MASTER_TRANSFER_SUCCESS`. -/
def masterTransferSuccess : ℤ := 0

/-- `MASTER_TRANSFER_SUCCESS_WITH_ERROR_CODE`. -/
def masterTransferSuccessWithErrorCode : ℤ := 1

/-- `struct master_rs485_exception_code_t`: the status codes of one function. -/
structure ExceptionCodes where
  errorOnCatchException : ℤ
  errorUnexpectedFunction : ℤ
  errorInvalidDataSizeOrUnexpectedDiscrete : ℤ
  errorInvalidCrc : ℤ
  errorInvalidExceptionCrc : ℤ
  deriving DecidableEq, Repr

/-- `MASTER_RS485_EXCEPTION_CODE`. -/
def masterRs485ExceptionCode : Fin 9 → ExceptionCodes
  | 0 => ⟨408, 404, 405, 406, 407⟩ -- `READ_COILS`
  | 1 => ⟨411, 409, 412, 413, 414⟩ -- `READ_DISCRETE_INPUTS`
  | 2 => ⟨415, 416, 417, 418, 419⟩ -- `READ_HOLDING_REGISTERS`
  | 3 => ⟨422, 423, 424, 425, 426⟩ -- `READ_INPUT_REGISTERS`
  | 4 => ⟨428, 429, 430, 431, 432⟩ -- `WRITE_SINGLE_COIL`
  | 5 => ⟨433, 434, 435, 436, 437⟩ -- `WRITE_SINGLE_REGISTER`
  | 6 => ⟨440, 441, 442, 443, 444⟩ -- `WRITE_MULTIPLE_COILS`
  | 7 => ⟨445, 446, 447, 448, 449⟩ -- `WRITE_MULTIPLE_REGISTERS`
  | 8 => ⟨452, 453, 454, 455, 456⟩ -- `READ_OR_WRITE_MULTIPLE_REGISTERS`

/-- The codes that say that the transfer failed. -/
def IsFailure (code : ℤ) : Prop :=
  code ≠ masterTransferSuccess ∧ code ≠ masterTransferSuccessWithErrorCode

instance (code : ℤ) : Decidable (IsFailure code) := inferInstanceAs (Decidable (_ ∧ _))

/-- A row whose codes all say that the transfer failed, and which tells an exception with a bad CRC
from a bad exception. -/
structure ExceptionCodes.WellFormed (codes : ExceptionCodes) : Prop where
  errorOnCatchException : IsFailure codes.errorOnCatchException
  errorUnexpectedFunction : IsFailure codes.errorUnexpectedFunction
  errorInvalidDataSizeOrUnexpectedDiscrete :
    IsFailure codes.errorInvalidDataSizeOrUnexpectedDiscrete
  errorInvalidCrc : IsFailure codes.errorInvalidCrc
  errorInvalidExceptionCrc : IsFailure codes.errorInvalidExceptionCrc
  invalidExceptionCrc_ne : codes.errorInvalidExceptionCrc ≠ codes.errorOnCatchException

theorem masterRs485ExceptionCode_wellFormed (i : Fin 9) :
    (masterRs485ExceptionCode i).WellFormed := by
  constructor <;> revert i <;> decide

/-! ### Requests -/

/-- What a driver passes to `master_send_req`, without its callback. -/
structure MasterRequest where
  slaveAddress : UInt8
  function : MbFunction
  memAddress : UInt16
  n : UInt16
  timeoutMs : ℕ
  deriving DecidableEq, Repr

/-- `MASTER_READ_INPUT_REGISTERS`. -/
def masterReadInputRegisters (slaveAddress : UInt8) (startAddress numberOfRegisters : UInt16)
    (timeout : ℕ) : MasterRequest :=
  ⟨slaveAddress, .readInputRegisters, startAddress, numberOfRegisters, timeout⟩

/-- `MASTER_READ_DISCRETE_INPUTS`. -/
def masterReadDiscreteInputs (slaveAddress : UInt8) (startAddress numberOfRegisters : UInt16)
    (timeout : ℕ) : MasterRequest :=
  ⟨slaveAddress, .readDiscreteInputs, startAddress, numberOfRegisters, timeout⟩

/-- `MASTER_READ_COILS`. -/
def masterReadCoils (slaveAddress : UInt8) (startAddress numberOfRegisters : UInt16)
    (timeout : ℕ) : MasterRequest :=
  ⟨slaveAddress, .readCoils, startAddress, numberOfRegisters, timeout⟩

/-- `MASTER_WRITE_SINGLE_COIL`. -/
def masterWriteSingleCoil (slaveAddress : UInt8) (startAddress data : UInt16) (timeout : ℕ) :
    MasterRequest :=
  ⟨slaveAddress, .writeSingleCoil, startAddress, data, timeout⟩

end Solar48
