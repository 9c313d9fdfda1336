/-
**The Modbus slave.**

`slave_send_resp` answers the frame that reception has left in `modbus_slave_buffer`, and builds
the answer in the same buffer.  It knows one function, `READ_HOLDING_REGISTERS`, over eight
registers from `0x4000` on; everything else that has a right CRC is answered with an exception.

The registers reach the buffer by a loop of three parts, two registers at a time in the middle:
one register first if the start is odd, so that the words are fetched from aligned addresses, and
one last if there is one left.  Whatever the parity of start and quantity, the loop writes the
registers in network order (`Solar48.copyHoldingRegisters_eq`), and so
**the answer is a function of the first eight bytes and of the registers**
(`Solar48.reply_eq`).

The function is never told how many bytes came.  `Solar48.answersRequestsOnly_iff` says which
frames make that visible.

Main definitions:

* `Solar48.Slave`, `Solar48.slaveSendResp` — the variables and the code;
* `Solar48.slaveAnswer`, `Solar48.Slave.reply` — what is answered;
* `Solar48.IdleSlave` — a slave between two frames, which nobody holds the copy lock of;
* `Solar48.AnswersRequestsOnly` — only requests are answered, and by what they are.
-/

import Solar48.Memory
import Solar48.Rs485Frame

set_option relaxedAutoImplicit false
set_option autoImplicit false

namespace Solar48

open ByteMem

/-! ### The code -/

/-- `SLAVE_READ_HOLDING_REGISTER_START_ADDRESS`. -/
abbrev slaveReadHoldingRegisterStartAddress : UInt16 := 0x4000

/-- `RS485_HOLDING_REGISTERS_MEMORY_AREA_SIZE`: the number of registers. -/
abbrev rs485HoldingRegistersMemoryAreaSize : ℕ := 8

/-- The variables of the slave. -/
structure Slave where
  /-- `modbus_slave_buffer`. -/
  buffer : Mem
  /-- `slave_rs485_rtu.lock`. -/
  lock : Bool
  /-- `slave_rs485_rtu.slave_address`. -/
  slaveAddress : UInt8
  /-- `rs485_slave_holding_register_memory_area`. -/
  area : Mem
  /-- `rs485_slave_holding_register_memory_area_read_only`. -/
  areaReadOnly : Mem

/-- `sys_try_lock` inside an interrupt handler, the lock afterwards and the result: nothing that
holds the lock runs during the wait, so a lock that is taken stays taken until the timeout. -/
def sysTryLock (lock : Bool) : Bool × Bool := (true, !lock)

/-- `_set_slave_pdu_read_error_exception`: the buffer and `*data_size`. -/
def setSlavePduReadErrorException (buf : Mem) (fc exceptionCode : UInt8) : Mem × ℕ :=
  let buf := moveUint8Safe buf (frameField functionCode) (0x80 + fc)
  let buf := moveUint8Safe buf (frameField errorOrExceptionCode) exceptionCode
  let crc16Check := crc16 buf 0 (UInt16.ofNat (pduExceptionSize + 1))
  let buf := write buf (frameField pduExceptionSize) (bytes16 crc16Check)
  (buf, pduExceptionSize + 1 + 2)

/-- The `while` loop of `slave_send_resp`: the buffer, the two pointers, and the number of
registers that are left. -/
def copyTwoAtOnce (buf : Mem) (dest : ℕ) (src : Mem) (p : ℕ) : ℕ → Mem × ℕ × ℕ × ℕ
  | n + 2 => copyTwoAtOnce (swapAndMoveTwoUint16AtOnceSafe buf dest (read32 src p)) (dest + 4)
      src (p + 4) n
  | n => (buf, dest, p, n)

/-- The loop and the `if` behind it, which copies the register that may be left. -/
def copyFromEven (buf : Mem) (dest : ℕ) (src : Mem) (p numberOfRegisters : ℕ) : Mem :=
  let (buf, dest, p, numberOfRegisters) := copyTwoAtOnce buf dest src p numberOfRegisters
  if numberOfRegisters = 1 then swapAndMoveUint16Safe buf dest (read16 src p) else buf

/-- What `slave_send_resp` does between `sys_unlock` and the byte count: an odd first register goes
on its own. -/
def copyHoldingRegisters (buf : Mem) (src : Mem) (startingAddress numberOfRegisters : ℕ) : Mem :=
  let dest := frameField respStatus
  let p := 2 * startingAddress
  if startingAddress &&& 1 ≠ 0 then
    copyFromEven (swapAndMoveUint16FromUnalignedToUnalignedSafe buf dest src p) (dest + 2) src
      (p + 2) (numberOfRegisters - 1)
  else copyFromEven buf dest src p numberOfRegisters

/-- The result of `slave_send_resp`: the variables afterwards, the return code, and `*data_size` if
`*data` is set; it is the start of the buffer then. -/
abbrev SendResp := Slave × ℤ × Option ℕ

/-- The exits of `slave_send_resp` with an exception. -/
def slaveSendException (s : Slave) (fc exceptionCode : UInt8) (ret : ℤ) : SendResp :=
  let (buffer, dataSize) := setSlavePduReadErrorException s.buffer fc exceptionCode
  ({ s with buffer }, ret, some dataSize)

/-- `slave_send_resp` behind its checks. -/
def slaveSendRegisters (s : Slave) (startingAddress numberOfRegisters : UInt16) : SendResp :=
  let byteCount := numberOfRegisters <<< 1
  let startingAddress := startingAddress - slaveReadHoldingRegisterStartAddress
  let (lock, locked) := sysTryLock s.lock
  if ¬ locked then ({ s with lock }, eRs485SlaveCopyMemoryHoldingAddressTimeout, none)
  else
    let areaReadOnly := write s.areaReadOnly (2 * startingAddress.toNat)
      (read s.area (2 * startingAddress.toNat) byteCount.toNat)
    -- `sys_unlock`
    let lock := false
    let buffer := copyHoldingRegisters s.buffer areaReadOnly startingAddress.toNat
      numberOfRegisters.toNat
    let buffer := moveUint8Safe buffer (frameField respByteCount) byteCount.toUInt8
    let byteCount := byteCount + 3
    let crc16Check := crc16 buffer 0 byteCount
    let buffer := write buffer byteCount.toNat (bytes16 crc16Check)
    ({ s with buffer, lock, areaReadOnly }, 0, some (byteCount.toNat + 2))

/-- The branch of `slave_send_resp` for a right CRC. -/
def slaveSendValid (s : Slave) : SendResp :=
  let fc := readUint8 s.buffer (frameField functionCode)
  if fc ≠ MbFunction.readHoldingRegisters.code then
    slaveSendException s fc 1 eRs485SlaveFunctionCodeNotSupported
  else
    let n := readAndSwapUint16Safe s.buffer (frameField numberOfRegisters)
    if n > 125 ∨ n < 1 then slaveSendException s fc 3 eRs485SlaveQtyOfRegisterOutOfBounds
    else
      let start := readAndSwapUint16Safe s.buffer (frameField startingAddress)
      if start < slaveReadHoldingRegisterStartAddress ∨ start.toNat + n.toNat >
          slaveReadHoldingRegisterStartAddress.toNat + rs485HoldingRegistersMemoryAreaSize
      then slaveSendException s fc 2 eRs485SlaveMemoryOutOfBounds
      else slaveSendRegisters s start n

/-- `slave_send_resp`. -/
def slaveSendResp (s : Slave) : SendResp :=
  if s.buffer 0 ≠ s.slaveAddress then (s, eRs485SlaveDoesNotMatch, none)
  else
    let crc16Check := read16 s.buffer (frameField pduReadReqSize)
    if crc16Check = crc16 s.buffer 0 (UInt16.ofNat (pduReadReqSize + 1)) then slaveSendValid s
    else (s, eRs485SlaveInvalidCrc16, none)

/-! ### The copy of the registers -/

theorem copyTwoAtOnce_eq (buf : Mem) (dest : ℕ) (src : Mem) (p n : ℕ) :
    copyTwoAtOnce buf dest src p n =
      (write buf dest (swapPairs (read src p (4 * (n / 2)))), dest + 4 * (n / 2),
        p + 4 * (n / 2), n % 2) := by
  fun_induction copyTwoAtOnce buf dest src p n with
  | case1 buf dest p n ih =>
      have hhalf : (n + 2) / 2 = n / 2 + 1 := by omega
      have hmod : (n + 2) % 2 = n % 2 := by omega
      have hsplit : 4 * (n / 2 + 1) = 4 + 4 * (n / 2) := by omega
      rw [ih, swapAndMoveTwoUint16AtOnceSafe_eq,
        write_write_of_eq buf dest (dest + 4) _ _ (by simp), ← swapPairs_append (by simp),
        ← read_add, hhalf, hmod, hsplit]
      simp only [Nat.add_assoc]
  | case2 buf dest p n hn =>
      have hlt : n < 2 := by
        by_contra hge
        exact hn (n - 2) (by omega)
      have h₀ : n / 2 = 0 := by omega
      have h₁ : n % 2 = n := by omega
      simp [h₀, h₁]

theorem copyFromEven_eq (buf : Mem) (dest : ℕ) (src : Mem) (p n : ℕ) :
    copyFromEven buf dest src p n = write buf dest (swapPairs (read src p (2 * n))) := by
  rw [copyFromEven, copyTwoAtOnce_eq]
  dsimp only
  split
  · rename_i h
    have hn : 2 * n = 4 * (n / 2) + 2 := by omega
    have hlast : beBytes16 (read16 src (p + 4 * (n / 2))) =
        swapPairs (read src (p + 4 * (n / 2)) 2) := by
      simp [beBytes16, read16, read_succ]
    rw [swapAndMoveUint16Safe_eq, write_write_of_eq buf dest _ _ _ (by simp), hn, read_add,
      swapPairs_append (by simp; omega), hlast]
  · rename_i h
    have hn : 2 * n = 4 * (n / 2) := by omega
    rw [hn]

/-- **The registers reach the buffer in network order**, whether start and quantity are odd or
even. -/
theorem copyHoldingRegisters_eq (buf src : Mem) (start : ℕ) {n : ℕ} (h : 1 ≤ n) :
    copyHoldingRegisters buf src start n =
      write buf 3 (swapPairs (read src (2 * start) (2 * n))) := by
  unfold copyHoldingRegisters
  dsimp only
  by_cases hodd : start &&& 1 ≠ 0
  · have hn : 2 * n = 2 + 2 * (n - 1) := by omega
    -- behind an odd first register the copy goes on as from an even one
    rw [if_pos hodd, copyFromEven_eq, swapAndMoveUint16FromUnalignedToUnalignedSafe_eq,
      write_write_of_eq buf _ _ _ _ (by simp), ← swapPairs_append (by simp), ← read_add, ← hn]
    rfl
  · rw [if_neg hodd, copyFromEven_eq]
    rfl

/-! ### What is answered -/

/-- The registers a request may ask for. -/
def InArea (start n : UInt16) : Prop :=
  slaveReadHoldingRegisterStartAddress ≤ start ∧
    start.toNat + n.toNat ≤
      slaveReadHoldingRegisterStartAddress.toNat + rs485HoldingRegistersMemoryAreaSize

instance (start n : UInt16) : Decidable (InArea start n) := inferInstanceAs (Decidable (_ ∧ _))

/-- The exception the slave answers a request with. -/
def slaveException (address fc code : UInt8) : List UInt8 := [address, 0x80 + fc, code]

/-- The answer to a request with a right CRC, without its own CRC. -/
def slaveAnswer (address fc : UInt8) (start n : UInt16) (area : Mem) : List UInt8 :=
  if fc ≠ MbFunction.readHoldingRegisters.code then slaveException address fc 1
  else if ¬ (1 ≤ n ∧ n ≤ 125) then slaveException address fc 3
  else if ¬ InArea start n then slaveException address fc 2
  else [address, fc, UInt8.ofNat (2 * n.toNat)] ++
    swapPairs (read area (2 * (start.toNat - slaveReadHoldingRegisterStartAddress.toNat))
      (2 * n.toNat))

/-- The answer to what is in a buffer. -/
def answerTo (buf area : Mem) : List UInt8 :=
  slaveAnswer (buf 0) (buf 1) (le16 (buf 3) (buf 2)) (le16 (buf 5) (buf 4)) area

/-- An exception is written over the start of the request. -/
theorem setSlavePduReadErrorException_eq (buf : Mem) (fc code : UInt8) :
    setSlavePduReadErrorException buf fc code =
      (write buf 0 (closeFrame (slaveException (buf 0) fc code)), 5) := by
  have h₀ : write buf 0 [buf 0] = buf := write_read buf 0 1
  have hbuf : moveUint8Safe (moveUint8Safe buf (frameField functionCode) (0x80 + fc))
      (frameField errorOrExceptionCode) code = write buf 0 (slaveException (buf 0) fc code) := by
    conv_lhs => rw [← h₀]
    rw [moveUint8Safe, moveUint8Safe,
      write_write_of_eq buf 0 (frameField functionCode) [buf 0] [0x80 + fc] rfl,
      write_write_of_eq buf 0 (frameField errorOrExceptionCode) _ [code] rfl]
    rfl
  simp only [setSlavePduReadErrorException]
  rw [hbuf, crc16_write _ _ _ _ rfl]
  refine Prod.ext ?_ rfl
  exact write_frameCrc buf (slaveException (buf 0) fc code)

/-- The buffer once the registers and their byte count are in it. -/
theorem copyHoldingRegisters_byteCount (buf src : Mem) (start : ℕ) {n : ℕ} (h : 1 ≤ n)
    (byteCount : UInt8) :
    moveUint8Safe (copyHoldingRegisters buf src start n) (frameField respByteCount) byteCount =
      write buf 0 ([buf 0, buf 1, byteCount] ++ swapPairs (read src (2 * start) (2 * n))) := by
  have h₀ : write buf 0 [buf 0, buf 1] = buf := write_read buf 0 2
  rw [copyHoldingRegisters_eq _ _ _ h, moveUint8Safe,
    write_write_before buf (frameField respByteCount) 3 _ _ rfl]
  conv_lhs => rw [← h₀]
  rw [write_write_of_eq buf 0 (frameField respByteCount) [buf 0, buf 1] _ rfl]
  rfl

/-- The order of the two half-words of a request. -/
theorem readAndSwap_fields (buf : Mem) :
    readAndSwapUint16Safe buf (frameField numberOfRegisters) = le16 (buf 5) (buf 4) ∧
      readAndSwapUint16Safe buf (frameField startingAddress) = le16 (buf 3) (buf 2) :=
  ⟨readAndSwapUint16Safe_eq _ _, readAndSwapUint16Safe_eq _ _⟩

/-- What an answered frame leaves: the answer over the request, and everything else the answer
depends on as it was. -/
def Answered (s : Slave) (answer : List UInt8) (r : SendResp) : Prop :=
  r.1.buffer = write s.buffer 0 answer ∧ r.1.lock = s.lock ∧ r.1.slaveAddress = s.slaveAddress ∧
    r.1.area = s.area ∧ r.2.2 = some answer.length

theorem slaveSendException_answered (s : Slave) (fc code : UInt8) (ret : ℤ) :
    Answered s (closeFrame (slaveException (s.buffer 0) fc code))
      (slaveSendException s fc code ret) := by
  rw [slaveSendException, setSlavePduReadErrorException_eq]
  exact ⟨rfl, rfl, rfl, rfl, rfl⟩

theorem slaveSendRegisters_answered {s : Slave} (hlock : s.lock = false) {start n : UInt16}
    (h₁ : 1 ≤ n.toNat) (h₁₂₅ : n.toNat ≤ 125)
    (hstart : slaveReadHoldingRegisterStartAddress ≤ start) :
    Answered s (closeFrame ([s.buffer 0, s.buffer 1, UInt8.ofNat (2 * n.toNat)] ++
        swapPairs (read s.area
          (2 * (start.toNat - slaveReadHoldingRegisterStartAddress.toNat)) (2 * n.toNat))))
      (slaveSendRegisters s start n) := by
  have hcount : (n <<< 1).toNat = 2 * n.toNat := toNat_shiftLeft_one (by omega)
  have hcount' : (n <<< 1).toUInt8 = UInt8.ofNat (2 * n.toNat) := by rw [← hcount]; rfl
  have hoff : (start - slaveReadHoldingRegisterStartAddress).toNat =
      start.toNat - slaveReadHoldingRegisterStartAddress.toNat := UInt16.toNat_sub_of_le _ _ hstart
  have hsize : (n <<< 1 + 3).toNat = 2 * n.toNat + 3 := by
    have h : (3 : UInt16).toNat = 3 := rfl
    rw [UInt16.toNat_add, hcount, h]
    omega
  obtain ⟨k, hk⟩ : ∃ k, k = start.toNat - slaveReadHoldingRegisterStartAddress.toNat := ⟨_, rfl⟩
  obtain ⟨pdu, hpdu⟩ : ∃ pdu, pdu = [s.buffer 0, s.buffer 1, UInt8.ofNat (2 * n.toNat)] ++
    swapPairs (read s.area (2 * k) (2 * n.toNat)) := ⟨_, rfl⟩
  have hlen : (n <<< 1 + 3).toNat = pdu.length := by
    rw [hsize, hpdu]
    simp
  -- the copy in `areaReadOnly` has the registers that the loop reads
  have hread : read (write s.areaReadOnly (2 * k) (read s.area (2 * k) (2 * n.toNat))) (2 * k)
      (2 * n.toNat) = read s.area (2 * k) (2 * n.toNat) := by
    have h := read_write_self s.areaReadOnly (2 * k) (read s.area (2 * k) (2 * n.toNat))
    rwa [length_read] at h
  rw [← hk, ← hpdu]
  simp only [slaveSendRegisters, sysTryLock, hlock, hoff, hcount, hcount', ← hk, Bool.not_false,
    not_true_eq_false, if_false, copyHoldingRegisters_byteCount _ _ _ h₁, hread, ← hpdu]
  rw [crc16_write _ _ _ _ hlen, hlen, write_frameCrc]
  exact ⟨rfl, hlock.symm, rfl, rfl, by simp⟩

/-- A request with a right CRC is answered. -/
theorem slaveSendValid_answered {s : Slave} (hlock : s.lock = false) :
    Answered s (closeFrame (answerTo s.buffer s.area)) (slaveSendValid s) := by
  obtain ⟨hn, hs⟩ := readAndSwap_fields s.buffer
  have hfc : readUint8 s.buffer (frameField functionCode) = s.buffer 1 := rfl
  simp only [slaveSendValid, hn, hs, hfc, answerTo, slaveAnswer]
  by_cases h₁ : s.buffer 1 ≠ MbFunction.readHoldingRegisters.code
  · rw [if_pos h₁, if_pos h₁]
    exact slaveSendException_answered _ _ _ _
  rw [if_neg h₁, if_neg h₁]
  generalize le16 (s.buffer 5) (s.buffer 4) = n
  generalize le16 (s.buffer 3) (s.buffer 2) = start
  have hqty : (n > 125 ∨ n < 1) ↔ ¬ (1 ≤ n ∧ n ≤ 125) := or_comm.trans lt_one_or_gt_iff
  by_cases h₂ : 1 ≤ n ∧ n ≤ 125
  swap
  · rw [if_pos (hqty.2 h₂), if_pos h₂]
    exact slaveSendException_answered _ _ _ _
  rw [if_neg (mt hqty.1 (not_not_intro h₂)), if_neg (not_not_intro h₂)]
  have harea : (start < slaveReadHoldingRegisterStartAddress ∨ start.toNat + n.toNat >
      slaveReadHoldingRegisterStartAddress.toNat + rs485HoldingRegistersMemoryAreaSize) ↔
      ¬ InArea start n := by
    rw [InArea, not_and_or, UInt16.not_le, Nat.not_le]
  by_cases h₃ : InArea start n
  swap
  · rw [if_pos (harea.2 h₃), if_pos h₃]
    exact slaveSendException_answered _ _ _ _
  rw [if_neg (mt harea.1 (not_not_intro h₃)), if_neg (not_not_intro h₃)]
  exact slaveSendRegisters_answered hlock (UInt16.le_iff_toNat_le.1 h₂.1)
    (UInt16.le_iff_toNat_le.1 h₂.2) h₃.1

/-- The CRC of a request, as the slave compares it. -/
theorem read16_eq_crc16_iff (buf : Mem) :
    read16 buf (frameField pduReadReqSize) = crc16 buf 0 (UInt16.ofNat (pduReadReqSize + 1)) ↔
      ClosedAt buf 6 :=
  eq_comm.trans (crc16_eq_read16_iff buf (by decide))

/-- A frame that is not addressed to the slave, or has another CRC, is dropped. -/
theorem slaveSendResp_of_not {s : Slave}
    (h : ¬ (s.buffer 0 = s.slaveAddress ∧ ClosedAt s.buffer 6)) :
    ∃ e, slaveSendResp s = (s, e, none) := by
  by_cases h₀ : s.buffer 0 = s.slaveAddress
  · exact ⟨_, (if_neg (not_not_intro h₀)).trans
      (if_neg fun hc => h ⟨h₀, (read16_eq_crc16_iff s.buffer).1 hc⟩)⟩
  · exact ⟨_, if_pos h₀⟩

/-- Any other goes to the branch for a right CRC. -/
theorem slaveSendResp_eq_slaveSendValid {s : Slave} (h₀ : s.buffer 0 = s.slaveAddress)
    (h₆ : ClosedAt s.buffer 6) : slaveSendResp s = slaveSendValid s :=
  (if_neg (not_not_intro h₀)).trans (if_pos ((read16_eq_crc16_iff s.buffer).2 h₆))

/-- **It is answered over itself.** -/
theorem slaveSendResp_of_request {s : Slave} (hlock : s.lock = false)
    (h₀ : s.buffer 0 = s.slaveAddress) (h₆ : ClosedAt s.buffer 6) :
    Answered s (closeFrame (answerTo s.buffer s.area)) (slaveSendResp s) := by
  rw [slaveSendResp_eq_slaveSendValid h₀ h₆]
  exact slaveSendValid_answered hlock

/-- The bytes that `slave_send_resp` produces, if it does. -/
def Slave.reply (s : Slave) : Option (List UInt8) :=
  (slaveSendResp s).2.2.map fun dataSize => read (slaveSendResp s).1.buffer 0 dataSize

/-- **The reply is the answer to the first eight bytes of the buffer.** -/
theorem Slave.reply_eq {s : Slave} (hlock : s.lock = false) :
    s.reply = if s.buffer 0 = s.slaveAddress ∧ ClosedAt s.buffer 6 then
      some (closeFrame (answerTo s.buffer s.area)) else none := by
  by_cases h : s.buffer 0 = s.slaveAddress ∧ ClosedAt s.buffer 6
  · obtain ⟨hbuf, -, -, -, hsize⟩ := slaveSendResp_of_request hlock h.1 h.2
    rw [if_pos h, reply, hsize, Option.map_some, hbuf, read_write_self]
  · obtain ⟨e, he⟩ := slaveSendResp_of_not h
    rw [if_neg h, reply, he]
    rfl

/-- The answer depends on the first six bytes only. -/
theorem answerTo_congr {buf buf' : Mem} (area : Mem) (h : ∀ i < 6, buf i = buf' i) :
    answerTo buf area = answerTo buf' area := by
  simp only [answerTo, h 0 (by decide), h 1 (by decide), h 2 (by decide), h 3 (by decide),
    h 4 (by decide), h 5 (by decide)]

/-! ### Histories of frames -/

/-- A slave between two frames.  Only `slave_send_resp` takes the copy lock, and it gives it back,
so nobody holds it. -/
structure IdleSlave extends Slave where
  lock_free : lock = false

/-- `slave_send_resp` leaves the lock as it found it. -/
theorem slaveSendResp_lock {s : Slave} (hlock : s.lock = false) :
    (slaveSendResp s).1.lock = false := by
  by_cases h : s.buffer 0 = s.slaveAddress ∧ ClosedAt s.buffer 6
  · exact (slaveSendResp_of_request hlock h.1 h.2).2.1.trans hlock
  · obtain ⟨e, he⟩ := slaveSendResp_of_not h
    rw [he]
    exact hlock

/-- One frame: the DMA stores it at the start of the buffer, and `TIM3_IRQHandler` calls
`slave_send_resp`. -/
def IdleSlave.serve (s : IdleSlave) (r : List UInt8) : IdleSlave × Option (List UInt8) :=
  let received : Slave := { s.toSlave with buffer := write s.buffer 0 r }
  (⟨(slaveSendResp received).1, slaveSendResp_lock s.lock_free⟩, received.reply)

/-- A history of frames. -/
def IdleSlave.serveAll (s : IdleSlave) (frames : List (List UInt8)) : IdleSlave :=
  frames.foldl (fun s r => (s.serve r).1) s

/-- A frame does not change who the slave is, nor its registers. -/
theorem IdleSlave.serve_area (s : IdleSlave) (r : List UInt8) :
    (s.serve r).1.slaveAddress = s.slaveAddress ∧ (s.serve r).1.area = s.area := by
  obtain ⟨received, hrec⟩ : ∃ received : Slave,
    received = { s.toSlave with buffer := write s.buffer 0 r } := ⟨_, rfl⟩
  have hserve : (s.serve r).1.toSlave = (slaveSendResp received).1 := by rw [hrec]; rfl
  rw [hserve]
  by_cases h : received.buffer 0 = received.slaveAddress ∧ ClosedAt received.buffer 6
  · have hlock : received.lock = false := by rw [hrec]; exact s.lock_free
    obtain ⟨-, -, haddr, harea, -⟩ := slaveSendResp_of_request hlock h.1 h.2
    exact ⟨by rw [haddr, hrec], by rw [harea, hrec]⟩
  · obtain ⟨e, he⟩ := slaveSendResp_of_not h
    rw [he, hrec]
    exact ⟨rfl, rfl⟩

/-- Neither does a history. -/
theorem IdleSlave.serveAll_area (s : IdleSlave) (frames : List (List UInt8)) :
    (s.serveAll frames).slaveAddress = s.slaveAddress ∧ (s.serveAll frames).area = s.area := by
  induction frames generalizing s with
  | nil => exact ⟨rfl, rfl⟩
  | cons r frames ih =>
      obtain ⟨haddr, harea⟩ := ih (s.serve r).1
      obtain ⟨haddr', harea'⟩ := s.serve_area r
      exact ⟨haddr.trans haddr', harea.trans harea'⟩

theorem IdleSlave.serve_reply (s : IdleSlave) (r : List UInt8) :
    (s.serve r).2 = if write s.buffer 0 r 0 = s.slaveAddress ∧ ClosedAt (write s.buffer 0 r) 6 then
      some (closeFrame (answerTo (write s.buffer 0 r) s.area)) else none :=
  Slave.reply_eq s.lock_free

/-- A frame is a request to a slave: eight bytes, of which the first is its address and the last
two are the CRC of the others. -/
def IsRequestTo (address : UInt8) (r : List UInt8) : Prop :=
  r.length = 8 ∧ r.head? = some address ∧ r = closeFrame (r.take 6)

/-- There is one reply for all slaves with this address and these registers, whatever frames they
have seen before, and it is none unless the frame is a request to them. -/
def AnswersRequestsOnly (address : UInt8) (area : Mem) (r : List UInt8) : Prop :=
  ∃ reply : Option (List UInt8),
    (∀ s : IdleSlave, s.slaveAddress = address → s.area = area → (s.serve r).2 = reply) ∧
      (reply.isSome → IsRequestTo address r)

/-- Then it does not matter what frames a slave has seen before. -/
theorem AnswersRequestsOnly.after_history {address : UInt8} {area : Mem} {r : List UInt8}
    (h : AnswersRequestsOnly address area r) {s s' : IdleSlave} (haddr : s.slaveAddress = address)
    (haddr' : s'.slaveAddress = address) (harea : s.area = area) (harea' : s'.area = area)
    (frames frames' : List (List UInt8)) :
    ((s.serveAll frames).serve r).2 = ((s'.serveAll frames').serve r).2 := by
  obtain ⟨reply, hall, -⟩ := h
  obtain ⟨hkeep, hkeepArea⟩ := s.serveAll_area frames
  obtain ⟨hkeep', hkeepArea'⟩ := s'.serveAll_area frames'
  rw [hall _ (hkeep.trans haddr) (hkeepArea.trans harea),
    hall _ (hkeep'.trans haddr') (hkeepArea'.trans harea')]

/-- A frame of at least eight bytes has the CRC of the first six behind them. -/
theorem closedAt_write_six_iff (m : Mem) {r : List UInt8} (h : 8 ≤ r.length) :
    ClosedAt (write m 0 r) 6 ↔ r.take 8 = closeFrame (r.take 6) := by
  rw [closedAt_iff_read, read_write_take _ _ _ h, read_write_take _ _ _ (by omega)]

/-- A slave with this address and these registers that has been left with any buffer. -/
def IdleSlave.withBuffer (address : UInt8) (area buffer : Mem) : IdleSlave where
  buffer
  lock := false
  slaveAddress := address
  area
  areaReadOnly _ := 0
  lock_free := rfl

/-- A frame that is answered, and is no request, answers for a slave that should be silent. -/
theorem not_answersRequestsOnly {address : UInt8} {area b : Mem} {r : List UInt8}
    (h₀ : write b 0 r 0 = address) (h₆ : ClosedAt (write b 0 r) 6) (hr : r.length ≠ 8) :
    ¬ AnswersRequestsOnly address area r := by
  rintro ⟨reply, hall, hreq⟩
  have hreply := hall (.withBuffer address area b) rfl rfl
  rw [IdleSlave.serve_reply, if_pos ⟨h₀, h₆⟩] at hreply
  rw [← hreply] at hreq
  exact hr (hreq rfl).1

/-- A frame that no slave with this address answers. -/
theorem answersRequestsOnly_of_silent {address : UInt8} {area : Mem} {r : List UInt8}
    (h : ∀ b : Mem, ¬ (write b 0 r 0 = address ∧ ClosedAt (write b 0 r) 6)) :
    AnswersRequestsOnly address area r := by
  refine ⟨none, ?_, by simp⟩
  intro s haddr _
  rw [IdleSlave.serve_reply, haddr, if_neg (h s.buffer)]

/-- **The slave answers requests only, by what they are, unless a frame that starts with its
address is too long and has a right CRC behind its first six bytes, or is too short and its CRC is
open**: nothing tells `slave_send_resp` how many bytes have come. -/
theorem answersRequestsOnly_iff (address : UInt8) (area : Mem) {r : List UInt8} (hr : r ≠ []) :
    AnswersRequestsOnly address area r ↔
      r.head? ≠ some address ∨ r.length = 8 ∨
        (8 < r.length ∧ r.take 8 ≠ closeFrame (r.take 6)) ∨ (r.length < 8 ∧ ¬ Open r 6) := by
  have hhead : ∀ b : Mem, write b 0 r 0 = address ↔ r.head? = some address := by
    intro b
    cases r with
    | nil => exact absurd rfl hr
    | cons x rest => simp [write]
  constructor
  · intro h
    by_contra hcon
    simp only [not_or, not_and, not_not] at hcon
    obtain ⟨h₀, h₈, hlong, hshort⟩ := hcon
    rcases Nat.lt_or_gt_of_ne h₈ with hlt | hgt
    -- a short frame is completed by what an earlier one has left, a long one is cut
    · obtain ⟨b, -, hb⟩ := exists_closedAt_write (fun _ => 0) (hshort hlt)
      exact not_answersRequestsOnly ((hhead b).2 h₀) hb h₈ h
    · have hb := (closedAt_write_six_iff (fun _ => 0) (Nat.le_of_lt hgt)).2 (hlong hgt)
      exact not_answersRequestsOnly ((hhead _).2 h₀) hb h₈ h
  · rintro (h₀ | h₈ | ⟨hgt, hne⟩ | ⟨hlt, hopen⟩)
    · exact answersRequestsOnly_of_silent fun b hb => h₀ ((hhead b).1 hb.1)
    · -- all eight bytes have come
      refine ⟨if r.head? = some address ∧ r.take 8 = closeFrame (r.take 6) then
        some (closeFrame (answerTo (write (fun _ => 0) 0 r) area)) else none, ?_, ?_⟩
      · rintro s rfl rfl
        have hans : answerTo (write s.buffer 0 r) s.area =
            answerTo (write (fun _ => 0) 0 r) s.area :=
          answerTo_congr s.area fun i hi => write_eq_write _ _ (by omega)
        have hclosed := closedAt_write_six_iff s.buffer (Nat.le_of_eq h₈.symm)
        rw [IdleSlave.serve_reply, hans]
        exact if_congr (and_congr (hhead _) hclosed) rfl rfl
      · intro hsome
        by_cases hc : r.head? = some address ∧ r.take 8 = closeFrame (r.take 6)
        · have htake : r.take 8 = r := List.take_of_length_le (Nat.le_of_eq h₈)
          exact ⟨h₈, hc.1, by rw [← hc.2, htake]⟩
        · rw [if_neg hc] at hsome
          cases hsome
    · exact answersRequestsOnly_of_silent fun b hb =>
        hne ((closedAt_write_six_iff b (Nat.le_of_lt hgt)).1 hb.2)
    · exact answersRequestsOnly_of_silent fun b hb =>
        not_closedAt_write_of_not_open hopen (by omega) b hb.2

/-- The first two bytes of a request, where the other six are left from a frame that was not for the
slave: it went to slave 2, with the CRC that the request has.  The slave, which has only received it,
answers the request that nobody has sent. -/
theorem answersRequestsOnly_two_bytes : ¬ AnswersRequestsOnly 1 (fun _ => 0) [1, 3] := by
  rintro ⟨reply, hall, hreq⟩
  obtain ⟨s, hs⟩ : ∃ s, s = (IdleSlave.serve (.withBuffer 1 (fun _ => 0) fun _ => 0)
      (2 :: (closeFrame [1, 3, 0x40, 0, 0, 1]).drop 1)).1 := ⟨_, rfl⟩
  have hreply := hall s (by rw [hs]; rfl) (by rw [hs]; rfl)
  have hsome : reply.isSome := by
    rw [← hreply, hs]
    decide
  exact absurd (hreq hsome).1 (by decide)

/-- A complete request. -/
theorem answersRequestsOnly_eight_bytes :
    AnswersRequestsOnly 1 (fun _ => 0) (closeFrame [1, 3, 0x40, 0, 0, 1]) :=
  (answersRequestsOnly_iff 1 (fun _ => 0) (by decide)).2 (Or.inr (Or.inl rfl))

end Solar48
