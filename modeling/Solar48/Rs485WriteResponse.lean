/-
**The replies to the writing functions.**

A slave confirms a write by sending the request back, or refuses it with an exception.  The master
tries the exception first, compares the echo field by field, and looks at the CRC last.

Main definitions:

* `Solar48.IsWriteEcho`, `Solar48.IsException` — the two replies, as the first bytes of the buffer;
* `Solar48.WriteVerdict` — what `master_check_receive` returns and hands over.

Main results:

* `Solar48.masterCheckReceiveJudge_write_iff` — which buffers go to the copy;
* `Solar48.masterCheckReceive_write` — **the two replies are accepted and nothing else is**.
-/

import Solar48.Rs485Response

set_option relaxedAutoImplicit false
set_option autoImplicit false

namespace Solar48

open ByteMem

/-! ### The two replies -/

/-- The functions whose reply is an echo. -/
def writeFunctions : List MbFunction :=
  [.writeSingleCoil, .writeSingleRegister, .writeMultipleCoils, .writeMultipleRegisters]

/-- The buffer starts with the echo of the request. -/
structure IsWriteEcho (rtu : Solar48Rs485Rtu) (buf : Mem) : Prop where
  address : buf 0 = rtu.address
  function : buf 1 = rtu.function.code
  memAddress : read buf 2 2 = beBytes16 rtu.memAddress
  nDataOrDiscrete : read buf 4 2 = beBytes16 rtu.nDataOrDiscrete
  crc : read buf 6 2 = bytes16 (crc16 buf 0 6)

/-- The buffer starts with an exception. -/
structure IsException (rtu : Solar48Rs485Rtu) (buf : Mem) : Prop where
  address : buf 0 = rtu.address
  function : buf 1 = rtu.function.code + 0x80
  code : 1 ≤ buf 2 ∧ buf 2 ≤ 4
  crc : read buf 3 2 = bytes16 (crc16 buf 0 3)

/-- A closed frame has its CRC behind it, low byte first. -/
theorem closedAt_iff_crc16 (buf : Mem) {k : ℕ} (hk : k < 2 ^ 16) :
    ClosedAt buf k ↔ read buf k 2 = bytes16 (crc16 buf 0 (UInt16.ofNat k)) := by
  rw [closedAt_iff, crc16_eq, UInt16.toNat_ofNat_of_lt' hk, bytes16, read_succ, read_succ]
  simp

/-- No reply is both. -/
theorem IsWriteEcho.not_isException {rtu : Solar48Rs485Rtu} {buf : Mem} (h : IsWriteEcho rtu buf) :
    ¬ IsException rtu buf := by
  intro hex
  exact rtu.function.errorCode_ne_code (hex.function.symm.trans h.function)

/-! ### What goes to the copy -/

theorem answerFrame_echo_eq_ok_iff {rtu : Solar48Rs485Rtu} {buf : Mem} {addressMismatch : ℤ}
    {codes : ExceptionCodes} {fr : ExpectedFrame} :
    answerFrame rtu buf (.echo addressMismatch) codes = .ok fr ↔
      read buf 2 2 = beBytes16 rtu.memAddress ∧ read buf 4 2 = beBytes16 rtu.nDataOrDiscrete ∧
        fr = ⟨6, .copyBuffer1 masterTransferSuccess (bytes16 rtu.nDataOrDiscrete) false,
          codes.errorInvalidCrc⟩ := by
  unfold answerFrame
  dsimp only
  by_cases haddr : read buf 2 2 = beBytes16 rtu.memAddress
  · by_cases hn : read buf 4 2 = beBytes16 rtu.nDataOrDiscrete
    · simp [haddr, hn, eq_comm]
    · simp [haddr, hn]
  · simp [haddr]

theorem exceptionFrame_accepted_iff {buf : Mem} {codes : ExceptionCodes} {c : ℤ}
    {src : List UInt8} {rz : Bool} :
    (exceptionFrame buf codes).accepted = .copyBuffer1 c src rz ↔
      (1 ≤ buf 2 ∧ buf 2 ≤ 4) ∧ c = masterTransferSuccessWithErrorCode ∧
        src = [buf 1, buf 2] ∧ rz = false := by
  have hcode : (buf 2 > 0 ∧ buf 2 < 5) ↔ (1 ≤ buf 2 ∧ buf 2 ≤ 4) := by
    simp only [gt_iff_lt, UInt8.lt_iff_toNat_lt, UInt8.le_iff_toNat_le, UInt8.reduceToNat]
    omega
  unfold exceptionFrame
  dsimp only
  by_cases h : buf 2 > 0 ∧ buf 2 < 5
  · rw [if_pos h, and_iff_right (hcode.1 h), MasterCheck.copyBuffer1.injEq]
    exact and_congr eq_comm (and_congr eq_comm eq_comm)
  · rw [if_neg h]
    exact iff_of_false nofun fun hok => h (hcode.2 hok.1)

theorem response_of_mem_writeFunctions {f : MbFunction} (h : f ∈ writeFunctions) :
    ∃ addressMismatch codes, f.response = some (.echo addressMismatch, codes) := by
  simp only [writeFunctions, List.mem_cons, List.not_mem_nil, or_false] at h
  rcases h with rfl | rfl | rfl | rfl <;> exact ⟨_, _, rfl⟩

/-- **The echo and the exceptions go to the copy**, with what is to be handed over. -/
theorem masterCheckReceiveJudge_write_iff {rtu : Solar48Rs485Rtu} {buf : Mem} {c : ℤ}
    {src : List UInt8} {rz : Bool} (hf : rtu.function ∈ writeFunctions) :
    masterCheckReceiveJudge rtu buf = .copyBuffer1 c src rz ↔
      IsWriteEcho rtu buf ∧ c = masterTransferSuccess ∧ src = bytes16 rtu.nDataOrDiscrete ∧
          rz = false ∨
        IsException rtu buf ∧ c = masterTransferSuccessWithErrorCode ∧ src = [buf 1, buf 2] ∧
          rz = false := by
  obtain ⟨addressMismatch, codes, hresp⟩ := response_of_mem_writeFunctions hf
  have hthree := closedAt_iff_crc16 buf (k := 3) (by decide)
  have hsix := closedAt_iff_crc16 buf (k := 6) (by decide)
  simp only [masterCheckReceiveJudge_eq_copyBuffer1_iff, expectedFrame_eq_ok_iff,
    headFrame_eq_ok_iff]
  constructor
  · rintro ⟨fr, ⟨-, h₀, kind, codes', hk, hhead⟩, hc, hacc⟩
    obtain ⟨rfl, rfl⟩ : ResponseKind.echo addressMismatch = kind ∧ codes = codes' := by
      simpa [hresp] using hk
    rcases hhead with ⟨h₁, rfl⟩ | ⟨h₁, hans⟩
    · obtain ⟨hcode, hrest⟩ := exceptionFrame_accepted_iff.1 hacc
      exact Or.inr ⟨⟨h₀, h₁, hcode, hthree.1 hc⟩, hrest⟩
    · obtain ⟨haddr, hn, rfl⟩ := answerFrame_echo_eq_ok_iff.1 hans
      cases hacc
      exact Or.inl ⟨⟨h₀, h₁, haddr, hn, hsix.1 hc⟩, rfl, rfl, rfl⟩
  · rintro (⟨h, rfl, rfl, rfl⟩ | ⟨h, hrest⟩)
    · refine ⟨_, ⟨?_, h.address, _, _, hresp, Or.inr ⟨h.function,
        answerFrame_echo_eq_ok_iff.2 ⟨h.memAddress, h.nDataOrDiscrete, rfl⟩⟩⟩, hsix.2 h.crc, rfl⟩
      rw [Ne, read32_eq_zero_iff]
      rintro ⟨-, hz, -⟩
      exact MbFunction.code_ne_zero hresp (h.function.symm.trans hz)
    · refine ⟨_, ⟨?_, h.address, _, _, hresp, Or.inl ⟨h.function, rfl⟩⟩, hthree.2 h.crc,
        exceptionFrame_accepted_iff.2 ⟨h.code, hrest⟩⟩
      rw [Ne, read32_eq_zero_iff]
      rintro ⟨-, hz, -⟩
      exact rtu.function.errorCode_ne_zero (h.function.symm.trans hz)

/-! ### What is returned -/

/-- What `master_check_receive` returns for a write, and hands over. -/
structure WriteVerdict (rtu : Solar48Rs485Rtu) (buf : Mem) (r : CheckReceive) : Prop where
  success_iff : r.status = masterTransferSuccess ↔ IsWriteEcho rtu buf
  exception_iff : r.status = masterTransferSuccessWithErrorCode ↔ IsException rtu buf
  /-- the value or quantity, in the byte order of the machine -/
  echo : IsWriteEcho rtu buf →
    ∃ d, r.data = some d ∧ read d 0 2 = bytes16 rtu.nDataOrDiscrete ∧ r.dataSize = 2
  /-- the function byte and the exception code -/
  exception : IsException rtu buf →
    ∃ d, r.data = some d ∧ read d 0 2 = [buf 1, buf 2] ∧ r.dataSize = 2
  failure : ¬ IsWriteEcho rtu buf → ¬ IsException rtu buf →
    IsFailure r.status ∧ r.data = none ∧ r.dataSize = 0

/-- Two bytes are handed over as they are. -/
theorem masterCheckReceive_of_two_bytes {rtu : Solar48Rs485Rtu} {buf : Mem} {heap : Heap}
    {dynamic dynamic' : Solar48Mem} {c : ℤ} {src : List UInt8} (hlen : src.length = 2)
    (hj : masterCheckReceiveJudge rtu buf = .copyBuffer1 c src false)
    (hmem : solar48Mem heap dynamic 2 = .ok dynamic') :
    ∃ r d, masterCheckReceive rtu buf heap dynamic = .ok r ∧ r.status = c ∧
      r.data = some d ∧ read d 0 2 = src ∧ r.dataSize = 2 := by
  obtain ⟨m, dynamic'', hr⟩ := masterCheckReceive_of_copyBuffer1 hj (hlen ▸ hmem)
  refine ⟨_, _, hr, rfl, rfl, ?_, ?_⟩
  · have hread := read_write_self m 0 src
    rwa [hlen] at hread
  · simp [deliveredSize, hlen]

/-- A judgement that goes to the copy is returned, unless there is no room for it. -/
theorem masterCheckReceive_error {rtu : Solar48Rs485Rtu} {buf : Mem} {heap : Heap}
    {dynamic : Solar48Mem} {msg : String}
    (h : masterCheckReceive rtu buf heap dynamic = .error msg) :
    ∃ c src rz msg', masterCheckReceiveJudge rtu buf = .copyBuffer1 c src rz ∧
      solar48Mem heap dynamic src.length = .error msg' := by
  cases hj : masterCheckReceiveJudge rtu buf with
  | ret code =>
      rw [masterCheckReceive, hj] at h
      cases h
  | copyBuffer1 c src rz =>
      refine ⟨c, src, rz, ?_⟩
      cases hmem : solar48Mem heap dynamic src.length with
      | error msg' => exact ⟨msg', rfl, rfl⟩
      | ok dynamic' =>
          obtain ⟨m, dynamic'', hr⟩ := masterCheckReceive_of_copyBuffer1 hj hmem
          rw [hr] at h
          cases h

/-- A code that is returned at once is the answer to neither of the two replies. -/
theorem not_reply_of_ret {rtu : Solar48Rs485Rtu} {buf : Mem} {code : ℤ}
    (hf : rtu.function ∈ writeFunctions) (hj : masterCheckReceiveJudge rtu buf = .ret code) :
    ¬ IsWriteEcho rtu buf ∧ ¬ IsException rtu buf := by
  have hnot : ∀ c src rz, masterCheckReceiveJudge rtu buf ≠ .copyBuffer1 c src rz := by
    intro c src rz hcopy
    rw [hj] at hcopy
    cases hcopy
  constructor
  · intro h
    exact hnot _ _ _ ((masterCheckReceiveJudge_write_iff hf).2 (Or.inl ⟨h, rfl, rfl, rfl⟩))
  · intro h
    exact hnot _ _ _ ((masterCheckReceiveJudge_write_iff hf).2 (Or.inr ⟨h, rfl, rfl, rfl⟩))

/-- A call that returns has the right verdict. -/
theorem writeVerdict_of_masterCheckReceive {rtu : Solar48Rs485Rtu} {buf : Mem} {heap : Heap}
    {dynamic : Solar48Mem} {r : CheckReceive} (hf : rtu.function ∈ writeFunctions)
    (hr : masterCheckReceive rtu buf heap dynamic = .ok r) : WriteVerdict rtu buf r := by
  have hcodes : masterTransferSuccess ≠ masterTransferSuccessWithErrorCode := by decide
  cases hj : masterCheckReceiveJudge rtu buf with
  | ret code =>
      obtain ⟨hecho, hex⟩ := not_reply_of_ret hf hj
      have hsound := masterCheckReceiveJudge_sound rtu buf
      rw [hj] at hsound
      rw [masterCheckReceive, hj] at hr
      obtain rfl := Except.ok.inj hr
      exact ⟨iff_of_false hsound.1 hecho, iff_of_false hsound.2 hex, fun h => absurd h hecho,
        fun h => absurd h hex, fun _ _ => ⟨hsound, rfl, rfl⟩⟩
  | copyBuffer1 c src rz =>
      obtain ⟨dynamic', hmem⟩ := solar48Mem_of_masterCheckReceive hj hr
      rcases (masterCheckReceiveJudge_write_iff hf).1 hj with
        ⟨hecho, rfl, rfl, rfl⟩ | ⟨hex, rfl, rfl, rfl⟩
      · obtain ⟨r', d, hr', hstatus, hdata⟩ := masterCheckReceive_of_two_bytes rfl hj hmem
        obtain rfl := Except.ok.inj (hr'.symm.trans hr)
        have hnot := hecho.not_isException
        exact ⟨iff_of_true hstatus hecho, iff_of_false (hstatus ▸ hcodes) hnot, fun _ => ⟨d, hdata⟩,
          fun h => absurd h hnot, fun h => absurd hecho h⟩
      · obtain ⟨r', d, hr', hstatus, hdata⟩ := masterCheckReceive_of_two_bytes rfl hj hmem
        obtain rfl := Except.ok.inj (hr'.symm.trans hr)
        have hnot : ¬ IsWriteEcho rtu buf := fun h => h.not_isException hex
        exact ⟨iff_of_false (hstatus ▸ hcodes.symm) hnot, iff_of_true hstatus hex,
          fun h => absurd h hnot, fun _ => ⟨d, hdata⟩, fun _ h => absurd hex h⟩

/-- A call that does not return had an echo or an exception, and no room for its two bytes. -/
theorem no_room_of_masterCheckReceive_write {rtu : Solar48Rs485Rtu} {buf : Mem} {heap : Heap}
    {dynamic : Solar48Mem} {msg : String} (hf : rtu.function ∈ writeFunctions)
    (h : masterCheckReceive rtu buf heap dynamic = .error msg) :
    (IsWriteEcho rtu buf ∨ IsException rtu buf) ∧
      ∃ msg', solar48Mem heap dynamic 2 = .error msg' := by
  obtain ⟨c, src, rz, msg', hj, hmem⟩ := masterCheckReceive_error h
  rcases (masterCheckReceiveJudge_write_iff hf).1 hj with ⟨hecho, -, rfl, -⟩ | ⟨hex, -, rfl, -⟩
  · exact ⟨Or.inl hecho, msg', hmem⟩
  · exact ⟨Or.inr hex, msg', hmem⟩

/-- **A write is confirmed by its echo, refused by an exception, and anything else is an error**;
the call returns unless there is no room for two bytes. -/
theorem masterCheckReceive_write (rtu : Solar48Rs485Rtu) (buf : Mem) (heap : Heap)
    (dynamic : Solar48Mem) (hf : rtu.function ∈ writeFunctions) :
    (∀ r, masterCheckReceive rtu buf heap dynamic = .ok r → WriteVerdict rtu buf r) ∧
      ∀ msg, masterCheckReceive rtu buf heap dynamic = .error msg →
        ∃ msg', solar48Mem heap dynamic 2 = .error msg' := by
  constructor
  · intro r hr
    exact writeVerdict_of_masterCheckReceive hf hr
  · intro msg hmsg
    exact (no_room_of_masterCheckReceive_write hf hmsg).2

/-- A coil is switched on, and the slave says so. -/
theorem masterCheckReceive_write_coil :
    ∃ r, masterCheckReceive ⟨3, .writeSingleCoil, 0x000F, 0xFF00⟩
        (write (fun _ => 0) 0 (closeFrame [3, 5, 0, 0x0F, 0xFF, 0])) .roomy ⟨none, 0⟩ = .ok r ∧
      WriteVerdict ⟨3, .writeSingleCoil, 0x000F, 0xFF00⟩
        (write (fun _ => 0) 0 (closeFrame [3, 5, 0, 0x0F, 0xFF, 0])) r := by
  obtain ⟨r, hr⟩ : ∃ r, masterCheckReceive ⟨3, .writeSingleCoil, 0x000F, 0xFF00⟩
      (write (fun _ => 0) 0 (closeFrame [3, 5, 0, 0x0F, 0xFF, 0])) .roomy ⟨none, 0⟩ = .ok r :=
    ⟨_, rfl⟩
  exact ⟨r, hr, (masterCheckReceive_write _ _ _ _ (by decide)).1 r hr⟩

end Solar48
