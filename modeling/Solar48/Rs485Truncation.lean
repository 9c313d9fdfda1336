/-
**What the master judges when a response is cut short.**

The buffer of the master is used for sending and for receiving.  Before the response arrives,
`TIM2_IRQHandler` clears its first four bytes (`MODBUS_MASTER_BUF_INVALIDATE`), and the number of
bytes that arrive is compared with nothing.  So the checker sees the bytes received, zeros up to
the fourth byte, and behind them whatever was there before, the request that was just sent
included.

A response whose head says how long it is, and of whose CRC not enough has come, can therefore be
completed by old bytes.  `Solar48.judgesReceivedOnly_iff` says that this is the only way in which
the outcome depends on them: the bytes received must begin a response to the pending request, and
must leave its CRC open.

Main definitions:

* `Solar48.afterReceive` — the buffer that the checker sees;
* `Solar48.CheckReceive.outcome` — what the caller is told;
* `Solar48.JudgesReceivedOnly` — the outcome does not depend on old bytes;
* `Solar48.BeginsResponse`, `Solar48.responseLength` — the head of a response, and how many bytes
  it announces.
-/

import Solar48.Rs485Response

set_option relaxedAutoImplicit false
set_option autoImplicit false

namespace Solar48

open ByteMem

/-! ### The buffer -/

/-- `MODBUS_MASTER_BUF_INVALIDATE`. -/
def modbusMasterBufInvalidate (buf : Mem) : Mem := write buf 0 (bytes32 0)

/-- The buffer once the bytes `r` have been received into it. -/
def afterReceive (buf : Mem) (r : List UInt8) : Mem := write (modbusMasterBufInvalidate buf) 0 r

/-- The bytes that do not depend on what was in the buffer. -/
def known (r : List UInt8) : List UInt8 := r ++ List.replicate (4 - r.length) 0

@[simp] theorem length_known (r : List UInt8) : (known r).length = max 4 r.length := by
  simp only [known, List.length_append, List.length_replicate]
  omega

theorem afterReceive_eq (buf : Mem) (r : List UInt8) :
    afterReceive buf r = write buf 0 (known r) := by
  have hzero : ∀ i < 4, (bytes32 0)[i]? = some 0 := by decide
  funext i
  rcases Nat.lt_or_ge i r.length with hr | hr
  · simp [afterReceive, known, write, List.getElem?_append_left, hr]
  · rw [afterReceive, write_of_ge _ _ _ (by omega), modbusMasterBufInvalidate]
    rcases Nat.lt_or_ge i 4 with h₄ | h₄
    · simp [write, known, List.getElem?_append_right, hr, hzero i h₄,
        show i - r.length < 4 - r.length by omega]
    · rw [write_of_ge _ _ _ (by simp; omega), write_of_ge _ _ _ (by simp; omega)]

/-! ### The head of a response -/

/-- The number of bytes before the CRC that the head of a buffer announces. -/
def frameLength (rtu : Solar48Rs485Rtu) (buf : Mem) : ℕ :=
  if buf 1 = rtu.function.errorCode then 3
  else
    match rtu.function.response with
    | some (.read _ _ _, _) => 3 + (buf 2).toNat
    | _ => 6

/-- The buffer with nothing but the bytes received. -/
abbrev received (r : List UInt8) : Mem := write (fun _ => 0) 0 r

/-- The number of bytes before the CRC of the response that `r` begins. -/
def responseLength (rtu : Solar48Rs485Rtu) (r : List UInt8) : ℕ := frameLength rtu (received r)

/-- As far as the bytes received go, and with zeros up to the fourth, they are the head of a
response to the pending request: its slave, and an exception, or its function with a byte count
that is let through, or the echo of its address and its number. -/
def BeginsResponse (rtu : Solar48Rs485Rtu) (r : List UInt8) : Prop :=
  received r 0 = rtu.address ∧
    match rtu.function.response with
    | none => False
    | some (kind, _) =>
        received r 1 = rtu.function.errorCode ∨ received r 1 = rtu.function.code ∧
          match kind with
          | .read least most _ => least ≤ received r 2 ∧ received r 2 ≤ most
          | .echo _ =>
              received r 2 = hi rtu.memAddress ∧ received r 3 = lo rtu.memAddress ∧
                (4 < r.length → received r 4 = hi rtu.nDataOrDiscrete) ∧
                (5 < r.length → received r 5 = lo rtu.nDataOrDiscrete)

/-! ### What the caller is told -/

/-- The size of the elements that `data_size` counts. -/
def CheckReceive.elementSize (c : CheckReceive) : ℕ :=
  match c.function.response with
  | some (.read _ _ true, _) => if c.status = masterTransferSuccess then 2 else 1
  | _ => 1

/-- The code, the function, and the bytes that `data` and `data_size` describe. -/
def CheckReceive.outcome (c : CheckReceive) : ℤ × MbFunction × Option (List UInt8) :=
  (c.status, c.function, c.data.map fun m => read m 0 (c.elementSize * c.dataSize.toNat))

/-- The outcome of a pending request and the bytes received is the same whatever was in the buffer
before, and it is no success if they are fewer than a response with its CRC has. -/
def JudgesReceivedOnly (rtu : Solar48Rs485Rtu) (r : List UInt8) : Prop :=
  (∀ heap dynamic buf buf',
    (masterCheckReceive rtu (afterReceive buf r) heap dynamic).map CheckReceive.outcome =
      (masterCheckReceive rtu (afterReceive buf' r) heap dynamic).map CheckReceive.outcome) ∧
    (r.length < responseLength rtu r + 2 → ∀ heap dynamic buf c,
      masterCheckReceive rtu (afterReceive buf r) heap dynamic = .ok c → IsFailure c.status)

/-! ### The frame that the known bytes promise -/

theorem expectedFrame_crcOffset {rtu : Solar48Rs485Rtu} {buf : Mem} {fr : ExpectedFrame}
    (h : expectedFrame rtu buf = .ok fr) : fr.crcOffset = frameLength rtu buf := by
  obtain ⟨-, -, kind, codes, hresp, hhead⟩ := expectedFrame_eq_ok_iff.1 h
  rcases headFrame_eq_ok_iff.1 hhead with ⟨h₁, rfl⟩ | ⟨h₁, hans⟩
  · simp [frameLength, h₁, exceptionFrame]
  · have hne : buf 1 ≠ rtu.function.errorCode := by
      rw [h₁]
      exact rtu.function.errorCode_ne_code.symm
    unfold answerFrame at hans
    cases kind with
    | read least most rz =>
        dsimp only at hans
        split at hans
        · cases hans
        · cases hans
          simp [frameLength, hne, hresp]
    | echo addressMismatch =>
        dsimp only at hans
        split at hans
        · cases hans
        split at hans
        · cases hans
        · cases hans
          simp [frameLength, hne, hresp]

theorem exceptionFrame_congr {m m' : Mem} (codes : ExceptionCodes) (h : ∀ i < 3, m i = m' i) :
    exceptionFrame m codes = exceptionFrame m' codes := by
  simp only [exceptionFrame, h 1 (by decide), h 2 (by decide)]

theorem answerFrame_congr {rtu : Solar48Rs485Rtu} {m m' : Mem} {kind : ResponseKind}
    {codes : ExceptionCodes} (hresp : rtu.function.response = some (kind, codes))
    (hne : m 1 ≠ rtu.function.errorCode) (h : ∀ i < frameLength rtu m, m i = m' i) :
    answerFrame rtu m kind codes = answerFrame rtu m' kind codes := by
  simp only [frameLength, if_neg hne, hresp] at h
  cases kind with
  | read least most rz =>
      have h₂ : m 2 = m' 2 := h 2 (by simp only; omega)
      have hread : read m 3 (m' 2).toNat = read m' 3 (m' 2).toNat :=
        read_congr fun i _ hi => h i (by rw [h₂]; exact hi)
      simp only [answerFrame, h₂, hread]
  | echo addressMismatch =>
      have hread : ∀ p, p + 2 ≤ 6 → read m p 2 = read m' p 2 :=
        fun p hp => read_congr fun i _ hi => h i (by simp only; omega)
      simp only [answerFrame, hread 2 (by decide), hread 4 (by decide)]

/-- What the head of a buffer promises depends on its first four bytes, and on those before the
CRC that it announces. -/
theorem expectedFrame_congr {rtu : Solar48Rs485Rtu} {m m' : Mem} (h₄ : ∀ i < 4, m i = m' i)
    (h : ∀ i < frameLength rtu m, m i = m' i) : expectedFrame rtu m = expectedFrame rtu m' := by
  have hword : read32 m 0 = read32 m' 0 := by
    simp only [read32, h₄ 0 (by decide), h₄ 1 (by decide), h₄ 2 (by decide), h₄ 3 (by decide)]
  have h₁ := h₄ 1 (by decide)
  unfold expectedFrame
  rw [hword, h₄ 0 (by decide)]
  cases hresp : rtu.function.response with
  | none => rfl
  | some p =>
      obtain ⟨kind, codes⟩ := p
      have hhead : headFrame rtu m kind codes = headFrame rtu m' kind codes := by
        unfold headFrame
        by_cases herr : m 1 = rtu.function.errorCode
        · rw [if_pos herr, if_pos (h₁.symm.trans herr),
            exceptionFrame_congr codes fun i hi => h₄ i (by omega)]
        · rw [if_neg herr, if_neg (mt h₁.trans herr), h₁, answerFrame_congr hresp herr h]
      dsimp only
      rw [hhead]

/-! ### Bytes that begin no response -/

/-- The bytes that are known are the ones received, and zeros. -/
theorem write_known (buf : Mem) {r : List UInt8} {i : ℕ} (h : i < 4 ∨ i < r.length) :
    write buf 0 (known r) i = received r i := by
  have hzero : modbusMasterBufInvalidate (fun _ => 0) = fun _ => 0 := by
    funext i
    rcases Nat.lt_or_ge i 4 with h₄ | h₄
    · have hbytes : ∀ i < 4, (bytes32 0)[i]? = some 0 := by decide
      simp [modbusMasterBufInvalidate, write, hbytes i h₄]
    · exact write_of_ge _ _ _ (by simp; omega)
  have hrec := afterReceive_eq (fun _ => 0) r
  rw [afterReceive, hzero] at hrec
  rw [received, hrec]
  exact write_eq_write _ _ (by rw [length_known]; omega)

/-- The length that the head announces is known. -/
theorem frameLength_write_known (rtu : Solar48Rs485Rtu) (buf : Mem) (r : List UInt8) :
    frameLength rtu (write buf 0 (known r)) = responseLength rtu r := by
  simp only [responseLength, frameLength, write_known buf (Or.inl (by decide : 1 < 4)),
    write_known buf (Or.inl (by decide : 2 < 4))]

/-- **Bytes that begin no response are refused**, with the same code in every buffer. -/
theorem expectedFrame_of_not_beginsResponse {rtu : Solar48Rs485Rtu} {r : List UInt8}
    (h : ¬ BeginsResponse rtu r) :
    ∃ e, ∀ buf, expectedFrame rtu (write buf 0 (known r)) = .error e := by
  have hk : ∀ buf i, i < 4 → write buf 0 (known r) i = received r i :=
    fun buf i hi => write_known buf (Or.inl hi)
  have hword : ∀ buf, read32 (write buf 0 (known r)) 0 = read32 (received r) 0 := by
    intro buf
    simp only [read32, hk buf 0 (by decide), hk buf 1 (by decide), hk buf 2 (by decide),
      hk buf 3 (by decide)]
  by_cases hz : read32 (received r) 0 = 0
  · exact ⟨_, fun buf => if_pos ((hword buf).trans hz)⟩
  by_cases h₀ : rtu.address ≠ received r 0
  · refine ⟨_, fun buf => (if_neg (mt (hword buf).symm.trans hz)).trans (if_pos ?_)⟩
    rwa [hk buf 0 (by decide)]
  have hhead : ∀ buf, expectedFrame rtu (write buf 0 (known r)) = _ := fun buf =>
    (if_neg (mt (hword buf).symm.trans hz)).trans
      (if_neg (by rwa [hk buf 0 (by decide)]))
  simp only [hhead]
  cases hresp : rtu.function.response with
  | none => exact ⟨_, fun _ => rfl⟩
  | some p =>
      obtain ⟨kind, codes⟩ := p
      simp only [BeginsResponse, hresp, not_and, not_or] at h
      obtain ⟨herr, hans⟩ := h (not_not.1 h₀).symm
      simp only [headFrame, hk _ 1 (by decide), if_neg herr]
      by_cases hcode : received r 1 = rtu.function.code
      swap
      · exact ⟨_, fun _ => if_pos hcode⟩
      simp only [if_neg (not_not_intro hcode)]
      have hkind := hans hcode
      cases kind with
      | read least most rz =>
          have hcount : received r 2 < least ∨ received r 2 > most := by
            by_contra hcon
            exact hkind ⟨UInt8.not_lt.1 (mt Or.inl hcon), UInt8.not_lt.1 (mt Or.inr hcon)⟩
          refine ⟨codes.errorInvalidDataSizeOrUnexpectedDiscrete, fun buf => ?_⟩
          simp only [answerFrame, hk buf 2 (by decide), if_pos hcount]
      | echo addressMismatch =>
          have haddr : ∀ buf, read (write buf 0 (known r)) 2 2 = beBytes16 rtu.memAddress ↔
              received r 2 = hi rtu.memAddress ∧ received r 3 = lo rtu.memAddress := by
            intro buf
            rw [read_two_eq_beBytes16_iff, hk buf 2 (by decide), hk buf 3 (by decide)]
          by_cases hs : received r 2 = hi rtu.memAddress ∧ received r 3 = lo rtu.memAddress
          · -- the half-word that differs is the number
            refine ⟨codes.errorInvalidDataSizeOrUnexpectedDiscrete, fun buf => ?_⟩
            have hnum : read (write buf 0 (known r)) 4 2 ≠ beBytes16 rtu.nDataOrDiscrete := by
              intro heq
              obtain ⟨hw₄, hw₅⟩ := (read_two_eq_beBytes16_iff _ _ _).1 heq
              exact hkind ⟨hs.1, hs.2, fun hlt => (write_known buf (Or.inr hlt)).symm.trans hw₄,
                fun hlt => (write_known buf (Or.inr hlt)).symm.trans hw₅⟩
            exact (if_neg (not_not_intro ((haddr buf).2 hs))).trans (if_pos hnum)
          · exact ⟨addressMismatch, fun buf => if_pos (mt (haddr buf).1 hs)⟩

/-! ### Bytes that begin a response -/

/-- The buffer in which the second half-word of an echo is the one that is expected. -/
def echoBuffer (rtu : Solar48Rs485Rtu) : Mem :=
  write (fun _ => 0) 4 (beBytes16 rtu.nDataOrDiscrete)

/-- **Bytes that begin a response are given a frame** by any buffer that continues them as
`echoBuffer` does. -/
theorem expectedFrame_of_beginsResponse {rtu : Solar48Rs485Rtu} {r : List UInt8}
    (h : BeginsResponse rtu r) {buf : Mem}
    (hbuf : ∀ i < responseLength rtu r,
      write buf 0 (known r) i = write (echoBuffer rtu) 0 (known r) i) :
    ∃ fr, expectedFrame rtu (write buf 0 (known r)) = .ok fr ∧
      fr.crcOffset = responseLength rtu r := by
  have hk : ∀ i, i < 4 → write buf 0 (known r) i = received r i :=
    fun i hi => write_known buf (Or.inl hi)
  suffices hok : ∃ fr, expectedFrame rtu (write buf 0 (known r)) = .ok fr by
    obtain ⟨fr, hfr⟩ := hok
    exact ⟨fr, hfr, (expectedFrame_crcOffset hfr).trans (frameLength_write_known rtu buf r)⟩
  obtain ⟨h₀, hbegin⟩ := h
  cases hresp : rtu.function.response with
  | none =>
      rw [hresp] at hbegin
      exact hbegin.elim
  | some p =>
      obtain ⟨kind, codes⟩ := p
      rw [hresp] at hbegin
      dsimp only at hbegin
      have hword : read32 (write buf 0 (known r)) 0 ≠ 0 := by
        rw [Ne, read32_eq_zero_iff, hk 1 (by decide)]
        rintro ⟨-, hz, -⟩
        rcases hbegin with herr | ⟨hcode, -⟩
        · exact rtu.function.errorCode_ne_zero (herr.symm.trans hz)
        · exact MbFunction.code_ne_zero hresp (hcode.symm.trans hz)
      simp only [expectedFrame_eq_ok_iff, headFrame_eq_ok_iff, hk 0 (by decide), hk 1 (by decide)]
      rcases hbegin with herr | ⟨hcode, hkind⟩
      · exact ⟨_, hword, h₀, kind, codes, hresp, Or.inl ⟨herr, rfl⟩⟩
      suffices hans : ∃ fr, answerFrame rtu (write buf 0 (known r)) kind codes = .ok fr by
        obtain ⟨fr, hfr⟩ := hans
        exact ⟨fr, hword, h₀, kind, codes, hresp, Or.inr ⟨hcode, hfr⟩⟩
      cases kind with
      | read least most rz =>
          exact ⟨_, answerFrame_read_eq_ok_iff.2 ⟨by rw [hk 2 (by decide)]; exact hkind.1,
            by rw [hk 2 (by decide)]; exact hkind.2, rfl⟩⟩
      | echo addressMismatch =>
          obtain ⟨h₂, h₃, h₄, h₅⟩ := hkind
          have hsix : responseLength rtu r = 6 := by
            have hne : received r 1 ≠ rtu.function.errorCode := by
              rw [hcode]
              exact rtu.function.errorCode_ne_code.symm
            rw [responseLength, frameLength, if_neg hne, hresp]
          -- a byte of the second half-word was received, or the buffer has it
          have hecho : ∀ i x, 4 ≤ i → i < 6 → echoBuffer rtu i = x →
              (i < r.length → received r i = x) → write buf 0 (known r) i = x := by
            intro i x h4 h6 hb hr
            rw [hbuf i (by omega)]
            rcases Nat.lt_or_ge i r.length with hlt | hge
            · exact (write_known _ (Or.inr hlt)).trans (hr hlt)
            · rw [write_of_ge _ _ _ (by rw [length_known]; omega), hb]
          have haddr : ByteMem.read (write buf 0 (known r)) 2 2 = beBytes16 rtu.memAddress := by
            rw [read_two_eq_beBytes16_iff, hk 2 (by decide), hk 3 (by decide)]
            exact ⟨h₂, h₃⟩
          have hnum : ByteMem.read (write buf 0 (known r)) 4 2 = beBytes16 rtu.nDataOrDiscrete := by
            rw [read_two_eq_beBytes16_iff]
            exact ⟨hecho 4 _ (by decide) (by decide) rfl h₄,
              hecho 5 _ (by decide) (by decide) rfl h₅⟩
          exact ⟨_, (if_neg (not_not_intro haddr)).trans (if_neg (not_not_intro hnum))⟩

/-! ### What old bytes can do -/

/-- If the CRC is not open, the checker comes to the same judgement in every buffer. -/
theorem masterCheckReceiveJudge_of_not_open {rtu : Solar48Rs485Rtu} {r : List UInt8}
    (h : ¬ Open (known r) (responseLength rtu r)) (buf buf' : Mem) :
    masterCheckReceiveJudge rtu (write buf 0 (known r)) =
      masterCheckReceiveJudge rtu (write buf' 0 (known r)) := by
  have hlt : responseLength rtu r < (known r).length := Nat.lt_of_not_le fun hle => h (Or.inl hle)
  have hexp : expectedFrame rtu (write buf 0 (known r)) =
      expectedFrame rtu (write buf' 0 (known r)) := by
    refine expectedFrame_congr (fun i hi => ?_) fun i hi => ?_
    · exact write_eq_write _ _ (by rw [length_known]; omega)
    · rw [frameLength_write_known] at hi
      exact write_eq_write _ _ (by omega)
  rw [masterCheckReceiveJudge_eq, masterCheckReceiveJudge_eq, ← hexp]
  cases hfr : expectedFrame rtu (write buf 0 (known r)) with
  | error e => rfl
  | ok fr =>
      have hoff := (expectedFrame_crcOffset hfr).trans (frameLength_write_known rtu buf r)
      have hclosed := closedAt_write_iff_of_not_open h buf buf'
      rw [← hoff] at hclosed
      simp only [judgeBy, ExpectedFrame.check, hclosed]

/-- The outcome follows the judgement. -/
theorem masterCheckReceive_congr {rtu : Solar48Rs485Rtu} {m m' : Mem}
    (h : masterCheckReceiveJudge rtu m = masterCheckReceiveJudge rtu m') (heap : Heap)
    (dynamic : Solar48Mem) :
    masterCheckReceive rtu m heap dynamic = masterCheckReceive rtu m' heap dynamic := by
  rw [masterCheckReceive, masterCheckReceive, h]

/-- Success takes a frame and a right CRC. -/
theorem isFailure_of_not_closedAt {rtu : Solar48Rs485Rtu} {m : Mem} {heap : Heap}
    {dynamic : Solar48Mem} {c : CheckReceive}
    (hc : masterCheckReceive rtu m heap dynamic = .ok c)
    (h : ∀ fr, expectedFrame rtu m = .ok fr → ¬ ClosedAt m fr.crcOffset) : IsFailure c.status := by
  rcases masterCheckReceive_status hc with hret | ⟨src, rz, hcopy⟩
  · have hsound := masterCheckReceiveJudge_sound rtu m
    rwa [hret] at hsound
  · obtain ⟨fr, hfr, hclosed, -⟩ := masterCheckReceiveJudge_eq_copyBuffer1_iff.1 hcopy
    exact absurd hclosed (h fr hfr)

theorem three_le_frameLength (rtu : Solar48Rs485Rtu) (m : Mem) : 3 ≤ frameLength rtu m := by
  unfold frameLength
  split
  · exact Nat.le_refl 3
  split
  · exact Nat.le_add_right _ _
  · decide

/-- Bytes that begin no response, or do not leave its CRC open, are judged on their own. -/
theorem judgesReceivedOnly_of {rtu : Solar48Rs485Rtu} {r : List UInt8}
    (h : ¬ BeginsResponse rtu r ∨ ¬ Open (known r) (responseLength rtu r)) :
    JudgesReceivedOnly rtu r := by
  simp only [JudgesReceivedOnly, afterReceive_eq]
  rcases h with hbegin | hopen
  · obtain ⟨e, he⟩ := expectedFrame_of_not_beginsResponse hbegin
    refine ⟨fun heap dynamic buf buf' => ?_, fun _ heap dynamic buf c hc => ?_⟩
    · rw [masterCheckReceive_congr _ heap dynamic]
      rw [masterCheckReceiveJudge_eq, masterCheckReceiveJudge_eq, he buf, he buf']
      rfl
    · refine isFailure_of_not_closedAt hc fun fr hfr => ?_
      rw [he buf] at hfr
      cases hfr
  · refine ⟨fun heap dynamic buf buf' => ?_, fun hshort heap dynamic buf c hc => ?_⟩
    · rw [masterCheckReceive_congr (masterCheckReceiveJudge_of_not_open hopen buf buf')]
    · refine isFailure_of_not_closedAt hc fun fr hfr => ?_
      have hlen : (known r).length ≤ responseLength rtu r + 1 := by
        have h3 : 3 ≤ responseLength rtu r := three_le_frameLength rtu _
        rw [length_known]
        omega
      rw [expectedFrame_crcOffset hfr, frameLength_write_known]
      exact not_closedAt_write_of_not_open hopen hlen buf

/-- **Old bytes can complete a response whose CRC is open**, and so turn it into a success, or into
another failure than the bytes received deserve. -/
theorem not_judgesReceivedOnly_of {rtu : Solar48Rs485Rtu} {r : List UInt8}
    (hbegin : BeginsResponse rtu r) (hopen : Open (known r) (responseLength rtu r)) :
    ¬ JudgesReceivedOnly rtu r := by
  have hlen : (known r).length ≤ responseLength rtu r + 1 := by
    rcases hopen with h | ⟨h, -⟩ <;> omega
  obtain ⟨b, hb, hclosed⟩ := exists_closedAt_write (echoBuffer rtu) hopen
  obtain ⟨b', hb', hspoilt⟩ := exists_not_closedAt_write (echoBuffer rtu) hlen
  obtain ⟨fr, hfr, hoff⟩ := expectedFrame_of_beginsResponse hbegin hb
  have hfr' : expectedFrame rtu (write b' 0 (known r)) = .ok fr := by
    rw [← hfr]
    refine expectedFrame_congr (fun i hi => ?_) fun i hi => ?_
    · rw [write_known b' (Or.inl hi), write_known b (Or.inl hi)]
    · rw [frameLength_write_known] at hi
      exact (hb' i hi).trans (hb i hi).symm
  rw [← hoff] at hclosed hspoilt
  have hj : masterCheckReceiveJudge rtu (write b 0 (known r)) = fr.accepted := by
    rw [masterCheckReceiveJudge_eq, hfr, judgeBy, ExpectedFrame.check_of_closedAt hclosed]
  have hj' : masterCheckReceiveJudge rtu (write b' 0 (known r)) = .ret fr.badCrc := by
    rw [masterCheckReceiveJudge_eq, hfr', judgeBy, ExpectedFrame.check_of_not_closedAt hspoilt]
  have hsound := expectedFrame_sound rtu (write b 0 (known r))
  rw [hfr] at hsound
  simp only [JudgesReceivedOnly, afterReceive_eq]
  rintro ⟨hsame, hshort⟩
  cases hacc : fr.accepted with
  | ret code =>
      -- the frame is an exception without a valid code: the two buffers give two failures
      have hret := hsame .roomy ⟨none, 0⟩ b b'
      rw [hacc] at hj
      simp only [masterCheckReceive, hj, hj', Except.map, CheckReceive.outcome, Except.ok.injEq,
        Prod.mk.injEq] at hret
      exact hsound.accepted_ne (by rw [hacc, hret.1])
  | copyBuffer1 code src rz =>
      have haccepted := hsound.accepted
      rw [hacc] at haccepted hj
      obtain ⟨hcode, hpos, hlt⟩ := haccepted
      obtain ⟨dynamic, hmem⟩ := solar48Mem_of_grants (Heap.roomy_grants src.length) ⟨none, 0⟩
        (Nat.ne_of_gt hpos) (Nat.le_refl _)
      obtain ⟨m, dynamic', hret⟩ := masterCheckReceive_of_copyBuffer1 hj hmem
      have hr : r.length < responseLength rtu r + 2 := by
        rw [length_known] at hlen
        omega
      obtain ⟨h₀, h₁⟩ := hshort hr .roomy ⟨none, 0⟩ b _ hret
      rcases hcode with hcode | hcode
      · exact h₀ hcode
      · exact h₁ hcode

/-- **The outcome depends on the bytes received alone exactly when they begin no response to the
pending request or do not leave its CRC open.** -/
theorem judgesReceivedOnly_iff (rtu : Solar48Rs485Rtu) (r : List UInt8) :
    JudgesReceivedOnly rtu r ↔
      ¬ BeginsResponse rtu r ∨ ¬ Open (known r) (responseLength rtu r) := by
  refine ⟨fun h => ?_, judgesReceivedOnly_of⟩
  by_contra hcon
  rw [not_or, not_not, not_not] at hcon
  exact not_judgesReceivedOnly_of hcon.1 hcon.2 h

/-- Two bytes of the echo of a write, and the request behind them is taken for the rest. -/
theorem judgesReceivedOnly_truncated_echo :
    ¬ JudgesReceivedOnly ⟨1, .writeSingleCoil, 0, 0⟩ [1, 5] := by
  rintro ⟨-, hshort⟩
  have hret := hshort (by decide) .roomy ⟨none, 0⟩
    (write (fun _ => 0) 0 (closeFrame [1, 5, 0, 0, 0, 0])) _ rfl
  exact absurd hret (by decide)

end Solar48
