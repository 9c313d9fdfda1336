/-
**What the slave refuses, and how.**

The slave has one function.  Everything else that it answers, it answers with an exception: the
function byte of the request plus `0x80`, and a code.  The sum is made in eight bits, so it marks
the reply as an exception only while bit 7 of the request is clear
(`Solar48.decidesUnmistakably_iff`).

Nor is every function refused.  The CRC is looked up at one place, behind six bytes, before the
function is; a request that is longer or shorter has its CRC elsewhere, and is dropped without an
answer (`Solar48.refuses_iff`).

Main definitions:

* `Solar48.slaveRequest` — the frames of eight bytes with a right CRC;
* `Solar48.DecidesUnmistakably` — the decision table of the slave, and the mark of an exception;
* `Solar48.UnsupportedRequest`, `Solar48.Refuses` — the other functions, and their refusal.

Main results:

* `Solar48.decidesUnmistakably_iff` — **the mark is right below `0x80`, and nowhere else**;
* `Solar48.refuses_iff` — **a request is refused if the bytes 6 and 7 are the CRC of the first
  six**, wherever its own CRC is.
-/

import Solar48.Rs485Slave

set_option relaxedAutoImplicit false
set_option autoImplicit false

namespace Solar48

open ByteMem

/-! ### Requests of eight bytes -/

/-- A function byte, a start and a quantity, addressed to a slave. -/
def slaveRequest (address f : UInt8) (start n : UInt16) : List UInt8 :=
  closeFrame ([address, f] ++ beBytes16 start ++ beBytes16 n)

/-- There are no others. -/
theorem isRequestTo_iff {address : UInt8} {r : List UInt8} :
    IsRequestTo address r ↔ ∃ f start n, r = slaveRequest address f start n := by
  constructor
  · rintro ⟨hlen, hhead, hcrc⟩
    match r, hlen with
    | [a, f, s₁, s₀, n₁, n₀, c₀, c₁], _ =>
        obtain rfl : a = address := by simpa using hhead
        refine ⟨f, le16 s₀ s₁, le16 n₀ n₁, ?_⟩
        rw [hcrc]
        simp [slaveRequest, beBytes16]
  · rintro ⟨f, start, n, rfl⟩
    refine ⟨by simp [slaveRequest], rfl, ?_⟩
    simp [slaveRequest, closeFrame, beBytes16]

/-- A frame of eight bytes arrives: it is answered by what is in it. -/
theorem IdleSlave.serve_slaveRequest (s : IdleSlave) (f : UInt8) (start n : UInt16) :
    (s.serve (slaveRequest s.slaveAddress f start n)).2 =
      some (closeFrame (slaveAnswer s.slaveAddress f start n s.area)) := by
  obtain ⟨m, hm⟩ : ∃ m, m = write s.buffer 0 (slaveRequest s.slaveAddress f start n) := ⟨_, rfl⟩
  have hbyte : ∀ i (h : i < 6),
      m i = ([s.slaveAddress, f] ++ beBytes16 start ++ beBytes16 n)[i] := by
    intro i h
    rw [hm]
    exact write_closeFrame_getElem _ _ h
  have h₀ : m 0 = s.slaveAddress := hbyte 0 (by decide)
  have h₁ : m 1 = f := hbyte 1 (by decide)
  have hstart : le16 (m 3) (m 2) = start := by
    rw [hbyte 2 (by decide), hbyte 3 (by decide)]
    exact le16_lo_hi start
  have hn : le16 (m 5) (m 4) = n := by
    rw [hbyte 4 (by decide), hbyte 5 (by decide)]
    exact le16_lo_hi n
  have h₆ : ClosedAt m 6 := by
    rw [hm]
    exact closedAt_write_closeFrame _ _
  rw [IdleSlave.serve_reply, ← hm, if_pos ⟨h₀, h₆⟩, answerTo, h₀, h₁, hstart, hn]

/-! ### The decision table -/

/-- What the slave has, and hands out. -/
def Readable (f : UInt8) (start n : UInt16) : Prop :=
  f = 3 ∧ (1 ≤ n ∧ n ≤ 125) ∧ 0x4000 ≤ start ∧ start.toNat + n.toNat ≤ 0x4008

/-- The exception code of what it does not hand out. -/
def refusalCode (f : UInt8) (n : UInt16) : UInt8 :=
  if f ≠ 3 then 1 else if ¬ (1 ≤ n ∧ n ≤ 125) then 3 else 2

/-- The function byte and the byte count of a normal reply. -/
def IsNormalReply (n : UInt16) (reply : List UInt8) : Prop :=
  reply[1]? = some 3 ∧ reply[2]?.map UInt8.toNat = some (2 * n.toNat)

/-- A function byte that marks the refusal of the function `f`: bit 7 is set, and the other seven
are those of `f`. -/
def MarksException (f g : UInt8) : Prop := 0x80 ≤ g ∧ g.toNat % 0x80 = f.toNat % 0x80

/-- The reply is the one of the decision table. -/
structure DecisionTable (address f : UInt8) (start n : UInt16) (reply : List UInt8) : Prop where
  normal_iff : IsNormalReply n reply ↔ Readable f start n
  exception : ¬ Readable f start n →
    ∃ g, reply = closeFrame [address, g, refusalCode f n] ∧ MarksException f g

/-- The slave replies, and by the decision table. -/
def DecidesUnmistakably (s : IdleSlave) (f : UInt8) (start n : UInt16) : Prop :=
  ∃ reply, (s.serve (slaveRequest s.slaveAddress f start n)).2 = some reply ∧
    DecisionTable s.slaveAddress f start n reply

/-- The sum in eight bits marks an exception if bit 7 was clear. -/
theorem marksException_iff (f : UInt8) : MarksException f (0x80 + f) ↔ f < 0x80 := by
  have h₈ : (0x80 : UInt8).toNat = 0x80 := rfl
  have hf := f.toNat_lt
  rw [MarksException, UInt8.le_iff_toNat_le, UInt8.lt_iff_toNat_lt, UInt8.toNat_add, h₈]
  omega

/-- The cases of `slaveAnswer`. -/
theorem slaveAnswer_of_not_readable {f : UInt8} {start n : UInt16} (address : UInt8) (area : Mem)
    (h : ¬ Readable f start n) :
    slaveAnswer address f start n area = slaveException address f (refusalCode f n) := by
  have hcode : MbFunction.readHoldingRegisters.code = 3 := rfl
  rw [slaveAnswer, refusalCode, hcode]
  by_cases hf : f ≠ 3
  · rw [if_pos hf, if_pos hf]
  rw [if_neg hf, if_neg hf]
  by_cases hn : 1 ≤ n ∧ n ≤ 125
  swap
  · rw [if_pos hn, if_pos hn]
  have harea : ¬ InArea start n := fun hin => h ⟨not_not.1 hf, hn, hin⟩
  rw [if_neg (not_not_intro hn), if_neg (not_not_intro hn), if_pos harea]

theorem slaveAnswer_of_readable {f : UInt8} {start n : UInt16} (address : UInt8) (area : Mem)
    (h : Readable f start n) :
    slaveAnswer address f start n area = [address, f, UInt8.ofNat (2 * n.toNat)] ++
      swapPairs (read area (2 * (start.toNat - 0x4000)) (2 * n.toNat)) := by
  obtain ⟨rfl, hn, hin⟩ := h
  have hcode : MbFunction.readHoldingRegisters.code = 3 := rfl
  have harea : InArea start n := hin
  rw [slaveAnswer, hcode, if_neg (not_not_intro rfl), if_neg (not_not_intro hn),
    if_neg (not_not_intro harea)]
  rfl

/-- A reply with data is a normal one. -/
theorem isNormalReply_of_readable {f : UInt8} {start n : UInt16} (address : UInt8) (area : Mem)
    (h : Readable f start n) :
    IsNormalReply n (closeFrame (slaveAnswer address f start n area)) := by
  have hle : n.toNat ≤ 125 := UInt16.le_iff_toNat_le.1 h.2.1.2
  have hlt : 2 * n.toNat < 256 := by omega
  rw [slaveAnswer_of_readable address area h]
  exact ⟨congrArg some h.1, congrArg some (UInt8.toNat_ofNat_of_lt' hlt)⟩

/-- A refusal is none: its code is odd where the byte count is even, or its function byte is
marked. -/
theorem not_isNormalReply_of_not_readable {f : UInt8} {start n : UInt16} (address : UInt8)
    (area : Mem) (h : ¬ Readable f start n) :
    ¬ IsNormalReply n (closeFrame (slaveAnswer address f start n area)) := by
  rw [slaveAnswer_of_not_readable address area h]
  rintro ⟨hfun, hcount⟩
  have hfun' : 0x80 + f = 3 := Option.some.inj hfun
  have hcount' : (refusalCode f n).toNat = 2 * n.toNat := Option.some.inj hcount
  have hf : f ≠ 3 := by
    rintro rfl
    exact absurd hfun' (by decide)
  rw [refusalCode, if_pos hf] at hcount'
  have h₁ : (1 : UInt8).toNat = 1 := rfl
  omega

/-- A refusal by the decision table has the mark. -/
theorem DecidesUnmistakably.lt_of_not_readable {s : IdleSlave} {f : UInt8} {start n : UInt16}
    (h : DecidesUnmistakably s f start n) (hr : ¬ Readable f start n) : f < 0x80 := by
  obtain ⟨reply, hreply, -, hex⟩ := h
  obtain ⟨g, hg, hmark⟩ := hex hr
  rw [IdleSlave.serve_slaveRequest, slaveAnswer_of_not_readable _ _ hr, hg] at hreply
  have hbyte := congrArg (fun r : List UInt8 => r[1]?) (Option.some.inj hreply)
  obtain rfl : 0x80 + f = g := Option.some.inj hbyte
  exact (marksException_iff f).1 hmark

/-- **The reply is the one of the decision table, and no exception can be taken for another reply,
exactly when bit 7 of the function byte is clear.** -/
theorem decidesUnmistakably_iff (s : IdleSlave) (f : UInt8) (start n : UInt16) :
    DecidesUnmistakably s f start n ↔ f < 0x80 := by
  constructor
  · intro h
    by_cases hr : Readable f start n
    · rw [hr.1]
      decide
    · exact h.lt_of_not_readable hr
  · intro hf
    refine ⟨_, s.serve_slaveRequest f start n, ⟨fun hnormal => ?_, ?_⟩, fun hr => ?_⟩
    · by_contra hr
      exact not_isNormalReply_of_not_readable s.slaveAddress s.area hr hnormal
    · exact isNormalReply_of_readable s.slaveAddress s.area
    · exact ⟨0x80 + f, by rw [slaveAnswer_of_not_readable _ _ hr, slaveException],
        (marksException_iff f).2 hf⟩

/-- The function byte `0x83` is refused with the function byte 3. -/
theorem not_decidesUnmistakably_wrapped :
    ¬ DecidesUnmistakably (.withBuffer 1 (fun _ => 0) (fun _ => 0)) 0x83 0x4000 1 := by
  intro h
  have hr : ¬ Readable 0x83 0x4000 1 := fun hr => absurd hr.1 (by decide)
  exact absurd (h.lt_of_not_readable hr) (by decide)

/-! ### Functions that are not supported -/

/-- A Modbus RTU request for a function that the slave has not: its CRC is at its end. -/
structure UnsupportedRequest (address f : UInt8) (r : List UInt8) : Prop where
  four_le_length : 4 ≤ r.length
  length_le : r.length ≤ 256
  head : r[0]? = some address
  function : r[1]? = some f
  crc : r = closeFrame (r.take (r.length - 2))
  code : 1 ≤ f ∧ f ≤ 127
  unsupported : f ≠ 3

/-- The slave, with the frame at the start of its buffer. -/
def IdleSlave.receive (s : IdleSlave) (r : List UInt8) : Slave :=
  { s.toSlave with buffer := write s.buffer 0 r }

/-- The function is refused: the return code says so, and so does the reply. -/
def Refuses (s : IdleSlave) (f : UInt8) (r : List UInt8) : Prop :=
  (slaveSendResp (s.receive r)).2.1 = eRs485SlaveFunctionCodeNotSupported ∧
    (s.receive r).reply = some (closeFrame [s.slaveAddress, f + 0x80, 1])

/-- Which frames are answered does not depend on their function. -/
theorem slaveSendResp_of_unsupported {s : Slave} (h₀ : s.buffer 0 = s.slaveAddress)
    (h₆ : ClosedAt s.buffer 6) (hf : s.buffer 1 ≠ MbFunction.readHoldingRegisters.code) :
    slaveSendResp s = slaveSendException s (s.buffer 1) 1 eRs485SlaveFunctionCodeNotSupported := by
  rw [slaveSendResp_eq_slaveSendValid h₀ h₆]
  exact if_pos hf

/-- The first two bytes of the buffer are those of the frame. -/
theorem UnsupportedRequest.receive_bytes {s : IdleSlave} {f : UInt8} {r : List UInt8}
    (h : UnsupportedRequest s.slaveAddress f r) :
    (s.receive r).buffer 0 = s.slaveAddress ∧ (s.receive r).buffer 1 = f := by
  have hlen := h.four_le_length
  have hbyte : ∀ {i : ℕ} {x : UInt8}, i < 2 → r[i]? = some x → (s.receive r).buffer i = x := by
    intro i x hi hx
    obtain ⟨hlt, hget⟩ := List.getElem?_eq_some_iff.1 hx
    have hwrite := write_getElem s.buffer 0 r hlt
    rw [Nat.zero_add] at hwrite
    exact hwrite.trans hget
  exact ⟨hbyte (by decide) h.head, hbyte (by decide) h.function⟩

/-- **A function is refused exactly when its request has a CRC behind its first six bytes.** -/
theorem UnsupportedRequest.refuses_iff_closedAt {s : IdleSlave} {f : UInt8} {r : List UInt8}
    (h : UnsupportedRequest s.slaveAddress f r) :
    Refuses s f r ↔ ClosedAt (write s.buffer 0 r) 6 := by
  obtain ⟨h₀, h₁⟩ := h.receive_bytes
  have hreply := Slave.reply_eq (s := s.receive r) s.lock_free
  constructor
  · rintro ⟨-, hrefused⟩
    by_contra hc
    rw [hreply, if_neg fun hboth => hc hboth.2] at hrefused
    cases hrefused
  · intro hc
    have hf : (s.receive r).buffer 1 ≠ MbFunction.readHoldingRegisters.code := by
      rw [h₁]
      exact h.unsupported
    have hanswer : answerTo (s.receive r).buffer (s.receive r).area =
        [s.slaveAddress, f + 0x80, 1] := by
      rw [answerTo, slaveAnswer, if_pos hf, slaveException, h₀, h₁, UInt8.add_comm]
    refine ⟨?_, ?_⟩
    · rw [slaveSendResp_of_unsupported h₀ hc hf]
      rfl
    · rw [hreply, if_pos ⟨h₀, hc⟩, hanswer]

/-- In a frame of eight bytes, the CRC is where the slave looks for it. -/
theorem UnsupportedRequest.closedAt_of_length {s : IdleSlave} {f : UInt8} {r : List UInt8}
    (h : UnsupportedRequest s.slaveAddress f r) (h₈ : r.length = 8) :
    ClosedAt (write s.buffer 0 r) 6 := by
  have hcrc := h.crc
  have htake : r.take 8 = r := List.take_of_length_le (Nat.le_of_eq h₈)
  rw [h₈] at hcrc
  exact (closedAt_write_six_iff s.buffer (Nat.le_of_eq h₈.symm)).2 (htake.trans hcrc)

/-- The requests of fixed length are refused, whatever they ask for. -/
theorem refuses_requestPdu (s : IdleSlave) {f : MbFunction} (start n : UInt16)
    (hf : f ∈ [MbFunction.readCoils, .readDiscreteInputs, .readInputRegisters, .writeSingleCoil,
      .writeSingleRegister]) :
    Refuses s f.code (closeFrame (requestPdu s.slaveAddress f start n)) := by
  have hcode : (1 ≤ f.code ∧ f.code ≤ 127) ∧ f.code ≠ 3 := by
    simp only [List.mem_cons, List.not_mem_nil, or_false] at hf
    rcases hf with rfl | rfl | rfl | rfl | rfl <;> decide
  have h : UnsupportedRequest s.slaveAddress f.code
      (closeFrame (requestPdu s.slaveAddress f start n)) :=
    ⟨by simp, by simp, rfl, rfl, rfl, hcode.1, hcode.2⟩
  exact h.refuses_iff_closedAt.2 (h.closedAt_of_length (by simp))

/-- **A request is refused if it has eight bytes**; if it is longer, when its bytes 6 and 7 happen
to be the CRC of the first six, and if it is shorter, when what is left in the buffer completes it
to such a frame. -/
theorem refuses_iff (s : IdleSlave) {f : UInt8} {r : List UInt8}
    (h : UnsupportedRequest s.slaveAddress f r) :
    Refuses s f r ↔ r.length = 8 ∨ (8 < r.length ∧ r.take 8 = closeFrame (r.take 6)) ∨
      (r.length < 8 ∧ ClosedAt (write s.buffer 0 r) 6) := by
  rw [h.refuses_iff_closedAt]
  rcases Nat.lt_trichotomy r.length 8 with hlt | h₈ | hgt
  · have hne : r.length ≠ 8 := Nat.ne_of_lt hlt
    have hnot : ¬ 8 < r.length := by omega
    simp [hlt, hne, hnot]
  · exact iff_of_true (h.closedAt_of_length h₈) (Or.inl h₈)
  · have hne : r.length ≠ 8 := Nat.ne_of_gt hgt
    have hnot : ¬ r.length < 8 := by omega
    simp [hgt, hne, hnot, closedAt_write_six_iff s.buffer (Nat.le_of_lt hgt)]

/-- A coil is to be written. -/
theorem refuses_writeSingleCoil :
    Refuses (.withBuffer 1 (fun _ => 0) (fun _ => 0)) 5
      (closeFrame (requestPdu 1 .writeSingleCoil 0x000F 0xFF00)) :=
  (refuses_iff _ ⟨by decide, by decide, rfl, rfl, by decide, by decide, by decide⟩).2
    (Or.inl rfl)

/-- The request of the specification to write one register, which has eleven bytes. -/
theorem not_refuses_writeMultipleRegisters :
    ¬ (∀ r : List UInt8, UnsupportedRequest 1 16 r →
      Refuses (.withBuffer 1 (fun _ => 0) (fun _ => 0)) 16 r) := by
  intro hall
  have h : UnsupportedRequest 1 16
      (closeFrame (writeRequestPdu 1 .writeMultipleRegisters 0x4000 1 [0x12, 0x34])) :=
    ⟨by decide, by decide, rfl, rfl, by decide, by decide, by decide⟩
  have hrefused := hall _ h
  exact absurd ((UnsupportedRequest.refuses_iff_closedAt h).1 hrefused) (by decide)

end Solar48
