/-
**Polling a slave over a noisy line.**

A line that loses frames and flips bits stands between the master and the slave of
`Solar48/Rs485EndToEnd.lean`.  The slave looks for the CRC of a request behind its sixth byte,
whatever the bytes are, so a request in which the line has flipped bits within sixteen consecutive
ones is never answered.  The master looks for the CRC of a response where the response itself says
that it is.  If the line leaves that place as it was, a response with flipped bits is refused too,
and so **every poll of a run ends with the registers that the slave has at that moment, or with the
exception that it answers with, or with an error and no data**
(`Solar48.runBus_rightOrFails`).  What happens in one poll leaves nothing behind that could harm a
later one: a poll over a line that is quiet is always right.

Main definitions:

* `Solar48.BurstApart` — two byte strings that differ within sixteen consecutive bits;
* `Solar48.Line`, `Solar48.Line.Bursty`, `Solar48.Line.KeepsLength` — what the line does;
* `Solar48.pollHoldingRegisters`, `Solar48.runBus` — one poll, and a history of them.

Main results:

* `Solar48.serve_of_burstApart` — **a request that was hit is not answered**;
* `Solar48.masterReceive_of_burstApart` — **a response that was hit is not delivered**;
* `Solar48.runBus_rightOrFails` — every poll of every run.
-/

import Solar48.CrcBurst
import Solar48.Rs485EndToEnd
import Solar48.Rs485Truncation
import Solar48.Uart1Master

set_option relaxedAutoImplicit false
set_option autoImplicit false

namespace Solar48

open ByteMem ShiftRegister

/-! ### Bursts -/

/-- What was received has the length of what was sent, and differs from it within sixteen
consecutive bits only, in the order of transmission. -/
def BurstApart (sent received : List UInt8) : Prop :=
  received.length = sent.length ∧
    ∃ start, ∀ i, (lineBits sent).getD i false ≠ (lineBits received).getD i false →
      start ≤ i ∧ i < start + 16

theorem byteBits_injective : Function.Injective byteBits := by
  intro a b h
  have hword := congrArg (word (w := 16)) h
  rw [word_byteBits, word_byteBits] at hword
  have hnat := congrArg BitVec.toNat hword
  have ha : a.toNat < 256 := a.toNat_lt
  have hb : b.toNat < 256 := b.toNat_lt
  simp only [BitVec.toNat_setWidth, UInt8.toNat_toBitVec] at hnat
  refine UInt8.toNat_inj.1 ?_
  omega

/-- The bits on the line determine the bytes. -/
theorem lineBits_injective : Function.Injective lineBits := by
  intro xs ys h
  induction xs generalizing ys with
  | nil =>
      have hlen := congrArg List.length h
      rw [length_lineBits, length_lineBits] at hlen
      refine (List.length_eq_zero_iff.1 ?_).symm
      simp only [List.length_nil] at hlen
      omega
  | cons x xs ih =>
      cases ys with
      | nil =>
          have hlen := congrArg List.length h
          rw [length_lineBits, length_lineBits] at hlen
          simp only [List.length_nil, List.length_cons] at hlen
          omega
      | cons y ys =>
          rw [lineBits_cons, lineBits_cons] at h
          obtain ⟨hx, hxs⟩ := List.append_inj h (by simp)
          rw [byteBits_injective hx, ih hxs]

/-- **A frame that was hit has a wrong CRC**, at the place where it had a right one. -/
theorem not_closedAt_of_burstApart {m r : List UInt8} (h : BurstApart (closeFrame m) r)
    (hne : r ≠ closeFrame m) (buf : Mem) : ¬ ClosedAt (write buf 0 r) m.length := by
  obtain ⟨hlen, start, hwithin⟩ := h
  rw [length_closeFrame] at hlen
  have hsent := closedAt_write_closeFrame buf m
  rw [closedAt_write_iff_residue buf (length_closeFrame m)] at hsent
  rw [closedAt_write_iff_residue buf hlen, ← hsent]
  refine (residue_ne_residue (by decide) _ ?_ hwithin fun hbits => ?_).symm
  · rw [length_lineBits, length_lineBits, length_closeFrame, hlen]
  · exact hne (lineBits_injective hbits).symm

/-! ### What is refused -/

/-- **A request that was hit is not answered**, wherever it was hit, and whatever the slave has
seen before. -/
theorem serve_of_burstApart (s : IdleSlave) (address : UInt8) (f : MbFunction) (start n : UInt16)
    {r : List UInt8} (h : BurstApart (closeFrame (requestPdu address f start n)) r)
    (hne : r ≠ closeFrame (requestPdu address f start n)) : (s.serve r).2 = none := by
  have hclosed := not_closedAt_of_burstApart h hne s.buffer
  rw [length_requestPdu] at hclosed
  rw [IdleSlave.serve_reply, if_neg fun hc => hclosed hc.2]

/-- **A response that was hit is not delivered**, whatever the pending request is, unless the place
of its CRC has moved. -/
theorem masterCheckReceive_of_burstApart {rtu : Solar48Rs485Rtu} {m r : List UInt8}
    (h : BurstApart (closeFrame m) r) (hne : r ≠ closeFrame m)
    (hkeep : responseLength rtu r = m.length) (buf : Mem) (heap : Heap) (dynamic : Solar48Mem) :
    ∃ code, IsFailure code ∧ masterCheckReceive rtu (afterReceive buf r) heap dynamic =
      .ok { status := code, function := rtu.function, data := none, dataSize := 0, dynamic } := by
  have hclosed := not_closedAt_of_burstApart h hne (modbusMasterBufInvalidate buf)
  have hsound := masterCheckReceiveJudge_sound rtu (afterReceive buf r)
  rw [masterCheckReceive]
  cases hj : masterCheckReceiveJudge rtu (afterReceive buf r) with
  | ret code =>
      rw [hj] at hsound
      exact ⟨code, hsound, rfl⟩
  | copyBuffer1 code src rz =>
      obtain ⟨fr, hfr, hfrClosed, -⟩ := masterCheckReceiveJudge_eq_copyBuffer1_iff.1 hj
      have hoff := expectedFrame_crcOffset hfr
      rw [afterReceive_eq, frameLength_write_known, hkeep] at hoff
      rw [hoff] at hfrClosed
      exact absurd hfrClosed hclosed

/-- The callback is told that the request has failed. -/
def CheckReceive.Failed (c : CheckReceive) : Prop :=
  IsFailure c.status ∧ c.function = .mbFunctionUndefined ∧ c.data = none ∧ c.dataSize = 0

theorem masterReceive_of_burstApart {rtu : Solar48Rs485Rtu} {m r : List UInt8}
    (h : BurstApart (closeFrame m) r) (hne : r ≠ closeFrame m)
    (hkeep : responseLength rtu r = m.length) (buf : Mem) (heap : Heap) (dynamic : Solar48Mem) :
    ∃ c, masterReceive rtu (afterReceive buf r) heap dynamic = .ok c ∧ c.Failed := by
  obtain ⟨code, hcode, hret⟩ := masterCheckReceive_of_burstApart h hne hkeep buf heap dynamic
  exact ⟨_, masterReceive_of_failure hret hcode rfl, hcode, rfl, rfl, rfl⟩

/-! ### The line -/

/-- What arrives of a frame, or nothing. -/
abbrev Line := List UInt8 → Option (List UInt8)

/-- A frame arrives whole or not at all, with flipped bits within sixteen consecutive ones. -/
def Line.Bursty (l : Line) : Prop := ∀ frame r, l frame = some r → BurstApart frame r

/-- What arrives of a response to this request announces as many bytes as the response did. -/
def Line.KeepsLength (l : Line) (rtu : Solar48Rs485Rtu) : Prop :=
  ∀ frame r, l frame = some r → responseLength rtu r = responseLength rtu frame

/-- Every frame arrives as it was sent. -/
def Line.Quiet (l : Line) : Prop := ∀ frame, l frame = some frame

/-! ### Polling -/

/-- The two ends of the bus between two polls. -/
structure Bus where
  /-- `modbus_master_buffer`. -/
  masterBuf : Mem
  /-- `modbus_master_buffer_receive_dynamic`. -/
  dynamic : Solar48Mem
  /-- The slave. -/
  slave : IdleSlave

/-- How a poll ends: `master_send_req` refuses it, the callback is called, or the firmware
stops. -/
inductive PollEnd where
  | refused (code : ℤ)
  | callback (c : CheckReceive)
  | panic (msg : String)

/-- `_master_receive` when nothing has come within the timeout. -/
def masterReceiveTimeout (dynamic : Solar48Mem) : CheckReceive where
  status := eUart1Timeout
  function := .mbFunctionUndefined
  data := none
  dataSize := 0
  dynamic

/-- One `MASTER_READ_HOLDING_REGISTERS`: the request goes over the line `request`, the slave serves
what arrives, and its answer comes back over the line `response`. -/
def pollHoldingRegisters (base : ℕ) (heap : Heap) (address : UInt8) (bus : Bus)
    (start n : UInt16) (request response : Line) : Bus × PollEnd :=
  match masterPrepareToSend base bus.masterBuf address .readHoldingRegisters start n 0 0
      (fun _ => 0) with
  | (buf, .error code) => ({ bus with masterBuf := buf }, .refused code)
  | (buf, .ok size) =>
      let (slave, reply) := match request (read buf 0 size.toNat) with
        | none => (bus.slave, none)
        | some r => bus.slave.serve r
      match reply.bind response with
      | none => ({ bus with masterBuf := modbusMasterBufInvalidate buf, slave },
          .callback (masterReceiveTimeout bus.dynamic))
      | some r =>
          match masterReceive ⟨address, .readHoldingRegisters, start, n⟩ (afterReceive buf r) heap
              bus.dynamic with
          | .error msg => ({ bus with masterBuf := afterReceive buf r, slave }, .panic msg)
          | .ok c => ({ masterBuf := afterReceive buf r, dynamic := c.dynamic, slave },
              .callback c)

/-- What happens on the bus: the application of the slave stores registers, or the master polls
them. -/
inductive BusEvent where
  | store (area : Mem)
  | poll (start n : UInt16) (request response : Line)

/-- A poll of a history: the registers of the slave at that moment, what was asked for, the two
lines, and how it ended. -/
structure Polled where
  area : Mem
  start : UInt16
  n : UInt16
  request : Line
  response : Line
  ending : PollEnd

/-- A history of the bus, and the polls in it. -/
def runBus (base : ℕ) (heap : Heap) (address : UInt8) : Bus → List BusEvent → Bus × List Polled
  | bus, [] => (bus, [])
  | bus, .store area :: events =>
      runBus base heap address { bus with slave := { bus.slave with area } } events
  | bus, .poll start n request response :: events =>
      let (bus', ending) := pollHoldingRegisters base heap address bus start n request response
      let (bus'', polls) := runBus base heap address bus' events
      (bus'', ⟨bus.slave.area, start, n, request, response, ending⟩ :: polls)

/-! ### One poll -/

/-- The poll ends as it should: a quantity that the protocol has no room for is refused, and any
other is answered with the registers or with the exception for another address. -/
def Polled.Right (p : Polled) : Prop :=
  match p.ending with
  | .refused _ => ¬ (1 ≤ p.n ∧ p.n ≤ 125)
  | .callback c => (1 ≤ p.n ∧ p.n ≤ 125) ∧
      if InArea p.start p.n then Delivers p.area p.start p.n c
      else DeliversException [0x83, 0x02] c
  | .panic _ => False

/-- The poll fails, and the callback is told so. -/
def Polled.Fails (p : Polled) : Prop :=
  match p.ending with
  | .callback c => c.Failed
  | _ => False

/-- What the answer of the slave announces is its own length. -/
theorem responseLength_slaveAnswer (address : UInt8) (start : UInt16) {n : UInt16} (area : Mem)
    (hn : 1 ≤ n ∧ n ≤ 125) :
    responseLength ⟨address, .readHoldingRegisters, start, n⟩
      (closeFrame (slaveAnswer address 3 start n area)) =
        (slaveAnswer address 3 start n area).length := by
  obtain ⟨pdu, hpdu⟩ : ∃ pdu, pdu = slaveAnswer address 3 start n area := ⟨_, rfl⟩
  have h₃ : ¬ ((3 : UInt8) ≠ MbFunction.readHoldingRegisters.code) := by decide
  have hfc : MbFunction.readHoldingRegisters.errorCode = 0x83 := rfl
  rw [slaveAnswer, if_neg h₃, if_neg (not_not_intro hn)] at hpdu
  have hbyte : ∀ i (h : i < pdu.length), received (closeFrame pdu) i = pdu[i] := by
    intro i h
    exact write_closeFrame_getElem _ _ h
  have hrec : slaveAnswer address 3 start n area = pdu := by
    rw [hpdu, slaveAnswer, if_neg h₃, if_neg (not_not_intro hn)]
  rw [hrec, responseLength, frameLength]
  by_cases hin : InArea start n
  · have hle : n.toNat ≤ 125 := UInt16.le_iff_toNat_le.1 hn.2
    rw [if_neg (not_not_intro hin)] at hpdu
    have h₁ : received (closeFrame pdu) 1 = 3 := by
      rw [hbyte 1 (by rw [hpdu]; simp), List.getElem_of_eq hpdu]
      rfl
    have h₂ : received (closeFrame pdu) 2 = UInt8.ofNat (2 * n.toNat) := by
      rw [hbyte 2 (by rw [hpdu]; simp), List.getElem_of_eq hpdu]
      rfl
    rw [h₁, hfc, if_neg (by decide)]
    dsimp only [MbFunction.response]
    rw [h₂, hpdu, UInt8.toNat_ofNat']
    simp only [List.length_append, List.length_cons, List.length_nil, length_swapPairs,
      length_read]
    omega
  · rw [if_pos hin] at hpdu
    have h₁ : received (closeFrame pdu) 1 = 0x83 := by
      rw [hbyte 1 (by rw [hpdu, slaveException]; simp), List.getElem_of_eq hpdu]
      rfl
    rw [h₁, hfc, if_pos rfl, hpdu, slaveException]
    rfl

/-- The request of an allowed poll. -/
theorem masterPrepareToSend_poll (base : ℕ) (masterBuf : Mem) {address : UInt8} (start : UInt16)
    {n : UInt16} (ha : address ≤ 247) (hn : 1 ≤ n ∧ n ≤ 125) :
    ∃ buf, masterPrepareToSend base masterBuf address .readHoldingRegisters start n 0 0
        (fun _ => 0) = (buf, .ok 8) ∧
      read buf 0 (8 : UInt8).toNat =
        closeFrame (requestPdu address .readHoldingRegisters start n) := by
  have hsend := masterPrepareToSend_of_admits base masterBuf start 0 0 (fun _ => 0) ha
    (show MbFunction.readHoldingRegisters.Admits n from hn)
  have hquantity : sentQuantity .readHoldingRegisters n = n := rfl
  rw [hquantity] at hsend
  refine ⟨_, hsend, ?_⟩
  have h := read_write_self masterBuf 0
    (closeFrame (requestPdu address .readHoldingRegisters start n))
  rwa [length_closeFrame, length_requestPdu] at h

/-- A request that arrives as it was sent is answered. -/
theorem serve_requestPdu (s : IdleSlave) {address : UInt8} (haddr : s.slaveAddress = address)
    (f : MbFunction) (start n : UInt16) :
    (s.serve (closeFrame (requestPdu address f start n))).2 =
      some (closeFrame (slaveAnswer address f.code start n s.area)) := by
  obtain ⟨frame, hframe⟩ : ∃ frame, frame = closeFrame (requestPdu address f start n) := ⟨_, rfl⟩
  have h₀ : write s.buffer 0 frame 0 = s.slaveAddress := by
    rw [haddr, hframe, write_closeFrame_getElem _ _ (by rw [length_requestPdu]; decide)]
    rfl
  have h₆ : ClosedAt (write s.buffer 0 frame) 6 := by
    have h := closedAt_write_closeFrame s.buffer (requestPdu address f start n)
    rwa [length_requestPdu, ← hframe] at h
  rw [← hframe, IdleSlave.serve_reply, if_pos ⟨h₀, h₆⟩, hframe, answerTo_requestPdu]

/-- What the master makes of the answer of the slave. -/
theorem masterReceive_slaveAnswer (buf : Mem) {heap : Heap} (dynamic : Solar48Mem)
    (address : UInt8) (start : UInt16) {n : UInt16} (area : Mem) (hn : 1 ≤ n ∧ n ≤ 125)
    (hheap : heap.Grants 250) :
    ∃ c, masterReceive ⟨address, .readHoldingRegisters, start, n⟩
        (afterReceive buf (closeFrame (slaveAnswer address 3 start n area))) heap dynamic = .ok c ∧
      if InArea start n then Delivers area start n c else DeliversException [0x83, 0x02] c := by
  by_cases hin : InArea start n
  · obtain ⟨c, hc, hdel⟩ := masterCheckReceive_registers (modbusMasterBufInvalidate buf) dynamic
      address start n area hn hheap hin
    exact ⟨c, masterReceive_of_success hc (Or.inl hdel.1), by rwa [if_pos hin]⟩
  · obtain ⟨c, hc, hdel⟩ := masterCheckReceive_exception (modbusMasterBufInvalidate buf) dynamic
      address start n area hn hheap hin
    exact ⟨c, masterReceive_of_success hc (Or.inr hdel.1), by rwa [if_neg hin]⟩

/-- What the slave makes of what arrives of a request: it answers the request or nothing, and
keeps its address and its registers. -/
theorem serve_line (s : IdleSlave) {address : UInt8} (haddr : s.slaveAddress = address)
    (start n : UInt16) {request : Line} (hline : request.Bursty) :
    ∃ slave reply, (match request (closeFrame (requestPdu address .readHoldingRegisters start n))
        with
        | none => (s, none)
        | some r => s.serve r) = (slave, reply) ∧
      slave.slaveAddress = address ∧ slave.area = s.area ∧
      (reply = none ∨ reply = some (closeFrame (slaveAnswer address 3 start n s.area))) ∧
      (request.Quiet → reply = some (closeFrame (slaveAnswer address 3 start n s.area))) := by
  obtain ⟨frame, hframe⟩ : ∃ frame,
    frame = closeFrame (requestPdu address .readHoldingRegisters start n) := ⟨_, rfl⟩
  rw [← hframe]
  cases hr : request frame with
  | none =>
      refine ⟨s, none, rfl, haddr, rfl, Or.inl rfl, fun hquiet => ?_⟩
      rw [hquiet frame] at hr
      cases hr
  | some r =>
      obtain ⟨hkeep, hkeepArea⟩ := s.serve_area r
      by_cases hsame : r = frame
      · have hreply := serve_requestPdu s haddr .readHoldingRegisters start n
        rw [← hframe, ← hsame] at hreply
        exact ⟨_, _, rfl, hkeep.trans haddr, hkeepArea, Or.inr hreply, fun _ => hreply⟩
      · have hburst := hline frame r hr
        rw [hframe] at hburst hsame
        have hreply := serve_of_burstApart s address .readHoldingRegisters start n hburst hsame
        refine ⟨_, _, rfl, hkeep.trans haddr, hkeepArea, Or.inl hreply, fun hquiet => ?_⟩
        rw [hquiet frame] at hr
        exact absurd ((Option.some.inj hr).symm.trans hframe) hsame

theorem failed_timeout (dynamic : Solar48Mem) : (masterReceiveTimeout dynamic).Failed := by
  have hcode : IsFailure eUart1Timeout := by decide
  exact ⟨hcode, rfl, rfl, rfl⟩

/-- **One poll**: it is right, or it fails; over two quiet lines it is right.  The slave keeps its
address and its registers. -/
theorem pollHoldingRegisters_rightOrFails (base : ℕ) {heap : Heap} {address : UInt8} (bus : Bus)
    (start n : UInt16) {request response : Line} (ha : address ≤ 247)
    (haddr : bus.slave.slaveAddress = address) (hheap : heap.Grants 250)
    (hreq : request.Bursty) (hresp : response.Bursty)
    (hkeep : response.KeepsLength ⟨address, .readHoldingRegisters, start, n⟩) :
    ∃ bus' ending, pollHoldingRegisters base heap address bus start n request response =
        (bus', ending) ∧
      bus'.slave.slaveAddress = address ∧ bus'.slave.area = bus.slave.area ∧
      (Polled.Right ⟨bus.slave.area, start, n, request, response, ending⟩ ∨
        Polled.Fails ⟨bus.slave.area, start, n, request, response, ending⟩) ∧
      (request.Quiet → response.Quiet →
        Polled.Right ⟨bus.slave.area, start, n, request, response, ending⟩) := by
  by_cases hn : 1 ≤ n ∧ n ≤ 125
  swap
  · -- the quantity is refused before anything is sent
    cases hsend : masterPrepareToSend base bus.masterBuf address .readHoldingRegisters start n 0 0
        (fun _ => 0) with
    | mk buf result =>
        cases result with
        | error code =>
            have hpoll : pollHoldingRegisters base heap address bus start n request response =
                ({ bus with masterBuf := buf }, .refused code) := by
              rw [pollHoldingRegisters, hsend]
            exact ⟨{ bus with masterBuf := buf }, .refused code, hpoll, haddr, rfl, Or.inl hn,
              fun _ _ => hn⟩
        | ok size =>
            have hadm := admits_of_masterPrepareToSend (f := .readHoldingRegisters) (by decide)
              (congrArg Prod.snd hsend)
            exact absurd hadm.2 hn
  obtain ⟨buf, hsend, hframe⟩ := masterPrepareToSend_poll base bus.masterBuf start ha hn
  obtain ⟨slave, reply, hserve, hsaddr, hsarea, hreply, hreplyQuiet⟩ :=
    serve_line bus.slave haddr start n hreq
  obtain ⟨answer, hanswer⟩ : ∃ answer, answer = slaveAnswer address 3 start n bus.slave.area :=
    ⟨_, rfl⟩
  rw [← hanswer] at hreply hreplyQuiet
  have hpoll : pollHoldingRegisters base heap address bus start n request response =
      match reply.bind response with
      | none => ({ bus with masterBuf := modbusMasterBufInvalidate buf, slave },
          .callback (masterReceiveTimeout bus.dynamic))
      | some r =>
          match masterReceive ⟨address, .readHoldingRegisters, start, n⟩ (afterReceive buf r) heap
              bus.dynamic with
          | .error msg => ({ bus with masterBuf := afterReceive buf r, slave }, .panic msg)
          | .ok c => ({ masterBuf := afterReceive buf r, dynamic := c.dynamic, slave },
              .callback c) := by
    rw [pollHoldingRegisters, hsend]
    dsimp only
    rw [hframe, hserve]
  cases hback : reply.bind response with
  | none =>
      rw [hback] at hpoll
      refine ⟨_, .callback (masterReceiveTimeout bus.dynamic), hpoll, hsaddr, hsarea,
        Or.inr (failed_timeout _), ?_⟩
      intro hq hq'
      rw [hreplyQuiet hq, Option.bind_some, hq' _] at hback
      cases hback
  | some r =>
      obtain ⟨sent, hsent, hr⟩ := Option.bind_eq_some_iff.1 hback
      have hsent' : sent = closeFrame answer := by
        rcases hreply with h | h
        · rw [h] at hsent
          cases hsent
        · exact (Option.some.inj (hsent.symm.trans h))
      subst hsent'
      rw [hback] at hpoll
      by_cases hsame : r = closeFrame answer
      · obtain ⟨c, hc, hdel⟩ := masterReceive_slaveAnswer buf bus.dynamic address start
          bus.slave.area hn hheap
        rw [← hanswer, ← hsame] at hc
        simp only [hc] at hpoll
        exact ⟨_, .callback c, hpoll, hsaddr, hsarea, Or.inl ⟨hn, hdel⟩, fun _ _ => ⟨hn, hdel⟩⟩
      · have hlen := responseLength_slaveAnswer address start bus.slave.area hn
        rw [← hanswer, ← hkeep _ _ hr] at hlen
        obtain ⟨c, hc, hfail⟩ := masterReceive_of_burstApart (hresp _ _ hr) hsame hlen buf heap
          bus.dynamic
        simp only [hc] at hpoll
        refine ⟨_, .callback c, hpoll, hsaddr, hsarea, Or.inr hfail, ?_⟩
        intro _ hq
        rw [hq _] at hr
        exact absurd (Option.some.inj hr).symm hsame

/-! ### Histories -/

/-- **Every poll of every history is right or fails**, and is right if the lines are quiet while
it lasts, whatever they did before. -/
theorem runBus_rightOrFails (base : ℕ) {heap : Heap} {address : UInt8} (bus : Bus)
    (events : List BusEvent) (ha : address ≤ 247) (haddr : bus.slave.slaveAddress = address)
    (hheap : heap.Grants 250)
    (hlines : ∀ start n request response, .poll start n request response ∈ events →
      request.Bursty ∧ response.Bursty ∧
        response.KeepsLength ⟨address, .readHoldingRegisters, start, n⟩) :
    ∀ p ∈ (runBus base heap address bus events).2,
      (p.Right ∨ p.Fails) ∧ (p.request.Quiet → p.response.Quiet → p.Right) := by
  induction events generalizing bus with
  | nil =>
      intro p hp
      cases hp
  | cons event events ih =>
      have htail : ∀ start n request response, .poll start n request response ∈ events →
          request.Bursty ∧ response.Bursty ∧
            response.KeepsLength ⟨address, .readHoldingRegisters, start, n⟩ :=
        fun start n request response hmem =>
          hlines start n request response (List.mem_cons_of_mem _ hmem)
      cases event with
      | store area =>
          intro p hp
          exact ih { bus with slave := { bus.slave with area } } haddr htail p hp
      | poll start n request response =>
          obtain ⟨hreq, hresp, hkeep⟩ := hlines start n request response List.mem_cons_self
          obtain ⟨bus', ending, hpoll, haddr', -, hone, hquiet⟩ :=
            pollHoldingRegisters_rightOrFails base bus start n ha haddr hheap hreq hresp hkeep
          intro p hp
          rw [runBus, hpoll] at hp
          dsimp only at hp
          rcases List.mem_cons.1 hp with rfl | hp
          · exact ⟨hone, hquiet⟩
          · exact ih bus' haddr' htail p hp

/-- A line that hits one frame and lets the others through. -/
def Line.hitting (sent received : List UInt8) : Line :=
  fun frame => some (if frame = sent then received else frame)

theorem burstApart_refl (frame : List UInt8) : BurstApart frame frame :=
  ⟨rfl, 0, fun _ hi => absurd rfl hi⟩

theorem bursty_hitting {sent received : List UInt8} (h : BurstApart sent received) :
    (Line.hitting sent received).Bursty := by
  intro frame r hr
  obtain rfl := Option.some.inj hr
  by_cases hsame : frame = sent
  · rw [if_pos hsame, hsame]
    exact h
  · rw [if_neg hsame]
    exact burstApart_refl frame

theorem keepsLength_hitting {sent received : List UInt8} {rtu : Solar48Rs485Rtu}
    (h : responseLength rtu received = responseLength rtu sent) :
    (Line.hitting sent received).KeepsLength rtu := by
  intro frame r hr
  obtain rfl := Option.some.inj hr
  by_cases hsame : frame = sent
  · rw [if_pos hsame, hsame]
    exact h
  · rw [if_neg hsame]

/-- Differences within the frame are all there are. -/
theorem burstApart_of_forall_lt {sent received : List UInt8} (start : ℕ)
    (hlen : received.length = sent.length)
    (h : ∀ i < 8 * sent.length, (lineBits sent).getD i false ≠ (lineBits received).getD i false →
      start ≤ i ∧ i < start + 16) : BurstApart sent received := by
  refine ⟨hlen, start, fun i hi => ?_⟩
  rcases Nat.lt_or_ge i (8 * sent.length) with hlt | hge
  · exact h i hlt hi
  · rw [List.getD_eq_default _ _ (by simpa using hge),
      List.getD_eq_default _ _ (by simpa [hlen] using hge)] at hi
    exact absurd rfl hi

/-- Three polls of one register: the request of the first is hit, and the response to the second;
the third is undisturbed. -/
theorem runBus_two_hits :
    let slave : IdleSlave := .withBuffer 17 (fun _ => 0) (fun _ => 0)
    let request := closeFrame (requestPdu 17 .readHoldingRegisters 0x4001 1)
    let response := closeFrame [17, 3, 2, 0x12, 0x12]
    let events : List BusEvent :=
      [.poll 0x4001 1 (.hitting request (request.set 3 0x81)) some, .store fun _ => 0x12,
        .poll 0x4001 1 some (.hitting response (response.set 4 0xFF)), .poll 0x4001 1 some some]
    ∀ p ∈ (runBus 0 .roomy 17 ⟨fun _ => 0, ⟨none, 0⟩, slave⟩ events).2,
      (p.Right ∨ p.Fails) ∧ (p.request.Quiet → p.response.Quiet → p.Right) := by
  intro slave request response events
  have hsome : Line.Bursty some := by
    intro frame r hr
    obtain rfl := Option.some.inj hr
    exact burstApart_refl frame
  have hsome' : ∀ rtu, Line.KeepsLength some rtu := by
    intro rtu frame r hr
    obtain rfl := Option.some.inj hr
    rfl
  have hreq : BurstApart request (request.set 3 0x81) :=
    burstApart_of_forall_lt 31 (by decide) (by decide)
  have hresp : BurstApart response (response.set 4 0xFF) :=
    burstApart_of_forall_lt 32 (by decide) (by decide)
  refine runBus_rightOrFails 0 _ events (by decide) rfl (Heap.roomy_grants 250) ?_
  intro start n l l' hmem
  simp only [events, List.mem_cons, List.not_mem_nil, or_false, BusEvent.poll.injEq, reduceCtorEq,
    false_or] at hmem
  rcases hmem with ⟨rfl, rfl, rfl, rfl⟩ | ⟨rfl, rfl, rfl, rfl⟩ | ⟨rfl, rfl, rfl, rfl⟩
  · exact ⟨bursty_hitting hreq, hsome, hsome' _⟩
  · exact ⟨hsome, bursty_hitting hresp, keepsLength_hitting (by decide)⟩
  · exact ⟨hsome, hsome, hsome' _⟩

end Solar48
