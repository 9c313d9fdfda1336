/-
**The console's output: what the host receives.**

`usb_printf` formats into one static buffer, and `usb_send_chunk` sends several texts that lie in the
flash one after the other.  Either waits until the transmitter is free, but not for ever, and then
only starts a transfer: packet after packet is copied into the packet memory by the interrupt that
comes when the host has fetched the one before, straight from the buffer of the text.  A transfer
whose length is a multiple of the packet size is closed by an empty packet.

The host may fetch a packet, and the interrupt may come, between any two statements of the program;
the waiting may end at any time.  The calls come one after the other: one begins when the one before
has returned.  The program does not see to that itself, since nothing locks the buffer and one task
may interrupt another.

Main definitions:

* `Solar48.cdcTransmitFs`, `Solar48.pcdEpIsrHandler` — how a transfer begins and how it goes on;
* `Solar48.TxSystem`, `Solar48.txStep` — the program, the interrupt and the host;
* `Solar48.UsbTransmitter.Inv`, `Solar48.UsbTransmitter.inFlight` — the transmitter, and the packets
  that are still to come;
* `Solar48.HostSees` — what the host knows of the calls.

Main results:

* `Solar48.UsbTransmitter.Inv.fetch`, `Solar48.UsbTransmitter.Inv.irq` — a transfer, packet by
  packet;
* `Solar48.hostSees_of_run` — **the host receives the texts of calls that do not overlap, whole, in
  order and once**;
* `Solar48.usbPrintf_arrives` — **behind any such calls, the next text arrives at a host that goes
  on fetching**.
-/

import Solar48.BulkFraming
import Solar48.OledText
import Solar48.StepSystem

set_option relaxedAutoImplicit false
set_option autoImplicit false

namespace Solar48

open BulkFraming ByteMem StepSystem

/-! ### The endpoint -/

/-- `CDC_DATA_FS_IN_PACKET_SIZE`, the `maxpacket` of the endpoint. -/
def cdcDataFsInPacketSize : ℕ := 64

/-- `pmaadress` of the endpoint. -/
def cdcInPmaAddress : ℕ := 0xC0

/-- The `PCD_EPTypeDef` of `CDC_IN_EP`, with its count and the flags of its register. -/
structure PcdEp where
  xferBuff : ℕ
  xferLen : ℕ
  xferCount : ℕ
  /-- `COUNT1_TX` -/
  txCount : ℕ
  /-- `STAT_TX` is `VALID`, and not `NAK` -/
  txValid : Bool
  /-- `CTR_TX` -/
  ctrTx : Bool

/-- What the transfer of a text depends on.  `printf_buffer` is at the beginning of the memory. -/
structure UsbTransmitter where
  mem : Mem
  /-- the packet memory, as the peripheral counts it -/
  pma : Mem
  ep : PcdEp
  /-- `total_length` of the endpoint -/
  totalLength : ℕ
  txState : Bool
  txBuffer : ℕ
  txLength : UInt16

/-- `USBD_OK`, `USBD_BUSY` and `USBD_FAIL`. -/
def usbdOk : ℤ := 0

def usbdBusy : ℤ := 1

def usbdFail : ℤ := 2

/-- The loop of `USB_WritePMA`: `count` half-words. -/
def writePmaLoop (mem : Mem) : ℕ → ℕ → ℕ → Mem → Mem
  | 0, _, _, pma => pma
  | count + 1, buf, p, pma =>
      writePmaLoop mem count (buf + 2) (p + 2) (write pma p [mem buf, mem (buf + 1)])

/-- `USB_WritePMA`: an odd byte at the end takes the one behind it along. -/
def usbWritePma (mem : Mem) (buf p n : ℕ) (pma : Mem) : Mem :=
  writePmaLoop mem ((n + 1) / 2) buf p pma

namespace UsbTransmitter

/-- `USB_EPStartXfer` of an IN endpoint with one buffer. -/
def usbEpStartXfer (u : UsbTransmitter) : UsbTransmitter :=
  let len := if u.ep.xferLen > cdcDataFsInPacketSize then cdcDataFsInPacketSize else u.ep.xferLen
  { u with
    pma := usbWritePma u.mem u.ep.xferBuff cdcInPmaAddress len u.pma
    ep := { u.ep with txCount := len, txValid := true } }

/-- `USBD_LL_Transmit` with `HAL_PCD_EP_Transmit`. -/
def usbdLlTransmit (buf : ℕ) (size : UInt16) (u : UsbTransmitter) : UsbTransmitter :=
  usbEpStartXfer
    { u with ep := { u.ep with xferBuff := buf, xferLen := size.toNat, xferCount := 0 } }

/-- `USBD_CDC_DataIn`: the transfer is over, or an empty packet is to follow. -/
def usbdCdcDataIn (u : UsbTransmitter) : UsbTransmitter :=
  if u.totalLength > 0 ∧ u.totalLength % cdcDataFsInPacketSize = 0 then
    usbdLlTransmit 0 0 { u with totalLength := 0 }
  else { u with txState := false }

/-- `PCD_EP_ISR_Handler`, when the host has fetched a packet. -/
def pcdEpIsrHandler (u : UsbTransmitter) : UsbTransmitter :=
  if !u.ep.ctrTx then u
  else
    let txPctSize := u.ep.txCount % 0x400
    let xferLen := if u.ep.xferLen > txPctSize then u.ep.xferLen - txPctSize else 0
    let u := { u with ep := { u.ep with ctrTx := false, xferLen := xferLen } }
    if xferLen = 0 then usbdCdcDataIn u
    else
      usbEpStartXfer
        { u with
          ep := { u.ep with
            xferBuff := u.ep.xferBuff + txPctSize
            xferCount := u.ep.xferCount + txPctSize } }

/-- `USBD_CDC_TransmitPacket`. -/
def usbdCdcTransmitPacket (u : UsbTransmitter) : ℤ × UsbTransmitter :=
  if !u.txState then
    (usbdOk, usbdLlTransmit u.txBuffer u.txLength
      { u with txState := true, totalLength := u.txLength.toNat })
  else (usbdBusy, u)

/-- `CDC_Transmit_FS`, with `USBD_CDC_SetTxBuffer`. -/
def cdcTransmitFs (buf : ℕ) (len : UInt16) (u : UsbTransmitter) : ℤ × UsbTransmitter :=
  if u.txState then (usbdBusy, u)
  else usbdCdcTransmitPacket { u with txBuffer := buf, txLength := len }

/-- What the peripheral gives a host that asks for a packet. -/
def packet (u : UsbTransmitter) : List UInt8 := read u.pma cdcInPmaAddress u.ep.txCount

/-- The host asks for a packet: it gets one, or `NAK`. -/
def fetch (u : UsbTransmitter) : List (List UInt8) × UsbTransmitter :=
  if u.ep.txValid then
    ([u.packet], { u with ep := { u.ep with txValid := false, ctrTx := true } })
  else ([], u)

end UsbTransmitter

/-! ### The calls -/

/-- `PRINTF_BUF_MAX_LEN`. -/
def printfBufMaxLen : ℕ := 256

/-- Errors of `usb_send_chunk`. -/
def eUsbSendChunkInitBusy : ℤ := 170

def eUsbSendChunkSendFail : ℤ := 171

def eUsbSendChunkBusy : ℤ := 172

def eUsbSendChunkInitTimeout : ℤ := 173

def eUsbSendChunkTimeout : ℤ := 174

/-- The part of `usb_printf` that formats: the text and its length, cut to what there is room for.
The lengths are compared as unsigned ones, and so that of a failure is cut as well. -/
def printfFormat (f : Formatted) (mem : Mem) : Mem × ℤ :=
  let (mem, len) := vsnprintf mem printfBufMaxLen f
  if len < 0 ∨ len ≥ printfBufMaxLen then
    (write mem (printfBufMaxLen - 1) [0], (printfBufMaxLen - 1 : ℕ))
  else (mem, len)

/-- The calls; a chunk is a pointer and a length. -/
inductive TxCall
  | usbPrintf (f : Formatted)
  | usbSendChunk (msgs : List (ℕ × ℕ))

/-- The places in the two functions. -/
inductive TxPc
  /-- in the `while` -/
  | printfWait (f : Formatted)
  /-- about to ask once more whether the transmitter is busy -/
  | printfBusy (f : Formatted)
  | printfFormat (f : Formatted)
  | printfSend (len : ℕ)
  /-- in the first `while` that waits, or in the one in the loop -/
  | chunkWait (first : Bool) (msgs : List (ℕ × ℕ))
  | chunkBusy (first : Bool) (msgs : List (ℕ × ℕ))
  | chunkTimeout (first : Bool) (msgs : List (ℕ × ℕ))
  /-- at the head of the loop -/
  | chunkNext (msgs : List (ℕ × ℕ))

/-- The texts of `usb_send_chunk`, those that are not empty.  A length counts modulo `2 ^ 16`. -/
def chunkTexts (mem : Mem) (msgs : List (ℕ × ℕ)) : List (List UInt8) :=
  (msgs.filter fun msg => msg.2 > 0).map fun msg => read mem msg.1 (UInt16.ofNat msg.2).toNat

/-- The texts that a call is still about. -/
def TxPc.texts (mem : Mem) : TxPc → List (List UInt8)
  | .printfWait f | .printfBusy f | .printfFormat f =>
      let (mem, len) := Solar48.printfFormat f mem
      if len > 0 then [read mem 0 (UInt16.ofNat len.toNat).toNat] else []
  | .printfSend len => [read mem 0 (UInt16.ofNat len).toNat]
  | .chunkWait _ msgs | .chunkBusy _ msgs | .chunkTimeout _ msgs | .chunkNext msgs =>
      chunkTexts mem msgs

/-- Where a call begins. -/
def TxCall.start : TxCall → TxPc
  | .usbPrintf f => .printfWait f
  | .usbSendChunk msgs => .chunkWait true msgs

/-- A call that has not ended: its texts, and those that were handed over. -/
structure TxRunning where
  call : TxCall
  asked : List (List UInt8)
  sent : List (List UInt8)
  pc : TxPc

/-- A call that has ended. -/
structure TxEnded where
  call : TxCall
  asked : List (List UInt8)
  sent : List (List UInt8)
  ret : ℤ

/-- The transmitter, the call that the program is in, the calls before it, and the packets that the
host has fetched. -/
structure TxSystem where
  dev : UsbTransmitter
  running : Option TxRunning
  ended : List TxEnded
  received : List (List UInt8)

namespace TxSystem

/-- The call goes on elsewhere. -/
def goto (s : TxSystem) (r : TxRunning) (pc : TxPc) : TxSystem :=
  { s with running := some { r with pc } }

/-- The call returns. -/
def finish (s : TxSystem) (r : TxRunning) (ret : ℤ) : TxSystem :=
  { s with running := none, ended := s.ended ++ [⟨r.call, r.asked, r.sent, ret⟩] }

/-- `while ( (cdc_transmit_is_busy()) && (!is_timeout_ms(&timeout_ms)) );` -/
def wait (s : TxSystem) (r : TxRunning) (timeout : Bool) (pc : TxPc) : TxSystem :=
  if s.dev.txState && !timeout then s else s.goto r pc

/-- A text is handed over. -/
def transmit (s : TxSystem) (r : TxRunning) (buf len : ℕ) : ℤ × TxSystem × TxRunning :=
  let (ret, dev) := s.dev.cdcTransmitFs buf (UInt16.ofNat len)
  if ret = usbdOk then
    (ret, { s with dev }, { r with sent := r.sent ++ [read s.dev.mem buf (UInt16.ofNat len).toNat] })
  else (ret, { s with dev }, r)

/-- A statement of the call. -/
def callStep (timeout : Bool) (r : TxRunning) (s : TxSystem) : TxSystem :=
  match r.pc with
  | .printfWait f => s.wait r timeout (.printfBusy f)
  | .printfBusy f => if s.dev.txState then s.finish r usbdFail else s.goto r (.printfFormat f)
  | .printfFormat f =>
      let (mem, len) := printfFormat f s.dev.mem
      let s := { s with dev := { s.dev with mem } }
      if len > 0 then s.goto r (.printfSend len.toNat)
      else if len = 0 then s.finish r usbdOk
      else s.finish r usbdFail
  | .printfSend len =>
      let (ret, s, r) := s.transmit r 0 len
      s.finish r ret
  | .chunkWait first msgs => s.wait r timeout (.chunkBusy first msgs)
  | .chunkBusy first msgs =>
      if s.dev.txState then s.finish r (if first then eUsbSendChunkInitBusy else eUsbSendChunkBusy)
      else s.goto r (.chunkTimeout first msgs)
  | .chunkTimeout first msgs =>
      if timeout then s.finish r (if first then eUsbSendChunkInitTimeout else eUsbSendChunkTimeout)
      else s.goto r (.chunkNext msgs)
  | .chunkNext [] => s.finish r usbdOk
  | .chunkNext ((buf, len) :: msgs) =>
      if len > 0 then
        let (ret, s, r) := s.transmit r buf len
        if ret ≠ usbdOk then s.finish r eUsbSendChunkSendFail
        else s.goto r (.chunkWait false msgs)
      else s.goto r (.chunkNext msgs)

end TxSystem

/-- Whose turn it is: the program begins a call or goes on with it, where `is_timeout_ms` may say
anything; the host asks for a packet; the interrupt comes. -/
inductive TxTurn
  | call (c : TxCall)
  | go (timeout : Bool)
  | host
  | irq

/-- One step of one of them.  A call begins only when none is running. -/
def txStep (turn : TxTurn) (s : TxSystem) : Option TxSystem :=
  match turn, s.running with
  | .call c, none => some { s with running := some ⟨c, c.start.texts s.dev.mem, [], c.start⟩ }
  | .call _, some _ => none
  | .go _, none => none
  | .go timeout, some r => some (s.callStep timeout r)
  | .host, _ =>
      some { s with dev := s.dev.fetch.2, received := s.received ++ s.dev.fetch.1 }
  | .irq, _ => some { s with dev := s.dev.pcdEpIsrHandler }

/-- After `init_usb`, when the host has configured the device. -/
def txInit (mem pma : Mem) : TxSystem where
  dev :=
    { mem, pma
      ep := ⟨0, 0, 0, 0, false, false⟩
      totalLength := 0
      txState := false
      txBuffer := 0
      txLength := 0 }
  running := none
  ended := []
  received := []

/-! ### The packet memory -/

/-- What the peripheral finds in the packet memory is what was in the buffer. -/
theorem writePmaLoop_eq (mem : Mem) (count buf p : ℕ) (pma : Mem) :
    writePmaLoop mem count buf p pma = write pma p (read mem buf (2 * count)) := by
  induction count generalizing buf p pma with
  | zero =>
      rw [writePmaLoop, Nat.mul_zero, read_zero, write_nil]
  | succ count ih =>
      have hread : read mem buf (2 * (count + 1)) =
          [mem buf, mem (buf + 1)] ++ read mem (buf + 2) (2 * count) := by
        rw [Nat.mul_succ, read_succ, read_succ]
        rfl
      rw [writePmaLoop, ih, hread]
      exact write_write_of_eq pma p (p + 2) _ _ rfl

theorem read_usbWritePma (mem : Mem) (buf p n : ℕ) (pma : Mem) :
    read (usbWritePma mem buf p n pma) p n = read mem buf n := by
  have hle : n ≤ (read mem buf (2 * ((n + 1) / 2))).length := by
    rw [length_read]
    omega
  obtain ⟨k, hk⟩ : ∃ k, 2 * ((n + 1) / 2) = n + k := Nat.exists_eq_add_of_le (by omega)
  rw [usbWritePma, writePmaLoop_eq, read_write_take _ _ _ hle, hk, read_add]
  exact List.take_left' (length_read _ _ _)

/-! ### A transfer -/

namespace UsbTransmitter

variable {u : UsbTransmitter}

/-- What is still to be sent of the text. -/
def rest (u : UsbTransmitter) : List UInt8 := read u.mem u.ep.xferBuff u.ep.xferLen

/-- The packets that are still to come. -/
def inFlight (u : UsbTransmitter) : List (List UInt8) :=
  if !u.txState then []
  else if u.ep.txValid then packets cdcDataFsInPacketSize u.rest
  else if u.ep.txCount < cdcDataFsInPacketSize then []
  else packets cdcDataFsInPacketSize (u.rest.drop cdcDataFsInPacketSize)

/-- During a transfer there is one packet in the packet memory, or one was fetched just now. -/
structure Sends (u : UsbTransmitter) : Prop where
  busy : u.txState = true
  count : u.ep.txCount = min cdcDataFsInPacketSize u.ep.xferLen
  /-- it is known whether the last packet will be a short one -/
  length : u.totalLength = 0 ∧ u.ep.xferLen = 0 ∨ 0 < u.totalLength ∧ 0 < u.ep.xferLen ∧
    u.ep.xferLen % cdcDataFsInPacketSize = u.totalLength % cdcDataFsInPacketSize
  fetched : u.ep.ctrTx = !u.ep.txValid
  packet : u.ep.txValid = true → u.packet = u.rest.take cdcDataFsInPacketSize

/-- Between two transfers nothing happens at the endpoint. -/
structure Rests (u : UsbTransmitter) : Prop where
  free : u.txState = false
  valid : u.ep.txValid = false
  ctr : u.ep.ctrTx = false

/-- **The transmitter, at any time.** -/
def Inv (u : UsbTransmitter) : Prop := u.Rests ∨ u.Sends

theorem Rests.inFlight (h : u.Rests) : u.inFlight = [] := by
  rw [UsbTransmitter.inFlight, h.free]
  rfl

theorem inFlight_of_valid (hbusy : u.txState = true) (hvalid : u.ep.txValid = true) :
    u.inFlight = packets cdcDataFsInPacketSize u.rest := by
  rw [inFlight, hbusy, hvalid]
  rfl

theorem inFlight_of_fetched (hbusy : u.txState = true) (hvalid : u.ep.txValid = false) :
    u.inFlight = if u.ep.txCount < cdcDataFsInPacketSize then []
      else packets cdcDataFsInPacketSize (u.rest.drop cdcDataFsInPacketSize) := by
  rw [inFlight, hbusy, hvalid]
  rfl

theorem Inv.rests (h : u.Inv) (hfree : u.txState = false) : u.Rests := by
  rcases h with h | h
  · exact h
  · rw [h.busy] at hfree
    cases hfree

/-- A packet is copied. -/
theorem sends_usbEpStartXfer (hbusy : u.txState = true) (hctr : u.ep.ctrTx = false)
    (hlength : u.totalLength = 0 ∧ u.ep.xferLen = 0 ∨ 0 < u.totalLength ∧ 0 < u.ep.xferLen ∧
      u.ep.xferLen % cdcDataFsInPacketSize = u.totalLength % cdcDataFsInPacketSize) :
    u.usbEpStartXfer.Sends ∧
      u.usbEpStartXfer.inFlight = packets cdcDataFsInPacketSize u.rest := by
  have hcount : u.usbEpStartXfer.ep.txCount = min cdcDataFsInPacketSize u.ep.xferLen := by
    show (if u.ep.xferLen > cdcDataFsInPacketSize then cdcDataFsInPacketSize
      else u.ep.xferLen) = _
    split <;> omega
  have hpacket : u.usbEpStartXfer.packet = read u.mem u.ep.xferBuff u.usbEpStartXfer.ep.txCount :=
    read_usbWritePma _ _ _ _ _
  refine ⟨⟨hbusy, hcount, hlength, hctr, fun _ => ?_⟩, ?_⟩
  · rw [hpacket, hcount]
    exact (take_read _ _ _ _).symm
  · exact inFlight_of_valid (u := u.usbEpStartXfer) hbusy rfl

/-- **A transfer begins.** -/
theorem Inv.cdcTransmitFs (h : u.Inv) (hfree : u.txState = false) (buf : ℕ) (len : UInt16) :
    (u.cdcTransmitFs buf len).1 = usbdOk ∧ (u.cdcTransmitFs buf len).2.Sends ∧
      (u.cdcTransmitFs buf len).2.mem = u.mem ∧
      (u.cdcTransmitFs buf len).2.inFlight =
        packets cdcDataFsInPacketSize (read u.mem buf len.toNat) := by
  have hctr := (h.rests hfree).ctr
  have hlength : len.toNat = 0 ∧ len.toNat = 0 ∨ 0 < len.toNat ∧ 0 < len.toNat ∧
      len.toNat % cdcDataFsInPacketSize = len.toNat % cdcDataFsInPacketSize := by
    omega
  have heq : u.cdcTransmitFs buf len = (usbdOk, usbdLlTransmit buf len
      { u with txBuffer := buf, txLength := len, txState := true, totalLength := len.toNat }) := by
    rw [UsbTransmitter.cdcTransmitFs, if_neg (by rw [hfree]; exact Bool.false_ne_true),
      usbdCdcTransmitPacket, if_pos (by rw [hfree]; rfl)]
  rw [heq]
  obtain ⟨hsends, hflight⟩ := sends_usbEpStartXfer (u := { u with
    txBuffer := buf
    txLength := len
    txState := true
    totalLength := len.toNat
    ep := { u.ep with xferBuff := buf, xferLen := len.toNat, xferCount := 0 } }) rfl hctr hlength
  exact ⟨rfl, hsends, rfl, hflight⟩

/-- **The host fetches a packet**, the next one. -/
theorem Inv.fetch (h : u.Inv) : u.fetch.2.Inv ∧ u.fetch.2.mem = u.mem ∧
    u.fetch.2.txState = u.txState ∧ u.inFlight = u.fetch.1 ++ u.fetch.2.inFlight := by
  rcases h with h | h
  · rw [UsbTransmitter.fetch, h.valid]
    exact ⟨.inl h, rfl, rfl, rfl⟩
  cases hvalid : u.ep.txValid with
  | false =>
      rw [UsbTransmitter.fetch, hvalid]
      exact ⟨.inr h, rfl, rfl, rfl⟩
  | true =>
      have hpacket := h.packet hvalid
      rw [UsbTransmitter.fetch, hvalid, if_pos rfl]
      refine ⟨.inr ⟨h.busy, h.count, h.length, rfl, fun hno => Bool.noConfusion hno⟩, rfl, rfl, ?_⟩
      rw [hpacket]
      have hlen : u.rest.length = u.ep.xferLen := length_read _ _ _
      have hpos : 0 < cdcDataFsInPacketSize := by decide
      have hcount := h.count
      have hflight := inFlight_of_valid h.busy hvalid
      have hnext : inFlight { u with ep := { u.ep with txValid := false, ctrTx := true } } =
          if u.ep.txCount < cdcDataFsInPacketSize then []
          else packets cdcDataFsInPacketSize (u.rest.drop cdcDataFsInPacketSize) :=
        inFlight_of_fetched h.busy rfl
      rw [hflight, hnext]
      by_cases hshort : u.ep.xferLen < cdcDataFsInPacketSize
      · rw [packets_of_lt (by omega), List.take_of_length_le (by omega), if_pos (by omega)]
        rfl
      · rw [packets_of_ge hpos (by omega), if_neg (by omega)]
        rfl

/-- What the interrupt does when a packet was fetched. -/
theorem Sends.pcdEpIsrHandler_eq (h : u.Sends) (hctr : u.ep.ctrTx = true) :
    u.pcdEpIsrHandler =
      if u.ep.xferLen ≤ cdcDataFsInPacketSize then
        usbdCdcDataIn { u with ep := { u.ep with ctrTx := false, xferLen := 0 } }
      else usbEpStartXfer { u with ep := { u.ep with
        ctrTx := false
        xferLen := u.ep.xferLen - cdcDataFsInPacketSize
        xferBuff := u.ep.xferBuff + cdcDataFsInPacketSize
        xferCount := u.ep.xferCount + cdcDataFsInPacketSize } } := by
  have hmps : cdcDataFsInPacketSize = 64 := rfl
  have hcount := h.count
  have hmask : u.ep.txCount % 0x400 = u.ep.txCount := Nat.mod_eq_of_lt (by omega)
  have hxfer : (if u.ep.xferLen > u.ep.txCount then u.ep.xferLen - u.ep.txCount else 0) =
      u.ep.xferLen - cdcDataFsInPacketSize := by
    split <;> omega
  rw [pcdEpIsrHandler, hctr, if_neg (by decide)]
  dsimp only
  rw [hmask, hxfer]
  by_cases hover : u.ep.xferLen - cdcDataFsInPacketSize = 0
  · rw [if_pos hover, if_pos (by omega), hover]
  · have hfull : u.ep.txCount = cdcDataFsInPacketSize := by omega
    rw [if_neg hover, if_neg (by omega), hfull]

theorem Sends.valid_eq (h : u.Sends) (hctr : u.ep.ctrTx = true) : u.ep.txValid = false := by
  have hfetched := h.fetched
  rw [hctr] at hfetched
  cases hvalid : u.ep.txValid with
  | false => rfl
  | true =>
      rw [hvalid] at hfetched
      cases hfetched

/-- There is more of the text. -/
theorem Sends.irq_more (h : u.Sends) (hctr : u.ep.ctrTx = true)
    (hlong : cdcDataFsInPacketSize < u.ep.xferLen) :
    u.pcdEpIsrHandler.Sends ∧ u.pcdEpIsrHandler.mem = u.mem ∧
      u.pcdEpIsrHandler.ep.ctrTx = false ∧ u.pcdEpIsrHandler.inFlight = u.inFlight := by
  have hmps : cdcDataFsInPacketSize = 64 := rfl
  have hcount := h.count
  have hlength := h.length
  have hnext : u.totalLength = 0 ∧ u.ep.xferLen - cdcDataFsInPacketSize = 0 ∨
      0 < u.totalLength ∧ 0 < u.ep.xferLen - cdcDataFsInPacketSize ∧
      (u.ep.xferLen - cdcDataFsInPacketSize) % cdcDataFsInPacketSize =
        u.totalLength % cdcDataFsInPacketSize := by
    rw [hmps] at hlength hlong ⊢
    omega
  obtain ⟨hsends, hflight⟩ := sends_usbEpStartXfer (u := { u with ep := { u.ep with
    ctrTx := false
    xferLen := u.ep.xferLen - cdcDataFsInPacketSize
    xferBuff := u.ep.xferBuff + cdcDataFsInPacketSize
    xferCount := u.ep.xferCount + cdcDataFsInPacketSize } }) h.busy rfl hnext
  rw [h.pcdEpIsrHandler_eq hctr, if_neg (by omega)]
  refine ⟨hsends, rfl, rfl, ?_⟩
  rw [hflight, inFlight_of_fetched h.busy (h.valid_eq hctr), if_neg (by omega), rest, rest,
    drop_read]

/-- The last packet was a full one, and an empty one follows. -/
theorem Sends.irq_empty (h : u.Sends) (hctr : u.ep.ctrTx = true)
    (hlast : u.ep.xferLen ≤ cdcDataFsInPacketSize)
    (hfull : u.totalLength > 0 ∧ u.totalLength % cdcDataFsInPacketSize = 0) :
    u.pcdEpIsrHandler.Sends ∧ u.pcdEpIsrHandler.mem = u.mem ∧
      u.pcdEpIsrHandler.ep.ctrTx = false ∧ u.pcdEpIsrHandler.inFlight = u.inFlight := by
  have hmps : cdcDataFsInPacketSize = 64 := rfl
  have hcount := h.count
  have hlength := h.length
  have hxfer : u.ep.xferLen = cdcDataFsInPacketSize := by
    rw [hmps] at hlength hlast hfull ⊢
    omega
  have hend : u.rest.drop cdcDataFsInPacketSize = [] :=
    List.drop_eq_nil_of_le (by rw [rest, length_read]; omega)
  obtain ⟨hsends, hflight⟩ := sends_usbEpStartXfer (u := { u with
    totalLength := 0
    ep := { u.ep with ctrTx := false, xferBuff := 0, xferLen := 0, xferCount := 0 } })
    h.busy rfl (.inl ⟨rfl, rfl⟩)
  rw [h.pcdEpIsrHandler_eq hctr, if_pos hlast, usbdCdcDataIn, if_pos hfull]
  refine ⟨hsends, rfl, rfl, hflight.trans ?_⟩
  rw [inFlight_of_fetched h.busy (h.valid_eq hctr), if_neg (by omega), hend]
  rfl

/-- The last packet was a short one. -/
theorem Sends.irq_last (h : u.Sends) (hctr : u.ep.ctrTx = true)
    (hlast : u.ep.xferLen ≤ cdcDataFsInPacketSize)
    (hshort : ¬ (u.totalLength > 0 ∧ u.totalLength % cdcDataFsInPacketSize = 0)) :
    u.pcdEpIsrHandler.Rests ∧ u.pcdEpIsrHandler.mem = u.mem ∧ u.inFlight = [] := by
  have hmps : cdcDataFsInPacketSize = 64 := rfl
  have hcount := h.count
  have hlength := h.length
  have hxfer : u.ep.xferLen < cdcDataFsInPacketSize := by
    rw [hmps] at hlength hlast hshort ⊢
    omega
  rw [h.pcdEpIsrHandler_eq hctr, if_pos hlast, usbdCdcDataIn, if_neg hshort]
  refine ⟨⟨rfl, h.valid_eq hctr, rfl⟩, rfl, ?_⟩
  rw [inFlight_of_fetched h.busy (h.valid_eq hctr), if_pos (by omega)]

/-- **The interrupt goes on with the transfer**, and none of what is to come is lost. -/
theorem Inv.irq (h : u.Inv) : u.pcdEpIsrHandler.Inv ∧ u.pcdEpIsrHandler.mem = u.mem ∧
    u.pcdEpIsrHandler.inFlight = u.inFlight ∧ u.pcdEpIsrHandler.ep.ctrTx = false ∧
    (u.txState = false → u.pcdEpIsrHandler.txState = false) := by
  cases hctr : u.ep.ctrTx with
  | false =>
      have heq : u.pcdEpIsrHandler = u := by
        rw [pcdEpIsrHandler, hctr]
        rfl
      rw [heq]
      exact ⟨h, rfl, rfl, hctr, id⟩
  | true =>
      rcases h with hrests | hsends
      · rw [hrests.ctr] at hctr
        cases hctr
      have hno : u.txState = false → u.pcdEpIsrHandler.txState = false := by
        intro hfree
        rw [hsends.busy] at hfree
        cases hfree
      rcases Nat.lt_or_ge cdcDataFsInPacketSize u.ep.xferLen with hlong | hlast
      · obtain ⟨hnext, hmem, hctr', hflight⟩ := hsends.irq_more hctr hlong
        exact ⟨.inr hnext, hmem, hflight, hctr', hno⟩
      · by_cases hfull : u.totalLength > 0 ∧ u.totalLength % cdcDataFsInPacketSize = 0
        · obtain ⟨hnext, hmem, hctr', hflight⟩ := hsends.irq_empty hctr hlast hfull
          exact ⟨.inr hnext, hmem, hflight, hctr', hno⟩
        · obtain ⟨hnext, hmem, hflight⟩ := hsends.irq_last hctr hlast hfull
          exact ⟨.inl hnext, hmem, by rw [hflight, hnext.inFlight], hnext.ctr, hno⟩

end UsbTransmitter

/-! ### The host -/

/-- The text of `usb_printf`, if it is not empty. -/
def Formatted.shown (f : Formatted) : List (List UInt8) :=
  if f.text = [] then [] else [f.text.take (printfBufMaxLen - 1)]

/-- **How a call ends.**  A part of its texts was handed over, from the first one on, and all of them
if it returns `USBD_OK`.  They are the texts that were meant, for memory outside of
`printf_buffer`. -/
structure TxEnded.Ok (mem : Mem) (e : TxEnded) : Prop where
  sent : e.sent <+: e.asked
  all : e.ret = usbdOk → e.sent = e.asked
  none : ∀ f, e.call = .usbPrintf f → e.ret ≠ usbdOk → e.sent = []
  text : ∀ f, e.call = .usbPrintf f → f.failed = false → e.asked = f.shown
  chunks : ∀ msgs, e.call = .usbSendChunk msgs → (∀ msg ∈ msgs, printfBufMaxLen ≤ msg.1) →
    e.asked = chunkTexts mem msgs

/-- All texts that were handed over. -/
def TxSystem.accepted (s : TxSystem) : List (List UInt8) :=
  s.ended.flatMap TxEnded.sent ++ s.running.elim [] TxRunning.sent

/-- **What the host knows.**  Its messages are the texts that were handed over, in order, but perhaps
for the last one, of which it has a part; when the transmitter is free, it has them all. -/
structure HostSees (mem : Mem) (s : TxSystem) : Prop where
  messages : (receive cdcDataFsInPacketSize s.received).messages <+: s.accepted
  content : (receive cdcDataFsInPacketSize s.received).content <+: s.accepted.flatten
  behind : s.accepted.length ≤ (receive cdcDataFsInPacketSize s.received).messages.length + 1
  complete : s.dev.txState = false →
    receive cdcDataFsInPacketSize s.received = ⟨[], s.accepted⟩
  ended : ∀ e ∈ s.ended, e.Ok mem

/-! ### Every run -/

/-- The places of `usb_printf`. -/
def TxPc.isPrintf : TxPc → Bool
  | .printfWait _ | .printfBusy _ | .printfFormat _ | .printfSend _ => true
  | _ => false

/-- The places behind the test that finds the transmitter free. -/
def TxPc.isFree : TxPc → Bool
  | .printfFormat _ | .printfSend _ | .chunkTimeout _ _ | .chunkNext _ => true
  | _ => false

/-- A call that has not ended, when the memory is `mem`, and was `mem₀` at first. -/
structure TxRunning.Ok (mem₀ : Mem) (dev : UsbTransmitter) (r : TxRunning) : Prop where
  asked : r.asked = r.sent ++ r.pc.texts dev.mem
  free : r.pc.isFree = true → dev.txState = false
  printf : ∀ f, r.call = .usbPrintf f → r.sent = [] ∧ r.pc.isPrintf = true
  text : ∀ f, r.call = .usbPrintf f → f.failed = false → r.asked = f.shown
  chunks : ∀ msgs, r.call = .usbSendChunk msgs → (∀ msg ∈ msgs, printfBufMaxLen ≤ msg.1) →
    r.asked = chunkTexts mem₀ msgs

/-- What does not depend on the place in the call. -/
structure TxCore (mem₀ : Mem) (s : TxSystem) : Prop where
  dev : s.dev.Inv
  mem : ∀ i, printfBufMaxLen ≤ i → s.dev.mem i = mem₀ i
  sent : s.received ++ s.dev.inFlight = s.accepted.flatMap (packets cdcDataFsInPacketSize)
  behind : ∃ done, done <+: s.accepted ∧ s.accepted.length ≤ done.length + 1 ∧
    done.flatMap (packets cdcDataFsInPacketSize) <+: s.received
  ended : ∀ e ∈ s.ended, e.Ok mem₀

/-- **The system, at any time.** -/
structure TxInv (mem₀ : Mem) (s : TxSystem) : Prop extends TxCore mem₀ s where
  running : ∀ r, s.running = some r → r.Ok mem₀ s.dev

variable {mem₀ : Mem} {s t : TxSystem} {r : TxRunning}

theorem txInit_inv (mem₀ pma : Mem) : TxInv mem₀ (txInit mem₀ pma) where
  dev := .inl ⟨rfl, rfl, rfl⟩
  mem := fun _ _ => rfl
  sent := rfl
  behind := ⟨[], List.prefix_rfl, Nat.zero_le _, List.prefix_rfl⟩
  running := fun _ h => by cases h
  ended := fun _ h => by cases h

/-! #### The texts -/

/-- A text that there is room for. -/
theorem printfFormat_of_lt {f : Formatted} (hfailed : f.failed = false)
    (hlen : f.text.length < printfBufMaxLen) (mem : Mem) :
    printfFormat f mem = (write mem 0 (f.text ++ [0]), (f.text.length : ℤ)) := by
  have htake : f.text.take (printfBufMaxLen - 1) = f.text :=
    List.take_of_length_le (by omega)
  have hlong : ¬ ((f.text.length : ℤ) < 0 ∨ (f.text.length : ℤ) ≥ printfBufMaxLen) := by omega
  rw [printfFormat, vsnprintf, hfailed, htake]
  exact if_neg hlong

/-- One that is cut, and one that failed. -/
theorem printfFormat_of_ge {f : Formatted}
    (h : f.failed = true ∨ printfBufMaxLen ≤ f.text.length) (mem : Mem) :
    printfFormat f mem = (write (write mem 0 (f.text.take (printfBufMaxLen - 1) ++ [0]))
      (printfBufMaxLen - 1) [0], ((printfBufMaxLen - 1 : ℕ) : ℤ)) := by
  have hlong : (if f.failed = true then (-1 : ℤ) else f.text.length) < 0 ∨
      (if f.failed = true then (-1 : ℤ) else f.text.length) ≥ printfBufMaxLen := by
    by_cases hfailed : f.failed = true
    · rw [if_pos hfailed]
      exact .inl (by decide)
    · rw [if_neg hfailed]
      exact .inr (Int.ofNat_le.2 (h.resolve_left hfailed))
  exact if_pos hlong

/-- The formatting writes nothing behind the buffer, and its length fits. -/
theorem printfFormat_spec (f : Formatted) (mem : Mem) :
    (∀ i, printfBufMaxLen ≤ i → (printfFormat f mem).1 i = mem i) ∧
      0 ≤ (printfFormat f mem).2 ∧ (printfFormat f mem).2 < printfBufMaxLen := by
  have hmax : printfBufMaxLen = 256 := rfl
  by_cases h : f.failed = true ∨ printfBufMaxLen ≤ f.text.length
  · rw [printfFormat_of_ge h]
    refine ⟨fun i hi => ?_, by omega, by omega⟩
    have hlast : printfBufMaxLen - 1 + [(0 : UInt8)].length ≤ i := by simp; omega
    have hstored : 0 + (f.text.take (printfBufMaxLen - 1) ++ [0]).length ≤ i := by simp; omega
    exact (write_of_ge _ _ _ hlast).trans (write_of_ge _ _ _ hstored)
  · rw [not_or, Bool.not_eq_true, Nat.not_le] at h
    rw [printfFormat_of_lt h.1 h.2]
    refine ⟨fun i hi => ?_, by omega, by omega⟩
    have hstored : 0 + (f.text ++ [0]).length ≤ i := by simp; omega
    exact write_of_ge _ _ _ hstored

/-- What a text that did not fail comes to. -/
theorem texts_printfFormat {f : Formatted} (hfailed : f.failed = false) (mem : Mem) :
    TxPc.texts mem (.printfFormat f) = f.shown := by
  have hmax : printfBufMaxLen = 256 := rfl
  rcases Nat.lt_or_ge f.text.length printfBufMaxLen with hlt | hge
  · simp only [TxPc.texts, printfFormat_of_lt hfailed hlt, Formatted.shown]
    by_cases hnil : f.text = []
    · rw [if_pos hnil, hnil]
      rfl
    · have hpos : 0 < f.text.length := List.length_pos_iff.2 hnil
      have hsize : (UInt16.ofNat f.text.length).toNat = f.text.length := by
        rw [UInt16.toNat_ofNat', Nat.mod_eq_of_lt (by omega)]
      rw [if_neg hnil, if_pos (by omega), Int.toNat_natCast, hsize,
        read_write_take _ _ _ (by rw [List.length_append]; omega), List.take_left' rfl,
        List.take_of_length_le (by omega)]
  · simp only [TxPc.texts, printfFormat_of_ge (.inr hge), Formatted.shown]
    have hnil : f.text ≠ [] := List.length_pos_iff.1 (by omega)
    have hsize : (UInt16.ofNat ((printfBufMaxLen - 1 : ℕ) : ℤ).toNat).toNat = 255 := rfl
    have htake : (f.text.take (printfBufMaxLen - 1)).length = 255 := by
      rw [List.length_take]
      omega
    have hstored : 255 ≤ (f.text.take (printfBufMaxLen - 1) ++ [0]).length := by
      rw [List.length_append]
      omega
    rw [if_neg hnil, if_pos (by omega), hsize, read_write_of_le _ _ _ (by omega),
      read_write_take _ _ _ hstored, List.take_left' htake]

theorem chunkTexts_congr {msgs : List (ℕ × ℕ)} {mem : Mem}
    (hmem : ∀ i, printfBufMaxLen ≤ i → mem i = mem₀ i)
    (hout : ∀ msg ∈ msgs, printfBufMaxLen ≤ msg.1) :
    chunkTexts mem msgs = chunkTexts mem₀ msgs := by
  refine List.map_congr_left fun msg hmsg => read_congr fun i hi _ => hmem i ?_
  have hle := hout msg (List.mem_of_mem_filter hmsg)
  omega

/-! #### The host and the interrupt -/

namespace TxInv

/-- The host asks for a packet. -/
theorem host (h : TxInv mem₀ s) :
    TxInv mem₀ { s with dev := s.dev.fetch.2, received := s.received ++ s.dev.fetch.1 } := by
  obtain ⟨hdev, hmem, hstate, hflight⟩ := h.dev.fetch
  obtain ⟨done, hdone, hlen, hgot⟩ := h.behind
  refine ⟨⟨hdev, ?_, ?_, ⟨done, hdone, hlen, hgot.trans (List.prefix_append _ _)⟩, h.ended⟩, ?_⟩
  · intro i hi
    rw [hmem]
    exact h.mem i hi
  · have hsent := h.sent
    rw [hflight, ← List.append_assoc] at hsent
    exact hsent
  · intro r hr
    obtain ⟨hasked, hfree, hprintf, htext, hchunks⟩ := h.running r hr
    rw [← hmem] at hasked
    rw [← hstate] at hfree
    exact ⟨hasked, hfree, hprintf, htext, hchunks⟩

/-- The interrupt comes. -/
theorem irq (h : TxInv mem₀ s) : TxInv mem₀ { s with dev := s.dev.pcdEpIsrHandler } := by
  obtain ⟨hdev, hmem, hflight, -, hstate⟩ := h.dev.irq
  refine ⟨⟨hdev, ?_, ?_, h.behind, h.ended⟩, ?_⟩
  · intro i hi
    rw [hmem]
    exact h.mem i hi
  · have hsent := h.sent
    rw [← hflight] at hsent
    exact hsent
  · intro r hr
    obtain ⟨hasked, hfree, hprintf, htext, hchunks⟩ := h.running r hr
    rw [← hmem] at hasked
    exact ⟨hasked, fun hpc => hstate (hfree hpc), hprintf, htext, hchunks⟩

/-! #### The call -/

/-- A call begins. -/
theorem call (h : TxInv mem₀ s) (hidle : s.running = none) (c : TxCall) :
    TxInv mem₀ { s with running := some ⟨c, c.start.texts s.dev.mem, [], c.start⟩ } := by
  have hsent := h.sent
  have hbehind := h.behind
  rw [TxSystem.accepted, hidle] at hsent hbehind
  refine ⟨⟨h.dev, h.mem, hsent, hbehind, h.ended⟩, ?_⟩
  intro r hr
  cases hr
  refine ⟨rfl, ?_, ?_, ?_, ?_⟩
  · cases c <;> exact fun hno => Bool.noConfusion hno
  · rintro f rfl
    exact ⟨rfl, rfl⟩
  · rintro f rfl hfailed
    exact texts_printfFormat hfailed _
  · rintro msgs rfl hout
    exact chunkTexts_congr h.mem hout

end TxInv

namespace TxCore

/-- It goes on elsewhere. -/
theorem goto (h : TxCore mem₀ s) (hr : s.running = some r) {pc : TxPc}
    (hok : TxRunning.Ok mem₀ s.dev { r with pc }) : TxInv mem₀ (s.goto r pc) := by
  have hsent := h.sent
  have hbehind := h.behind
  rw [TxSystem.accepted, hr] at hsent hbehind
  refine ⟨⟨h.dev, h.mem, hsent, hbehind, h.ended⟩, ?_⟩
  intro r' hr'
  cases hr'
  exact hok

/-- It returns. -/
theorem finish (h : TxCore mem₀ s) (hr : s.running = some r) {ret : ℤ}
    (hok : TxEnded.Ok mem₀ ⟨r.call, r.asked, r.sent, ret⟩) : TxInv mem₀ (s.finish r ret) := by
  have haccepted : (s.finish r ret).accepted = s.accepted := by
    rw [TxSystem.accepted, TxSystem.accepted, hr, TxSystem.finish, List.flatMap_append,
      List.flatMap_singleton]
    exact List.append_nil _
  have hsent := h.sent
  have hbehind := h.behind
  rw [← haccepted] at hsent hbehind
  refine ⟨⟨h.dev, h.mem, hsent, hbehind, ?_⟩, fun r' hr' => by cases hr'⟩
  intro e he
  rcases List.mem_append.1 he with he | he
  · exact h.ended e he
  · rw [List.mem_singleton.1 he]
    exact hok

/-- **A text is handed over** to a transmitter that is free. -/
theorem transmit (h : TxCore mem₀ s) (hr : s.running = some r) (hfree : s.dev.txState = false)
    (buf len : ℕ) : ∃ dev r', s.transmit r buf len = (usbdOk, { s with dev }, r') ∧
      r' = { r with sent := r.sent ++ [read s.dev.mem buf (UInt16.ofNat len).toNat] } ∧
      dev.mem = s.dev.mem ∧ TxCore mem₀ { s with dev, running := some r' } := by
  obtain ⟨hok, hsends, hmem, hflight⟩ := h.dev.cdcTransmitFs hfree buf (UInt16.ofNat len)
  obtain ⟨dev, hdev⟩ : ∃ dev, dev = (s.dev.cdcTransmitFs buf (UInt16.ofNat len)).2 := ⟨_, rfl⟩
  obtain ⟨text, htext⟩ : ∃ text, text = read s.dev.mem buf (UInt16.ofNat len).toNat := ⟨_, rfl⟩
  rw [← hdev] at hsends hmem hflight
  rw [← htext] at hflight
  refine ⟨dev, { r with sent := r.sent ++ [text] }, ?_, by rw [htext], hmem, ?_⟩
  · have hpair : s.dev.cdcTransmitFs buf (UInt16.ofNat len) = (usbdOk, dev) :=
      Prod.ext hok hdev.symm
    rw [TxSystem.transmit, hpair, htext]
    rfl
  · have haccepted : TxSystem.accepted
        { s with dev, running := some { r with sent := r.sent ++ [text] } } =
          s.accepted ++ [text] := by
      rw [TxSystem.accepted, TxSystem.accepted, hr]
      exact (List.append_assoc _ _ _).symm
    have hall : s.received = s.accepted.flatMap (packets cdcDataFsInPacketSize) := by
      rw [← h.sent, (h.dev.rests hfree).inFlight, List.append_nil]
    refine ⟨.inr hsends, ?_, ?_, ?_, h.ended⟩
    · intro i hi
      rw [hmem]
      exact h.mem i hi
    · rw [haccepted, List.flatMap_append, List.flatMap_singleton, ← hall, hflight]
    · refine ⟨s.accepted, ?_, ?_, ?_⟩
      · rw [haccepted]
        exact List.prefix_append _ _
      · rw [haccepted, List.length_append, List.length_singleton]
      · rw [← hall]

end TxCore

/-! #### A step -/

theorem TxRunning.Ok.goto {dev : UsbTransmitter} (h : r.Ok mem₀ dev) {pc : TxPc}
    (htexts : pc.texts dev.mem = r.pc.texts dev.mem)
    (hfree : pc.isFree = true → dev.txState = false) (hprintf : pc.isPrintf = r.pc.isPrintf) :
    TxRunning.Ok mem₀ dev { r with pc } where
  asked := by
    show r.asked = r.sent ++ pc.texts dev.mem
    rw [htexts]
    exact h.asked
  free := hfree
  printf := fun f hf => ⟨(h.printf f hf).1, hprintf.trans (h.printf f hf).2⟩
  text := h.text
  chunks := h.chunks

theorem TxRunning.Ok.finish {dev : UsbTransmitter} (h : r.Ok mem₀ dev) {ret : ℤ}
    (hret : ret = usbdOk → r.pc.texts dev.mem = []) :
    TxEnded.Ok mem₀ ⟨r.call, r.asked, r.sent, ret⟩ where
  sent := by
    show r.sent <+: r.asked
    rw [h.asked]
    exact List.prefix_append _ _
  all := fun hok => by
    show r.sent = r.asked
    rw [h.asked, hret hok, List.append_nil]
  none := fun f hf _ => (h.printf f hf).1
  text := h.text
  chunks := h.chunks

/-- The text of `usb_printf` was handed over, and it is the only one. -/
theorem TxRunning.Ok.sentAll {dev : UsbTransmitter} (h : r.Ok mem₀ dev) {text : List UInt8}
    (htexts : r.pc.texts dev.mem = [text]) :
    TxEnded.Ok mem₀ ⟨r.call, r.asked, r.sent ++ [text], usbdOk⟩ where
  sent := by
    show r.sent ++ [text] <+: r.asked
    rw [h.asked, htexts]
  all := fun _ => by
    show r.sent ++ [text] = r.asked
    rw [h.asked, htexts]
  none := fun _ _ hno => absurd rfl hno
  text := h.text
  chunks := h.chunks

/-- A text of `usb_send_chunk` was handed over, and there may be others. -/
theorem TxRunning.Ok.sentOne {dev dev' : UsbTransmitter} (h : r.Ok mem₀ dev)
    (hmem : dev'.mem = dev.mem) {text : List UInt8} {pc : TxPc}
    (htexts : r.pc.texts dev.mem = text :: pc.texts dev.mem) (hfree : pc.isFree = false)
    (hprintf : r.pc.isPrintf = false) :
    TxRunning.Ok mem₀ dev' { r with sent := r.sent ++ [text], pc } where
  asked := by
    show r.asked = r.sent ++ [text] ++ pc.texts dev'.mem
    rw [hmem, h.asked, htexts, List.append_assoc]
    rfl
  free := fun hpc => by
    rw [hfree] at hpc
    cases hpc
  printf := fun f hf => by
    have hpc := (h.printf f hf).2
    rw [hprintf] at hpc
    cases hpc
  text := h.text
  chunks := h.chunks

namespace TxInv

/-- `while ( (cdc_transmit_is_busy()) && (!is_timeout_ms(&timeout_ms)) );` -/
theorem wait (h : TxInv mem₀ s) (hr : s.running = some r) (timeout : Bool) {pc : TxPc}
    (htexts : pc.texts s.dev.mem = r.pc.texts s.dev.mem) (hfree : pc.isFree = false)
    (hprintf : pc.isPrintf = r.pc.isPrintf) : TxInv mem₀ (s.wait r timeout pc) := by
  rw [TxSystem.wait]
  split
  · exact h
  · refine h.goto hr ((h.running r hr).goto htexts (fun hpc => ?_) hprintf)
    rw [hfree] at hpc
    cases hpc

/-- The text is formatted, in a buffer that nobody reads. -/
theorem format (h : TxInv mem₀ s) (hr : s.running = some r) (timeout : Bool) {f : Formatted}
    (hpc : r.pc = .printfFormat f) : TxInv mem₀ (s.callStep timeout r) := by
  have hok := h.running r hr
  have hfree : s.dev.txState = false := hok.free (by rw [hpc]; rfl)
  have hrests := h.dev.rests hfree
  obtain ⟨hout, hnonneg, hlt⟩ := printfFormat_spec f s.dev.mem
  obtain ⟨mem, len, hformat⟩ : ∃ mem len, printfFormat f s.dev.mem = (mem, len) := ⟨_, _, rfl⟩
  rw [hformat] at hout hnonneg hlt
  have htexts : r.pc.texts s.dev.mem =
      if len > 0 then [read mem 0 (UInt16.ofNat len.toNat).toNat] else [] := by
    rw [hpc]
    simp only [TxPc.texts, hformat]
  have hrests' : UsbTransmitter.Rests { s.dev with mem } := ⟨hfree, hrests.valid, hrests.ctr⟩
  have hcore : TxCore mem₀ { s with dev := { s.dev with mem } } := by
    refine ⟨.inl hrests', fun i hi => (hout i hi).trans (h.mem i hi), ?_, h.behind, h.ended⟩
    have hsent := h.sent
    rw [hrests.inFlight] at hsent
    rw [hrests'.inFlight]
    exact hsent
  rw [TxSystem.callStep, hpc]
  dsimp only
  rw [hformat]
  dsimp only
  by_cases hpos : len > 0
  · rw [if_pos hpos] at htexts ⊢
    refine hcore.goto hr ⟨?_, fun _ => hfree, fun f hf => ⟨(hok.printf f hf).1, rfl⟩, hok.text,
      hok.chunks⟩
    show r.asked = r.sent ++ [read mem 0 (UInt16.ofNat len.toNat).toNat]
    rw [← htexts]
    exact hok.asked
  · rw [if_neg hpos] at htexts ⊢
    rw [if_pos (by omega)]
    exact hcore.finish hr (hok.finish fun _ => htexts)

/-- **What a statement of a call preserves.** -/
theorem go (h : TxInv mem₀ s) (hr : s.running = some r) (timeout : Bool) :
    TxInv mem₀ (s.callStep timeout r) := by
  have hok := h.running r hr
  cases hpc : r.pc with
  | printfWait f =>
      rw [TxSystem.callStep, hpc]
      exact h.wait hr timeout (by rw [hpc]; rfl) rfl (by rw [hpc]; rfl)
  | printfBusy f =>
      rw [TxSystem.callStep, hpc]
      cases hbusy : s.dev.txState with
      | true => exact h.finish hr (hok.finish fun hno => absurd hno (by decide))
      | false => exact h.goto hr (hok.goto (by rw [hpc]; rfl) (fun _ => hbusy) (by rw [hpc]; rfl))
  | printfFormat f => exact h.format hr timeout hpc
  | printfSend len =>
      have hfree : s.dev.txState = false := hok.free (by rw [hpc]; rfl)
      obtain ⟨dev, r', htransmit, hr', hmem, hcore⟩ := h.transmit hr hfree 0 len
      rw [TxSystem.callStep, hpc]
      dsimp only
      rw [htransmit]
      refine TxCore.finish hcore rfl ?_
      rw [hr']
      exact hok.sentAll (by rw [hpc]; rfl)
  | chunkWait first msgs =>
      rw [TxSystem.callStep, hpc]
      exact h.wait hr timeout (by rw [hpc]; rfl) rfl (by rw [hpc]; rfl)
  | chunkBusy first msgs =>
      rw [TxSystem.callStep, hpc]
      cases hbusy : s.dev.txState with
      | true =>
          refine h.finish hr (hok.finish fun hno => absurd hno ?_)
          cases first <;> decide
      | false => exact h.goto hr (hok.goto (by rw [hpc]; rfl) (fun _ => hbusy) (by rw [hpc]; rfl))
  | chunkTimeout first msgs =>
      have hfree : s.dev.txState = false := hok.free (by rw [hpc]; rfl)
      rw [TxSystem.callStep, hpc]
      cases timeout with
      | true =>
          refine h.finish hr (hok.finish fun hno => absurd hno ?_)
          cases first <;> decide
      | false => exact h.goto hr (hok.goto (by rw [hpc]; rfl) (fun _ => hfree) (by rw [hpc]; rfl))
  | chunkNext msgs =>
      have hfree : s.dev.txState = false := hok.free (by rw [hpc]; rfl)
      cases msgs with
      | nil =>
          rw [TxSystem.callStep, hpc]
          exact h.finish hr (hok.finish fun _ => by rw [hpc]; rfl)
      | cons msg msgs =>
          obtain ⟨buf, len⟩ := msg
          rw [TxSystem.callStep, hpc]
          dsimp only
          by_cases hpos : len > 0
          · have htexts : r.pc.texts s.dev.mem =
                read s.dev.mem buf (UInt16.ofNat len).toNat :: chunkTexts s.dev.mem msgs := by
              rw [hpc]
              simp [TxPc.texts, chunkTexts, hpos]
            obtain ⟨dev, r', htransmit, hr', hmem, hcore⟩ := h.transmit hr hfree buf len
            rw [if_pos hpos, htransmit]
            refine TxCore.goto hcore rfl ?_
            rw [hr']
            exact hok.sentOne hmem htexts rfl (by rw [hpc]; rfl)
          · have htexts : chunkTexts s.dev.mem msgs = r.pc.texts s.dev.mem := by
              rw [hpc]
              simp [TxPc.texts, chunkTexts, hpos]
            rw [if_neg hpos]
            exact h.goto hr (hok.goto htexts (fun _ => hfree) (by rw [hpc]; rfl))

/-- **What one step preserves.** -/
theorem step (h : TxInv mem₀ s) {turn : TxTurn} (hstep : txStep turn s = some t) :
    TxInv mem₀ t := by
  cases turn with
  | call c =>
      cases hr : s.running with
      | none =>
          simp only [txStep, hr] at hstep
          cases hstep
          exact h.call hr c
      | some r =>
          simp only [txStep, hr] at hstep
          cases hstep
  | go timeout =>
      cases hr : s.running with
      | none =>
          simp only [txStep, hr] at hstep
          cases hstep
      | some r =>
          simp only [txStep, hr] at hstep
          cases hstep
          exact h.go hr timeout
  | host =>
      rw [txStep] at hstep
      cases hstep
      exact h.host
  | irq =>
      rw [txStep] at hstep
      cases hstep
      exact h.irq

/-- What the host knows then. -/
theorem hostSees (h : TxInv mem₀ s) : HostSees mem₀ s := by
  have hpos : 0 < cdcDataFsInPacketSize := by decide
  obtain ⟨hmessages, hcontent⟩ := receive_initial hpos h.sent
  refine ⟨hmessages, hcontent, ?_, ?_, h.ended⟩
  · obtain ⟨done, -, hlen, ⟨ps, hps⟩⟩ := h.behind
    have hall : done <+: (receive cdcDataFsInPacketSize s.received).messages := by
      have hrest := Receiver.messages_prefix_foldl_take cdcDataFsInPacketSize
        (receive cdcDataFsInPacketSize (done.flatMap (packets cdcDataFsInPacketSize))) ps
      rw [← receive_append, hps, receive_flatMap_packets hpos] at hrest
      exact hrest
    have hle := hall.length_le
    omega
  · intro hfree
    have hsent := h.sent
    rw [(h.dev.rests hfree).inFlight, List.append_nil] at hsent
    rw [hsent, receive_flatMap_packets hpos]

end TxInv

/-- **What the host receives.**  Whatever the calls are, if they come one after the other, without
overlap, and however their statements, the fetches of the host and the interrupts come, the host has
the texts that were handed over, whole, in order and once, but perhaps for the last one; and a call
has handed over all of its texts if it returned `USBD_OK`. -/
theorem hostSees_of_run (mem₀ pma : Mem) (h : Run txStep (fun _ _ => true) (txInit mem₀ pma) s) :
    HostSees mem₀ s :=
  (h.invariant (txInit_inv mem₀ pma) fun _ _ _ hinv _ hstep => hinv.step hstep).hostSees

/-- The statements of a call of `usb_printf` that finds the transmitter free. -/
def printfTurns (f : Formatted) : List TxTurn :=
  [.call (.usbPrintf f), .go false, .go false, .go false, .go false]

/-- The host has fetched a first text, and not yet the second one. -/
theorem hostSees_of_run_two_texts :
    ∃ s, exec txStep (fun _ _ => true) (printfTurns ⟨[0x48, 0x69], false⟩ ++
        .host :: .irq :: printfTurns ⟨[0x21], false⟩) (txInit (fun _ => 0) fun _ => 0) = some s ∧
      s.accepted = [[0x48, 0x69], [0x21]] ∧ s.received = [[0x48, 0x69]] ∧
      HostSees (fun _ => 0) s := by
  refine ⟨_, rfl, rfl, rfl, ?_⟩
  exact hostSees_of_run (fun _ => 0) (fun _ => 0) (run_of_exec (printfTurns ⟨[0x48, 0x69], false⟩ ++
    .host :: .irq :: printfTurns ⟨[0x21], false⟩) rfl)

/-! ### A host that goes on fetching -/

/-- The host asks for `n` packets, and the interrupt comes behind each. -/
def fetches : ℕ → List TxTurn
  | 0 => []
  | n + 1 => .host :: .irq :: fetches n

/-- A fetch and the interrupt behind it leave one packet less. -/
theorem UsbTransmitter.Inv.poll {u : UsbTransmitter} (h : u.Inv) (hctr : u.ep.ctrTx = false)
    (hbusy : u.txState = true) :
    u.inFlight.length = (u.fetch.2.pcdEpIsrHandler.inFlight).length + 1 := by
  rcases h with hrests | hsends
  · rw [hrests.free] at hbusy
    cases hbusy
  have hvalid : u.ep.txValid = true := by
    have hfetched := hsends.fetched
    rw [hctr] at hfetched
    cases hval : u.ep.txValid with
    | true => rfl
    | false => rw [hval] at hfetched; cases hfetched
  obtain ⟨hnext, -, -, hflight⟩ := UsbTransmitter.Inv.fetch (.inr hsends)
  have hone : u.fetch.1 = [u.packet] := by
    rw [UsbTransmitter.fetch, if_pos hvalid]
  rw [hnext.irq.2.2.1, hflight, hone, List.length_append, List.length_singleton, Nat.add_comm]

/-- **The transmitter gets free**, as soon as the packets that are to come have been fetched. -/
theorem TxInv.exec_fetches (h : TxInv mem₀ s) (hctr : s.dev.ep.ctrTx = false) :
    ∃ t, exec txStep (fun _ _ => true) (fetches s.dev.inFlight.length) s = some t ∧
      TxInv mem₀ t ∧ t.dev.txState = false ∧ t.running = s.running ∧ t.ended = s.ended := by
  obtain ⟨n, hn⟩ : ∃ n, s.dev.inFlight.length = n := ⟨_, rfl⟩
  rw [hn]
  induction n generalizing s with
  | zero =>
      refine ⟨s, rfl, h, ?_, rfl, rfl⟩
      by_contra hbusy
      have hpoll := h.dev.poll hctr (Bool.not_eq_false _ ▸ hbusy)
      omega
  | succ n ih =>
      have hbusy : s.dev.txState = true := by
        by_contra hfree
        rw [(h.dev.rests (Bool.not_eq_true _ ▸ hfree)).inFlight] at hn
        cases hn
      have hpoll := h.dev.poll hctr hbusy
      obtain ⟨t, ht, hinv, hfree, hrunning, hended⟩ := ih h.host.irq h.host.dev.irq.2.2.2.1 (by
        show s.dev.fetch.2.pcdEpIsrHandler.inFlight.length = n
        omega)
      exact ⟨t, ht, hinv, hfree, hrunning, hended⟩

theorem TxInv.exec_drain (h : TxInv mem₀ s) :
    ∃ n t, exec txStep (fun _ _ => true) (.irq :: fetches n) s = some t ∧
      TxInv mem₀ t ∧ t.dev.txState = false ∧ t.running = s.running ∧ t.ended = s.ended :=
  ⟨_, h.irq.exec_fetches h.dev.irq.2.2.2.1⟩

/-- The call goes through. -/
theorem TxInv.exec_printfTurns (h : TxInv mem₀ s) (hidle : s.running = none)
    (hfree : s.dev.txState = false) {f : Formatted} (hfailed : f.failed = false)
    (hnil : f.text ≠ []) :
    ∃ t, exec txStep (fun _ _ => true) (printfTurns f) s = some t ∧ TxInv mem₀ t ∧
      t.running = none ∧ t.ended = s.ended ++ [⟨.usbPrintf f, f.shown, f.shown, usbdOk⟩] := by
  obtain ⟨mem, len, hformat⟩ : ∃ mem len, printfFormat f s.dev.mem = (mem, len) := ⟨_, _, rfl⟩
  have htexts := texts_printfFormat hfailed s.dev.mem
  simp only [TxPc.texts, hformat] at htexts
  have hpos : len > 0 := by
    by_contra hno
    rw [if_neg hno, Formatted.shown, if_neg hnil] at htexts
    cases htexts
  rw [if_pos hpos] at htexts
  obtain ⟨r, hr⟩ : ∃ r : TxPc → TxRunning, r = fun pc => ⟨.usbPrintf f, f.shown, [], pc⟩ := ⟨_, rfl⟩
  obtain ⟨dev, hdev⟩ : ∃ dev : UsbTransmitter, dev = { s.dev with mem } := ⟨_, rfl⟩
  have hfree' : dev.txState = false := by rw [hdev]; exact hfree
  -- the statements before the text is handed over
  have hstep₁ : txStep (.call (.usbPrintf f)) s = some { s with running := r (.printfWait f) } := by
    simp only [txStep, hidle, hr, TxCall.start]
    rw [← texts_printfFormat hfailed s.dev.mem]
    rfl
  have hstep₂ : txStep (.go false) { s with running := r (.printfWait f) } =
      some { s with running := r (.printfBusy f) } := by
    simp [txStep, TxSystem.callStep, TxSystem.wait, TxSystem.goto, hr, hfree]
  have hstep₃ : txStep (.go false) { s with running := r (.printfBusy f) } =
      some { s with running := r (.printfFormat f) } := by
    simp [txStep, TxSystem.callStep, TxSystem.goto, hr, hfree]
  have hstep₄ : txStep (.go false) { s with running := r (.printfFormat f) } =
      some { s with dev, running := r (.printfSend len.toNat) } := by
    simp [txStep, TxSystem.callStep, TxSystem.goto, hr, hformat, hpos, hdev]
  have hinv : TxInv mem₀ { s with dev, running := r (.printfSend len.toNat) } :=
    (((h.step hstep₁).step hstep₂).step hstep₃).step hstep₄
  -- it is handed over
  obtain ⟨dev', r', htransmit, hr', -, hcore⟩ := hinv.transmit rfl hfree' 0 len.toNat
  have hstep₅ : txStep (.go false) { s with dev, running := r (.printfSend len.toNat) } =
      some (TxSystem.finish { s with dev := dev', running := r (.printfSend len.toNat) } r'
        usbdOk) := by
    have hpc : (r (.printfSend len.toNat)).pc = .printfSend len.toNat := by rw [hr]
    simp only [txStep, TxSystem.callStep, hpc, htransmit]
  refine ⟨_, ?_, hinv.step hstep₅, rfl, ?_⟩
  · simp only [printfTurns, exec, hstep₁, hstep₂, hstep₃, hstep₄, hstep₅, Option.bind_some, if_true]
  · show s.ended ++ [⟨r'.call, r'.asked, r'.sent, usbdOk⟩] = _
    have hsent : r'.sent = f.shown := by
      rw [hr', hr, ← htexts]
      show [] ++ [read dev.mem 0 _] = _
      rw [hdev]
      rfl
    rw [hsent, hr', hr]

/-- **Behind any calls without overlap the next text arrives**: a host that goes on fetching has all
texts of the calls before; then `usb_printf` returns `USBD_OK` at once, and when the host has fetched some
packets more it has the new text as well, behind the others. -/
theorem usbPrintf_arrives (mem₀ pma : Mem)
    (h : Run txStep (fun _ _ => true) (txInit mem₀ pma) s) (hidle : s.running = none)
    {f : Formatted} (hfailed : f.failed = false) (hnil : f.text ≠ []) :
    ∃ n m t, exec txStep (fun _ _ => true)
        (.irq :: fetches n ++ (printfTurns f ++ .irq :: fetches m)) s = some t ∧
      t.ended = s.ended ++ [⟨.usbPrintf f, f.shown, f.shown, usbdOk⟩] ∧
      receive cdcDataFsInPacketSize t.received =
        ⟨[], s.accepted ++ [f.text.take (printfBufMaxLen - 1)]⟩ := by
  have hinv : TxInv mem₀ s :=
    h.invariant (txInit_inv mem₀ pma) fun _ _ _ hinv _ hstep => hinv.step hstep
  obtain ⟨n, t₁, ht₁, hinv₁, hfree₁, hrunning₁, hended₁⟩ := hinv.exec_drain
  rw [hidle] at hrunning₁
  obtain ⟨t₂, ht₂, hinv₂, hrunning₂, hended₂⟩ :=
    hinv₁.exec_printfTurns hrunning₁ hfree₁ hfailed hnil
  obtain ⟨m, t₃, ht₃, hinv₃, hfree₃, hrunning₃, hended₃⟩ := hinv₂.exec_drain
  refine ⟨n, m, t₃, ?_, ?_, ?_⟩
  · rw [exec_append, ht₁, Option.bind_some, exec_append, ht₂, Option.bind_some, ht₃]
  · rw [hended₃, hended₂, hended₁]
  · have hshown : f.shown = [f.text.take (printfBufMaxLen - 1)] := if_neg hnil
    have haccepted : t₃.accepted = s.accepted ++ [f.text.take (printfBufMaxLen - 1)] := by
      simp [TxSystem.accepted, hrunning₃, hrunning₂, hended₃, hended₂, hended₁, hidle, hshown]
    rw [← haccepted]
    exact hinv₃.hostSees.complete hfree₃

/-- The text before has not been fetched. -/
theorem usbPrintf_arrives_behind_another :
    ∃ s, exec txStep (fun _ _ => true) (printfTurns ⟨[0x48, 0x69], false⟩)
        (txInit (fun _ => 0) fun _ => 0) = some s ∧
      ∃ n m t, exec txStep (fun _ _ => true)
          (.irq :: fetches n ++ (printfTurns ⟨[0x21], false⟩ ++ .irq :: fetches m)) s = some t ∧
        t.ended = s.ended ++ [⟨.usbPrintf ⟨[0x21], false⟩, [[0x21]], [[0x21]], usbdOk⟩] ∧
        receive cdcDataFsInPacketSize t.received = ⟨[], s.accepted ++ [[0x21]]⟩ := by
  refine ⟨_, rfl, ?_⟩
  exact usbPrintf_arrives (fun _ => 0) (fun _ => 0)
    (run_of_exec (printfTurns ⟨[0x48, 0x69], false⟩) rfl) rfl rfl (List.cons_ne_nil _ _)

end Solar48
