/-
**Control transfers: what the host asks, and what it gets.**

A host that keeps to the protocol sends a request, then takes or sends data in packets until a short
one or until the announced length, and then the empty packet the other way; a packet that is not
taken it sends again, and a `STALL` ends the transfer.  Between any two packets of a transfer the
interrupt of the device may come or not.  The one for the last packet has come when the host sends
the next `SETUP` packet, and the bus is reset, rests and resumes between two transfers only.

What the device is for can be said without packets: it has an address, a configuration and a few
flags, and each request has an answer.

Main definitions:

* `Solar48.ControlRequest`, `Solar48.ControlRequest.setup` — the requests, and their encoding;
* `Solar48.UsbFunction`, `Solar48.UsbFunction.answer` — the device without packets;
* `Solar48.UsbBus`, `Solar48.busStep` — the host, the interrupt and the device.

Main results:

* `Solar48.UsbFunction.state_eq_configured`, `Solar48.UsbFunction.state_eq_addressed`,
  `Solar48.UsbFunction.state_eq_default` — the states of the standard;
* `Solar48.ControlRequest.firstPhase_of_zero`, `Solar48.ControlRequest.firstPhase_of_in`,
  `Solar48.ControlRequest.firstPhase_of_out` — how a transfer begins.
-/

import Solar48.StepSystem
import Solar48.UsbDevice

set_option relaxedAutoImplicit false
set_option autoImplicit false

namespace Solar48

open ByteMem StepSystem UsbDevice

/-! ### The requests -/

/-- Whom a request is about. -/
inductive Recipient
  | device
  | interface (number : UInt8)
  | endpoint (address : UInt8)

/-- The requests of a host: the standard ones, and those of the class, which read or write data or
are a mere command. -/
inductive ControlRequest
  | getDescriptor (type index : UInt8) (langId length : UInt16)
  | setAddress (address : UInt8)
  | setConfiguration (value : UInt8)
  | getConfiguration
  | getStatus (recipient : Recipient)
  | remoteWakeup (on : Bool)
  | halt (endpoint : UInt8) (on : Bool)
  | getInterface (number : UInt8)
  | setInterface (number alternate : UInt8)
  | classRead (request number : UInt8) (value length : UInt16)
  | classWrite (request number : UInt8) (value : UInt16) (data : List UInt8)
  | classCommand (request number : UInt8) (value : UInt16)

/-- `SET_FEATURE` or `CLEAR_FEATURE`. -/
def featureRequest (on : Bool) : UInt8 := if on then usbReqSetFeature else usbReqClearFeature

/-- The request as it is sent. -/
def ControlRequest.setup : ControlRequest → UsbdSetupReq
  | .getDescriptor type index langId length =>
      ⟨0x80, usbReqGetDescriptor, le16 index type, langId, length⟩
  | .setAddress address => ⟨0x00, usbReqSetAddress, le16 address 0, 0, 0⟩
  | .setConfiguration value => ⟨0x00, usbReqSetConfiguration, le16 value 0, 0, 0⟩
  | .getConfiguration => ⟨0x80, usbReqGetConfiguration, 0, 0, 1⟩
  | .getStatus .device => ⟨0x80, usbReqGetStatus, 0, 0, 2⟩
  | .getStatus (.interface number) => ⟨0x81, usbReqGetStatus, 0, le16 number 0, 2⟩
  | .getStatus (.endpoint address) => ⟨0x82, usbReqGetStatus, 0, le16 address 0, 2⟩
  | .remoteWakeup on => ⟨0x00, featureRequest on, usbFeatureRemoteWakeup, 0, 0⟩
  | .halt endpoint on => ⟨0x02, featureRequest on, usbFeatureEpHalt, le16 endpoint 0, 0⟩
  | .getInterface number => ⟨0x81, usbReqGetInterface, 0, le16 number 0, 1⟩
  | .setInterface number alternate =>
      ⟨0x01, usbReqSetInterface, le16 alternate 0, le16 number 0, 0⟩
  | .classRead request number value length => ⟨0xA1, request, value, le16 number 0, length⟩
  | .classWrite request number value data =>
      ⟨0x21, request, value, le16 number 0, UInt16.ofNat data.length⟩
  | .classCommand request number value => ⟨0x21, request, value, le16 number 0, 0⟩

/-- The data that the host sends. -/
def ControlRequest.payload : ControlRequest → List UInt8
  | .classWrite _ _ _ data => data
  | _ => []

/-- `wLength`. -/
def ControlRequest.length (r : ControlRequest) : ℕ := r.setup.wLength.toNat

/-- What a transfer comes to. -/
inductive Reply
  | data (bs : List UInt8)
  | ok
  | refused
  /-- more data than the host asked for, or data where there should be none -/
  | babble

/-! ### The device without packets -/

/-- The device as the host knows it. -/
structure UsbFunction where
  address : UInt8
  configured : Bool
  remoteWakeup : Bool
  /-- the endpoints whose `HALT` is reported, by their number -/
  haltedIn : ℕ → Bool
  haltedOut : ℕ → Bool
  /-- the data that class requests write and read -/
  data : Mem

namespace UsbFunction

/-- The state of the device in terms of the standard. -/
def state (f : UsbFunction) : UsbdState :=
  if f.configured then .configured else if f.address = 0 then .default else .addressed

theorem state_eq_configured {f : UsbFunction} : f.state = .configured ↔ f.configured = true := by
  unfold state
  split
  · rename_i h
    simp [h]
  · rename_i h
    split <;> simp [h]

theorem state_eq_addressed {f : UsbFunction} :
    f.state = .addressed ↔ f.configured = false ∧ f.address ≠ 0 := by
  unfold state
  split
  · rename_i h
    simp [h]
  · rename_i h
    split <;> simp_all

theorem state_eq_default {f : UsbFunction} :
    f.state = .default ↔ f.configured = false ∧ f.address = 0 := by
  unfold state
  split
  · rename_i h
    simp [h]
  · rename_i h
    split <;> simp_all

theorem state_ne_suspended (f : UsbFunction) : f.state ≠ .suspended := by
  unfold state
  split
  · decide
  · split <;> decide

/-- An endpoint is halted, or not any more. -/
def setHalted (endpoint : UInt8) (on : Bool) (f : UsbFunction) : UsbFunction :=
  let num := (endpoint &&& epAddrMsk).toNat
  if endpoint &&& 0x80 = 0x80 then { f with haltedIn := Function.update f.haltedIn num on }
  else { f with haltedOut := Function.update f.haltedOut num on }

/-- Whether `HALT` is reported for an endpoint; never for endpoint zero. -/
def isHalted (endpoint : UInt8) (f : UsbFunction) : Bool :=
  let num := (endpoint &&& epAddrMsk).toNat
  num != 0 && if endpoint &&& 0x80 = 0x80 then f.haltedIn num else f.haltedOut num

/-- The endpoints of a configured device. -/
def endpoints : List UInt8 := [0x00, 0x80, 0x01, 0x81, 0x82]

/-- **The answer to a request**, and the device behind it. -/
def answer (pDesc : UsbdDescriptors) (f : UsbFunction) : ControlRequest → Reply × UsbFunction
  | .getDescriptor type index _ length =>
      match pDesc.find type index with
      | none => (.refused, f)
      | some bs => (if length = 0 then .ok else .data (bs.take length.toNat), f)
  | .setAddress address => if f.configured then (.refused, f) else (.ok, { f with address })
  | .setConfiguration value =>
      if value > 1 ∨ f.state = .default then (.refused, f)
      else (.ok, { f with configured := value == 1 })
  | .getConfiguration => (.data [if f.configured then 1 else 0], f)
  | .getStatus .device => (.data [if f.remoteWakeup then 3 else 1, 0], f)
  | .getStatus (.interface number) =>
      (if f.configured ∧ number ≤ 1 then .data [0, 0] else .refused, f)
  | .getStatus (.endpoint address) =>
      let known := if f.configured then endpoints else if f.address = 0 then [] else [0x00, 0x80]
      (if address ∈ known then .data [if f.isHalted address then 1 else 0, 0] else .refused, f)
  | .remoteWakeup on => (.ok, { f with remoteWakeup := on })
  | .halt endpoint on =>
      let zero := endpoint = 0x00 ∨ endpoint = 0x80
      match f.state with
      | .configured => (.ok, if zero then f else f.setHalted endpoint on)
      -- the refused request leaves a trace
      | .addressed => (.refused, if zero then f else f.setHalted endpoint true)
      | _ => (.refused, f)
  | .getInterface number => (if f.configured ∧ number ≤ 1 then .data [0] else .refused, f)
  | .setInterface number _ => (if f.configured ∧ number ≤ 1 then .ok else .refused, f)
  | .classRead _ number _ length =>
      (if number ≤ 1 then .data (read f.data 0 length.toNat) else .refused, f)
  | .classWrite _ number _ data =>
      if number ≤ 1 then (.ok, { f with data := write f.data 0 data }) else (.refused, f)
  | .classCommand _ number _ => (if number ≤ 1 then .ok else .refused, f)

/-- After a reset of the bus. -/
def reset (f : UsbFunction) : UsbFunction :=
  { f with address := 0, configured := false, remoteWakeup := false }

/-- What a host may ask: addresses that exist, except that a device does not go back to address
zero; data of the class only of a configured device, and as many as there is room for. -/
def allows (f : UsbFunction) : ControlRequest → Bool
  | .setAddress address =>
      address < 128 && (address != 0 || f.configured || f.address == 0)
  | .getStatus (.endpoint address) => address &&& 0x70 == 0
  | .halt endpoint _ => endpoint &&& 0x78 == 0
  | .classRead _ _ _ length =>
      f.configured && 0 < length.toNat && length.toNat ≤ cdcDataHsMaxPacketSize
  | .classWrite _ _ _ data =>
      f.configured && 0 < data.length && data.length ≤ cdcDataHsMaxPacketSize
  | _ => true

end UsbFunction

/-- What a host does. -/
inductive HostAction
  | request (r : ControlRequest)
  | reset

namespace UsbFunction

/-- What comes of an action. -/
def act (pDesc : UsbdDescriptors) (f : UsbFunction) : HostAction → Reply × UsbFunction
  | .request r => f.answer pDesc r
  | .reset => (.ok, f.reset)

/-- What comes of one action after the other. -/
def run (pDesc : UsbdDescriptors) (f : UsbFunction) : List HostAction → List Reply × UsbFunction
  | [] => ([], f)
  | a :: as =>
      let (reply, f) := f.act pDesc a
      let (replies, f) := f.run pDesc as
      (reply :: replies, f)

end UsbFunction

/-! ### The host -/

/-- Where the host is in a transfer, with the data it has got, or that it still has to send. -/
inductive HostPhase
  | idle
  | suspended
  | setup (r : ControlRequest)
  | dataIn (r : ControlRequest) (got : List UInt8)
  | statusOut (r : ControlRequest) (got : List UInt8)
  | dataOut (r : ControlRequest) (left : List UInt8)
  | statusIn (r : ControlRequest)

/-- What follows a `SETUP` packet. -/
def ControlRequest.firstPhase (r : ControlRequest) : HostPhase :=
  if r.length = 0 then .statusIn r
  else if r.setup.bmRequest &&& 0x80 ≠ 0 then .dataIn r []
  else .dataOut r r.payload

theorem ControlRequest.firstPhase_of_zero {r : ControlRequest} (h : r.length = 0) :
    r.firstPhase = .statusIn r := if_pos h

theorem ControlRequest.firstPhase_of_in {r : ControlRequest} (h : r.length ≠ 0)
    (hin : r.setup.bmRequest &&& 0x80 ≠ 0) : r.firstPhase = .dataIn r [] := by
  rw [firstPhase, if_neg h, if_pos hin]

theorem ControlRequest.firstPhase_of_out {r : ControlRequest} (h : r.length ≠ 0)
    (hout : r.setup.bmRequest &&& 0x80 = 0) : r.firstPhase = .dataOut r r.payload := by
  rw [firstPhase, if_neg h, if_neg (not_not.2 hout)]

/-- What follows a packet of data that came: it is the last one if it is short, or if nothing is
missing. -/
def ControlRequest.phaseAfterIn (r : ControlRequest) (got packet : List UInt8) : HostPhase :=
  if packet.length < usbMaxEp0Size ∨ got.length = r.length then .statusOut r got
  else .dataIn r got

/-- What follows a packet of data that was sent. -/
def ControlRequest.phaseAfterOut (r : ControlRequest) (left : List UInt8) : HostPhase :=
  if left.length ≤ usbMaxEp0Size then .statusIn r else .dataOut r (left.drop usbMaxEp0Size)

/-- The two ends of the bus, the address the host uses, and what has been done. -/
structure UsbBus where
  dev : UsbDevice
  phase : HostPhase
  address : UInt8
  log : List (HostAction × Reply)

namespace UsbBus

/-- The transfer is over. -/
def finish (s : UsbBus) (r : ControlRequest) (reply : Reply) : UsbBus :=
  { s with
    phase := .idle
    address := match r, reply with
      | .setAddress address, .ok => address
      | _, _ => s.address
    log := s.log ++ [(.request r, reply)] }

/-- A packet of data has come. -/
def take (s : UsbBus) (r : ControlRequest) (got packet : List UInt8) : UsbBus :=
  if (got ++ packet).length > r.length then s.finish r .babble
  else { s with phase := r.phaseAfterIn (got ++ packet) packet }

/-- The host's next packet.  A device with another address does not answer. -/
def transact (s : UsbBus) : UsbBus :=
  if s.dev.daddr ≠ s.address then s
  else
    match s.phase with
    | .idle | .suspended => s
    | .setup r =>
        match s.dev.receiveSetup r.setup.bytes with
        | (.ack, dev) => { s with dev, phase := r.firstPhase }
        | (_, dev) => { s with dev }
    | .dataIn r got =>
        match s.dev.ep0InToken with
        | (.data packet, dev) => { s with dev }.take r got packet
        | (.stall, dev) => { s with dev }.finish r .refused
        | (_, dev) => { s with dev }
    | .statusOut r got =>
        match s.dev.ep0OutToken [] with
        | (.ack, dev) => { s with dev }.finish r (.data got)
        | (.stall, dev) => { s with dev }.finish r .refused
        | (_, dev) => { s with dev }
    | .dataOut r left =>
        match s.dev.ep0OutToken (left.take usbMaxEp0Size) with
        | (.ack, dev) => { s with dev, phase := r.phaseAfterOut left }
        | (.stall, dev) => { s with dev }.finish r .refused
        | (_, dev) => { s with dev }
    | .statusIn r =>
        match s.dev.ep0InToken with
        | (.data packet, dev) => { s with dev }.finish r (if packet = [] then .ok else .babble)
        | (.stall, dev) => { s with dev }.finish r .refused
        | (_, dev) => { s with dev }

/-- Whether there is a transfer. -/
def busy (s : UsbBus) : Bool :=
  match s.phase with
  | .idle | .suspended => false
  | _ => true

end UsbBus

/-- Whose turn it is.  The host begins a transfer, sends its next packet, or lets the bus rest,
resume or reset; the interrupt comes. -/
inductive BusTurn
  | request (r : ControlRequest)
  | host
  | irq
  | reset
  | suspend
  | resume

/-- One step.  A reset and a rest of the bus come between two transfers, and the handler has looked
at what was left before they are noticed. -/
def busStep (pDesc : UsbdDescriptors) (turn : BusTurn) (s : UsbBus) : Option UsbBus :=
  match turn, s.phase with
  | .request r, .idle => some { s with phase := .setup r }
  | .host, _ => if s.busy then some s.transact else none
  | .irq, _ => (s.dev.pcdEpIsrHandler pDesc).map fun dev => { s with dev }
  | .reset, .idle | .reset, .suspended =>
      (s.dev.pcdEpIsrHandler pDesc).map fun dev =>
        { dev := dev.usbdLlReset, phase := .idle, address := 0, log := s.log ++ [(.reset, .ok)] }
  | .suspend, .idle =>
      (s.dev.pcdEpIsrHandler pDesc).map fun dev =>
        { s with dev := dev.usbdLlSuspend, phase := .suspended }
  | .resume, .suspended =>
      (s.dev.pcdEpIsrHandler pDesc).map fun dev =>
        { s with dev := dev.usbdLlResume, phase := .idle }
  | _, _ => none

/-- The device as the host knows it, from what has been done. -/
def UsbBus.function (pDesc : UsbdDescriptors) (f₀ : UsbFunction) (s : UsbBus) : UsbFunction :=
  (f₀.run pDesc (s.log.map Prod.fst)).2

/-- The host asks what it may, and the interrupt for the last packet of a transfer has come when the
next `SETUP` packet is sent.  `PCD_EP_ISR_Handler` looks at a request first, and would take a report
that is left of a packet sent for one of the new transfer; with one of a packet that came, the
`SETUP` packet is not taken at all. -/
def busOk (pDesc : UsbdDescriptors) (f₀ : UsbFunction) (turn : BusTurn) (s : UsbBus) : Bool :=
  match turn, s.phase with
  | .request r, _ => (s.function pDesc f₀).allows r
  | .host, .setup _ => !s.dev.ctrTx
  | _, _ => true

/-- After the first reset, with what is in the static memory. -/
def busInit (classData : Mem) : UsbBus where
  dev :=
    usbdLlReset
      { devState := .default, devOldState := .default, devConfig := 0, devRemoteWakeup := false
        ep0State := .idle, ep0DataLen := 0, totalLength := 0, remLength := 0, outRemLength := 0
        isUsedIn := fun _ => false, isUsedOut := fun _ => false
        hasClassData := false, classData, usbAddress := 0
        xferBuff := .null, xferLen := 0, outBuff := none
        isStallIn := fun _ => false, isStallOut := fun _ => false
        daddr := 0, txStat := .dis, rxStat := .dis, ctrTx := false, ctrRx := false, setup := false
        txPacket := [], rxPacket := [], rxCount := 0 }
  phase := .idle
  address := 0
  log := []

/-- The same without packets. -/
def functionInit (classData : Mem) : UsbFunction where
  address := 0
  configured := false
  remoteWakeup := false
  haltedIn := fun _ => false
  haltedOut := fun _ => false
  data := classData

end Solar48
