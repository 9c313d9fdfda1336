/-
**The USB device: control transfers and the state of the device.**

A host talks to endpoint zero in transfers.  Each begins with a `SETUP` packet of eight bytes, the
request; data follow in one direction or the other, in packets of at most 64 bytes, and an empty
packet the other way ends the transfer.  The peripheral answers a packet on its own, from the two
fields `STAT_TX` and `STAT_RX`; what it has answered it reports with an interrupt, and only then
does the program prepare what comes next.

The program is that of the interrupt: `PCD_EP_ISR_Handler`, the stages of a transfer, the standard
requests and those of the class.  A function is `none` where the source follows a null pointer,
leaves an array of the endpoints or `data` of the class, with what a host writes or reads there, or
has to send more bytes than there are.

Main definitions:

* `Solar48.UsbDevice` — the handles, and the registers of endpoint zero;
* `Solar48.UsbDevice.usbdLlDataInStage`, `Solar48.UsbDevice.usbdLlDataOutStage` — a packet of data
  was sent or received;
* `Solar48.UsbDevice.usbdLlSetupStage` — a request, with the functions for each kind of it;
* `Solar48.UsbDevice.pcdEpIsrHandler` — the interrupt;
* `Solar48.UsbDevice.receiveSetup`, `Solar48.UsbDevice.ep0InToken`,
  `Solar48.UsbDevice.ep0OutToken` — the peripheral.

Main results:

* `Solar48.usbdParseSetupRequest_bytes` — a request is read as it was sent;
* `Solar48.UsbDevice.pcdEpIsrHandler_of_rests` — without a report nothing happens.
-/

import Mathlib.Logic.Function.Basic
import Solar48.ByteMem

set_option relaxedAutoImplicit false
set_option autoImplicit false

namespace Solar48

open ByteMem

/-! ### Requests -/

/-- `USBD_SetupReqTypedef`. -/
structure UsbdSetupReq where
  bmRequest : UInt8
  bRequest : UInt8
  wValue : UInt16
  wIndex : UInt16
  wLength : UInt16

/-- `USBD_ParseSetupRequest`. -/
def usbdParseSetupRequest (pdata : List UInt8) : UsbdSetupReq where
  bmRequest := pdata.getD 0 0
  bRequest := pdata.getD 1 0
  wValue := le16 (pdata.getD 2 0) (pdata.getD 3 0)
  wIndex := le16 (pdata.getD 4 0) (pdata.getD 5 0)
  wLength := le16 (pdata.getD 6 0) (pdata.getD 7 0)

/-- The packet of a request. -/
def UsbdSetupReq.bytes (req : UsbdSetupReq) : List UInt8 :=
  [req.bmRequest, req.bRequest] ++ bytes16 req.wValue ++ bytes16 req.wIndex ++ bytes16 req.wLength

@[simp] theorem usbdParseSetupRequest_bytes (req : UsbdSetupReq) :
    usbdParseSetupRequest req.bytes = req := by
  cases req
  simp [usbdParseSetupRequest, UsbdSetupReq.bytes, bytes16]

/-- `USB_REQ_TYPE_STANDARD`, `USB_REQ_TYPE_CLASS` and `USB_REQ_TYPE_VENDOR`, under
`USB_REQ_TYPE_MASK`. -/
def usbReqTypeStandard : UInt8 := 0x00

def usbReqTypeClass : UInt8 := 0x20

def usbReqTypeVendor : UInt8 := 0x40

def usbReqTypeMask : UInt8 := 0x60

def usbReqRecipientDevice : UInt8 := 0x00

def usbReqRecipientInterface : UInt8 := 0x01

def usbReqRecipientEndpoint : UInt8 := 0x02

def usbReqGetStatus : UInt8 := 0x00

def usbReqClearFeature : UInt8 := 0x01

def usbReqSetFeature : UInt8 := 0x03

def usbReqSetAddress : UInt8 := 0x05

def usbReqGetDescriptor : UInt8 := 0x06

def usbReqGetConfiguration : UInt8 := 0x08

def usbReqSetConfiguration : UInt8 := 0x09

def usbReqGetInterface : UInt8 := 0x0A

def usbReqSetInterface : UInt8 := 0x0B

def usbFeatureEpHalt : UInt16 := 0

def usbFeatureRemoteWakeup : UInt16 := 1

/-- `USB_CONFIG_SELF_POWERED` and `USB_CONFIG_REMOTE_WAKEUP`. -/
def usbConfigSelfPowered : UInt8 := 0x01

def usbConfigRemoteWakeup : UInt8 := 0x02

/-! ### Descriptors -/

/-- What the functions of `FS_Desc` and `GetFSConfigDescriptor` give. -/
structure UsbdDescriptors where
  device : List UInt8
  langIDStr : List UInt8
  manufacturerStr : List UInt8
  productStr : List UInt8
  serialStr : List UInt8
  configurationStr : List UInt8
  interfaceStr : List UInt8
  fsConfig : List UInt8

/-- The two `switch`es of `USBD_GetDescriptor`, at full speed. -/
def UsbdDescriptors.find (pDesc : UsbdDescriptors) (type index : UInt8) : Option (List UInt8) :=
  match type.toNat, index.toNat with
  | 1, _ => some pDesc.device
  | 2, _ => some (pDesc.fsConfig.set 1 2)
  | 3, 0 => some pDesc.langIDStr
  | 3, 1 => some pDesc.manufacturerStr
  | 3, 2 => some pDesc.productStr
  | 3, 3 => some pDesc.serialStr
  | 3, 4 => some pDesc.configurationStr
  | 3, 5 => some pDesc.interfaceStr
  | _, _ => none

/-! ### The device -/

/-- `dev_state`. -/
inductive UsbdState
  | default
  | addressed
  | configured
  | suspended
  deriving DecidableEq

/-- `ep0_state`. -/
inductive Ep0State
  | idle
  | setup
  | dataIn
  | dataOut
  | statusIn
  | statusOut
  deriving DecidableEq

/-- The two status fields of the register of an endpoint. -/
inductive EpStatus
  | dis
  | stall
  | nak
  | valid
  deriving DecidableEq

/-- `USB_MAX_EP0_SIZE`. -/
def usbMaxEp0Size : ℕ := 64

/-- `CDC_DATA_HS_MAX_PACKET_SIZE`, the bytes of `data` in `USBD_CDC_HandleTypeDef`; `CmdOpCode` and
`CmdLength` are behind them. -/
def cdcDataHsMaxPacketSize : ℕ := 512

/-- What a pointer to data that are to be sent points to. -/
inductive TxPointer
  | null
  /-- these bytes, from the pointer on, which nobody changes -/
  | bytes (bs : List UInt8)
  /-- the class data, at an offset -/
  | classData (offset : ℕ)

namespace TxPointer

/-- The next `n` bytes. -/
def read (classData : Mem) (n : ℕ) : TxPointer → List UInt8
  | .null => []
  | .bytes bs => bs.take n
  | .classData offset => ByteMem.read classData offset n

/-- There are `n` bytes to send.  Those of the class lie in `data`, with the byte that
`USB_WritePMA` reads behind an odd number of them. -/
def has (n : ℕ) : TxPointer → Bool
  | .null => n == 0
  | .bytes bs => n ≤ bs.length
  | .classData offset => offset + 2 * ((n + 1) / 2) ≤ cdcDataHsMaxPacketSize

/-- The pointer `n` bytes further on. -/
def add (n : ℕ) : TxPointer → TxPointer
  | .null => .null
  | .bytes bs => .bytes (bs.drop n)
  | .classData offset => .classData (offset + n)

end TxPointer


/-- `EP_ADDR_MSK`, and the length of `IN_ep` and of `OUT_ep`. -/
def epAddrMsk : UInt8 := 0x7

def pcdEndpoints : ℕ := 8

/-- `USBD_MAX_NUM_INTERFACES` and `USBD_MAX_NUM_CONFIGURATION`. -/
def usbdMaxNumInterfaces : UInt8 := 1

def usbdMaxNumConfiguration : UInt8 := 1

/-- The `USBD_HandleTypeDef`, the `PCD_HandleTypeDef` and the registers, as far as endpoint zero and
the requests depend on them. -/
structure UsbDevice where
  devState : UsbdState
  devOldState : UsbdState
  devConfig : UInt8
  devRemoteWakeup : Bool
  ep0State : Ep0State
  ep0DataLen : ℕ
  /-- `total_length` and `rem_length` of `ep_in[0]` -/
  totalLength : ℕ
  remLength : ℕ
  /-- `rem_length` of `ep_out[0]` -/
  outRemLength : ℕ
  isUsedIn : ℕ → Bool
  isUsedOut : ℕ → Bool
  /-- `pClassData` is not `NULL` -/
  hasClassData : Bool
  /-- the static memory that it points to, with `data` at its beginning -/
  classData : Mem
  /-- `USB_Address` -/
  usbAddress : UInt8
  /-- `xfer_buff` and `xfer_len` of `IN_ep[0]` -/
  xferBuff : TxPointer
  xferLen : ℕ
  /-- `xfer_buff` of `OUT_ep[0]`, an offset in the class data -/
  outBuff : Option ℕ
  isStallIn : ℕ → Bool
  isStallOut : ℕ → Bool
  /-- `DADDR` -/
  daddr : UInt8
  /-- the register of endpoint zero -/
  txStat : EpStatus
  rxStat : EpStatus
  ctrTx : Bool
  ctrRx : Bool
  setup : Bool
  /-- the two packets in the packet memory, and the count that limits the second -/
  txPacket : List UInt8
  rxPacket : List UInt8
  rxCount : ℕ

namespace UsbDevice

/-! ### The packets of a transfer -/

/-- `USBD_LL_Transmit` with `HAL_PCD_EP_Transmit` and `USB_EPStartXfer`, for endpoint zero. -/
def usbdLlTransmit (pbuf : TxPointer) (size : ℕ) (d : UsbDevice) : UsbDevice :=
  let len := if size > usbMaxEp0Size then usbMaxEp0Size else size
  { d with
    xferBuff := pbuf, xferLen := size, txPacket := pbuf.read d.classData len, txStat := .valid }

/-- `USBD_LL_PrepareReceive` with `HAL_PCD_EP_Receive` and `USB_EPStartXfer`, for endpoint zero. -/
def usbdLlPrepareReceive (pbuf : Option ℕ) (size : ℕ) (d : UsbDevice) : UsbDevice :=
  let len := if size > usbMaxEp0Size then usbMaxEp0Size else size
  { d with outBuff := pbuf, rxCount := len, rxStat := .valid }

/-- `USB_EPSetStall` of an IN endpoint. -/
def stallIn (num : ℕ) (d : UsbDevice) : UsbDevice :=
  { d with
    isStallIn := Function.update d.isStallIn num true
    txStat := if num = 0 then .stall else d.txStat }

/-- `USB_EPSetStall` of an OUT endpoint. -/
def stallOut (num : ℕ) (d : UsbDevice) : UsbDevice :=
  { d with
    isStallOut := Function.update d.isStallOut num true
    rxStat := if num = 0 then .stall else d.rxStat }

/-- `USBD_LL_StallEP` with `HAL_PCD_EP_SetStall`, which masks the number of an IN endpoint only. -/
def usbdLlStallEp (epAddr : UInt8) (d : UsbDevice) : Option UsbDevice :=
  if epAddr &&& 0x80 = 0x80 then some (d.stallIn (epAddr &&& epAddrMsk).toNat)
  else if epAddr.toNat < pcdEndpoints then some (d.stallOut epAddr.toNat)
  else none

/-- `USBD_LL_ClearStallEP` with `HAL_PCD_EP_ClrStall` and `USB_EPClearStall`. -/
def usbdLlClearStallEp (epAddr : UInt8) (d : UsbDevice) : UsbDevice :=
  let num := (epAddr &&& epAddrMsk).toNat
  if (epAddr &&& 0x0F).toNat > pcdEndpoints then d
  else if epAddr &&& 0x80 = 0x80 then
    { d with
      isStallIn := Function.update d.isStallIn num false
      txStat := if num = 0 then .nak else d.txStat }
  else
    { d with
      isStallOut := Function.update d.isStallOut num false
      rxStat := if num = 0 then .valid else d.rxStat }

/-- `USBD_LL_IsStallEP`. -/
def usbdLlIsStallEp (epAddr : UInt8) (d : UsbDevice) : Option Bool :=
  let num := (epAddr &&& 0x7F).toNat
  if num < pcdEndpoints then
    some (if epAddr &&& 0x80 = 0x80 then d.isStallIn num else d.isStallOut num)
  else none

/-- `USBD_CtlError`. -/
def usbdCtlError (d : UsbDevice) : UsbDevice := (d.stallIn 0).stallOut 0

/-- `USBD_CtlSendData`. -/
def usbdCtlSendData (pbuf : TxPointer) (len : ℕ) (d : UsbDevice) : UsbDevice :=
  usbdLlTransmit pbuf len { d with ep0State := .dataIn, totalLength := len, remLength := len }

/-- `USBD_CtlPrepareRx`. -/
def usbdCtlPrepareRx (pbuf : Option ℕ) (len : ℕ) (d : UsbDevice) : UsbDevice :=
  usbdLlPrepareReceive pbuf len { d with ep0State := .dataOut, outRemLength := len }

/-- `USBD_CtlSendStatus`. -/
def usbdCtlSendStatus (d : UsbDevice) : UsbDevice :=
  usbdLlTransmit .null 0 { d with ep0State := .statusIn }

/-- `USBD_CtlReceiveStatus`. -/
def usbdCtlReceiveStatus (d : UsbDevice) : UsbDevice :=
  usbdLlPrepareReceive none 0 { d with ep0State := .statusOut }

/-- `USBD_LL_DataInStage` for endpoint zero; the class has no `EP0_TxSent`. -/
def usbdLlDataInStage (pdata : TxPointer) (d : UsbDevice) : UsbDevice :=
  if d.ep0State = .dataIn then
    if d.remLength > usbMaxEp0Size then
      let rem := d.remLength - usbMaxEp0Size
      -- an end before the last packet is taken as well
      usbdLlPrepareReceive none 0 (usbdLlTransmit pdata rem { d with remLength := rem })
    else if d.totalLength % usbMaxEp0Size = 0 ∧ d.totalLength ≥ usbMaxEp0Size ∧
        d.totalLength < d.ep0DataLen then
      usbdLlPrepareReceive none 0 { usbdLlTransmit .null 0 d with ep0DataLen := 0 }
    else usbdCtlReceiveStatus (d.stallIn 0)
  else if d.ep0State = .statusIn ∨ d.ep0State = .idle then d.stallIn 0
  else d

/-- `USBD_CDC_EP0_RxReady`; `CDC_Control_FS` does nothing. -/
def usbdCdcEp0RxReady (d : UsbDevice) : UsbDevice :=
  if d.classData cdcDataHsMaxPacketSize ≠ 0xFF then
    { d with classData := write d.classData cdcDataHsMaxPacketSize [0xFF] }
  else d

/-- `USBD_LL_DataOutStage` for endpoint zero. -/
def usbdLlDataOutStage (pdata : Option ℕ) (d : UsbDevice) : UsbDevice :=
  if d.ep0State = .dataOut then
    if d.outRemLength > usbMaxEp0Size then
      let rem := d.outRemLength - usbMaxEp0Size
      usbdLlPrepareReceive pdata (min rem usbMaxEp0Size) { d with outRemLength := rem }
    else usbdCtlSendStatus (if d.devState = .configured then d.usbdCdcEp0RxReady else d)
  else if d.ep0State = .statusOut then { d with ep0State := .idle }.stallOut 0
  else d

/-! ### Requests -/

/-- `USBD_CDC_Init`: the endpoints are opened, and the class data are there. -/
def usbdCdcInit (d : UsbDevice) : UsbDevice :=
  { d with
    isUsedIn := Function.update (Function.update d.isUsedIn 1 true) 2 true
    isUsedOut := Function.update d.isUsedOut 1 true
    hasClassData := true }

/-- `USBD_CDC_DeInit`. -/
def usbdCdcDeInit (d : UsbDevice) : UsbDevice :=
  { d with
    isUsedIn := Function.update (Function.update d.isUsedIn 1 false) 2 false
    isUsedOut := Function.update d.isUsedOut 1 false
    hasClassData := false }

/-- `USBD_CDC_Setup`, and whether it returns `USBD_OK`.  The length of the data is not looked at. -/
def usbdCdcSetup (req : UsbdSetupReq) (d : UsbDevice) : Option (UsbDevice × Bool) :=
  if req.bmRequest &&& usbReqTypeMask = usbReqTypeClass then
    if req.wLength ≠ 0 then
      if !d.hasClassData then none
      else if req.bmRequest &&& 0x80 ≠ 0 then
        some (d.usbdCtlSendData (.classData 0) req.wLength.toNat, true)
      else
        let classData := write d.classData cdcDataHsMaxPacketSize
          [req.bRequest, UInt8.ofNat req.wLength.toNat]
        some ({ d with classData }.usbdCtlPrepareRx (some 0) req.wLength.toNat, true)
    else some (d, true)
  else if req.bmRequest &&& usbReqTypeMask = usbReqTypeStandard then
    if req.bRequest = usbReqGetStatus then
      if d.devState = .configured then some (d.usbdCtlSendData (.bytes [0, 0]) 2, true)
      else some (d.usbdCtlError, false)
    else if req.bRequest = usbReqGetInterface then
      if d.devState = .configured then some (d.usbdCtlSendData (.bytes [0]) 1, true)
      else some (d.usbdCtlError, false)
    else if req.bRequest = usbReqSetInterface then
      if d.devState ≠ .configured then some (d.usbdCtlError, false) else some (d, true)
    else some (d.usbdCtlError, false)
  else some (d.usbdCtlError, false)

/-- `USBD_GetDescriptor`. -/
def usbdGetDescriptor (pDesc : UsbdDescriptors) (req : UsbdSetupReq) (d : UsbDevice) :
    UsbDevice :=
  match pDesc.find (hi req.wValue) (lo req.wValue) with
  | none => d.usbdCtlError
  | some pbuf =>
      let d :=
        if pbuf.length ≠ 0 ∧ req.wLength ≠ 0 then
          d.usbdCtlSendData (.bytes pbuf) (min pbuf.length req.wLength.toNat)
        else d
      if req.wLength = 0 then d.usbdCtlSendStatus else d

/-- `USBD_SetAddress` with `HAL_PCD_SetAddress`. -/
def usbdSetAddress (req : UsbdSetupReq) (d : UsbDevice) : UsbDevice :=
  if req.wIndex = 0 ∧ req.wLength = 0 ∧ req.wValue < 128 then
    let devAddr := lo req.wValue &&& 0x7F
    if d.devState = .configured then d.usbdCtlError
    else
      let d := { d with usbAddress := devAddr, daddr := if devAddr = 0 then 0 else d.daddr }
      { d.usbdCtlSendStatus with devState := if devAddr ≠ 0 then .addressed else .default }
  else d.usbdCtlError

/-- `USBD_SetConfig`. -/
def usbdSetConfig (req : UsbdSetupReq) (d : UsbDevice) : UsbDevice :=
  let cfgidx := lo req.wValue
  if cfgidx > usbdMaxNumConfiguration then d.usbdCtlError
  else
    match d.devState with
    | .addressed =>
        if cfgidx ≠ 0 then
          { d with devConfig := cfgidx, devState := .configured }.usbdCdcInit.usbdCtlSendStatus
        else d.usbdCtlSendStatus
    | .configured =>
        if cfgidx = 0 then
          { d with devState := .addressed, devConfig := cfgidx }.usbdCdcDeInit.usbdCtlSendStatus
        else if cfgidx ≠ d.devConfig then
          { d.usbdCdcDeInit with devConfig := cfgidx }.usbdCdcInit.usbdCtlSendStatus
        else d.usbdCtlSendStatus
    | _ => d.usbdCtlError.usbdCdcDeInit

/-- `USBD_GetConfig`. -/
def usbdGetConfig (req : UsbdSetupReq) (d : UsbDevice) : UsbDevice :=
  if req.wLength ≠ 1 then d.usbdCtlError
  else
    match d.devState with
    | .default | .addressed => d.usbdCtlSendData (.bytes [0]) 1
    | .configured => d.usbdCtlSendData (.bytes [d.devConfig]) 1
    | .suspended => d.usbdCtlError

/-- `USBD_GetStatus`. -/
def usbdGetStatus (req : UsbdSetupReq) (d : UsbDevice) : UsbDevice :=
  if d.devState = .suspended then d.usbdCtlError
  else if req.wLength ≠ 2 then d.usbdCtlError
  else
    let status :=
      usbConfigSelfPowered ||| (if d.devRemoteWakeup then usbConfigRemoteWakeup else 0)
    d.usbdCtlSendData (.bytes [status, 0]) 2

/-- `USBD_SetFeature`. -/
def usbdSetFeature (req : UsbdSetupReq) (d : UsbDevice) : UsbDevice :=
  if req.wValue = usbFeatureRemoteWakeup then { d with devRemoteWakeup := true }.usbdCtlSendStatus
  else d

/-- `USBD_ClrFeature`. -/
def usbdClrFeature (req : UsbdSetupReq) (d : UsbDevice) : UsbDevice :=
  if d.devState = .suspended then d.usbdCtlError
  else if req.wValue = usbFeatureRemoteWakeup then
    { d with devRemoteWakeup := false }.usbdCtlSendStatus
  else d

/-- `USBD_StdDevReq`. -/
def usbdStdDevReq (pDesc : UsbdDescriptors) (req : UsbdSetupReq) (d : UsbDevice) :
    Option UsbDevice :=
  let type := req.bmRequest &&& usbReqTypeMask
  if type = usbReqTypeClass ∨ type = usbReqTypeVendor then (d.usbdCdcSetup req).map Prod.fst
  else if type = usbReqTypeStandard then
    some <|
      if req.bRequest = usbReqGetDescriptor then d.usbdGetDescriptor pDesc req
      else if req.bRequest = usbReqSetAddress then d.usbdSetAddress req
      else if req.bRequest = usbReqSetConfiguration then d.usbdSetConfig req
      else if req.bRequest = usbReqGetConfiguration then d.usbdGetConfig req
      else if req.bRequest = usbReqGetStatus then d.usbdGetStatus req
      else if req.bRequest = usbReqSetFeature then d.usbdSetFeature req
      else if req.bRequest = usbReqClearFeature then d.usbdClrFeature req
      else d.usbdCtlError
  else some d.usbdCtlError

/-- `USBD_StdItfReq`. -/
def usbdStdItfReq (req : UsbdSetupReq) (d : UsbDevice) : Option UsbDevice :=
  let type := req.bmRequest &&& usbReqTypeMask
  if type = usbReqTypeClass ∨ type = usbReqTypeVendor ∨ type = usbReqTypeStandard then
    if d.devState = .suspended then some d.usbdCtlError
    else if lo req.wIndex ≤ usbdMaxNumInterfaces then
      (d.usbdCdcSetup req).map fun (d, ok) =>
        if req.wLength = 0 ∧ ok then d.usbdCtlSendStatus else d
    else some d.usbdCtlError
  else some d.usbdCtlError

/-- The part of `USBD_StdEPReq` for `SET_FEATURE`. -/
def usbdEpSetFeature (req : UsbdSetupReq) (d : UsbDevice) : Option UsbDevice :=
  let epAddr := lo req.wIndex
  match d.devState with
  | .addressed =>
      if epAddr ≠ 0x00 ∧ epAddr ≠ 0x80 then (d.usbdLlStallEp epAddr).map (stallIn 0)
      else some d.usbdCtlError
  | .configured =>
      if req.wValue = usbFeatureEpHalt ∧ epAddr ≠ 0x00 ∧ epAddr ≠ 0x80 ∧ req.wLength = 0 then
        (d.usbdLlStallEp epAddr).map usbdCtlSendStatus
      else some d.usbdCtlSendStatus
  | _ => some d.usbdCtlError

/-- The part for `CLEAR_FEATURE`; in the state `addressed` it stalls the endpoint as well. -/
def usbdEpClearFeature (req : UsbdSetupReq) (d : UsbDevice) : Option UsbDevice :=
  let epAddr := lo req.wIndex
  match d.devState with
  | .addressed =>
      if epAddr ≠ 0x00 ∧ epAddr ≠ 0x80 then (d.usbdLlStallEp epAddr).map (stallIn 0)
      else some d.usbdCtlError
  | .configured =>
      if req.wValue = usbFeatureEpHalt then
        if epAddr &&& 0x7F ≠ 0 then some (d.usbdLlClearStallEp epAddr).usbdCtlSendStatus
        else some d.usbdCtlSendStatus
      else some d
  | _ => some d.usbdCtlError

/-- The part for `GET_STATUS`.  `is_used` is looked up with four bits of the address, the endpoint
itself with seven, where there are sixteen. -/
def usbdEpGetStatus (req : UsbdSetupReq) (d : UsbDevice) : Option UsbDevice :=
  let epAddr := lo req.wIndex
  match d.devState with
  | .addressed =>
      if epAddr ≠ 0x00 ∧ epAddr ≠ 0x80 then some d.usbdCtlError
      else some (d.usbdCtlSendData (.bytes [0, 0]) 2)
  | .configured =>
      let num := (epAddr &&& 0x0F).toNat
      let isUsed := if epAddr &&& 0x80 = 0x80 then d.isUsedIn num else d.isUsedOut num
      if !isUsed then some d.usbdCtlError
      else if (epAddr &&& 0x7F).toNat ≥ 16 then none
      else if epAddr = 0x00 ∨ epAddr = 0x80 then some (d.usbdCtlSendData (.bytes [0, 0]) 2)
      else (d.usbdLlIsStallEp epAddr).map fun stall =>
        d.usbdCtlSendData (.bytes [if stall then 1 else 0, 0]) 2
  | _ => some d.usbdCtlError

/-- `USBD_StdEPReq`. -/
def usbdStdEpReq (req : UsbdSetupReq) (d : UsbDevice) : Option UsbDevice :=
  let type := req.bmRequest &&& usbReqTypeMask
  if type = usbReqTypeClass ∨ type = usbReqTypeVendor then (d.usbdCdcSetup req).map Prod.fst
  else if type = usbReqTypeStandard then
    if req.bRequest = usbReqSetFeature then d.usbdEpSetFeature req
    else if req.bRequest = usbReqClearFeature then d.usbdEpClearFeature req
    else if req.bRequest = usbReqGetStatus then d.usbdEpGetStatus req
    else some d.usbdCtlError
  else some d.usbdCtlError

/-- `USBD_LL_SetupStage`. -/
def usbdLlSetupStage (pDesc : UsbdDescriptors) (psetup : List UInt8) (d : UsbDevice) :
    Option UsbDevice :=
  let req := usbdParseSetupRequest psetup
  let d := { d with ep0State := .setup, ep0DataLen := req.wLength.toNat }
  let recipient := req.bmRequest &&& 0x1F
  if recipient = usbReqRecipientDevice then d.usbdStdDevReq pDesc req
  else if recipient = usbReqRecipientInterface then d.usbdStdItfReq req
  else if recipient = usbReqRecipientEndpoint then d.usbdStdEpReq req
  else d.usbdLlStallEp (req.bmRequest &&& 0x80)

/-! ### Interrupts -/

/-- `USB_ReadPMA` into the class data. -/
def usbReadPma (buff : ℕ) (packet : List UInt8) (d : UsbDevice) : Option UsbDevice :=
  if buff + packet.length ≤ cdcDataHsMaxPacketSize then
    some { d with
      classData := write d.classData buff packet, outBuff := some (buff + packet.length) }
  else none

/-- A pass of the loop of `PCD_EP_ISR_Handler` for endpoint zero, with `DIR` set: a packet came. -/
def pcdEp0Rx (pDesc : UsbdDescriptors) (d : UsbDevice) : Option UsbDevice :=
  let d := { d with ctrRx := false }
  if d.setup then d.usbdLlSetupStage pDesc d.rxPacket
  else
    let d : Option UsbDevice :=
      match d.outBuff with
      | some buff =>
          if d.rxPacket.length ≠ 0 then
            (d.usbReadPma buff d.rxPacket).map fun d => d.usbdLlDataOutStage d.outBuff
          else some d
      | none => some d
    d.map fun d =>
      if d.rxStat ≠ .valid then { d with rxCount := usbMaxEp0Size, rxStat := .valid } else d

/-- The bytes of the next packet, if data are left to send. -/
def nextLength (d : UsbDevice) : ℕ :=
  if d.ep0State = .dataIn ∧ d.remLength > usbMaxEp0Size then
    min (d.remLength - usbMaxEp0Size) usbMaxEp0Size
  else 0

/-- The same with `DIR` clear: a packet was sent. -/
def pcdEp0Tx (d : UsbDevice) : Option UsbDevice :=
  let xferBuff := d.xferBuff.add d.txPacket.length
  if d.nextLength = 0 ∨ xferBuff.has d.nextLength then
    let d := usbdLlDataInStage xferBuff { d with ctrTx := false, xferBuff }
    some <|
      if d.usbAddress > 0 ∧ d.xferLen = 0 then
        { d with daddr := d.usbAddress, usbAddress := 0 }
      else d
  else none

/-- `PCD_EP_ISR_Handler`, as far as endpoint zero has something to report.  `DIR` is set as long as
`CTR_RX` is, and so what came is looked at first. -/
def pcdEpIsrHandler (pDesc : UsbdDescriptors) (d : UsbDevice) : Option UsbDevice :=
  (if d.ctrRx then d.pcdEp0Rx pDesc else some d).bind fun d =>
    if d.ctrTx then d.pcdEp0Tx else some d

/-- `HAL_PCD_ResetCallback` with `USBD_LL_Reset`, and `HAL_PCD_SetAddress`. -/
def usbdLlReset (d : UsbDevice) : UsbDevice :=
  let d := { d with
    rxCount := usbMaxEp0Size, rxStat := .valid, isUsedOut := Function.update d.isUsedOut 0 true
    txStat := .nak, isUsedIn := Function.update d.isUsedIn 0 true
    devState := .default, ep0State := .idle, devConfig := 0, devRemoteWakeup := false }
  let d := if d.hasClassData then d.usbdCdcDeInit else d
  { d with usbAddress := 0, daddr := 0 }

/-- `USBD_LL_Suspend`. -/
def usbdLlSuspend (d : UsbDevice) : UsbDevice :=
  { d with devOldState := d.devState, devState := .suspended }

/-- `USBD_LL_Resume`. -/
def usbdLlResume (d : UsbDevice) : UsbDevice :=
  if d.devState = .suspended then { d with devState := d.devOldState } else d

/-! ### The peripheral -/

/-- What the host gets for an answer. -/
inductive Handshake
  | none
  | ack
  | nak
  | stall
  | data (packet : List UInt8)

/-- A `SETUP` packet is taken, unless another packet still waits to be looked at. -/
def receiveSetup (packet : List UInt8) (d : UsbDevice) : Handshake × UsbDevice :=
  if d.ctrRx then (.none, d)
  else
    (.ack, { d with
      rxPacket := packet, ctrRx := true, setup := true, txStat := .nak, rxStat := .nak })

/-- The host asks for a packet. -/
def ep0InToken (d : UsbDevice) : Handshake × UsbDevice :=
  match d.txStat with
  | .dis => (.none, d)
  | .stall => (.stall, d)
  | .nak => (.nak, d)
  | .valid => (.data d.txPacket, { d with txStat := .nak, ctrTx := true })

/-- The host sends a packet. -/
def ep0OutToken (packet : List UInt8) (d : UsbDevice) : Handshake × UsbDevice :=
  match d.rxStat with
  | .dis => (.none, d)
  | .stall => (.stall, d)
  | .nak => (.nak, d)
  | .valid =>
      if packet.length ≤ d.rxCount then
        (.ack, { d with rxPacket := packet, rxStat := .nak, ctrRx := true, setup := false })
      else (.none, d)

/-- Nothing is left to report. -/
structure Rests (d : UsbDevice) : Prop where
  noRx : d.ctrRx = false
  noTx : d.ctrTx = false

theorem pcdEpIsrHandler_of_rests {d : UsbDevice} (h : d.Rests) (pDesc : UsbdDescriptors) :
    d.pcdEpIsrHandler pDesc = some d := by
  simp [pcdEpIsrHandler, h.noRx, h.noTx]

end UsbDevice

end Solar48
