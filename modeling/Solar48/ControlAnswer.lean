/-
**A request is answered.**

A request has come, nothing is prepared yet, and the interrupt runs `USBD_LL_SetupStage`.  Behind it
the transfer stands where the device without packets says it should: the data of the answer are
loaded, or there is room for those of the host, or the empty packet of the status stage is ready, or
the endpoint is stalled; and the handle shows the device as the answer leaves it.

Main definitions:

* `Solar48.Shows`, `Solar48.Steady` — the handle shows what the host knows;
* `Solar48.Begun`, `Solar48.Loaded`, `Solar48.Receiving`, `Solar48.Finishing` — the stages of a
  transfer at endpoint zero;
* `Solar48.Prepared` — where an answer leaves the device.

Main results:

* `Solar48.answered_usbdStdDevReq`, `Solar48.answered_usbdStdItfReq`,
  `Solar48.answered_usbdStdEpReq` — the requests, by whom they are about;
* `Solar48.answered_usbdLlSetupStage` — **every request that a host may make is answered**.
-/

import Solar48.ControlTransfer

set_option relaxedAutoImplicit false
set_option autoImplicit false

namespace Solar48

open ByteMem StepSystem UsbDevice

/-! ### What the handle shows -/

/-- The handle shows what the host knows; the flags of endpoint zero mean nothing. -/
structure Shows (d : UsbDevice) (f : UsbFunction) : Prop where
  state : d.devState = f.state
  config : d.devConfig = if f.configured then 1 else 0
  remoteWakeup : d.devRemoteWakeup = f.remoteWakeup
  hasData : d.hasClassData = f.configured
  usedIn : ∀ n, d.isUsedIn n = (n == 0 || f.configured && (n == 1 || n == 2))
  usedOut : ∀ n, d.isUsedOut n = (n == 0 || f.configured && n == 1)
  haltedIn : ∀ n, n ≠ 0 → d.isStallIn n = f.haltedIn n
  haltedOut : ∀ n, n ≠ 0 → d.isStallOut n = f.haltedOut n
  /-- a configured device has an address -/
  known : f.configured = true → f.address ≠ 0

/-- The class data hold what was written. -/
def Stores (d : UsbDevice) (f : UsbFunction) : Prop :=
  ∀ i < cdcDataHsMaxPacketSize, d.classData i = f.data i

/-- The device answers at the address that the host knows. -/
structure Steady (d : UsbDevice) (f : UsbFunction) : Prop extends Shows d f where
  data : Stores d f
  daddr : d.daddr = f.address
  pending : d.usbAddress = 0

/-! ### The stages of a transfer -/

/-- A request has come: nothing is prepared yet. -/
structure Begun (d : UsbDevice) (f : UsbFunction) (length : ℕ) : Prop
    extends Steady d f, d.Rests where
  tx : d.txStat = .nak
  rx : d.rxStat = .nak
  asked : d.ep0DataLen = length

/-- Data are on their way, and `rest` of them is still to be fetched.  An early end of the transfer
finds no buffer. -/
structure Loaded (d : UsbDevice) (total length : ℕ) (rest : List UInt8) : Prop
    extends d.Rests where
  stage : d.ep0State = .dataIn
  tx : d.txStat = .valid
  packet : d.txPacket = rest.take usbMaxEp0Size
  remLength : d.remLength = rest.length
  totalLength : d.totalLength = total
  asked : d.ep0DataLen = length
  pointer : ∀ k ≤ rest.length, d.xferBuff.read d.classData k = rest.take k
  inside : d.xferBuff.has rest.length
  early : d.rxStat = .nak ∨ d.rxStat = .valid ∧ d.outBuff = none

/-- Data are being taken, `got` so far, and `left` is still to come. -/
structure Receiving (d : UsbDevice) (f : UsbFunction) (got left : List UInt8) : Prop
    extends d.Rests where
  stage : d.ep0State = .dataOut
  tx : d.txStat = .nak
  rx : d.rxStat = .valid
  room : d.rxCount = min left.length usbMaxEp0Size
  buff : d.outBuff = some got.length
  remLength : d.outRemLength = left.length
  inside : got.length + left.length ≤ cdcDataHsMaxPacketSize
  written : ∃ m, d.classData = write m 0 got ∧ ∀ i < cdcDataHsMaxPacketSize, m i = f.data i

/-- The empty packet of the status stage is ready. -/
structure Finishing (d : UsbDevice) : Prop extends d.Rests where
  stage : d.ep0State = .statusIn
  tx : d.txStat = .valid
  packet : d.txPacket = []
  xferLen : d.xferLen = 0

/-- The endpoint is stalled in the direction that is next. -/
structure Refusing (d : UsbDevice) (r : ControlRequest) : Prop extends d.Rests where
  tx : d.txStat = .stall
  rx : r.payload ≠ [] → d.rxStat = .stall

/-- A new address is used when the status stage is over, and not before. -/
structure Moving (d : UsbDevice) (f f' : UsbFunction) : Prop where
  daddr : d.daddr = f.address
  pending : d.usbAddress = 0 ∧ f'.address = f.address ∨
    d.usbAddress = f'.address ∧ f'.address ≠ 0

/-- The answer is these data. -/
structure Reads (pDesc : UsbdDescriptors) (f f' : UsbFunction) (r : ControlRequest)
    (bs : List UInt8) (d : UsbDevice) : Prop where
  answer : f.answer pDesc r = (.data bs, f')
  same : f'.address = f.address
  fits : bs.length ≤ r.length
  steady : Steady d f'

/-- The host may write its data. -/
structure Writes (pDesc : UsbdDescriptors) (f f' : UsbFunction) (r : ControlRequest)
    (d : UsbDevice) : Prop where
  answer : f.answer pDesc r = (.ok, f')
  stored : f'.data = write f.data 0 r.payload
  fits : r.payload.length ≤ cdcDataHsMaxPacketSize
  shows : Shows d f'
  moving : Moving d f f'

/-- The request is granted. -/
structure Grants (pDesc : UsbdDescriptors) (f f' : UsbFunction) (r : ControlRequest)
    (d : UsbDevice) : Prop where
  answer : f.answer pDesc r = (.ok, f')
  shows : Shows d f'
  data : Stores d f'
  moving : Moving d f f'

/-- The request is refused. -/
structure Declines (pDesc : UsbdDescriptors) (f f' : UsbFunction) (r : ControlRequest)
    (d : UsbDevice) : Prop where
  answer : f.answer pDesc r = (.refused, f')
  same : f'.address = f.address
  steady : Steady d f'

/-- **Where an answer leaves the device.** -/
inductive Prepared (pDesc : UsbdDescriptors) (f : UsbFunction) (r : ControlRequest) :
    UsbDevice → Prop
  | data {d : UsbDevice} {f' : UsbFunction} {bs : List UInt8} (reads : Reads pDesc f f' r bs d)
      (phase : r.firstPhase = .dataIn r []) (some : bs ≠ [])
      (loaded : Loaded d bs.length r.length bs) : Prepared pDesc f r d
  | write {d : UsbDevice} {f' : UsbFunction} (writes : Writes pDesc f f' r d)
      (phase : r.firstPhase = .dataOut r r.payload) (some : r.payload ≠ [])
      (receiving : Receiving d f [] r.payload) : Prepared pDesc f r d
  | ok {d : UsbDevice} {f' : UsbFunction} (grants : Grants pDesc f f' r d)
      (phase : r.firstPhase = .statusIn r) (finishing : Finishing d) : Prepared pDesc f r d
  | refused {d : UsbDevice} {f' : UsbFunction} (declines : Declines pDesc f f' r d)
      (refusing : Refusing d r) : Prepared pDesc f r d

section

variable {pDesc : UsbdDescriptors} {d : UsbDevice} {f f' : UsbFunction} {r : ControlRequest}

/-! ### Preparing the answer -/

theorem Shows.stallIn (h : Shows d f) : Shows (d.stallIn 0) f where
  __ := h
  haltedIn n hn := (Function.update_of_ne hn _ _).trans (h.haltedIn n hn)

theorem Shows.stallOut (h : Shows d f) : Shows (d.stallOut 0) f where
  __ := h
  haltedOut n hn := (Function.update_of_ne hn _ _).trans (h.haltedOut n hn)

theorem Steady.stallIn (h : Steady d f) : Steady (d.stallIn 0) f where
  __ := h
  toShows := h.toShows.stallIn

theorem Steady.usbdCtlError (h : Steady d f) : Steady d.usbdCtlError f where
  __ := h
  toShows := h.toShows.stallIn.stallOut

theorem Begun.refusing (h : Begun d f r.length) : Refusing d.usbdCtlError r :=
  ⟨⟨h.noRx, h.noTx⟩, rfl, fun _ => rfl⟩

/-- The data of an answer are loaded. -/
theorem loaded_usbdCtlSendData (hrests : d.Rests) (hrx : d.rxStat = .nak) (p : TxPointer)
    {bs : List UInt8} (hp : ∀ k ≤ bs.length, p.read d.classData k = bs.take k)
    (hinside : p.has bs.length) :
    Loaded (d.usbdCtlSendData p bs.length) bs.length d.ep0DataLen bs := by
  refine ⟨⟨hrests.noRx, hrests.noTx⟩, rfl, rfl, ?_, rfl, rfl, rfl, hp, hinside, .inl hrx⟩
  have hlen : (if bs.length > usbMaxEp0Size then usbMaxEp0Size else bs.length) =
      min usbMaxEp0Size bs.length := by
    split <;> omega
  show p.read d.classData (if bs.length > usbMaxEp0Size then usbMaxEp0Size else bs.length) = _
  rw [hlen, hp _ (Nat.min_le_right _ _), ← List.take_eq_take_min]

/-- An answer with data. -/
theorem Begun.answered_data (h : Begun d f r.length) (p : TxPointer) {bs : List UInt8}
    (hans : f.answer pDesc r = (.data bs, f)) (hphase : r.firstPhase = .dataIn r [])
    (hbs : bs ≠ []) (hfits : bs.length ≤ r.length)
    (hp : ∀ k ≤ bs.length, p.read d.classData k = bs.take k) (hinside : p.has bs.length) :
    Prepared pDesc f r (d.usbdCtlSendData p bs.length) := by
  have hload := loaded_usbdCtlSendData h.toRests h.rx p hp hinside
  rw [h.asked] at hload
  exact .data ⟨hans, rfl, hfits, { h.toSteady with }⟩ hphase hbs hload

/-- One whose data lie in one place. -/
theorem Begun.answered_bytes (h : Begun d f r.length) (bs : List UInt8)
    (hans : f.answer pDesc r = (.data bs, f)) (hphase : r.firstPhase = .dataIn r [])
    (hbs : bs ≠ []) (hfits : bs.length ≤ r.length) :
    Prepared pDesc f r (d.usbdCtlSendData (.bytes bs) bs.length) :=
  h.answered_data (.bytes bs) hans hphase hbs hfits (fun _ _ => rfl)
    (decide_eq_true (Nat.le_refl bs.length))

/-- An answer without. -/
theorem Grants.answered (h : Grants pDesc f f' r d) (hphase : r.firstPhase = .statusIn r)
    (hrests : d.Rests) : Prepared pDesc f r d.usbdCtlSendStatus :=
  .ok ⟨h.answer, { h.shows with }, h.data, { h.moving with }⟩ hphase
    ⟨⟨hrests.noRx, hrests.noTx⟩, rfl, rfl, rfl, rfl⟩

/-- One that changes nothing. -/
theorem Begun.answered_ok (h : Begun d f r.length) (hans : f.answer pDesc r = (.ok, f))
    (hphase : r.firstPhase = .statusIn r) : Prepared pDesc f r d.usbdCtlSendStatus :=
  Grants.answered ⟨hans, h.toShows, h.data, h.daddr, .inl ⟨h.pending, rfl⟩⟩ hphase h.toRests

/-- A request is refused. -/
theorem Begun.answered_refused (h : Begun d f r.length)
    (hans : f.answer pDesc r = (.refused, f)) : Prepared pDesc f r d.usbdCtlError :=
  .refused ⟨hans, rfl, h.toSteady.usbdCtlError⟩ h.refusing

/-! ### The bits of `bmRequest` -/

theorem deviceOut_bits : (0x00 : UInt8) &&& 0x1F = usbReqRecipientDevice ∧
    (0x00 : UInt8) &&& usbReqTypeMask = usbReqTypeStandard ∧ (0x00 : UInt8) &&& 0x80 = 0 := by
  decide

theorem deviceIn_bits : (0x80 : UInt8) &&& 0x1F = usbReqRecipientDevice ∧
    (0x80 : UInt8) &&& usbReqTypeMask = usbReqTypeStandard ∧ (0x80 : UInt8) &&& 0x80 ≠ 0 := by
  decide

theorem interfaceOut_bits : (0x01 : UInt8) &&& 0x1F = usbReqRecipientInterface ∧
    (0x01 : UInt8) &&& usbReqTypeMask = usbReqTypeStandard ∧ (0x01 : UInt8) &&& 0x80 = 0 := by
  decide

theorem interfaceIn_bits : (0x81 : UInt8) &&& 0x1F = usbReqRecipientInterface ∧
    (0x81 : UInt8) &&& usbReqTypeMask = usbReqTypeStandard ∧ (0x81 : UInt8) &&& 0x80 ≠ 0 := by
  decide

theorem endpointOut_bits : (0x02 : UInt8) &&& 0x1F = usbReqRecipientEndpoint ∧
    (0x02 : UInt8) &&& usbReqTypeMask = usbReqTypeStandard ∧ (0x02 : UInt8) &&& 0x80 = 0 := by
  decide

theorem endpointIn_bits : (0x82 : UInt8) &&& 0x1F = usbReqRecipientEndpoint ∧
    (0x82 : UInt8) &&& usbReqTypeMask = usbReqTypeStandard ∧ (0x82 : UInt8) &&& 0x80 ≠ 0 := by
  decide

theorem classOut_bits : (0x21 : UInt8) &&& 0x1F = usbReqRecipientInterface ∧
    (0x21 : UInt8) &&& usbReqTypeMask = usbReqTypeClass ∧ (0x21 : UInt8) &&& 0x80 = 0 := by
  decide

theorem classIn_bits : (0xA1 : UInt8) &&& 0x1F = usbReqRecipientInterface ∧
    (0xA1 : UInt8) &&& usbReqTypeMask = usbReqTypeClass ∧ (0xA1 : UInt8) &&& 0x80 ≠ 0 := by
  decide

/-! ### Requests about the device -/

/-- Every descriptor has a length. -/
def Filled (pDesc : UsbdDescriptors) : Prop :=
  ∀ type index bs, pDesc.find type index = some bs → bs ≠ []

theorem filled_of_ne {pDesc : UsbdDescriptors} (hdevice : pDesc.device ≠ [])
    (hconfig : pDesc.fsConfig ≠ [])
    (hstrings : ∀ bs ∈ [pDesc.langIDStr, pDesc.manufacturerStr, pDesc.productStr, pDesc.serialStr,
      pDesc.configurationStr, pDesc.interfaceStr], bs ≠ []) : Filled pDesc := by
  intro type index bs hfind
  unfold UsbdDescriptors.find at hfind
  split at hfind
  · exact Option.some.inj hfind ▸ hdevice
  · rw [← Option.some.inj hfind]
    exact fun h => hconfig ((List.set_eq_nil_iff _ _).1 h)
  all_goals first
    | exact hstrings bs (Option.some.inj hfind ▸ by simp)
    | cases hfind

theorem answered_usbdGetDescriptor (hfilled : Filled pDesc) {type index : UInt8}
    {langId length : UInt16} (h : Begun d f length.toNat) :
    Prepared pDesc f (.getDescriptor type index langId length)
      (d.usbdGetDescriptor pDesc
        (ControlRequest.getDescriptor type index langId length).setup) := by
  have hlength : (ControlRequest.getDescriptor type index langId length).length =
    length.toNat := rfl
  rw [← hlength] at h
  simp only [usbdGetDescriptor, ControlRequest.setup, hi_le16, lo_le16]
  cases hfind : pDesc.find type index with
  | none => exact h.answered_refused (by rw [UsbFunction.answer, hfind])
  | some bs =>
      have hbs := hfilled _ _ _ hfind
      have hpos : bs.length ≠ 0 := fun h0 => hbs (List.length_eq_zero_iff.1 h0)
      by_cases hzero : length = 0
      · subst hzero
        simp only [ne_eq, not_true_eq_false, and_false, if_false, if_true]
        refine h.answered_ok ?_ rfl
        rw [UsbFunction.answer, hfind]
        rfl
      · simp only [ne_eq, hpos, hzero, not_false_eq_true, and_self, if_true, if_false]
        have hne : length.toNat ≠ 0 := fun h0 => hzero (UInt16.toNat_inj.1 h0)
        have hmin : min bs.length length.toNat = (bs.take length.toNat).length := by
          rw [List.length_take, Nat.min_comm]
        rw [hmin]
        refine h.answered_data (.bytes bs) ?_
          (ControlRequest.firstPhase_of_in hne deviceIn_bits.2.2) ?_
          (List.length_take_le _ _) ?_ (decide_eq_true (List.length_take_le' _ _))
        · rw [UsbFunction.answer, hfind]
          simp only [hzero, if_false]
        · rw [ne_eq, List.take_eq_nil_iff]
          simp [hne, hbs]
        · intro k hk
          show bs.take k = _
          rw [List.length_take] at hk
          rw [List.take_take, Nat.min_eq_left (by omega)]

/-- An address has seven bits. -/
theorem and_0x7F_of_lt {a : UInt8} (h : a < 128) : a &&& 0x7F = a := by
  refine UInt8.toNat_inj.1 ?_
  rw [UInt8.toNat_and]
  exact (Nat.and_two_pow_sub_one_eq_mod a.toNat 7).trans (Nat.mod_eq_of_lt h)

theorem answered_usbdSetAddress {address : UInt8} (hallows : f.allows (.setAddress address))
    (h : Begun d f 0) :
    Prepared pDesc f (.setAddress address)
      (d.usbdSetAddress (ControlRequest.setAddress address).setup) := by
  replace h : Begun d f (ControlRequest.setAddress address).length := h
  simp only [UsbFunction.allows, Bool.and_eq_true, decide_eq_true_eq, Bool.or_eq_true, bne_iff_ne,
    beq_iff_eq] at hallows
  obtain ⟨hlt, hzero⟩ := hallows
  have hvalue : le16 address 0 < 128 := by
    rw [UInt16.lt_iff_toNat_lt, toNat_le16]
    simpa using UInt8.lt_iff_toNat_lt.1 hlt
  simp only [usbdSetAddress, ControlRequest.setup, hvalue, and_self, if_true, lo_le16,
    and_0x7F_of_lt hlt]
  by_cases hconfigured : f.configured = true
  · have hstate : d.devState = .configured := by rw [h.state, UsbFunction.state, if_pos hconfigured]
    rw [if_pos hstate]
    exact h.answered_refused (by rw [UsbFunction.answer, if_pos hconfigured])
  · have hstate : d.devState ≠ .configured := by
      rw [h.state, UsbFunction.state, if_neg hconfigured]
      split <;> decide
    rw [if_neg hstate]
    have hans : f.answer pDesc (.setAddress address) = (.ok, { f with address }) := by
      rw [UsbFunction.answer, if_neg hconfigured]
    refine Grants.answered
      (d := { d with
        usbAddress := address
        daddr := if address = 0 then 0 else d.daddr
        devState := if address ≠ 0 then .addressed else .default })
      ⟨hans, { h.toShows with state := ?_, known := ?_ }, h.data, ?_, ?_⟩ rfl ⟨h.noRx, h.noTx⟩
    · simp only [UsbFunction.state, if_neg hconfigured]
      by_cases ha : address = 0 <;> simp [ha]
    · exact fun hc => absurd hc hconfigured
    · show (if address = 0 then 0 else d.daddr) = f.address
      split
      · rename_i ha
        subst ha
        simpa [hconfigured, eq_comm] using hzero
      · exact h.daddr
    · by_cases ha : address = 0
      · subst ha
        refine .inl ⟨rfl, ?_⟩
        simpa [hconfigured, eq_comm] using hzero
      · exact .inr ⟨rfl, ha⟩

/-- `USBD_CDC_Init` and `USBD_CDC_DeInit` open and close the endpoints of the class. -/
theorem isUsed_usbdCdcInit (h : Shows d f) :
    (∀ n, d.usbdCdcInit.isUsedIn n = (n == 0 || true && (n == 1 || n == 2))) ∧
      ∀ n, d.usbdCdcInit.isUsedOut n = (n == 0 || true && n == 1) := by
  constructor
  · intro n
    simp only [usbdCdcInit, Function.update_apply, h.usedIn]
    rcases n with _ | _ | _ | n <;> simp
  · intro n
    simp only [usbdCdcInit, Function.update_apply, h.usedOut]
    rcases n with _ | _ | _ | n <;> simp

theorem isUsed_usbdCdcDeInit (h : Shows d f) :
    (∀ n, d.usbdCdcDeInit.isUsedIn n = (n == 0 || false && (n == 1 || n == 2))) ∧
      ∀ n, d.usbdCdcDeInit.isUsedOut n = (n == 0 || false && n == 1) := by
  constructor
  · intro n
    simp only [usbdCdcDeInit, Function.update_apply, h.usedIn]
    rcases n with _ | _ | _ | n <;> simp
  · intro n
    simp only [usbdCdcDeInit, Function.update_apply, h.usedOut]
    rcases n with _ | _ | _ | n <;> simp

/-- The class is closed: the device is configured no more. -/
theorem Shows.usbdCdcDeInit (h : Shows d f) (hconfigured : f.configured = false) :
    Shows d.usbdCdcDeInit f where
  __ := h
  hasData := hconfigured.symm
  usedIn n := by rw [(isUsed_usbdCdcDeInit h).1, hconfigured]
  usedOut n := by rw [(isUsed_usbdCdcDeInit h).2, hconfigured]

/-- The number of the only configuration. -/
theorem eq_one_of_le {value : UInt8} (h : ¬ value > usbdMaxNumConfiguration) (hne : value ≠ 0) :
    value = 1 := by
  refine UInt8.toNat_inj.1 ?_
  have h1 : ¬ 1 < value.toNat := fun hlt => h (UInt8.lt_iff_toNat_lt.2 hlt)
  have h0 : value.toNat ≠ 0 := fun h0 => hne (UInt8.toNat_inj.1 h0)
  show value.toNat = 1
  omega

theorem answered_usbdSetConfig {value : UInt8} (h : Begun d f 0) :
    Prepared pDesc f (.setConfiguration value)
      (d.usbdSetConfig (ControlRequest.setConfiguration value).setup) := by
  replace h : Begun d f (ControlRequest.setConfiguration value).length := h
  have hlo : lo (ControlRequest.setConfiguration value).setup.wValue = value := lo_le16 value 0
  simp only [usbdSetConfig, hlo]
  split
  · rename_i hvalue
    exact h.answered_refused (by rw [UsbFunction.answer, if_pos (.inl hvalue)])
  rename_i hvalue
  have hans (hstate : f.state ≠ .default) : f.answer pDesc (.setConfiguration value) =
      (.ok, { f with configured := value == 1 }) := by
    rw [UsbFunction.answer, if_neg]
    exact not_or.2 ⟨hvalue, hstate⟩
  split
  · rename_i hstate
    rw [h.state] at hstate
    obtain ⟨hconfigured, haddress⟩ := UsbFunction.state_eq_addressed.1 hstate
    replace hans := hans (by rw [hstate]; decide)
    split
    · -- the device is configured now
      rename_i hne
      obtain rfl := eq_one_of_le hvalue hne
      have hused := isUsed_usbdCdcInit h.toShows
      refine Grants.answered ⟨hans, ?_, h.data, h.daddr, .inl ⟨h.pending, rfl⟩⟩ rfl
        ⟨h.noRx, h.noTx⟩
      exact { h.toShows with
        state := rfl, config := rfl, hasData := rfl
        usedIn := hused.1, usedOut := hused.2, known := fun _ => haddress }
    · rename_i hne
      have hsame : { f with configured := value == 1 } = f := by
        rw [not_not.1 hne]
        cases f
        simp_all
      rw [hsame] at hans
      exact h.answered_ok hans rfl
  · rename_i hstate
    rw [h.state] at hstate
    have hconfigured := UsbFunction.state_eq_configured.1 hstate
    replace hans := hans (by rw [hstate]; decide)
    split
    · -- and now no more
      rename_i hzero
      subst hzero
      have hused := isUsed_usbdCdcDeInit h.toShows
      refine Grants.answered ⟨hans, ?_, h.data, h.daddr, .inl ⟨h.pending, rfl⟩⟩ rfl
        ⟨h.noRx, h.noTx⟩
      exact { h.toShows with
        state := (UsbFunction.state_eq_addressed (f := { f with configured := false }).2
          ⟨rfl, h.known hconfigured⟩).symm
        config := rfl, hasData := rfl, usedIn := hused.1, usedOut := hused.2, known := nofun }
    · rename_i hne
      have hone := eq_one_of_le hvalue hne
      -- there is only one configuration
      rw [if_neg (by rw [h.config, if_pos hconfigured, hone]; exact not_not.2 rfl)]
      have hsame : { f with configured := value == 1 } = f := by
        rw [hone]
        cases f
        simp_all
      rw [hsame] at hans
      exact h.answered_ok hans rfl
  · rename_i haddressed hconfigured
    rw [h.state] at haddressed hconfigured
    have hdefault : f.state = .default := by
      cases hstate : f.state with
      | default => rfl
      | addressed => exact absurd hstate haddressed
      | configured => exact absurd hstate hconfigured
      | suspended => exact absurd hstate f.state_ne_suspended
    have hsteady : Steady d.usbdCtlError.usbdCdcDeInit f :=
      { h.toSteady.usbdCtlError with
        toShows := h.toSteady.usbdCtlError.toShows.usbdCdcDeInit
          (UsbFunction.state_eq_default.1 hdefault).1 }
    refine .refused ⟨?_, rfl, hsteady⟩ ⟨⟨h.noRx, h.noTx⟩, rfl, fun _ => rfl⟩
    rw [UsbFunction.answer, if_pos (.inr hdefault)]

theorem answered_usbdGetConfig (h : Begun d f 1) :
    Prepared pDesc f .getConfiguration
      (d.usbdGetConfig ControlRequest.getConfiguration.setup) := by
  replace h : Begun d f ControlRequest.getConfiguration.length := h
  have hphase : ControlRequest.getConfiguration.firstPhase = .dataIn .getConfiguration [] :=
    ControlRequest.firstPhase_of_in (by decide) (by decide)
  have hans : f.answer pDesc .getConfiguration = (.data [if f.configured then 1 else 0], f) := rfl
  simp only [usbdGetConfig]
  rw [if_neg (by decide)]
  split
  · rename_i hstate
    rw [h.state, UsbFunction.state_eq_default] at hstate
    rw [hstate.1] at hans
    exact h.answered_bytes _ hans hphase (by simp) (Nat.le_refl _)
  · rename_i hstate
    rw [h.state, UsbFunction.state_eq_addressed] at hstate
    rw [hstate.1] at hans
    exact h.answered_bytes _ hans hphase (by simp) (Nat.le_refl _)
  · rw [← h.config] at hans
    exact h.answered_bytes _ hans hphase (by simp) (Nat.le_refl _)
  · rename_i hstate
    exact absurd (h.state.symm.trans hstate) f.state_ne_suspended

theorem answered_usbdGetStatus (h : Begun d f 2) :
    Prepared pDesc f (.getStatus .device)
      (d.usbdGetStatus (ControlRequest.getStatus .device).setup) := by
  replace h : Begun d f (ControlRequest.getStatus .device).length := h
  simp only [usbdGetStatus]
  rw [if_neg (by rw [h.state]; exact f.state_ne_suspended), if_neg (by decide)]
  have hstatus : usbConfigSelfPowered ||| (if d.devRemoteWakeup then usbConfigRemoteWakeup else 0) =
      if f.remoteWakeup then 3 else 1 := by
    rw [h.remoteWakeup]
    cases f.remoteWakeup <;> rfl
  rw [hstatus]
  exact h.answered_bytes [_, _] rfl
    (ControlRequest.firstPhase_of_in (by decide) (by decide)) (by simp) (Nat.le_refl _)

theorem answered_usbdFeature (pDesc : UsbdDescriptors) (on : Bool) (h : Begun d f 0) :
    Prepared pDesc f (.remoteWakeup on)
      (if on then d.usbdSetFeature (ControlRequest.remoteWakeup on).setup
        else d.usbdClrFeature (ControlRequest.remoteWakeup on).setup) := by
  replace h : Begun d f (ControlRequest.remoteWakeup on).length := h
  have hok : Prepared pDesc f (.remoteWakeup on)
      { d with devRemoteWakeup := on }.usbdCtlSendStatus :=
    Grants.answered
      ⟨rfl, { h.toShows with remoteWakeup := rfl }, h.data, h.daddr, .inl ⟨h.pending, rfl⟩⟩ rfl
      ⟨h.noRx, h.noTx⟩
  cases on with
  | true => exact hok
  | false =>
      have hstate : d.devState ≠ .suspended := by
        rw [h.state]
        exact f.state_ne_suspended
      simp only [usbdClrFeature, Bool.false_eq_true, if_neg, hstate, not_false_eq_true]
      exact hok

/-! ### Requests about an interface -/

section

variable {req : UsbdSetupReq}

theorem usbdCdcSetup_getStatus (htype : req.bmRequest &&& usbReqTypeMask = usbReqTypeStandard)
    (hreq : req.bRequest = usbReqGetStatus) : d.usbdCdcSetup req =
      if d.devState = .configured then some (d.usbdCtlSendData (.bytes [0, 0]) 2, true)
      else some (d.usbdCtlError, false) := by
  rw [usbdCdcSetup, htype, hreq, if_neg (by decide), if_pos rfl, if_pos rfl]

theorem usbdCdcSetup_getInterface (htype : req.bmRequest &&& usbReqTypeMask = usbReqTypeStandard)
    (hreq : req.bRequest = usbReqGetInterface) : d.usbdCdcSetup req =
      if d.devState = .configured then some (d.usbdCtlSendData (.bytes [0]) 1, true)
      else some (d.usbdCtlError, false) := by
  rw [usbdCdcSetup, htype, hreq, if_neg (by decide), if_pos rfl, if_neg (by decide), if_pos rfl]

theorem usbdCdcSetup_setInterface (htype : req.bmRequest &&& usbReqTypeMask = usbReqTypeStandard)
    (hreq : req.bRequest = usbReqSetInterface) : d.usbdCdcSetup req =
      if d.devState ≠ .configured then some (d.usbdCtlError, false) else some (d, true) := by
  rw [usbdCdcSetup, htype, hreq, if_neg (by decide), if_pos rfl, if_neg (by decide),
    if_neg (by decide), if_pos rfl]

theorem usbdCdcSetup_command (htype : req.bmRequest &&& usbReqTypeMask = usbReqTypeClass)
    (hlength : req.wLength = 0) : d.usbdCdcSetup req = some (d, true) := by
  rw [usbdCdcSetup, if_pos htype, if_neg (not_not.2 hlength)]

theorem usbdCdcSetup_read (htype : req.bmRequest &&& usbReqTypeMask = usbReqTypeClass)
    (hlength : req.wLength ≠ 0) (hdata : d.hasClassData = true)
    (hin : req.bmRequest &&& 0x80 ≠ 0) : d.usbdCdcSetup req =
      some (d.usbdCtlSendData (.classData 0) req.wLength.toNat, true) := by
  rw [usbdCdcSetup, if_pos htype, if_pos hlength, hdata, if_neg (by decide), if_pos hin]

theorem usbdCdcSetup_write (req : UsbdSetupReq)
    (htype : req.bmRequest &&& usbReqTypeMask = usbReqTypeClass)
    (hlength : req.wLength ≠ 0) (hdata : d.hasClassData = true)
    (hout : req.bmRequest &&& 0x80 = 0) : d.usbdCdcSetup req =
      some ({ d with
        classData := write d.classData cdcDataHsMaxPacketSize
          [req.bRequest, UInt8.ofNat req.wLength.toNat] }.usbdCtlPrepareRx (some 0)
        req.wLength.toNat, true) := by
  rw [usbdCdcSetup, if_pos htype, if_pos hlength, hdata, if_neg (by decide),
    if_neg (not_not.2 hout)]

end

/-- Data that the class keeps. -/
theorem read_classData {n : ℕ} (hdata : Stores d f) (hn : n ≤ cdcDataHsMaxPacketSize) (k : ℕ)
    (hk : k ≤ n) : (TxPointer.classData 0).read d.classData k = (read f.data 0 n).take k := by
  rw [take_read, Nat.min_eq_left hk]
  exact read_congr fun i _ hi => hdata i (by omega)

/-- A request of the interface, as the class takes it or not. -/
theorem usbdStdItfReq_of_le {req : UsbdSetupReq} {number : UInt8} (hstate : d.devState = f.state)
    (htype : req.bmRequest &&& usbReqTypeMask = usbReqTypeClass ∨
      req.bmRequest &&& usbReqTypeMask = usbReqTypeStandard) (hindex : req.wIndex = le16 number 0) :
    d.usbdStdItfReq req = if number ≤ 1 then
        (d.usbdCdcSetup req).map fun (d, ok) =>
          if req.wLength = 0 ∧ ok then d.usbdCtlSendStatus else d
      else some d.usbdCtlError := by
  have hany : req.bmRequest &&& usbReqTypeMask = usbReqTypeClass ∨
      req.bmRequest &&& usbReqTypeMask = usbReqTypeVendor ∨
      req.bmRequest &&& usbReqTypeMask = usbReqTypeStandard :=
    htype.imp_right .inr
  have hawake : d.devState ≠ .suspended := by
    rw [hstate]
    exact f.state_ne_suspended
  rw [usbdStdItfReq, if_pos hany, if_neg hawake, hindex, lo_le16]
  rfl

theorem Shows.devState_eq (h : Shows d f) : d.devState = .configured ↔ f.configured = true := by
  rw [h.state, UsbFunction.state_eq_configured]

/-- The requests that read from the interface of a configured device. -/
theorem answered_interface_read {number : UInt8} (bs : List UInt8) (h : Begun d f r.length)
    (hbs : bs ≠ []) (hfits : bs.length ≤ r.length) (hphase : r.firstPhase = .dataIn r [])
    (hlength : r.setup.wLength ≠ 0)
    (htype : r.setup.bmRequest &&& usbReqTypeMask = usbReqTypeStandard)
    (hindex : r.setup.wIndex = le16 number 0)
    (hans : f.answer pDesc r =
      (if f.configured ∧ number ≤ 1 then .data bs else .refused, f))
    (hsetup : d.usbdCdcSetup r.setup =
      if d.devState = .configured then some (d.usbdCtlSendData (.bytes bs) bs.length, true)
      else some (d.usbdCtlError, false)) :
    ∃ d', d.usbdStdItfReq r.setup = some d' ∧ Prepared pDesc f r d' := by
  rw [usbdStdItfReq_of_le h.state (.inr htype) hindex, hsetup]
  by_cases hnumber : number ≤ 1
  · rw [if_pos hnumber]
    by_cases hconfigured : f.configured = true
    · rw [if_pos ⟨hconfigured, hnumber⟩] at hans
      rw [if_pos (h.toShows.devState_eq.2 hconfigured)]
      refine ⟨_, rfl, ?_⟩
      simp only [hlength, false_and, if_false]
      exact h.answered_bytes _ hans hphase hbs hfits
    · rw [if_neg fun hc => hconfigured hc.1] at hans
      rw [if_neg fun hc => hconfigured (h.toShows.devState_eq.1 hc)]
      refine ⟨_, rfl, ?_⟩
      simp only [hlength, false_and, if_false]
      exact h.answered_refused hans
  · rw [if_neg hnumber]
    rw [if_neg fun hc => hnumber hc.2] at hans
    exact ⟨_, rfl, h.answered_refused hans⟩

theorem answered_getStatus_interface {number : UInt8} (h : Begun d f 2) :
    ∃ d', d.usbdStdItfReq (ControlRequest.getStatus (.interface number)).setup = some d' ∧
      Prepared pDesc f (.getStatus (.interface number)) d' :=
  answered_interface_read [0, 0] h (by simp) (Nat.le_refl 2)
    (ControlRequest.firstPhase_of_in (Nat.succ_ne_zero 1) interfaceIn_bits.2.2)
    (show (2 : UInt16) ≠ 0 by decide) interfaceIn_bits.2.1 rfl rfl
    (usbdCdcSetup_getStatus interfaceIn_bits.2.1 rfl)

theorem answered_getInterface {number : UInt8} (h : Begun d f 1) :
    ∃ d', d.usbdStdItfReq (ControlRequest.getInterface number).setup = some d' ∧
      Prepared pDesc f (.getInterface number) d' :=
  answered_interface_read [0] h (by simp) (Nat.le_refl 1)
    (ControlRequest.firstPhase_of_in (Nat.succ_ne_zero 0) interfaceIn_bits.2.2)
    (show (1 : UInt16) ≠ 0 by decide) interfaceIn_bits.2.1 rfl rfl
    (usbdCdcSetup_getInterface interfaceIn_bits.2.1 rfl)

theorem answered_setInterface {number alternate : UInt8} (h : Begun d f 0) :
    ∃ d', d.usbdStdItfReq (ControlRequest.setInterface number alternate).setup = some d' ∧
      Prepared pDesc f (.setInterface number alternate) d' := by
  replace h : Begun d f (ControlRequest.setInterface number alternate).length := h
  have hans : f.answer pDesc (.setInterface number alternate) =
    (if f.configured ∧ number ≤ 1 then .ok else .refused, f) := rfl
  rw [usbdStdItfReq_of_le h.state (.inr interfaceOut_bits.2.1) rfl,
    usbdCdcSetup_setInterface interfaceOut_bits.2.1 rfl]
  by_cases hnumber : number ≤ 1
  · rw [if_pos hnumber]
    by_cases hconfigured : f.configured = true
    · rw [if_pos ⟨hconfigured, hnumber⟩] at hans
      rw [if_neg (not_not.2 (h.toShows.devState_eq.2 hconfigured))]
      exact ⟨_, rfl, h.answered_ok hans rfl⟩
    · rw [if_neg fun hc => hconfigured hc.1] at hans
      rw [if_pos fun hc => hconfigured (h.toShows.devState_eq.1 hc)]
      exact ⟨_, rfl, h.answered_refused hans⟩
  · rw [if_neg hnumber]
    rw [if_neg fun hc => hnumber hc.2] at hans
    exact ⟨_, rfl, h.answered_refused hans⟩

theorem answered_classCommand {request number : UInt8} {value : UInt16} (h : Begun d f 0) :
    ∃ d', d.usbdStdItfReq (ControlRequest.classCommand request number value).setup = some d' ∧
      Prepared pDesc f (.classCommand request number value) d' := by
  replace h : Begun d f (ControlRequest.classCommand request number value).length := h
  have hans : f.answer pDesc (.classCommand request number value) =
    (if number ≤ 1 then .ok else .refused, f) := rfl
  rw [usbdStdItfReq_of_le h.state (.inl classOut_bits.2.1) rfl,
    usbdCdcSetup_command classOut_bits.2.1 rfl]
  by_cases hnumber : number ≤ 1
  · rw [if_pos hnumber] at hans ⊢
    exact ⟨_, rfl, h.answered_ok hans rfl⟩
  · rw [if_neg hnumber] at hans ⊢
    exact ⟨_, rfl, h.answered_refused hans⟩

theorem answered_classRead {request number : UInt8} {value length : UInt16}
    (hallows : f.allows (.classRead request number value length))
    (h : Begun d f length.toNat) :
    ∃ d', d.usbdStdItfReq (ControlRequest.classRead request number value length).setup =
      some d' ∧ Prepared pDesc f (.classRead request number value length) d' := by
  replace h : Begun d f (ControlRequest.classRead request number value length).length := h
  simp only [UsbFunction.allows, Bool.and_eq_true, decide_eq_true_eq] at hallows
  obtain ⟨⟨hconfigured, hpos⟩, hfits⟩ := hallows
  have hne : length ≠ 0 := by
    rintro rfl
    exact Nat.lt_irrefl 0 hpos
  have hans : f.answer pDesc (.classRead request number value length) =
    (if number ≤ 1 then .data (read f.data 0 length.toNat) else .refused, f) := rfl
  rw [usbdStdItfReq_of_le h.state (.inl classIn_bits.2.1) rfl,
    usbdCdcSetup_read classIn_bits.2.1 hne (h.hasData.trans hconfigured)
      classIn_bits.2.2]
  by_cases hnumber : number ≤ 1
  · rw [if_pos hnumber] at hans ⊢
    refine ⟨_, rfl, ?_⟩
    have hlen : (read f.data 0 length.toNat).length = length.toNat := length_read _ _ _
    have hinside : (TxPointer.classData 0).has (read f.data 0 length.toNat).length := by
      rw [hlen]
      refine decide_eq_true ?_
      unfold cdcDataHsMaxPacketSize at hfits ⊢
      omega
    have hready := h.answered_data (.classData 0) hans
      (ControlRequest.firstPhase_of_in (Nat.ne_of_gt hpos)
        classIn_bits.2.2)
      (fun hnil => by simp [hnil] at hlen; omega) (Nat.le_of_eq hlen)
      (fun k hk => read_classData h.data hfits k (by omega)) hinside
    rw [hlen] at hready
    have hzero : ¬ (ControlRequest.classRead request number value length).setup.wLength = 0 := hne
    simp only [hzero, false_and, if_false]
    exact hready
  · rw [if_neg hnumber] at hans ⊢
    exact ⟨_, rfl, h.answered_refused hans⟩

theorem answered_classWrite {request number : UInt8} {value : UInt16} {bs : List UInt8}
    (hallows : f.allows (.classWrite request number value bs))
    (h : Begun d f (ControlRequest.classWrite request number value bs).length) :
    ∃ d', d.usbdStdItfReq (ControlRequest.classWrite request number value bs).setup = some d' ∧
      Prepared pDesc f (.classWrite request number value bs) d' := by
  simp only [UsbFunction.allows, Bool.and_eq_true, decide_eq_true_eq] at hallows
  obtain ⟨⟨hconfigured, hpos⟩, hfits⟩ := hallows
  have hlength : (UInt16.ofNat bs.length).toNat = bs.length := by
    rw [UInt16.toNat_ofNat']
    unfold cdcDataHsMaxPacketSize at hfits
    omega
  have hne : UInt16.ofNat bs.length ≠ 0 := by
    intro h0
    rw [h0] at hlength
    exact Nat.ne_of_lt hpos hlength
  have hans : f.answer pDesc (.classWrite request number value bs) =
    if number ≤ 1 then (.ok, { f with data := write f.data 0 bs }) else (.refused, f) := rfl
  have hsetup := usbdCdcSetup_write (d := d)
    (ControlRequest.classWrite request number value bs).setup classOut_bits.2.1 hne
    (h.hasData.trans hconfigured) classOut_bits.2.2
  rw [show (ControlRequest.classWrite request number value bs).setup.wLength.toNat = bs.length
    from hlength] at hsetup
  rw [usbdStdItfReq_of_le h.state (.inl classOut_bits.2.1) rfl, hsetup]
  by_cases hnumber : number ≤ 1
  · rw [if_pos hnumber] at hans ⊢
    refine ⟨_, rfl, ?_⟩
    have hzero : ¬ (ControlRequest.classWrite request number value bs).setup.wLength = 0 := hne
    simp only [hzero, false_and, if_false]
    have hbs : bs ≠ [] := fun hnil => by simp [hnil] at hpos
    refine .write
      ⟨hans, rfl, hfits, { h.toShows with }, h.daddr, .inl ⟨h.pending, rfl⟩⟩
      (ControlRequest.firstPhase_of_out ?_ classOut_bits.2.2) hbs ?_
    · show (UInt16.ofNat bs.length).toNat ≠ 0
      omega
    refine ⟨⟨h.noRx, h.noTx⟩, rfl, h.tx, rfl, ?_, rfl, rfl, ?_, _, (write_nil _ 0).symm, ?_⟩
    · show (if bs.length > usbMaxEp0Size then usbMaxEp0Size else bs.length) =
        min bs.length usbMaxEp0Size
      split <;> omega
    · show 0 + bs.length ≤ cdcDataHsMaxPacketSize
      omega
    · intro i hi
      rw [← h.data i hi]
      exact write_of_lt _ _ _ hi
  · rw [if_neg hnumber] at hans ⊢
    exact ⟨_, rfl, h.answered_refused hans⟩

/-! ### Requests about an endpoint -/

/-- What holds of the 256 bytes holds of every byte. -/
theorem forall_byte {P : UInt8 → Prop} (h : ∀ n : Fin 256, P (UInt8.ofNat n)) (a : UInt8) :
    P a := by
  have ha := h ⟨a.toNat, a.toNat_lt⟩
  rwa [UInt8.ofNat_toNat] at ha

/-- The bits of an endpoint that the peripheral has. -/
theorem endpoint_bits : ∀ e : UInt8, e &&& 0x78 = 0 →
    (e &&& 0x80 ≠ 0x80 → e &&& epAddrMsk = e ∧ e.toNat < pcdEndpoints) ∧
      (¬ (e = 0x00 ∨ e = 0x80) → (e &&& epAddrMsk).toNat ≠ 0) ∧
      (e &&& 0x7F = 0 ↔ e = 0x00 ∨ e = 0x80) ∧ (e &&& 0x0F).toNat ≤ pcdEndpoints :=
  forall_byte (by decide +kernel)

/-- Those of one that a configured device does not use. -/
theorem not_isUsed_bits : ∀ e : UInt8, e &&& 0x70 = 0 → e ∉ UsbFunction.endpoints →
    (e &&& 0x80 = 0x80 → (e &&& 0x0F).toNat ≠ 0 ∧ (e &&& 0x0F).toNat ≠ 1 ∧
      (e &&& 0x0F).toNat ≠ 2) ∧
    (e &&& 0x80 ≠ 0x80 → (e &&& 0x0F).toNat ≠ 0 ∧ (e &&& 0x0F).toNat ≠ 1) :=
  forall_byte (by decide +kernel)

/-- And those of one that it does. -/
theorem isUsed_bits : ∀ e : UInt8, e ∈ UsbFunction.endpoints →
    (e &&& 0x80 = 0x80 → (e &&& 0x0F).toNat = 0 ∨ (e &&& 0x0F).toNat = 1 ∨
      (e &&& 0x0F).toNat = 2) ∧
    (e &&& 0x80 ≠ 0x80 → (e &&& 0x0F).toNat = 0 ∨ (e &&& 0x0F).toNat = 1) ∧
      (e &&& 0x7F).toNat = (e &&& epAddrMsk).toNat ∧ (e &&& epAddrMsk).toNat < pcdEndpoints ∧
      (e = 0x00 ∨ e = 0x80 ↔ (e &&& epAddrMsk).toNat = 0) :=
  forall_byte (by decide +kernel)

theorem Begun.haltIn {n : ℕ} {e : UInt8} (h : Begun d f n) (he : e &&& 0x80 = 0x80) (on : Bool) :
    Begun { d with isStallIn := Function.update d.isStallIn (e &&& epAddrMsk).toNat on }
      (f.setHalted e on) n := by
  rw [UsbFunction.setHalted, if_pos he]
  refine { h with haltedIn := fun k hk => ?_ }
  show Function.update d.isStallIn _ on k = Function.update f.haltedIn _ on k
  rw [Function.update_apply, Function.update_apply, h.haltedIn k hk]

theorem Begun.haltOut {n : ℕ} {e : UInt8} (h : Begun d f n) (he : e &&& 0x80 ≠ 0x80) (on : Bool) :
    Begun { d with isStallOut := Function.update d.isStallOut (e &&& epAddrMsk).toNat on }
      (f.setHalted e on) n := by
  rw [UsbFunction.setHalted, if_neg he]
  refine { h with haltedOut := fun k hk => ?_ }
  show Function.update d.isStallOut _ on k = Function.update f.haltedOut _ on k
  rw [Function.update_apply, Function.update_apply, h.haltedOut k hk]

/-- An endpoint is halted; nothing else happens. -/
theorem Begun.usbdLlStallEp {n : ℕ} {e : UInt8} (h : Begun d f n) (he : e &&& 0x78 = 0)
    (hne : ¬ (e = 0x00 ∨ e = 0x80)) :
    ∃ d', d.usbdLlStallEp e = some d' ∧ Begun d' (f.setHalted e true) n := by
  obtain ⟨hout, hnum, -, -⟩ := endpoint_bits e he
  replace hnum := hnum hne
  rw [UsbDevice.usbdLlStallEp]
  by_cases hin : e &&& 0x80 = 0x80
  · rw [if_pos hin]
    refine ⟨_, rfl, ?_⟩
    simp only [UsbDevice.stallIn, if_neg hnum]
    exact h.haltIn hin true
  · obtain ⟨hmask, hlt⟩ := hout hin
    have hmasked : e.toNat = (e &&& epAddrMsk).toNat := by rw [hmask]
    rw [if_neg hin, if_pos hlt, hmasked]
    refine ⟨_, rfl, ?_⟩
    simp only [UsbDevice.stallOut, if_neg hnum]
    exact h.haltOut hin true

/-- It goes on. -/
theorem Begun.usbdLlClearStallEp {n : ℕ} {e : UInt8} (h : Begun d f n) (he : e &&& 0x78 = 0)
    (hne : ¬ (e = 0x00 ∨ e = 0x80)) :
    Begun (d.usbdLlClearStallEp e) (f.setHalted e false) n := by
  obtain ⟨-, hnum, -, hle⟩ := endpoint_bits e he
  replace hnum := hnum hne
  simp only [UsbDevice.usbdLlClearStallEp, if_neg (Nat.not_lt.2 hle), if_neg hnum]
  by_cases hin : e &&& 0x80 = 0x80
  · rw [if_pos hin]
    exact h.haltIn hin false
  · rw [if_neg hin]
    exact h.haltOut hin false

theorem setHalted_address (e : UInt8) (on : Bool) : (f.setHalted e on).address = f.address := by
  unfold UsbFunction.setHalted
  split <;> rfl

/-- A request for an endpoint that only a configured device grants. -/
theorem answered_halt_addressed {e : UInt8} {on : Bool} (hallows : f.allows (.halt e on))
    (h : Begun d f 0) (hstate : f.state = .addressed) :
    ∃ d', (if e ≠ 0x00 ∧ e ≠ 0x80 then (d.usbdLlStallEp e).map (stallIn 0)
        else some d.usbdCtlError) = some d' ∧ Prepared pDesc f (.halt e on) d' := by
  replace h : Begun d f (ControlRequest.halt e on).length := h
  have hbits : e &&& 0x78 = 0 := beq_iff_eq.1 hallows
  have hans : f.answer pDesc (.halt e on) =
      (.refused, if e = 0x00 ∨ e = 0x80 then f else f.setHalted e true) := by
    simp only [UsbFunction.answer, hstate]
  by_cases hzero : e = 0x00 ∨ e = 0x80
  · rw [if_pos hzero] at hans
    rw [if_neg (not_and_or.2 (hzero.imp not_not.2 not_not.2))]
    exact ⟨_, rfl, h.answered_refused hans⟩
  · rw [if_neg hzero] at hans
    rw [if_pos (not_or.1 hzero)]
    obtain ⟨d', hd', hbegun⟩ := h.usbdLlStallEp hbits hzero
    rw [hd']
    exact ⟨_, rfl, .refused ⟨hans, setHalted_address _ _, hbegun.toSteady.stallIn⟩
      ⟨⟨hbegun.noRx, hbegun.noTx⟩, rfl, fun hnil => absurd rfl hnil⟩⟩

theorem answered_halt_configured {e : UInt8} {on : Bool} (hallows : f.allows (.halt e on))
    (h : Begun d f 0) (hstate : f.state = .configured) :
    ∃ d', (if ¬ (e = 0x00 ∨ e = 0x80) then
          if on then (d.usbdLlStallEp e).map usbdCtlSendStatus
          else some (d.usbdLlClearStallEp e).usbdCtlSendStatus
        else some d.usbdCtlSendStatus) = some d' ∧ Prepared pDesc f (.halt e on) d' := by
  replace h : Begun d f (ControlRequest.halt e on).length := h
  have hbits : e &&& 0x78 = 0 := beq_iff_eq.1 hallows
  have hans : f.answer pDesc (.halt e on) =
      (.ok, if e = 0x00 ∨ e = 0x80 then f else f.setHalted e on) := by
    simp only [UsbFunction.answer, hstate]
  by_cases hzero : e = 0x00 ∨ e = 0x80
  · rw [if_pos hzero] at hans
    rw [if_neg (not_not.2 hzero)]
    exact ⟨_, rfl, h.answered_ok hans rfl⟩
  rw [if_neg hzero] at hans
  rw [if_pos hzero]
  -- endpoint zero is not concerned
  have hgo {d' : UsbDevice} (hbegun : Begun d' (f.setHalted e on) 0) :
      Prepared pDesc f (.halt e on) d'.usbdCtlSendStatus :=
    Grants.answered
      ⟨hans, hbegun.toShows, hbegun.data, hbegun.daddr.trans (setHalted_address e on),
        .inl ⟨hbegun.pending, setHalted_address e on⟩⟩ rfl hbegun.toRests
  cases on with
  | true =>
      obtain ⟨d', hd', hbegun⟩ := h.usbdLlStallEp hbits hzero
      rw [if_pos rfl, hd']
      exact ⟨_, rfl, hgo hbegun⟩
  | false => exact ⟨_, rfl, hgo (h.usbdLlClearStallEp hbits hzero)⟩

theorem answered_halt (pDesc : UsbdDescriptors) {e : UInt8} {on : Bool}
    (hallows : f.allows (.halt e on)) (h : Begun d f 0) :
    ∃ d', (if on then d.usbdEpSetFeature (ControlRequest.halt e on).setup
        else d.usbdEpClearFeature (ControlRequest.halt e on).setup) = some d' ∧
      Prepared pDesc f (.halt e on) d' := by
  have hbits := endpoint_bits e (beq_iff_eq.1 hallows)
  have hindex : lo (ControlRequest.halt e on).setup.wIndex = e := lo_le16 e 0
  have hvalue : (ControlRequest.halt e on).setup.wValue = usbFeatureEpHalt := rfl
  have hlength : (ControlRequest.halt e on).setup.wLength = 0 := rfl
  simp only [usbdEpSetFeature, usbdEpClearFeature, hindex, hvalue, hlength, h.state]
  cases hstate : f.state with
  | default =>
      rw [ite_self]
      refine ⟨_, rfl, Begun.answered_refused h ?_⟩
      simp only [UsbFunction.answer, hstate]
  | addressed =>
      rw [ite_self]
      exact answered_halt_addressed hallows h hstate
  | configured =>
      obtain ⟨d', hd', hanswered⟩ := answered_halt_configured hallows h hstate
      refine ⟨d', ?_, hanswered⟩
      rw [← hd']
      cases on with
      | true => simp only [true_and, and_true, if_true, not_or]
      | false =>
          simp only [ne_eq, hbits.2.2.1, Bool.false_eq_true, if_false, if_true]
  | suspended => exact absurd hstate f.state_ne_suspended

/-- Which endpoints a configured device uses. -/
theorem isUsed_iff {e : UInt8} (h : Shows d f) (hconfigured : f.configured = true)
    (he : e &&& 0x70 = 0) :
    (if e &&& 0x80 = 0x80 then d.isUsedIn (e &&& 0x0F).toNat
      else d.isUsedOut (e &&& 0x0F).toNat) = decide (e ∈ UsbFunction.endpoints) := by
  rw [h.usedIn, h.usedOut, hconfigured]
  by_cases hmem : e ∈ UsbFunction.endpoints
  · obtain ⟨hin, hout, -⟩ := isUsed_bits e hmem
    rw [decide_eq_true hmem]
    split
    · rename_i h80
      rcases hin h80 with hn | hn | hn <;> simp [hn]
    · rename_i h80
      rcases hout h80 with hn | hn <;> simp [hn]
  · obtain ⟨hin, hout⟩ := not_isUsed_bits e he hmem
    rw [decide_eq_false hmem]
    split
    · rename_i h80
      obtain ⟨h0, h1, h2⟩ := hin h80
      rw [beq_eq_false_iff_ne.2 h0, beq_eq_false_iff_ne.2 h1, beq_eq_false_iff_ne.2 h2]
      rfl
    · rename_i h80
      obtain ⟨h0, h1⟩ := hout h80
      rw [beq_eq_false_iff_ne.2 h0, beq_eq_false_iff_ne.2 h1]
      rfl

theorem isHalted_of_zero {e : UInt8} (h : (e &&& epAddrMsk).toNat = 0) : f.isHalted e = false := by
  simp only [UsbFunction.isHalted, h, bne_self_eq_false, Bool.false_and]

/-- What is reported of an endpoint that is used. -/
theorem usbdLlIsStallEp_eq {e : UInt8} (h : Shows d f) (hmem : e ∈ UsbFunction.endpoints)
    (hne : (e &&& epAddrMsk).toNat ≠ 0) : d.usbdLlIsStallEp e = some (f.isHalted e) := by
  obtain ⟨-, -, hnum, hlt, -⟩ := isUsed_bits e hmem
  simp only [usbdLlIsStallEp, hnum, if_pos hlt, UsbFunction.isHalted, bne_iff_ne.2 hne,
    Bool.true_and, h.haltedIn _ hne, h.haltedOut _ hne]

theorem answered_getStatus_configured {e : UInt8}
    (hallows : f.allows (.getStatus (.endpoint e)))
    (h : Begun d f (ControlRequest.getStatus (.endpoint e)).length)
    (hconfigured : f.configured = true)
    (hphase : (ControlRequest.getStatus (.endpoint e)).firstPhase =
      .dataIn (.getStatus (.endpoint e)) []) :
    ∃ d', (if !(if e &&& 0x80 = 0x80 then d.isUsedIn (e &&& 0x0F).toNat
          else d.isUsedOut (e &&& 0x0F).toNat) then some d.usbdCtlError
        else if (e &&& 0x7F).toNat ≥ 16 then none
        else if e = 0x00 ∨ e = 0x80 then some (d.usbdCtlSendData (.bytes [0, 0]) 2)
        else (d.usbdLlIsStallEp e).map fun stall =>
          d.usbdCtlSendData (.bytes [if stall then 1 else 0, 0]) 2) = some d' ∧
      Prepared pDesc f (.getStatus (.endpoint e)) d' := by
  rw [isUsed_iff h.toShows hconfigured (beq_iff_eq.1 hallows)]
  have hans : f.answer pDesc (.getStatus (.endpoint e)) =
      (if e ∈ UsbFunction.endpoints then .data [if f.isHalted e then 1 else 0, 0]
        else .refused, f) := by
    simp only [UsbFunction.answer, hconfigured, if_true]
  by_cases hmem : e ∈ UsbFunction.endpoints
  · obtain ⟨-, -, hnum, hlt, hzero⟩ := isUsed_bits e hmem
    have hlt16 : ¬ (e &&& 0x7F).toNat ≥ 16 := by
      unfold pcdEndpoints at hlt
      omega
    rw [if_pos hmem] at hans
    simp only [hmem, decide_true, Bool.not_true, Bool.false_eq_true, if_false, hlt16]
    by_cases h0 : (e &&& epAddrMsk).toNat = 0
    · rw [isHalted_of_zero h0] at hans
      rw [if_pos (hzero.2 h0)]
      exact ⟨_, rfl, h.answered_bytes [0, 0] hans hphase (by simp) (Nat.le_refl 2)⟩
    · rw [if_neg fun hc => h0 (hzero.1 hc), usbdLlIsStallEp_eq h.toShows hmem h0]
      exact ⟨_, rfl, h.answered_bytes _ hans hphase (by simp) (Nat.le_refl 2)⟩
  · rw [if_neg hmem] at hans
    simp only [hmem, decide_false, Bool.not_false, if_true]
    exact ⟨_, rfl, h.answered_refused hans⟩

theorem answered_getStatus_endpoint {e : UInt8} (hallows : f.allows (.getStatus (.endpoint e)))
    (h : Begun d f 2) :
    ∃ d', d.usbdEpGetStatus (ControlRequest.getStatus (.endpoint e)).setup = some d' ∧
      Prepared pDesc f (.getStatus (.endpoint e)) d' := by
  replace h : Begun d f (ControlRequest.getStatus (.endpoint e)).length := h
  have hindex : lo (ControlRequest.getStatus (.endpoint e)).setup.wIndex = e := lo_le16 e 0
  have hphase : (ControlRequest.getStatus (.endpoint e)).firstPhase =
      .dataIn (.getStatus (.endpoint e)) [] :=
    ControlRequest.firstPhase_of_in (Nat.succ_ne_zero 1) endpointIn_bits.2.2
  simp only [usbdEpGetStatus, hindex, h.state]
  cases hstate : f.state with
  | default =>
      obtain ⟨hconfigured, haddress⟩ := UsbFunction.state_eq_default.1 hstate
      refine ⟨_, rfl, h.answered_refused ?_⟩
      simp [UsbFunction.answer, hconfigured, haddress]
  | addressed =>
      obtain ⟨hconfigured, haddress⟩ := UsbFunction.state_eq_addressed.1 hstate
      by_cases hzero : e = 0x00 ∨ e = 0x80
      · rw [if_neg (not_and_or.2 (hzero.imp not_not.2 not_not.2))]
        have hnum : (e &&& epAddrMsk).toNat = 0 := by
          rcases hzero with rfl | rfl <;> rfl
        refine ⟨_, rfl, h.answered_bytes [0, 0] ?_ hphase (by simp) (Nat.le_refl 2)⟩
        simp [UsbFunction.answer, hconfigured, haddress, hzero, isHalted_of_zero hnum]
      · rw [if_pos (not_or.1 hzero)]
        refine ⟨_, rfl, h.answered_refused ?_⟩
        simp [UsbFunction.answer, hconfigured, haddress, not_or.1 hzero]
  | configured =>
      exact answered_getStatus_configured hallows h (UsbFunction.state_eq_configured.1 hstate)
        hphase
  | suspended => exact absurd hstate f.state_ne_suspended

/-! ### The setup stage -/

/-- A standard request about the device. -/
theorem usbdLlSetupStage_device {req : UsbdSetupReq}
    (hrecipient : req.bmRequest &&& 0x1F = usbReqRecipientDevice)
    (htype : req.bmRequest &&& usbReqTypeMask = usbReqTypeStandard) :
    d.usbdLlSetupStage pDesc req.bytes =
      let d := { d with ep0State := .setup, ep0DataLen := req.wLength.toNat }
      some <|
        if req.bRequest = usbReqGetDescriptor then d.usbdGetDescriptor pDesc req
        else if req.bRequest = usbReqSetAddress then d.usbdSetAddress req
        else if req.bRequest = usbReqSetConfiguration then d.usbdSetConfig req
        else if req.bRequest = usbReqGetConfiguration then d.usbdGetConfig req
        else if req.bRequest = usbReqGetStatus then d.usbdGetStatus req
        else if req.bRequest = usbReqSetFeature then d.usbdSetFeature req
        else if req.bRequest = usbReqClearFeature then d.usbdClrFeature req
        else d.usbdCtlError := by
  simp only [usbdLlSetupStage, usbdParseSetupRequest_bytes, if_pos hrecipient, usbdStdDevReq, htype]
  rw [if_neg (by decide), if_pos trivial]

/-- A request about an interface. -/
theorem usbdLlSetupStage_interface {req : UsbdSetupReq}
    (hrecipient : req.bmRequest &&& 0x1F = usbReqRecipientInterface) :
    d.usbdLlSetupStage pDesc req.bytes =
      { d with ep0State := .setup, ep0DataLen := req.wLength.toNat }.usbdStdItfReq req := by
  simp only [usbdLlSetupStage, usbdParseSetupRequest_bytes, hrecipient]
  rw [if_neg (by decide), if_pos trivial]

/-- A standard request about an endpoint. -/
theorem usbdLlSetupStage_endpoint {req : UsbdSetupReq}
    (hrecipient : req.bmRequest &&& 0x1F = usbReqRecipientEndpoint)
    (htype : req.bmRequest &&& usbReqTypeMask = usbReqTypeStandard) :
    d.usbdLlSetupStage pDesc req.bytes =
      let d := { d with ep0State := .setup, ep0DataLen := req.wLength.toNat }
      if req.bRequest = usbReqSetFeature then d.usbdEpSetFeature req
      else if req.bRequest = usbReqClearFeature then d.usbdEpClearFeature req
      else if req.bRequest = usbReqGetStatus then d.usbdEpGetStatus req
      else some d.usbdCtlError := by
  simp only [usbdLlSetupStage, usbdParseSetupRequest_bytes, hrecipient]
  rw [if_neg (by decide), if_neg (by decide), if_pos trivial, usbdStdEpReq]
  simp only [htype]
  rw [if_neg (by decide), if_pos trivial]

/-- **Every request that a host may make is answered.** -/
theorem answered_usbdLlSetupStage (hfilled : Filled pDesc) (hallows : f.allows r)
    (h : Steady d f) (hrests : d.Rests) (htx : d.txStat = .nak) (hrx : d.rxStat = .nak) :
    ∃ d', d.usbdLlSetupStage pDesc r.setup.bytes = some d' ∧ Prepared pDesc f r d' := by
  have hbegun (n : ℕ) : Begun { d with ep0State := .setup, ep0DataLen := n } f n :=
    { h with noRx := hrests.noRx, noTx := hrests.noTx, tx := htx, rx := hrx, asked := rfl }
  cases r with
  | getDescriptor type index langId length =>
      rw [usbdLlSetupStage_device deviceIn_bits.1 deviceIn_bits.2.1]
      exact ⟨_, rfl, answered_usbdGetDescriptor hfilled (hbegun _)⟩
  | setAddress address =>
      rw [usbdLlSetupStage_device deviceOut_bits.1 deviceOut_bits.2.1]
      exact ⟨_, rfl, answered_usbdSetAddress hallows (hbegun _)⟩
  | setConfiguration value =>
      rw [usbdLlSetupStage_device deviceOut_bits.1 deviceOut_bits.2.1]
      exact ⟨_, rfl, answered_usbdSetConfig (hbegun _)⟩
  | getConfiguration =>
      rw [usbdLlSetupStage_device deviceIn_bits.1 deviceIn_bits.2.1]
      exact ⟨_, rfl, answered_usbdGetConfig (hbegun _)⟩
  | getStatus recipient =>
      cases recipient with
      | device =>
          rw [usbdLlSetupStage_device deviceIn_bits.1 deviceIn_bits.2.1]
          exact ⟨_, rfl, answered_usbdGetStatus (hbegun _)⟩
      | interface number =>
          rw [usbdLlSetupStage_interface interfaceIn_bits.1]
          exact answered_getStatus_interface (hbegun _)
      | endpoint address =>
          rw [usbdLlSetupStage_endpoint endpointIn_bits.1 endpointIn_bits.2.1]
          exact answered_getStatus_endpoint hallows (hbegun _)
  | remoteWakeup on =>
      rw [usbdLlSetupStage_device deviceOut_bits.1 deviceOut_bits.2.1]
      refine ⟨_, rfl, ?_⟩
      have hgo := answered_usbdFeature pDesc on (hbegun 0)
      cases on with
      | true => exact hgo
      | false => exact hgo
  | halt endpoint on =>
      rw [usbdLlSetupStage_endpoint endpointOut_bits.1 endpointOut_bits.2.1]
      have hgo := answered_halt pDesc hallows (hbegun 0)
      cases on with
      | true => exact hgo
      | false => exact hgo
  | getInterface number =>
      rw [usbdLlSetupStage_interface interfaceIn_bits.1]
      exact answered_getInterface (hbegun _)
  | setInterface number alternate =>
      rw [usbdLlSetupStage_interface interfaceOut_bits.1]
      exact answered_setInterface (hbegun _)
  | classRead request number value length =>
      rw [usbdLlSetupStage_interface classIn_bits.1]
      exact answered_classRead hallows (hbegun _)
  | classWrite request number value data =>
      rw [usbdLlSetupStage_interface classOut_bits.1]
      exact answered_classWrite hallows (hbegun _)
  | classCommand request number value =>
      rw [usbdLlSetupStage_interface classOut_bits.1]
      exact answered_classCommand (hbegun _)

end

end Solar48
