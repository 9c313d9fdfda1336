/-
**What a host should not ask.**

The answers of the device are those of `Solar48.UsbFunction` as long as the host asks what it may.
Two kinds of requests show why: some `SETUP` packets lead the program past the end of an array or
along a null pointer, and these can be told exactly from the packet and from what the host knows;
and a device that goes back to address zero does so too early, and the host never gets its answer.

Main definitions:

* `Solar48.UsbFunction.Breaks` — the packets that lead out of the program;
* `Solar48.Deaf` — the device has left the address at which it was asked.

Main results:

* `Solar48.setup_breaks_iff` — **exactly these packets do**, of all that a host may send between two
  transfers;
* `Solar48.setAddress_zero_unanswered` — **a device that is sent back to address zero never
  confirms it**.
-/

import Solar48.ControlReplies

set_option relaxedAutoImplicit false
set_option autoImplicit false

namespace Solar48

open ByteMem StepSystem UsbDevice

/-! ### A report stays until it is looked at -/

section

variable {pDesc : UsbdDescriptors} {d d' : UsbDevice} {req : UsbdSetupReq}

theorem ctrTx_usbdLlStallEp {e : UInt8} (h : d.usbdLlStallEp e = some d') :
    d'.ctrTx = d.ctrTx := by
  unfold usbdLlStallEp at h
  repeat' split at h
  all_goals
    cases h
    try rfl

theorem ctrTx_usbdLlClearStallEp (e : UInt8) (d : UsbDevice) :
    (d.usbdLlClearStallEp e).ctrTx = d.ctrTx := by
  simp only [usbdLlClearStallEp]
  repeat' split
  all_goals rfl

theorem ctrTx_usbdCdcSetup {ok : Bool} (h : d.usbdCdcSetup req = some (d', ok)) :
    d'.ctrTx = d.ctrTx := by
  unfold usbdCdcSetup at h
  repeat' split at h
  all_goals
    cases h
    try rfl

theorem ctrTx_usbdGetDescriptor (pDesc : UsbdDescriptors) (req : UsbdSetupReq) (d : UsbDevice) :
    (d.usbdGetDescriptor pDesc req).ctrTx = d.ctrTx := by
  simp only [usbdGetDescriptor]
  repeat' split
  all_goals rfl

theorem ctrTx_usbdSetAddress (req : UsbdSetupReq) (d : UsbDevice) :
    (d.usbdSetAddress req).ctrTx = d.ctrTx := by
  simp only [usbdSetAddress]
  repeat' split
  all_goals rfl

theorem ctrTx_usbdSetConfig (req : UsbdSetupReq) (d : UsbDevice) :
    (d.usbdSetConfig req).ctrTx = d.ctrTx := by
  simp only [usbdSetConfig]
  repeat' split
  all_goals rfl

theorem ctrTx_usbdGetConfig (req : UsbdSetupReq) (d : UsbDevice) :
    (d.usbdGetConfig req).ctrTx = d.ctrTx := by
  simp only [usbdGetConfig]
  repeat' split
  all_goals rfl

theorem ctrTx_usbdGetStatus (req : UsbdSetupReq) (d : UsbDevice) :
    (d.usbdGetStatus req).ctrTx = d.ctrTx := by
  simp only [usbdGetStatus]
  repeat' split
  all_goals rfl

theorem ctrTx_usbdSetFeature (req : UsbdSetupReq) (d : UsbDevice) :
    (d.usbdSetFeature req).ctrTx = d.ctrTx := by
  simp only [usbdSetFeature]
  split <;> rfl

theorem ctrTx_usbdClrFeature (req : UsbdSetupReq) (d : UsbDevice) :
    (d.usbdClrFeature req).ctrTx = d.ctrTx := by
  simp only [usbdClrFeature]
  repeat' split
  all_goals rfl

theorem ctrTx_usbdStdDevReq (h : d.usbdStdDevReq pDesc req = some d') : d'.ctrTx = d.ctrTx := by
  simp only [usbdStdDevReq] at h
  split at h
  · obtain ⟨⟨_, ok⟩, hsetup, rfl⟩ := Option.map_eq_some_iff.1 h
    exact ctrTx_usbdCdcSetup hsetup
  · split at h
    · rw [← Option.some.inj h]
      repeat' split
      · exact ctrTx_usbdGetDescriptor pDesc req d
      · exact ctrTx_usbdSetAddress req d
      · exact ctrTx_usbdSetConfig req d
      · exact ctrTx_usbdGetConfig req d
      · exact ctrTx_usbdGetStatus req d
      · exact ctrTx_usbdSetFeature req d
      · exact ctrTx_usbdClrFeature req d
      · rfl
    · cases h
      rfl

theorem ctrTx_usbdStdItfReq (h : d.usbdStdItfReq req = some d') : d'.ctrTx = d.ctrTx := by
  simp only [usbdStdItfReq] at h
  split at h
  · split at h
    · cases h
      rfl
    · split at h
      · obtain ⟨⟨d₁, ok⟩, hsetup, hd'⟩ := Option.map_eq_some_iff.1 h
        rw [← ctrTx_usbdCdcSetup hsetup, ← hd']
        split <;> rfl
      · cases h
        rfl
  · cases h
    rfl

/-- What a request about an endpoint does once it has stalled the endpoint. -/
theorem ctrTx_stalled {e : UInt8} (g : UsbDevice → UsbDevice) (hg : ∀ d, (g d).ctrTx = d.ctrTx)
    (h : (d.usbdLlStallEp e).map g = some d') : d'.ctrTx = d.ctrTx := by
  obtain ⟨d₁, hstall, rfl⟩ := Option.map_eq_some_iff.1 h
  rw [hg, ctrTx_usbdLlStallEp hstall]

theorem ctrTx_usbdEpSetFeature (h : d.usbdEpSetFeature req = some d') : d'.ctrTx = d.ctrTx := by
  simp only [usbdEpSetFeature] at h
  repeat' split at h
  · exact ctrTx_stalled (stallIn 0) (fun _ => rfl) h
  · cases h
    rfl
  · exact ctrTx_stalled usbdCtlSendStatus (fun _ => rfl) h
  · cases h
    rfl
  · cases h
    rfl

theorem ctrTx_usbdEpClearFeature (h : d.usbdEpClearFeature req = some d') :
    d'.ctrTx = d.ctrTx := by
  simp only [usbdEpClearFeature] at h
  repeat' split at h
  · exact ctrTx_stalled (stallIn 0) (fun _ => rfl) h
  · cases h
    rfl
  · cases h
    exact ctrTx_usbdLlClearStallEp _ d
  all_goals
    cases h
    rfl

theorem ctrTx_usbdEpGetStatus (h : d.usbdEpGetStatus req = some d') : d'.ctrTx = d.ctrTx := by
  simp only [usbdEpGetStatus] at h
  repeat' split at h
  all_goals try
    cases h
    try rfl
  all_goals
    obtain ⟨stall, -, rfl⟩ := Option.map_eq_some_iff.1 h
    rfl

theorem ctrTx_usbdStdEpReq (h : d.usbdStdEpReq req = some d') : d'.ctrTx = d.ctrTx := by
  simp only [usbdStdEpReq] at h
  repeat' split at h
  · obtain ⟨⟨_, ok⟩, hsetup, rfl⟩ := Option.map_eq_some_iff.1 h
    exact ctrTx_usbdCdcSetup hsetup
  · exact ctrTx_usbdEpSetFeature h
  · exact ctrTx_usbdEpClearFeature h
  · exact ctrTx_usbdEpGetStatus h
  · cases h
    rfl
  · cases h
    rfl

/-- What a request does to the report of the last packet that was sent. -/
theorem ctrTx_usbdLlSetupStage {psetup : List UInt8}
    (h : d.usbdLlSetupStage pDesc psetup = some d') : d'.ctrTx = d.ctrTx := by
  simp only [usbdLlSetupStage] at h
  repeat' split at h
  · exact (ctrTx_usbdStdDevReq h).trans rfl
  · exact (ctrTx_usbdStdItfReq h).trans rfl
  · exact (ctrTx_usbdStdEpReq h).trans rfl
  · exact (ctrTx_usbdLlStallEp h).trans rfl

end

/-! ### Packets that lead out of the program -/

/-- An OUT endpoint that the handle has no place for. -/
def NoPlace (e : UInt8) : Prop := e &&& 0x80 ≠ 0x80 ∧ pcdEndpoints ≤ e.toNat

/-- A class request with data, before the device is configured. -/
def UsbFunction.LacksData (f : UsbFunction) (req : UsbdSetupReq) : Prop :=
  req.bmRequest &&& usbReqTypeMask = usbReqTypeClass ∧ req.wLength ≠ 0 ∧ f.configured = false

/-- A standard request about an endpoint that is looked up where there is none. -/
def UsbFunction.LeavesArray (f : UsbFunction) (req : UsbdSetupReq) : Prop :=
  let e := lo req.wIndex
  req.bRequest = usbReqSetFeature ∧ NoPlace e ∧ (f.state = .addressed ∨
      f.state = .configured ∧ req.wValue = usbFeatureEpHalt ∧ req.wLength = 0) ∨
    req.bRequest = usbReqClearFeature ∧ NoPlace e ∧ f.state = .addressed ∨
    req.bRequest = usbReqGetStatus ∧ f.state = .configured ∧ e &&& 0x70 ≠ 0 ∧
      e &&& 0x8F ∈ UsbFunction.endpoints

/-- **The packets that lead out of the program**, by whom they are about. -/
def UsbFunction.Breaks (f : UsbFunction) (req : UsbdSetupReq) : Prop :=
  let recipient := req.bmRequest &&& 0x1F
  recipient = usbReqRecipientDevice ∧ f.LacksData req ∨
    recipient = usbReqRecipientInterface ∧ f.LacksData req ∧ lo req.wIndex ≤ 1 ∨
    recipient = usbReqRecipientEndpoint ∧ (f.LacksData req ∨
      req.bmRequest &&& usbReqTypeMask = usbReqTypeStandard ∧ f.LeavesArray req)

section

variable {pDesc : UsbdDescriptors} {d : UsbDevice} {f : UsbFunction} {req : UsbdSetupReq}

theorem usbdLlStallEp_eq_none {e : UInt8} : d.usbdLlStallEp e = none ↔ NoPlace e := by
  unfold usbdLlStallEp NoPlace
  split
  · rename_i hin
    simp [hin]
  · rename_i hout
    split
    · rename_i hlt
      simp [hlt]
    · rename_i hge
      simp [hout, Nat.le_of_not_lt hge]

/-- Endpoint zero has its place. -/
theorem NoPlace.ne_zero {e : UInt8} (h : NoPlace e) : e ≠ 0x00 ∧ e ≠ 0x80 := by
  constructor
  · rintro rfl
    exact absurd h.2 (by decide)
  · rintro rfl
    exact h.1 rfl

theorem usbdCdcSetup_eq_none (h : Shows d f) : d.usbdCdcSetup req = none ↔ f.LacksData req := by
  unfold usbdCdcSetup UsbFunction.LacksData
  rw [h.hasData]
  by_cases htype : req.bmRequest &&& usbReqTypeMask = usbReqTypeClass
  · rw [if_pos htype]
    by_cases hlength : req.wLength = 0
    · simp [hlength]
    · cases hconfigured : f.configured with
      | true =>
          simp only [hlength, ne_eq, not_false_eq_true, if_true, Bool.not_true,
            Bool.false_eq_true, if_false]
          split <;> simp
      | false => simp [htype, hlength]
  · simp only [htype, if_false, false_and, iff_false]
    repeat' split
    all_goals exact Option.some_ne_none _

theorem usbdStdDevReq_eq_none (h : Shows d f) :
    d.usbdStdDevReq pDesc req = none ↔ f.LacksData req := by
  simp only [usbdStdDevReq]
  by_cases htype : req.bmRequest &&& usbReqTypeMask = usbReqTypeClass ∨
      req.bmRequest &&& usbReqTypeMask = usbReqTypeVendor
  · rw [if_pos htype, Option.map_eq_none_iff, usbdCdcSetup_eq_none h]
  · rw [if_neg htype]
    refine iff_of_false ?_ fun hlacks => htype (.inl hlacks.1)
    split <;> exact Option.some_ne_none _

theorem usbdStdItfReq_eq_none (h : Shows d f) :
    d.usbdStdItfReq req = none ↔ f.LacksData req ∧ lo req.wIndex ≤ 1 := by
  simp only [usbdStdItfReq]
  have hstate : d.devState ≠ .suspended := h.state ▸ f.state_ne_suspended
  by_cases htype : req.bmRequest &&& usbReqTypeMask = usbReqTypeClass ∨
      req.bmRequest &&& usbReqTypeMask = usbReqTypeVendor ∨
      req.bmRequest &&& usbReqTypeMask = usbReqTypeStandard
  · rw [if_pos htype, if_neg hstate]
    by_cases hnumber : lo req.wIndex ≤ 1
    · rw [if_pos (by exact hnumber), Option.map_eq_none_iff, usbdCdcSetup_eq_none h]
      exact (and_iff_left hnumber).symm
    · rw [if_neg (by exact hnumber)]
      exact iff_of_false (Option.some_ne_none _) fun hlacks => hnumber hlacks.2
  · rw [if_neg htype]
    exact iff_of_false (Option.some_ne_none _) fun hlacks => htype (.inl hlacks.1.1)

theorem usbdEpSetFeature_eq_none (h : Shows d f) : d.usbdEpSetFeature req = none ↔
    NoPlace (lo req.wIndex) ∧ (f.state = .addressed ∨
      f.state = .configured ∧ req.wValue = usbFeatureEpHalt ∧ req.wLength = 0) := by
  simp only [usbdEpSetFeature, h.state]
  cases hstate : f.state with
  | addressed =>
      simp only [true_or, and_true]
      split
      · rw [Option.map_eq_none_iff, usbdLlStallEp_eq_none]
      · rename_i hzero
        exact iff_of_false (Option.some_ne_none _) fun hplace => hzero hplace.ne_zero
  | configured =>
      simp only [reduceCtorEq, false_or, true_and]
      split
      · rename_i hhalt
        rw [Option.map_eq_none_iff, usbdLlStallEp_eq_none]
        exact (and_iff_left ⟨hhalt.1, hhalt.2.2.2⟩).symm
      · rename_i hnot
        refine iff_of_false (Option.some_ne_none _) fun hbreaks => hnot ?_
        have hzero := hbreaks.1.ne_zero
        exact ⟨hbreaks.2.1, hzero.1, hzero.2, hbreaks.2.2⟩
  | default => simp
  | suspended => simp

theorem usbdEpClearFeature_eq_none (h : Shows d f) : d.usbdEpClearFeature req = none ↔
    NoPlace (lo req.wIndex) ∧ f.state = .addressed := by
  simp only [usbdEpClearFeature, h.state]
  cases hstate : f.state with
  | addressed =>
      simp only [and_true]
      split
      · rw [Option.map_eq_none_iff, usbdLlStallEp_eq_none]
      · rename_i hzero
        exact iff_of_false (Option.some_ne_none _) fun hplace => hzero hplace.ne_zero
  | configured =>
      simp only [reduceCtorEq, and_false, iff_false]
      split
      · split <;> exact Option.some_ne_none _
      · exact Option.some_ne_none _
  | default => simp
  | suspended => simp

/-- The bits that `USBD_StdEPReq` looks at first, and those that it looks at then. -/
theorem used_bits : ∀ e : UInt8, (e &&& 0x8F) &&& 0x70 = 0 ∧
    ((e &&& 0x8F) &&& 0x80 = 0x80 ↔ e &&& 0x80 = 0x80) ∧ (e &&& 0x8F) &&& 0x0F = e &&& 0x0F ∧
    (e &&& 0x70 ≠ 0 → 16 ≤ (e &&& 0x7F).toNat) ∧
    (e &&& 0x70 = 0 → e &&& 0x8F ∈ UsbFunction.endpoints → (e &&& 0x7F).toNat < pcdEndpoints) :=
  forall_byte (by decide +kernel)

theorem usbdEpGetStatus_eq_none (h : Shows d f) : d.usbdEpGetStatus req = none ↔
    f.state = .configured ∧ lo req.wIndex &&& 0x70 ≠ 0 ∧
      lo req.wIndex &&& 0x8F ∈ UsbFunction.endpoints := by
  simp only [usbdEpGetStatus, h.state]
  cases hstate : f.state with
  | configured =>
      obtain ⟨hlow, hin, hnum, houtside, hinside⟩ := used_bits (lo req.wIndex)
      have hused := isUsed_iff h (UsbFunction.state_eq_configured.1 hstate) hlow
      rw [hnum, if_congr hin rfl rfl] at hused
      simp only [hused, true_and]
      by_cases hmem : lo req.wIndex &&& 0x8F ∈ UsbFunction.endpoints
      · by_cases h70 : lo req.wIndex &&& 0x70 = 0
        · have hlt := hinside h70 hmem
          have hlt16 : ¬ (lo req.wIndex &&& 0x7F).toNat ≥ 16 := by
            unfold pcdEndpoints at hlt
            omega
          simp only [hmem, decide_true, Bool.not_true, Bool.false_eq_true, if_false, hlt16, h70,
            ne_eq, not_true_eq_false, false_and, iff_false]
          split
          · exact Option.some_ne_none _
          · rw [usbdLlIsStallEp, if_pos hlt]
            exact Option.some_ne_none _
        · have hge : (lo req.wIndex &&& 0x7F).toNat ≥ 16 := houtside h70
          simp only [hmem, decide_true, Bool.not_true, Bool.false_eq_true, if_false, hge, if_true,
            h70, ne_eq, not_false_eq_true, and_self]
      · simp [hmem]
  | addressed =>
      simp only [reduceCtorEq, false_and, iff_false]
      split <;> exact Option.some_ne_none _
  | default => simp
  | suspended => simp

theorem usbReq_ne : usbReqSetFeature ≠ usbReqClearFeature ∧ usbReqSetFeature ≠ usbReqGetStatus ∧
    usbReqClearFeature ≠ usbReqGetStatus := by decide

theorem usbReqRecipient_ne : usbReqRecipientDevice ≠ usbReqRecipientInterface ∧
    usbReqRecipientDevice ≠ usbReqRecipientEndpoint ∧
    usbReqRecipientInterface ≠ usbReqRecipientEndpoint := by decide

theorem usbdStdEpReq_eq_none (h : Shows d f) : d.usbdStdEpReq req = none ↔
    f.LacksData req ∨
      req.bmRequest &&& usbReqTypeMask = usbReqTypeStandard ∧ f.LeavesArray req := by
  obtain ⟨hsetClear, hsetGet, hclearGet⟩ := usbReq_ne
  simp only [usbdStdEpReq]
  by_cases htype : req.bmRequest &&& usbReqTypeMask = usbReqTypeClass ∨
      req.bmRequest &&& usbReqTypeMask = usbReqTypeVendor
  · rw [if_pos htype, Option.map_eq_none_iff, usbdCdcSetup_eq_none h]
    refine (or_iff_left fun hstandard => ?_).symm
    rw [hstandard.1] at htype
    exact absurd htype (by decide)
  · have hlacks : ¬ f.LacksData req := fun hlacks => htype (.inl hlacks.1)
    rw [if_neg htype, or_iff_right hlacks]
    by_cases hstandard : req.bmRequest &&& usbReqTypeMask = usbReqTypeStandard
    · rw [if_pos hstandard, and_iff_right hstandard, UsbFunction.LeavesArray]
      by_cases hset : req.bRequest = usbReqSetFeature
      · simp only [hset, if_true, usbdEpSetFeature_eq_none h, hsetClear, hsetGet, true_and,
          false_and, or_false]
      · by_cases hclear : req.bRequest = usbReqClearFeature
        · simp only [hclear, if_true, if_false, usbdEpClearFeature_eq_none h, hsetClear.symm,
            hclearGet, true_and, false_and, or_false, false_or]
        · by_cases hget : req.bRequest = usbReqGetStatus
          · simp only [hget, if_true, if_false, usbdEpGetStatus_eq_none h, hsetGet.symm,
              hclearGet.symm, true_and, false_and, false_or]
          · simp only [hset, hclear, hget, if_false, false_and, or_self, reduceCtorEq]
    · rw [if_neg hstandard]
      exact iff_of_false (Option.some_ne_none _) fun hleaves => hstandard hleaves.1

/-- The direction is a place of its own. -/
theorem not_noPlace : ∀ e : UInt8, ¬ ((e &&& 0x80) &&& 0x80 ≠ 0x80 ∧
    pcdEndpoints ≤ (e &&& 0x80).toNat) := forall_byte (by decide +kernel)

/-- The first packet of a transfer leads out of the program, or it does not. -/
theorem usbdLlSetupStage_eq_none {psetup : List UInt8} (h : Shows d f) :
    d.usbdLlSetupStage pDesc psetup = none ↔ f.Breaks (usbdParseSetupRequest psetup) := by
  obtain ⟨hdeviceItf, hdeviceEp, hitfEp⟩ := usbReqRecipient_ne
  simp only [usbdLlSetupStage, UsbFunction.Breaks]
  generalize usbdParseSetupRequest psetup = req
  have hshows : Shows { d with ep0State := .setup, ep0DataLen := req.wLength.toNat } f :=
    { h with }
  by_cases hdevice : req.bmRequest &&& 0x1F = usbReqRecipientDevice
  · simp only [hdevice, if_true, usbdStdDevReq_eq_none hshows, hdeviceItf, hdeviceEp, true_and,
      false_and, or_false]
  · by_cases hinterface : req.bmRequest &&& 0x1F = usbReqRecipientInterface
    · simp only [hinterface, if_true, if_false, usbdStdItfReq_eq_none hshows, hdeviceItf.symm,
        hitfEp, true_and, false_and, or_false, false_or]
    · by_cases hendpoint : req.bmRequest &&& 0x1F = usbReqRecipientEndpoint
      · simp only [hendpoint, if_true, if_false, usbdStdEpReq_eq_none hshows, hdeviceEp.symm,
          hitfEp.symm, true_and, false_and, false_or]
      · simp only [hdevice, hinterface, hendpoint, if_false, usbdLlStallEp_eq_none, false_and,
          or_self, iff_false]
        exact not_noPlace req.bmRequest

theorem pcdEpIsrHandler_eq_none (hrx : d.ctrRx = true) (hsetup : d.setup = true)
    (htx : d.ctrTx = false) : d.pcdEpIsrHandler pDesc = none ↔
      { d with ctrRx := false }.usbdLlSetupStage pDesc d.rxPacket = none := by
  rw [pcdEpIsrHandler, hrx, if_pos rfl, pcdEp0Rx]
  simp only [hsetup, if_true]
  cases hstage : usbdLlSetupStage pDesc d.rxPacket { d with ctrRx := false, setup := true } with
  | none => simp
  | some d' =>
      have htx' : d'.ctrTx = false := (ctrTx_usbdLlSetupStage hstage).trans htx
      simp [htx']

end

/-- **Which packets lead out of the program.**  Between two transfers, when the interrupt has looked
at everything that came before, these and no others of all the packets that the host may send make
the interrupt that takes them leave it.  Class data that are too long do so later, with the packet
that no longer fits into `data`. -/
theorem setup_breaks_iff {pDesc : UsbdDescriptors} (hfilled : Filled pDesc) {classData : Mem}
    {s : UsbBus}
    (h : Run (busStep pDesc) (busOk pDesc (functionInit classData)) (busInit classData) s)
    (hphase : s.phase = .idle) (hrests : s.dev.Rests) (psetup : List UInt8) :
    (s.dev.receiveSetup psetup).2.pcdEpIsrHandler pDesc = none ↔
      (s.function pDesc (functionInit classData)).Breaks (usbdParseSetupRequest psetup) := by
  have hstands := (busInv_of_run hfilled (busInv_init pDesc classData) h).stands
  rw [hphase] at hstands
  have hshows := (hstands.settled.steady hrests).toShows
  rw [receiveSetup_of_rests hrests]
  rw [pcdEpIsrHandler_eq_none rfl rfl (by exact hrests.noTx)]
  exact usbdLlSetupStage_eq_none { hshows with }

theorem setup_breaks_iff_lineCoding :
    ((busInit fun _ => 0).dev.receiveSetup [0x21, 0x20, 0, 0, 0, 0, 7, 0]).2.pcdEpIsrHandler
        bareDescriptors = none ↔
      ((busInit fun _ => 0).function bareDescriptors (functionInit fun _ => 0)).Breaks
        (usbdParseSetupRequest [0x21, 0x20, 0, 0, 0, 0, 7, 0]) :=
  setup_breaks_iff filled_bareDescriptors .refl rfl ⟨rfl, rfl⟩ _

/-! ### Back to address zero -/

/-- **The device has left the address at which it was asked**, or is about to. -/
inductive Deaf (s : UsbBus) : UsbBus → Prop
  | begun : Deaf s { s with phase := .setup (.setAddress 0) }
  | asked : Deaf s { s with
      dev := (s.dev.receiveSetup (ControlRequest.setAddress 0).setup.bytes).2
      phase := .statusIn (.setAddress 0) }
  | deaf {dev : UsbDevice} (rests : dev.Rests) (elsewhere : dev.daddr ≠ s.address) :
      Deaf s { s with dev, phase := .statusIn (.setAddress 0) }

section

variable {pDesc : UsbdDescriptors} {d : UsbDevice} {f : UsbFunction} {s t u : UsbBus}

theorem Deaf.log (h : Deaf s t) : t.log = s.log ∧ t.phase.request = some (.setAddress 0) := by
  cases h with
  | begun => exact ⟨rfl, rfl⟩
  | asked => exact ⟨rfl, rfl⟩
  | deaf => exact ⟨rfl, rfl⟩

/-- The address is zero before the status stage. -/
theorem usbdSetAddress_zero (hstate : d.devState ≠ .configured) :
    d.usbdSetAddress (ControlRequest.setAddress 0).setup =
      { { d with usbAddress := 0, daddr := 0 }.usbdCtlSendStatus with devState := .default } := by
  rw [usbdSetAddress, if_pos (by decide)]
  exact if_neg hstate

theorem irq_setAddress_zero (pDesc : UsbdDescriptors) (hrests : d.Rests)
    (hstate : d.devState ≠ .configured) :
    ∃ d', (d.receiveSetup (ControlRequest.setAddress 0).setup.bytes).2.pcdEpIsrHandler pDesc =
      some d' ∧ d'.Rests ∧ d'.daddr = 0 := by
  have hstage (e : UsbDevice) (he : e.devState ≠ .configured) :
      e.usbdLlSetupStage pDesc (ControlRequest.setAddress 0).setup.bytes =
        some { ({ e with ep0State := .setup, ep0DataLen := 0, usbAddress := 0, daddr := 0 }
          : UsbDevice).usbdCtlSendStatus with devState := .default } := by
    rw [usbdLlSetupStage_device deviceOut_bits.1 deviceOut_bits.2.1]
    exact congrArg some (usbdSetAddress_zero he)
  have hd' := hstage { d with
    rxPacket := (ControlRequest.setAddress 0).setup.bytes, ctrRx := false, setup := true
    txStat := .nak, rxStat := .nak } hstate
  exact ⟨_, pcdEpIsrHandler_receiveSetup hrests hd' hrests.noTx, ⟨rfl, hrests.noTx⟩, rfl⟩

/-- Whatever comes next, it stays so. -/
theorem Deaf.step (hrests : s.dev.Rests) (hsteady : Steady s.dev f)
    (haddress : s.address = f.address) (hstate : s.dev.devState ≠ .configured)
    (hne : f.address ≠ 0) {turn : BusTurn} (h : Deaf s t)
    (hstep : busStep pDesc turn t = some u) : Deaf s u := by
  have hbusy := h.log.2
  cases turn with
  | request r =>
      obtain ⟨hphase, -⟩ := busStep_request hstep
      rw [hphase] at hbusy
      cases hbusy
  | reset =>
      obtain ⟨hphase | hphase, -⟩ := busStep_reset hstep
      · rw [hphase] at hbusy
        cases hbusy
      · rw [hphase] at hbusy
        cases hbusy
  | suspend =>
      obtain ⟨hphase, -⟩ := busStep_suspend hstep
      rw [hphase] at hbusy
      cases hbusy
  | resume =>
      obtain ⟨hphase, -⟩ := busStep_resume hstep
      rw [hphase] at hbusy
      cases hbusy
  | host =>
      rw [busStep_host hstep]
      cases h with
      | begun =>
          rw [transact_setup_of_rests (by exact haddress) rfl (by exact hsteady) (by exact hrests)]
          exact .asked
      | asked =>
          rw [transact_of_nak (fun r hr => HostPhase.noConfusion hr)
            (by rw [receiveSetup_of_rests hrests])
            (fun _ => by rw [receiveSetup_of_rests hrests])]
          exact .asked
      | deaf rests elsewhere =>
          rw [UsbBus.transact, if_pos (by exact elsewhere)]
          exact .deaf rests elsewhere
  | irq =>
      obtain ⟨dev, hdev, rfl⟩ := busStep_irq hstep
      cases h with
      | begun =>
          cases (pcdEpIsrHandler_of_rests hrests pDesc).symm.trans hdev
          exact .begun
      | asked =>
          obtain ⟨d', hd', hrests', hzero⟩ := irq_setAddress_zero pDesc hrests hstate
          cases hd'.symm.trans hdev
          refine .deaf hrests' ?_
          rw [hzero, haddress]
          exact hne.symm
      | deaf rests elsewhere =>
          cases (pcdEpIsrHandler_of_rests rests pDesc).symm.trans hdev
          exact .deaf rests elsewhere

end

/-- **A device that has an address and no configuration does not confirm that it goes back to
address zero**, when it has looked at everything that came before: it listens there before its
confirmation is fetched, and so the host waits for it for ever, whatever comes. -/
theorem setAddress_zero_unanswered {pDesc : UsbdDescriptors} (hfilled : Filled pDesc)
    {classData : Mem} {s s' : UsbBus}
    (h : Run (busStep pDesc) (busOk pDesc (functionInit classData)) (busInit classData) s)
    (hphase : s.phase = .idle) (hrests : s.dev.Rests)
    (hstate : (s.function pDesc (functionInit classData)).state = .addressed)
    (h' : Run (busStep pDesc) (fun _ _ => true) { s with phase := .setup (.setAddress 0) } s') :
    s'.log = s.log ∧ s'.phase.request = some (.setAddress 0) := by
  have hinv := busInv_of_run hfilled (busInv_init pDesc classData) h
  have hstands := hinv.stands
  rw [hphase] at hstands
  have hsteady := hstands.settled.steady hrests
  have hdev : s.dev.devState ≠ .configured := by
    rw [hsteady.state, hstate]
    decide
  have hdeaf : Deaf s s' := h'.invariant .begun fun _ _ _ hdeaf _ hstep =>
    hdeaf.step hrests hsteady hinv.address hdev (UsbFunction.state_eq_addressed.1 hstate).2 hstep
  exact hdeaf.log

theorem setAddress_zero_unanswered_five : ∃ s s' : UsbBus,
    s'.log = s.log ∧ s'.phase.request = some (.setAddress 0) :=
  ⟨_, _, setAddress_zero_unanswered filled_bareDescriptors
    (run_of_exec (s := busInit fun _ => 0)
      [.request (.setAddress 5), .host, .irq, .host, .irq] rfl)
    rfl ⟨rfl, rfl⟩ rfl (run_of_exec [.host, .irq, .host, .irq, .host] rfl)⟩

end Solar48
