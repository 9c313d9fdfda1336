/-
**Over every run the host gets the answers of the device.**

The host sends its next packet, or repeats one that was not taken; with it a transfer goes on, or it
is over and the host has the answer of the device without packets.  What the host may do too early,
because it has fetched the last packet before the interrupt came, does no harm.  Where the interrupt
came before each packet, the end of the transfer comes nearer.

Main definitions:

* `Solar48.HostPhase.rank` — how many packets a transfer still needs, at most;
* `Solar48.GoesOn`, `Solar48.Over` — what the next packet does;
* `Solar48.Stands`, `Solar48.BusInv` — what holds at any time.

Main results:

* `Solar48.Serves.transact` — the next packet;
* `Solar48.busInv_of_run`, `Solar48.replies_of_run` — **over every run, whenever the interrupt
  comes between the packets of a transfer, the host gets the answers of the device without
  packets**;
* `Solar48.irq_of_run` — **the interrupt never leaves the program**, nor the class data;
* `Solar48.request_ends` — **a transfer that has begun comes to its end**;
* `Solar48.classRead_of_classWrite` — **what a class request has written is what a later one
  reads**.
-/

import Solar48.ControlRun

set_option relaxedAutoImplicit false
set_option autoImplicit false

namespace Solar48

open ByteMem StepSystem UsbDevice

/-! ### How far it is to the end -/

/-- The request of a transfer. -/
def HostPhase.request : HostPhase → Option ControlRequest
  | .idle | .suspended => none
  | .setup r | .dataIn r _ | .statusOut r _ | .dataOut r _ | .statusIn r => some r

/-- How many packets are still to come, at most, besides the last one. -/
def HostPhase.rank : HostPhase → ℕ
  | .idle | .suspended | .statusIn _ | .statusOut _ _ => 0
  | .dataIn r got => (r.length - got.length) / usbMaxEp0Size + 1
  | .dataOut _ left => left.length / usbMaxEp0Size + 1
  | .setup r => (r.length + r.payload.length) / usbMaxEp0Size + 2

section

variable {pDesc : UsbdDescriptors} {d : UsbDevice} {f f' : UsbFunction} {r : ControlRequest}

theorem rank_firstPhase (r : ControlRequest) : r.firstPhase.rank < (HostPhase.setup r).rank := by
  have hin : (r.length - 0) / usbMaxEp0Size ≤ (r.length + r.payload.length) / usbMaxEp0Size :=
    Nat.div_le_div_right (by omega)
  have hout : r.payload.length / usbMaxEp0Size ≤ (r.length + r.payload.length) / usbMaxEp0Size :=
    Nat.div_le_div_right (by omega)
  unfold ControlRequest.firstPhase
  split
  · exact Nat.succ_pos _
  · split
    · exact Nat.add_lt_add_of_le_of_lt hin Nat.one_lt_two
    · exact Nat.add_lt_add_of_le_of_lt hout Nat.one_lt_two

/-- A packet of data brings the end nearer. -/
theorem rank_phaseAfterIn {got packet : List UInt8} (hfits : (got ++ packet).length ≤ r.length) :
    (r.phaseAfterIn (got ++ packet) packet).rank < (HostPhase.dataIn r got).rank := by
  unfold ControlRequest.phaseAfterIn
  split
  · exact Nat.succ_pos _
  · rename_i hmore
    rw [List.length_append] at hfits
    simp only [HostPhase.rank, List.length_append, usbMaxEp0Size] at hmore ⊢
    omega

theorem rank_phaseAfterOut (left : List UInt8) :
    (r.phaseAfterOut left).rank < (HostPhase.dataOut r left).rank := by
  unfold ControlRequest.phaseAfterOut
  split
  · exact Nat.succ_pos _
  · rename_i hmore
    simp only [HostPhase.rank, List.length_drop, usbMaxEp0Size] at hmore ⊢
    omega

/-! ### The host goes on -/

theorem daddr_ep0InToken (d : UsbDevice) : d.ep0InToken.2.daddr = d.daddr := by
  unfold ep0InToken
  split <;> rfl

theorem daddr_ep0OutToken (d : UsbDevice) (packet : List UInt8) :
    (d.ep0OutToken packet).2.daddr = d.daddr := by
  unfold ep0OutToken
  split
  · rfl
  · rfl
  · rfl
  · split <;> rfl

theorem daddr_receiveSetup (d : UsbDevice) (packet : List UInt8) :
    (d.receiveSetup packet).2.daddr = d.daddr := by
  unfold receiveSetup
  split <;> rfl

/-- During a transfer the device keeps the address at which it was asked. -/
theorem Serves.daddr {phase : HostPhase} (h : Serves pDesc f r phase d) : d.daddr = f.address := by
  cases h with
  | asked steady => exact (daddr_receiveSetup _ _).trans steady.daddr
  | refused declines => exact declines.steady.daddr.trans declines.same
  | sending reads => exact reads.steady.daddr.trans reads.same
  | sent reads => exact (daddr_ep0InToken _).trans (reads.steady.daddr.trans reads.same)
  | closing reads => exact reads.steady.daddr.trans reads.same
  | closed reads => exact (daddr_ep0InToken _).trans (reads.steady.daddr.trans reads.same)
  | awaiting reads => exact reads.steady.daddr.trans reads.same
  | receiving writes => exact writes.moving.daddr
  | received writes => exact (daddr_ep0OutToken _ _).trans writes.moving.daddr
  | finishing grants => exact grants.moving.daddr

/-- Only data have to be sent where the host has some. -/
theorem payload_ne_nil (hlength : r.length ≠ 0) (hout : r.setup.bmRequest &&& 0x80 = 0) :
    r.payload ≠ [] := by
  cases r with
  | classWrite request number value data =>
      rintro hnil
      have hzero : data = [] := hnil
      subst hzero
      exact hlength rfl
  | getDescriptor => exact absurd hout deviceIn_bits.2.2
  | getConfiguration => exact absurd hout deviceIn_bits.2.2
  | getStatus recipient =>
      cases recipient with
      | device => exact absurd hout deviceIn_bits.2.2
      | interface => exact absurd hout interfaceIn_bits.2.2
      | endpoint => exact absurd hout endpointIn_bits.2.2
  | getInterface => exact absurd hout interfaceIn_bits.2.2
  | classRead => exact absurd hout classIn_bits.2.2
  | setAddress => exact absurd rfl hlength
  | setConfiguration => exact absurd rfl hlength
  | remoteWakeup => exact absurd rfl hlength
  | halt => exact absurd rfl hlength
  | setInterface => exact absurd rfl hlength
  | classCommand => exact absurd rfl hlength

/-- Where a transfer may begin. -/
theorem firstPhase_cases (r : ControlRequest) : r.firstPhase = .statusIn r ∨
    r.firstPhase = .dataIn r [] ∨ r.firstPhase = .dataOut r r.payload ∧ r.payload ≠ [] := by
  by_cases hlength : r.length = 0
  · exact .inl (ControlRequest.firstPhase_of_zero hlength)
  · by_cases hout : r.setup.bmRequest &&& 0x80 = 0
    · exact .inr (.inr ⟨ControlRequest.firstPhase_of_out hlength hout,
        payload_ne_nil hlength hout⟩)
    · exact .inr (.inl (ControlRequest.firstPhase_of_in hlength hout))

theorem firstPhase_ne_setup (r r' : ControlRequest) : r.firstPhase ≠ .setup r' := by
  rcases firstPhase_cases r with h | h | ⟨h, -⟩ <;> rw [h] <;> exact fun h => HostPhase.noConfusion h

/-- Requests that are not about the address leave it. -/
theorem answer_address_of_ne (f : UsbFunction) {r : ControlRequest}
    (hr : ∀ address, r ≠ .setAddress address) : (f.answer pDesc r).2.address = f.address := by
  cases r with
  | setAddress address => exact absurd rfl (hr address)
  | getDescriptor type index langId length =>
      simp only [UsbFunction.answer]
      split <;> rfl
  | setConfiguration value =>
      simp only [UsbFunction.answer]
      split <;> rfl
  | getStatus recipient => cases recipient <;> rfl
  | halt endpoint on =>
      have hhalted (on : Bool) : (if endpoint = 0x00 ∨ endpoint = 0x80 then f
          else f.setHalted endpoint on).address = f.address := by
        split
        · rfl
        · exact setHalted_address _ _
      simp only [UsbFunction.answer]
      split
      · exact hhalted on
      · exact hhalted true
      · rfl
  | classWrite request number value data =>
      simp only [UsbFunction.answer]
      split <;> rfl
  | getConfiguration => rfl
  | remoteWakeup on => rfl
  | getInterface number => rfl
  | setInterface number alternate => rfl
  | classRead request number value length => rfl
  | classCommand request number value => rfl

/-- The host uses the address that the device will have. -/
theorem finish_address {s : UsbBus} (haddress : s.address = f.address) {reply : Reply}
    (hans : f.answer pDesc r = (reply, f')) : (s.finish r reply).address = f'.address := by
  have hf' : f' = (f.answer pDesc r).2 := by rw [hans]
  by_cases hr : ∃ address, r = .setAddress address
  · obtain ⟨address, rfl⟩ := hr
    simp only [UsbFunction.answer] at hans
    split at hans <;> cases hans
    · exact haddress
    · rfl
  · have hne : ∀ address, r ≠ .setAddress address := fun address h => hr ⟨address, h⟩
    rw [hf', answer_address_of_ne f hne, ← haddress]
    cases r with
    | setAddress address => exact absurd rfl (hne address)
    | _ => rfl

/-- The transfer is over, with the answer. -/
structure Over (pDesc : UsbdDescriptors) (f : UsbFunction) (r : ControlRequest) (s s' : UsbBus) :
    Prop where
  phase : s'.phase = .idle
  log : s'.log = s.log ++ [(.request r, (f.answer pDesc r).1)]
  address : s'.address = (f.answer pDesc r).2.address
  settled : Settled pDesc s'.dev (f.answer pDesc r).2

/-- The transfer goes on, and it does if the interrupt came before. -/
structure GoesOn (pDesc : UsbdDescriptors) (f : UsbFunction) (r : ControlRequest)
    (s s' : UsbBus) : Prop where
  log : s'.log = s.log
  address : s'.address = s.address
  serves : Serves pDesc f r s'.phase s'.dev
  nearer : s.dev.Rests → s'.phase.rank < s.phase.rank

theorem over_finish {s : UsbBus} {dev : UsbDevice} {reply : Reply}
    (haddress : s.address = f.address) (hans : f.answer pDesc r = (reply, f'))
    (hsettled : Settled pDesc dev f') : Over pDesc f r s ({ s with dev }.finish r reply) where
  phase := rfl
  log := by rw [hans]; rfl
  address := by
    have h := finish_address (s := { s with dev }) haddress hans
    rw [h, hans]
  settled := by rw [hans]; exact hsettled

/-- An empty packet of the host that comes early, or in time, is looked at and forgotten. -/
theorem pcdEpIsrHandler_ep0OutToken_nil (hrx : d.rxStat = .valid) (hbuff : d.outBuff = none)
    (hctr : d.ctrRx = false) : (d.ep0OutToken []).2.pcdEpIsrHandler pDesc = { d with
      rxPacket := [], setup := false, rxCount := usbMaxEp0Size }.pcdEpIsrHandler pDesc := by
  rw [ep0OutToken_snd hrx (Nat.zero_le _)]
  simp only [pcdEpIsrHandler, pcdEp0Rx, hbuff, hctr, Bool.false_eq_true, if_true, if_false,
    Option.map_some]
  rw [if_pos (by exact EpStatus.noConfusion)]
  cases d
  simp_all

theorem Awaiting.settled (h : Awaiting d) (hsteady : Steady d f) :
    Settled pDesc (d.ep0OutToken []).2 f := by
  refine ⟨{ d with rxPacket := [], setup := false, rxCount := usbMaxEp0Size }, ?_,
    ⟨h.noRx, h.noTx⟩, { hsteady with }⟩
  rw [pcdEpIsrHandler_ep0OutToken_nil h.rx h.buff h.noRx]
  exact pcdEpIsrHandler_of_rests (by exact ⟨h.noRx, h.noTx⟩) pDesc

/-- The empty packet of the host comes before the interrupt for the last one that it fetched. -/
theorem settled_early (hrests : d.Rests) (htx : d.txStat = .valid) (hsteady : Steady d f)
    (hstage : d.ep0State = .dataIn) (hrem : d.remLength ≤ usbMaxEp0Size)
    (hlast : ¬ (d.totalLength % usbMaxEp0Size = 0 ∧ d.totalLength ≥ usbMaxEp0Size ∧
      d.totalLength < d.ep0DataLen)) (hrx : d.rxStat = .valid) (hbuff : d.outBuff = none) :
    Settled pDesc (d.ep0InToken.2.ep0OutToken []).2 f := by
  have hfetched : d.ep0InToken.2 = { d with txStat := .nak, ctrTx := true } := by
    rw [ep0InToken_of_valid htx]
  obtain ⟨d', hd', hawaiting, hsteady'⟩ := irq_of_last pDesc
    (d := { d with rxPacket := [], setup := false, rxCount := usbMaxEp0Size })
    ⟨hrests.noRx, hrests.noTx⟩ htx { hsteady with } hstage hrem hlast
  refine ⟨d', ?_, hawaiting.toRests, hsteady'⟩
  rw [hfetched, pcdEpIsrHandler_ep0OutToken_nil (by exact hrx) (by exact hbuff)
    (by exact hrests.noRx), ← hd', ep0InToken_of_valid (by exact htx)]

/-- The empty packet of the status stage was fetched. -/
theorem pcdEp0Tx_of_statusIn (hstage : d.ep0State = .statusIn) (hlen : d.xferLen = 0) :
    d.pcdEp0Tx =
      let d' := { d with ctrTx := false, xferBuff := d.xferBuff.add d.txPacket.length }.stallIn 0
      some (if d.usbAddress > 0 then { d' with daddr := d.usbAddress, usbAddress := 0 }
        else d') := by
  have hstall (p : TxPointer) : usbdLlDataInStage p { d with ctrTx := false, xferBuff := p } =
      { d with ctrTx := false, xferBuff := p }.stallIn 0 := by
    rw [usbdLlDataInStage, if_neg (by rw [hstage]; decide), if_pos (.inl hstage)]
  have hlen' (e : UsbDevice) : (e.stallIn 0).xferLen = e.xferLen := rfl
  have hpending (e : UsbDevice) : (e.stallIn 0).usbAddress = e.usbAddress := rfl
  have hnext : d.nextLength = 0 := by
    rw [nextLength, if_neg (fun hmore => by rw [hstage] at hmore; cases hmore.1)]
  simp only [pcdEp0Tx, hnext, true_or, if_true, hstall]
  simp only [hlen', hpending, hlen, and_true]

/-- With the end of the status stage a new address is used. -/
theorem Finishing.settled (h : Finishing d) (hgrants : Grants pDesc f f' r d) :
    Settled pDesc d.ep0InToken.2 f' := by
  have hfetched : d.ep0InToken.2 = { d with txStat := .nak, ctrTx := true } := by
    rw [ep0InToken_of_valid h.tx]
  have hshows : Shows ({ d with txStat := .nak, ctrTx := false }.stallIn 0) f' :=
    Shows.stallIn { hgrants.shows with }
  rw [hfetched]
  refine ⟨_, (pcdEpIsrHandler_tx (by exact h.noRx) rfl).trans
    (pcdEp0Tx_of_statusIn (by exact h.stage) (by exact h.xferLen)), ?_⟩
  rcases hgrants.moving.pending with ⟨hnone, hsame⟩ | ⟨hnew, hne⟩
  · have hzero : ¬ d.usbAddress > 0 := by
      rw [hnone]
      decide
    rw [if_neg (by exact hzero)]
    exact ⟨⟨h.noRx, rfl⟩, { hshows with }, hgrants.data, hsame ▸ hgrants.moving.daddr, hnone⟩
  · have hpos : d.usbAddress > 0 := UInt8.pos_iff_ne_zero.2 (hnew ▸ hne)
    rw [if_pos (by exact hpos)]
    exact ⟨⟨h.noRx, rfl⟩, { hshows with }, hgrants.data, hnew, rfl⟩

/-! ### The next packet of the host -/

variable {s : UsbBus} {got left : List UInt8} {dev : UsbDevice} {packet : List UInt8}

theorem transact_dataIn (haddress : s.dev.daddr = s.address) (hphase : s.phase = .dataIn r got)
    (h : s.dev.ep0InToken = (.data packet, dev)) :
    s.transact = { s with dev }.take r got packet := by
  simp only [UsbBus.transact, haddress, hphase, h, ne_eq, not_true_eq_false, if_false]

theorem transact_statusIn (haddress : s.dev.daddr = s.address) (hphase : s.phase = .statusIn r)
    (h : s.dev.ep0InToken = (.data [], dev)) : s.transact = { s with dev }.finish r .ok := by
  simp only [UsbBus.transact, haddress, hphase, h, ne_eq, not_true_eq_false, if_false, if_true]

theorem transact_statusOut (haddress : s.dev.daddr = s.address)
    (hphase : s.phase = .statusOut r got) (h : s.dev.ep0OutToken [] = (.ack, dev)) :
    s.transact = { s with dev }.finish r (.data got) := by
  simp only [UsbBus.transact, haddress, hphase, h, ne_eq, not_true_eq_false, if_false]

theorem transact_dataOut (haddress : s.dev.daddr = s.address) (hphase : s.phase = .dataOut r left)
    (h : s.dev.ep0OutToken (left.take usbMaxEp0Size) = (.ack, dev)) :
    s.transact = { s with dev, phase := r.phaseAfterOut left } := by
  simp only [UsbBus.transact, haddress, hphase, h, ne_eq, not_true_eq_false, if_false]

/-- A device that has nothing ready leaves the host where it is. -/
theorem transact_of_nak (hphase : ∀ r, s.phase ≠ .setup r)
    (htx : s.dev.txStat = .nak) (hrx : (∃ r bs, s.phase = .statusOut r bs) ∨
      (∃ r bs, s.phase = .dataOut r bs) → s.dev.rxStat = .nak) : s.transact = s := by
  unfold UsbBus.transact
  split
  · rfl
  · split
    · rfl
    · rfl
    · rename_i r hs
      exact absurd hs (hphase r)
    · rw [ep0InToken_of_nak htx]
    · rename_i r bs hs
      rw [ep0OutToken_of_nak (hrx (.inl ⟨r, bs, hs⟩))]
    · rename_i r bs hs
      rw [ep0OutToken_of_nak (hrx (.inr ⟨r, bs, hs⟩))]
    · rw [ep0InToken_of_nak htx]

theorem rxStat_ep0InToken (d : UsbDevice) : d.ep0InToken.2.rxStat = d.rxStat := by
  unfold ep0InToken
  split <;> rfl

theorem ep0OutToken_nil (hrx : d.rxStat = .valid) :
    d.ep0OutToken [] = (.ack, (d.ep0OutToken []).2) := by
  rw [ep0OutToken_of_valid hrx (Nat.zero_le _)]

/-- A stalled request ends at the first packet. -/
theorem transact_of_refusing (haddress : s.dev.daddr = s.address) (hphase : s.phase = r.firstPhase)
    (h : Refusing s.dev r) : s.transact = s.finish r .refused := by
  have hin := ep0InToken_of_stall h.tx
  rcases firstPhase_cases r with hfirst | hfirst | ⟨hfirst, hsome⟩
  · simp only [UsbBus.transact, haddress, hphase, hfirst, hin, ne_eq, not_true_eq_false, if_false]
    rfl
  · simp only [UsbBus.transact, haddress, hphase, hfirst, hin, ne_eq, not_true_eq_false, if_false]
    rfl
  · have hout := ep0OutToken_of_stall (h.rx hsome)
    simp only [UsbBus.transact, haddress, hphase, hfirst, hout, ne_eq, not_true_eq_false,
      if_false]
    rfl

/-- A packet of data is taken, if it is not more than was asked for. -/
theorem take_of_le (hfits : (got ++ packet).length ≤ r.length) :
    s.take r got packet = { s with phase := r.phaseAfterIn (got ++ packet) packet } :=
  if_neg (Nat.not_lt.2 hfits)

/-- The host has fetched the last packet, and ends the transfer before the interrupt comes. -/
theorem Loaded.settled_early {rest : List UInt8} (hreads : Reads pDesc f f' r (got ++ rest) d)
    (hfull : got.length % usbMaxEp0Size = 0) (hsome : rest ≠ [])
    (hloaded : Loaded d (got ++ rest).length r.length rest)
    (hlast : (rest.take usbMaxEp0Size).length < usbMaxEp0Size ∨
      (got ++ rest.take usbMaxEp0Size).length = r.length)
    (hearly : d.rxStat = .valid ∧ d.outBuff = none) :
    rest.take usbMaxEp0Size = rest ∧ Settled pDesc (d.ep0InToken.2.ep0OutToken []).2 f' := by
  have hpos := List.length_pos_iff.2 hsome
  have hfits := hreads.fits
  rw [List.length_append, List.length_take] at hlast
  rw [List.length_append] at hfits
  have hshort : rest.length ≤ usbMaxEp0Size := by omega
  refine ⟨List.take_of_length_le hshort, Solar48.settled_early hloaded.toRests hloaded.tx
    hreads.steady hloaded.stage (hloaded.remLength ▸ hshort) ?_ hearly.1 hearly.2⟩
  rw [hloaded.totalLength, hloaded.asked, List.length_append]
  unfold usbMaxEp0Size at *
  omega

/-- **The host.**  With its next packet the transfer goes on, or it is over. -/
theorem Serves.transact (haddress : s.address = f.address)
    (h : Serves pDesc f r s.phase s.dev) :
    GoesOn pDesc f r s s.transact ∨ Over pDesc f r s s.transact := by
  have hdaddr : s.dev.daddr = s.address := h.daddr.trans haddress.symm
  have hserves := h
  -- the interrupt has to come first
  have hstays (hs : s.transact = s) (hbusy : s.dev.ctrRx = true ∨ s.dev.ctrTx = true) :
      GoesOn pDesc f r s s.transact := by
    rw [hs]
    exact ⟨rfl, rfl, hserves, fun hrests => absurd hbusy (by simp [hrests.noRx, hrests.noTx])⟩
  generalize hphase : s.phase = phase at h
  generalize hdev : s.dev = d at h
  cases h with
  | asked steady rests =>
      rw [receiveSetup_of_rests rests] at hdev
      refine .inl (hstays (transact_of_nak ?_ (by rw [hdev]) fun _ => by rw [hdev])
        (.inl (by rw [hdev])))
      rw [hphase]
      exact firstPhase_ne_setup r
  | refused declines refusing =>
      subst hdev
      rw [transact_of_refusing hdaddr hphase refusing]
      exact .inr (over_finish haddress declines.answer (.of_rests refusing.toRests declines.steady))
  | @sending _ f' got rest reads full some loaded =>
      subst hdev
      have hfits : (got ++ rest.take usbMaxEp0Size).length ≤ r.length := by
        have h := reads.fits
        rw [List.length_append] at h ⊢
        rw [List.length_take]
        omega
      have hin : s.dev.ep0InToken = (.data (rest.take usbMaxEp0Size), s.dev.ep0InToken.2) := by
        rw [ep0InToken_of_valid loaded.tx, loaded.packet]
      rw [transact_dataIn hdaddr hphase hin, take_of_le hfits]
      exact .inl ⟨rfl, rfl, .sent reads full some loaded, fun _ =>
        hphase ▸ rank_phaseAfterIn hfits⟩
  | @sent d f' got rest reads full some loaded =>
      have htx : s.dev.txStat = .nak := by rw [hdev, ep0InToken_of_valid loaded.tx]
      have hctr : s.dev.ctrTx = true := by rw [hdev, ep0InToken_of_valid loaded.tx]
      by_cases hlast : (rest.take usbMaxEp0Size).length < usbMaxEp0Size ∨
          (got ++ rest.take usbMaxEp0Size).length = r.length
      · rw [phaseAfterIn_of_last hlast] at hphase
        rcases loaded.early with hnak | hearly
        · refine .inl (hstays (transact_of_nak (by rw [hphase]; rintro r ⟨⟩) htx fun _ => ?_)
            (.inr hctr))
          rw [hdev, ep0InToken_of_valid loaded.tx]
          exact hnak
        · -- the host comes before the interrupt
          obtain ⟨hall, hsettled⟩ := loaded.settled_early reads full some hlast hearly
          rw [hall] at hphase
          rw [transact_statusOut hdaddr hphase
            (ep0OutToken_nil (by rw [hdev, rxStat_ep0InToken]; exact hearly.1)), hdev]
          exact .inr (over_finish haddress reads.answer hsettled)
      · rw [ControlRequest.phaseAfterIn, if_neg hlast] at hphase
        refine .inl (hstays (transact_of_nak (by rw [hphase]; rintro r ⟨⟩) htx fun hcon => ?_)
          (.inr hctr))
        rw [hphase] at hcon
        rcases hcon with ⟨_, _, hcon⟩ | ⟨_, _, hcon⟩ <;> cases hcon
  | @closing _ f' bs reads closing =>
      subst hdev
      have hin : s.dev.ep0InToken = (.data [], s.dev.ep0InToken.2) := by
        rw [ep0InToken_of_valid closing.tx, closing.packet]
      rw [transact_dataIn hdaddr hphase hin,
        take_of_le (by rw [List.append_nil]; exact reads.fits), List.append_nil,
        phaseAfterIn_of_last (.inl (by decide))]
      exact .inl ⟨rfl, rfl, .closed reads closing, fun _ => hphase ▸ Nat.succ_pos _⟩
  | @closed d f' bs reads closing =>
      rw [transact_statusOut hdaddr hphase
        (ep0OutToken_nil (by rw [hdev, rxStat_ep0InToken]; exact closing.rx)), hdev]
      refine .inr (over_finish haddress reads.answer (settled_early closing.toRests closing.tx
        reads.steady closing.stage closing.remLength ?_ closing.rx closing.buff))
      rw [closing.asked]
      exact fun hc => Nat.not_lt_zero _ hc.2.2
  | @awaiting _ f' bs reads awaiting =>
      subst hdev
      rw [transact_statusOut hdaddr hphase (ep0OutToken_nil awaiting.rx)]
      exact .inr (over_finish haddress reads.answer (awaiting.settled reads.steady))
  | @receiving _ f' got left writes payload some receiving =>
      subst hdev
      have hle : (left.take usbMaxEp0Size).length ≤ s.dev.rxCount := by
        rw [receiving.room, List.length_take]
        exact Nat.le_of_eq (Nat.min_comm _ _)
      have hout : s.dev.ep0OutToken (left.take usbMaxEp0Size) =
          (.ack, (s.dev.ep0OutToken (left.take usbMaxEp0Size)).2) := by
        rw [ep0OutToken_of_valid receiving.rx hle]
      rw [transact_dataOut hdaddr hphase hout]
      exact .inl ⟨rfl, rfl, .received writes payload some receiving, fun _ =>
        hphase ▸ rank_phaseAfterOut left⟩
  | @received d f' got left writes payload some receiving =>
      have hle : (left.take usbMaxEp0Size).length ≤ d.rxCount := by
        rw [receiving.room, List.length_take]
        exact Nat.le_of_eq (Nat.min_comm _ _)
      rw [ep0OutToken_snd receiving.rx hle] at hdev
      refine .inl (hstays (transact_of_nak ?_ ?_ fun _ => by rw [hdev]) (.inl (by rw [hdev])))
      · rw [hphase, ControlRequest.phaseAfterOut]
        split <;> rintro r ⟨⟩
      · rw [hdev]
        exact receiving.tx
  | @finishing _ f' grants finishing =>
      subst hdev
      have hin : s.dev.ep0InToken = (.data [], s.dev.ep0InToken.2) := by
        rw [ep0InToken_of_valid finishing.tx, finishing.packet]
      rw [transact_statusIn hdaddr hphase hin]
      exact .inr (over_finish haddress grants.answer (finishing.settled grants))

/-! ### The first packet, and the rest of the bus -/

/-- A device with nothing to report is as the host knows it. -/
theorem Settled.steady (h : Settled pDesc d f) (hrests : d.Rests) : Steady d f := by
  obtain ⟨d', hd', -, hsteady⟩ := h
  rw [pcdEpIsrHandler_of_rests hrests] at hd'
  rwa [Option.some.inj hd']

theorem Settled.irq (h : Settled pDesc d f) :
    ∃ d', d.pcdEpIsrHandler pDesc = some d' ∧ d'.Rests ∧ Settled pDesc d' f := by
  obtain ⟨d', hd', hrests, hsteady⟩ := h
  exact ⟨d', hd', hrests, .of_rests hrests hsteady⟩

/-- A request is taken by a device with nothing to report. -/
theorem transact_setup_of_rests (haddress : s.address = f.address) (hphase : s.phase = .setup r)
    (hsteady : Steady s.dev f) (hrests : s.dev.Rests) : s.transact =
      { s with dev := (s.dev.receiveSetup r.setup.bytes).2, phase := r.firstPhase } := by
  have hdaddr : s.dev.daddr = s.address := hsteady.daddr.trans haddress.symm
  simp only [UsbBus.transact, hdaddr, hphase, receiveSetup_of_rests hrests, ne_eq,
    not_true_eq_false, if_false]

/-- Otherwise the host will have to repeat it. -/
theorem transact_setup_of_rx (hphase : s.phase = .setup r) (hrx : s.dev.ctrRx = true) :
    s.transact = s := by
  have hnone (packet : List UInt8) : s.dev.receiveSetup packet = (.none, s.dev) := by
    rw [receiveSetup, if_pos hrx]
  unfold UsbBus.transact
  split
  · rfl
  · simp only [hphase, hnone]
    rw [← hphase]

/-- What a reset of the bus leaves. -/
theorem usbdLlReset_eq (d : UsbDevice) : d.usbdLlReset = { d with
    rxCount := usbMaxEp0Size, rxStat := .valid, txStat := .nak
    isUsedIn := if d.hasClassData then
      Function.update (Function.update (Function.update d.isUsedIn 0 true) 1 false) 2 false
      else Function.update d.isUsedIn 0 true
    isUsedOut := if d.hasClassData then
      Function.update (Function.update d.isUsedOut 0 true) 1 false
      else Function.update d.isUsedOut 0 true
    devState := .default, ep0State := .idle, devConfig := 0, devRemoteWakeup := false
    hasClassData := false, usbAddress := 0, daddr := 0 } := by
  unfold usbdLlReset
  cases hdata : d.hasClassData with
  | true => rfl
  | false => simp only [Bool.false_eq_true, if_false]

/-- Only endpoint zero is open. -/
theorem isUsed_usbdLlReset (h : Shows { d with devState := f.state } f) :
    (∀ n, d.usbdLlReset.isUsedIn n = (n == 0)) ∧ ∀ n, d.usbdLlReset.isUsedOut n = (n == 0) := by
  have hin : ∀ n, d.isUsedIn n = (n == 0 || f.configured && (n == 1 || n == 2)) := h.usedIn
  have hout : ∀ n, d.isUsedOut n = (n == 0 || f.configured && n == 1) := h.usedOut
  have hdata : d.hasClassData = f.configured := h.hasData
  rw [usbdLlReset_eq]
  generalize f.configured = configured at hin hout hdata
  cases configured with
  | true =>
      simp only [hdata, if_true, Function.update_apply, hin, hout]
      constructor <;> rintro (_ | _ | _ | n) <;> simp
  | false =>
      simp only [hdata, Bool.false_eq_true, if_false, Function.update_apply, hin, hout]
      constructor <;> rintro (_ | _ | _ | n) <;> simp

/-- With a reset of the bus the device is back at the beginning, also from a rest of the bus; the
class data stay. -/
theorem steady_usbdLlReset (h : Steady { d with devState := f.state } f) :
    Steady d.usbdLlReset f.reset := by
  obtain ⟨hin, hout⟩ := isUsed_usbdLlReset h.toShows
  have hedin (n : ℕ) (hn : n ≠ 0) : d.isStallIn n = f.haltedIn n := h.haltedIn n hn
  have hedout (n : ℕ) (hn : n ≠ 0) : d.isStallOut n = f.haltedOut n := h.haltedOut n hn
  have hdata : ∀ i < cdcDataHsMaxPacketSize, d.classData i = f.data i := h.data
  rw [usbdLlReset_eq] at hin hout ⊢
  exact ⟨⟨rfl, rfl, rfl, rfl, fun n => (hin n).trans (Bool.or_false _).symm,
    fun n => (hout n).trans (Bool.or_false _).symm, hedin, hedout, nofun⟩, hdata, rfl, rfl⟩

theorem rests_usbdLlReset (h : d.Rests) : d.usbdLlReset.Rests := by
  rw [usbdLlReset_eq]
  exact ⟨h.noRx, h.noTx⟩

/-- Behind a rest of the bus the device goes on where it was. -/
theorem usbdLlResume_usbdLlSuspend (d : UsbDevice) :
    d.usbdLlSuspend.usbdLlResume = { d with devOldState := d.devState } := if_pos rfl

end

/-! ### Over every run -/

/-- One action after the other. -/
theorem UsbFunction.run_append (pDesc : UsbdDescriptors) (f : UsbFunction)
    (as bs : List HostAction) : f.run pDesc (as ++ bs) =
      ((f.run pDesc as).1 ++ ((f.run pDesc as).2.run pDesc bs).1,
        ((f.run pDesc as).2.run pDesc bs).2) := by
  induction as generalizing f with
  | nil => rfl
  | cons a as ih => simp only [List.cons_append, UsbFunction.run, ih]

theorem UsbFunction.run_concat (pDesc : UsbdDescriptors) (f : UsbFunction)
    (as : List HostAction) (a : HostAction) : f.run pDesc (as ++ [a]) =
      ((f.run pDesc as).1 ++ [((f.run pDesc as).2.act pDesc a).1],
        ((f.run pDesc as).2.act pDesc a).2) := f.run_append pDesc as [a]

/-- **What holds**, when the host knows `f`. -/
inductive Stands (pDesc : UsbdDescriptors) (f : UsbFunction) : HostPhase → UsbDevice → Prop
  | idle {d : UsbDevice} (settled : Settled pDesc d f) : Stands pDesc f .idle d
  | setup {d : UsbDevice} {r : ControlRequest} (allowed : f.allows r = true)
      (settled : Settled pDesc d f) : Stands pDesc f (.setup r) d
  | serving {d : UsbDevice} {r : ControlRequest} {phase : HostPhase} (allowed : f.allows r = true)
      (serves : Serves pDesc f r phase d) : Stands pDesc f phase d
  | suspended {d : UsbDevice} (rests : d.Rests) (steady : Steady d f) :
      Stands pDesc f .suspended d.usbdLlSuspend

/-- **What holds at any time**: the host has the answers so far, and the device stands where it
should. -/
structure BusInv (pDesc : UsbdDescriptors) (f₀ : UsbFunction) (s : UsbBus) : Prop where
  replies : s.log.map Prod.snd = (f₀.run pDesc (s.log.map Prod.fst)).1
  address : s.address = (s.function pDesc f₀).address
  stands : Stands pDesc (s.function pDesc f₀) s.phase s.dev

section

variable {pDesc : UsbdDescriptors} {f₀ f : UsbFunction} {s s' : UsbBus} {r : ControlRequest}

theorem function_of_log (h : s'.log = s.log) : s'.function pDesc f₀ = s.function pDesc f₀ := by
  rw [UsbBus.function, h, UsbBus.function]

/-- Nothing is done yet, but something is on the way. -/
theorem BusInv.of_stands (h : BusInv pDesc f₀ s) (hlog : s'.log = s.log)
    (haddress : s'.address = s.address)
    (hstands : Stands pDesc (s.function pDesc f₀) s'.phase s'.dev) : BusInv pDesc f₀ s' where
  replies := by
    rw [hlog]
    exact h.replies
  address := by
    rw [function_of_log hlog, haddress]
    exact h.address
  stands := by
    rw [function_of_log hlog]
    exact hstands

/-- An action is over. -/
theorem BusInv.of_act (h : BusInv pDesc f₀ s) {a : HostAction}
    (hlog : s'.log = s.log ++ [(a, ((s.function pDesc f₀).act pDesc a).1)])
    (haddress : s'.address = ((s.function pDesc f₀).act pDesc a).2.address)
    (hphase : s'.phase = .idle)
    (hsettled : Settled pDesc s'.dev ((s.function pDesc f₀).act pDesc a).2) :
    BusInv pDesc f₀ s' := by
  have hrun := UsbFunction.run_concat pDesc f₀ (s.log.map Prod.fst) a
  have hmap : s'.log.map Prod.fst = s.log.map Prod.fst ++ [a] := by
    rw [hlog, List.map_append]
    rfl
  have hfunction : s'.function pDesc f₀ = ((s.function pDesc f₀).act pDesc a).2 := by
    rw [UsbBus.function, hmap, hrun]
    rfl
  refine ⟨?_, ?_, ?_⟩
  · rw [hmap, hrun, hlog, List.map_append, h.replies]
    rfl
  · rw [hfunction]
    exact haddress
  · rw [hfunction, hphase]
    exact .idle hsettled

/-! ### What a step does -/

theorem busStep_request (h : busStep pDesc (.request r) s = some s') :
    s.phase = .idle ∧ s' = { s with phase := .setup r } := by
  unfold busStep at h
  split at h <;> simp_all

theorem busStep_host (h : busStep pDesc .host s = some s') : s' = s.transact := by
  unfold busStep at h
  split at h <;> simp_all

theorem busStep_irq (h : busStep pDesc .irq s = some s') :
    ∃ dev, s.dev.pcdEpIsrHandler pDesc = some dev ∧ s' = { s with dev } := by
  obtain ⟨dev, hdev, rfl⟩ := Option.map_eq_some_iff.1 h
  exact ⟨dev, hdev, rfl⟩

theorem busStep_reset (h : busStep pDesc .reset s = some s') :
    (s.phase = .idle ∨ s.phase = .suspended) ∧ ∃ dev, s.dev.pcdEpIsrHandler pDesc = some dev ∧
      s' = { dev := dev.usbdLlReset, phase := .idle, address := 0,
             log := s.log ++ [(.reset, .ok)] } := by
  cases hphase : s.phase with
  | idle =>
      simp only [busStep, hphase] at h
      obtain ⟨dev, hdev, rfl⟩ := Option.map_eq_some_iff.1 h
      exact ⟨.inl rfl, dev, hdev, rfl⟩
  | suspended =>
      simp only [busStep, hphase] at h
      obtain ⟨dev, hdev, rfl⟩ := Option.map_eq_some_iff.1 h
      exact ⟨.inr rfl, dev, hdev, rfl⟩
  | _ => simp [busStep, hphase] at h

theorem busStep_suspend (h : busStep pDesc .suspend s = some s') :
    s.phase = .idle ∧ ∃ dev, s.dev.pcdEpIsrHandler pDesc = some dev ∧
      s' = { s with dev := dev.usbdLlSuspend, phase := .suspended } := by
  cases hphase : s.phase with
  | idle =>
      simp only [busStep, hphase] at h
      obtain ⟨dev, hdev, rfl⟩ := Option.map_eq_some_iff.1 h
      exact ⟨rfl, dev, hdev, rfl⟩
  | _ => simp [busStep, hphase] at h

theorem busStep_resume (h : busStep pDesc .resume s = some s') :
    s.phase = .suspended ∧ ∃ dev, s.dev.pcdEpIsrHandler pDesc = some dev ∧
      s' = { s with dev := dev.usbdLlResume, phase := .idle } := by
  cases hphase : s.phase with
  | suspended =>
      simp only [busStep, hphase] at h
      obtain ⟨dev, hdev, rfl⟩ := Option.map_eq_some_iff.1 h
      exact ⟨rfl, dev, hdev, rfl⟩
  | _ => simp [busStep, hphase] at h

/-- The interrupt never leaves the program, and nothing is left to report. -/
theorem Stands.irq (hfilled : Filled pDesc) {phase : HostPhase} {d : UsbDevice}
    (h : Stands pDesc f phase d) :
    ∃ dev, d.pcdEpIsrHandler pDesc = some dev ∧ dev.Rests ∧ Stands pDesc f phase dev := by
  cases h with
  | idle settled =>
      obtain ⟨dev, hdev, hrests, hsettled⟩ := settled.irq
      exact ⟨dev, hdev, hrests, .idle hsettled⟩
  | setup allowed settled =>
      obtain ⟨dev, hdev, hrests, hsettled⟩ := settled.irq
      exact ⟨dev, hdev, hrests, .setup allowed hsettled⟩
  | serving allowed serves =>
      obtain ⟨dev, hdev, hrests, hserves⟩ := serves.irq hfilled allowed
      exact ⟨dev, hdev, hrests, .serving allowed hserves⟩
  | @suspended d rests steady =>
      exact ⟨_, pcdEpIsrHandler_of_rests (by exact ⟨rests.noRx, rests.noTx⟩) pDesc,
        ⟨rests.noRx, rests.noTx⟩, .suspended rests steady⟩

theorem phase_of_serves {phase : HostPhase} {d : UsbDevice} (h : Serves pDesc f r phase d) :
    phase.request = some r ∧ ∀ r', phase ≠ .setup r' := by
  have hfirst : r.firstPhase.request = some r ∧ ∀ r', r.firstPhase ≠ .setup r' := by
    refine ⟨?_, firstPhase_ne_setup r⟩
    rcases firstPhase_cases r with h | h | ⟨h, -⟩ <;> rw [h] <;> rfl
  cases h with
  | asked => exact hfirst
  | refused => exact hfirst
  | sending => exact ⟨rfl, nofun⟩
  | sent =>
      unfold ControlRequest.phaseAfterIn
      split <;> exact ⟨rfl, nofun⟩
  | closing => exact ⟨rfl, nofun⟩
  | closed => exact ⟨rfl, nofun⟩
  | awaiting => exact ⟨rfl, nofun⟩
  | receiving => exact ⟨rfl, nofun⟩
  | received =>
      unfold ControlRequest.phaseAfterOut
      split <;> exact ⟨rfl, nofun⟩
  | finishing => exact ⟨rfl, nofun⟩

/-- The next packet of the host. -/
theorem BusInv.transact (h : BusInv pDesc f₀ s) (hbegin : ∀ r, s.phase = .setup r →
    s.dev.ctrTx = false) : BusInv pDesc f₀ s.transact := by
  have haddress := h.address
  have hstands := h.stands
  generalize hf : s.function pDesc f₀ = f at haddress hstands
  generalize hphase : s.phase = phase at hstands
  generalize hdev : s.dev = d at hstands
  cases hstands with
  | idle =>
      have hsame : s.transact = s := by
        simp only [UsbBus.transact, hphase, ite_self]
      rwa [hsame]
  | @setup _ r allowed settled =>
      subst hdev
      cases hrx : s.dev.ctrRx with
      | true => rwa [transact_setup_of_rx hphase hrx]
      | false =>
          have hrests : s.dev.Rests := ⟨hrx, hbegin r hphase⟩
          have hsteady := settled.steady hrests
          rw [transact_setup_of_rests haddress hphase hsteady hrests]
          refine h.of_stands rfl rfl ?_
          rw [hf]
          exact .serving allowed (.asked hsteady hrests)
  | @serving _ r _ allowed serves =>
      subst hdev hphase hf
      rcases serves.transact haddress with hgoes | hover
      · exact h.of_stands hgoes.log hgoes.address (.serving allowed hgoes.serves)
      · exact h.of_act (a := .request r) hover.log hover.address hover.phase hover.settled
  | suspended =>
      have hsame : s.transact = s := by
        simp only [UsbBus.transact, hphase, ite_self]
      rwa [hsame]

theorem Stands.settled {d : UsbDevice} (h : Stands pDesc f .idle d) : Settled pDesc d f := by
  cases h with
  | idle settled => exact settled
  | serving _ serves => exact absurd (phase_of_serves serves).1 nofun

theorem Stands.of_suspended {d : UsbDevice} (h : Stands pDesc f .suspended d) :
    ∃ d', d'.Rests ∧ Steady d' f ∧ d = d'.usbdLlSuspend := by
  cases h with
  | serving _ serves => exact absurd (phase_of_serves serves).1 nofun
  | suspended rests steady => exact ⟨_, rests, steady, rfl⟩

/-- A reset between two transfers. -/
theorem BusInv.reset (h : BusInv pDesc f₀ s) {dev : UsbDevice} (hrests : dev.Rests)
    (hsteady : Steady { dev with devState := (s.function pDesc f₀).state } (s.function pDesc f₀)) :
    BusInv pDesc f₀ { dev := dev.usbdLlReset, phase := .idle, address := 0,
                      log := s.log ++ [(.reset, .ok)] } :=
  h.of_act (a := .reset) rfl rfl rfl
    (.of_rests (rests_usbdLlReset hrests) (steady_usbdLlReset hsteady))

/-- **Every step keeps it.** -/
theorem busInv_step (hfilled : Filled pDesc) {turn : BusTurn} (h : BusInv pDesc f₀ s)
    (hok : busOk pDesc f₀ turn s = true) (hstep : busStep pDesc turn s = some s') :
    BusInv pDesc f₀ s' := by
  have hstands := h.stands
  cases turn with
  | request r =>
      obtain ⟨hphase, rfl⟩ := busStep_request hstep
      rw [hphase] at hstands
      exact h.of_stands rfl rfl (.setup (by simpa [busOk] using hok) hstands.settled)
  | host =>
      rw [busStep_host hstep]
      refine h.transact fun r hphase => ?_
      simpa [busOk, hphase] using hok
  | irq =>
      obtain ⟨dev, hdev, rfl⟩ := busStep_irq hstep
      obtain ⟨dev', hdev', -, hstands'⟩ := hstands.irq hfilled
      cases hdev.symm.trans hdev'
      exact h.of_stands rfl rfl hstands'
  | reset =>
      obtain ⟨hphase | hphase, dev, hdev, rfl⟩ := busStep_reset hstep
      · rw [hphase] at hstands
        obtain ⟨dev', hdev', hrests, hsteady⟩ := hstands.settled
        cases hdev.symm.trans hdev'
        exact h.reset hrests { hsteady with state := rfl }
      · rw [hphase] at hstands
        obtain ⟨d, hrests, hsteady, hs⟩ := hstands.of_suspended
        rw [hs, pcdEpIsrHandler_of_rests (by exact ⟨hrests.noRx, hrests.noTx⟩)] at hdev
        cases hdev
        exact h.reset ⟨hrests.noRx, hrests.noTx⟩ { hsteady with state := rfl }
  | suspend =>
      obtain ⟨hphase, dev, hdev, rfl⟩ := busStep_suspend hstep
      rw [hphase] at hstands
      obtain ⟨dev', hdev', hrests, hsteady⟩ := hstands.settled
      cases hdev.symm.trans hdev'
      exact h.of_stands rfl rfl (.suspended hrests hsteady)
  | resume =>
      obtain ⟨hphase, dev, hdev, rfl⟩ := busStep_resume hstep
      rw [hphase] at hstands
      obtain ⟨d, hrests, hsteady, hs⟩ := hstands.of_suspended
      rw [hs, pcdEpIsrHandler_of_rests (by exact ⟨hrests.noRx, hrests.noTx⟩)] at hdev
      cases hdev
      refine h.of_stands rfl rfl (.idle (.of_rests ?_ ?_))
      · rw [usbdLlResume_usbdLlSuspend]
        exact ⟨hrests.noRx, hrests.noTx⟩
      · rw [usbdLlResume_usbdLlSuspend]
        exact { hsteady with }

/-- What holds at any time holds after every run. -/
theorem busInv_of_run (hfilled : Filled pDesc) (h₀ : BusInv pDesc f₀ s)
    (h : Run (busStep pDesc) (busOk pDesc f₀) s s') : BusInv pDesc f₀ s' :=
  h.invariant h₀ fun _ _ _ hinv hok hstep => busInv_step hfilled hinv hok hstep

end

/-- The first reset has found nothing. -/
theorem busInv_init (pDesc : UsbdDescriptors) (classData : Mem) :
    BusInv pDesc (functionInit classData) (busInit classData) where
  replies := rfl
  address := rfl
  stands := by
    refine .idle (.of_rests ⟨rfl, rfl⟩ ⟨⟨rfl, rfl, rfl, rfl, fun n => ?_, fun n => ?_,
      fun n _ => rfl, fun n _ => rfl, nofun⟩, fun i _ => rfl, rfl, rfl⟩)
    · show Function.update (fun _ => false) 0 true n = _
      rw [Function.update_apply]
      cases n <;> rfl
    · show Function.update (fun _ => false) 0 true n = _
      rw [Function.update_apply]
      cases n <;> rfl

/-- **The host gets the answers of the device without packets**, over every run, whenever the
interrupt comes between the packets of a transfer; the one for the last of them comes before the
next `SETUP` packet, and a reset or a rest of the bus between two transfers. -/
theorem replies_of_run {pDesc : UsbdDescriptors} (hfilled : Filled pDesc) {classData : Mem}
    {s : UsbBus}
    (h : Run (busStep pDesc) (busOk pDesc (functionInit classData)) (busInit classData) s) :
    s.log.map Prod.snd = ((functionInit classData).run pDesc (s.log.map Prod.fst)).1 :=
  (busInv_of_run hfilled (busInv_init pDesc classData) h).replies

/-- A device with short descriptors. -/
def bareDescriptors : UsbdDescriptors where
  device := [18, 1, 0, 2, 2, 2, 0, 64]
  langIDStr := [4, 3, 9, 4]
  manufacturerStr := [2, 3]
  productStr := [2, 3]
  serialStr := [2, 3]
  configurationStr := [2, 3]
  interfaceStr := [2, 3]
  fsConfig := [9, 2, 67, 0]

theorem filled_bareDescriptors : Filled bareDescriptors :=
  filled_of_ne (by simp [bareDescriptors]) (by simp [bareDescriptors]) (by simp [bareDescriptors])

theorem replies_of_run_getDescriptor : ∃ s : UsbBus,
    s.log = [(.request (.getDescriptor 3 0 0 255), .data [4, 3, 9, 4])] ∧
    s.log.map Prod.snd =
      ((functionInit fun _ => 0).run bareDescriptors (s.log.map Prod.fst)).1 :=
  ⟨_, rfl, replies_of_run filled_bareDescriptors (run_of_exec
    [.request (.getDescriptor 3 0 0 255), .host, .irq, .host, .irq, .host, .irq] rfl)⟩

/-- **The interrupt never leaves the program**, whenever it comes in a run, nor `data` with what it
copies or sends, and behind it nothing is left to report. -/
theorem irq_of_run {pDesc : UsbdDescriptors} (hfilled : Filled pDesc) {classData : Mem}
    {s : UsbBus}
    (h : Run (busStep pDesc) (busOk pDesc (functionInit classData)) (busInit classData) s) :
    ∃ dev, s.dev.pcdEpIsrHandler pDesc = some dev ∧ dev.Rests := by
  obtain ⟨dev, hdev, hrests, -⟩ :=
    (busInv_of_run hfilled (busInv_init pDesc classData) h).stands.irq hfilled
  exact ⟨dev, hdev, hrests⟩

theorem irq_of_run_setAddress : ∃ s : UsbBus, s.phase = .statusIn (.setAddress 5) ∧
    ∃ dev, s.dev.pcdEpIsrHandler bareDescriptors = some dev ∧ dev.Rests :=
  ⟨_, rfl, irq_of_run filled_bareDescriptors (run_of_exec (s := busInit fun _ => 0)
    [.request (.setAddress 5), .host] rfl)⟩

/-! ### A transfer ends -/

section

variable {pDesc : UsbdDescriptors} {f₀ f : UsbFunction} {s s' : UsbBus} {r : ControlRequest}

/-- A transfer that began behind this log is on its way. -/
structure Underway (pDesc : UsbdDescriptors) (f : UsbFunction) (r : ControlRequest)
    (log : List (HostAction × Reply)) (s : UsbBus) : Prop where
  log : s.log = log
  address : s.address = f.address
  allowed : f.allows r = true
  serves : Serves pDesc f r s.phase s.dev ∨ s.phase = .setup r ∧ Settled pDesc s.dev f

theorem busy_of_request (h : s.phase.request = some r) : s.busy = true := by
  unfold UsbBus.busy
  split
  · rename_i hphase
    rw [hphase] at h
    cases h
  · rename_i hphase
    rw [hphase] at h
    cases h
  · rfl

/-- The interrupt, and then the next packet of the host. -/
theorem exec_irq_host {dev : UsbDevice} (hdev : s.dev.pcdEpIsrHandler pDesc = some dev)
    (hrests : dev.Rests) (hr : s.phase.request = some r) :
    exec (busStep pDesc) (busOk pDesc f₀) [.irq, .host] s = some ({ s with dev }).transact := by
  have hirq : busStep pDesc .irq s = some { s with dev } := by
    show (s.dev.pcdEpIsrHandler pDesc).map (fun dev => ({ s with dev } : UsbBus)) = _
    rw [hdev]
    rfl
  have hok : busOk pDesc f₀ .host { s with dev } = true := by
    unfold busOk
    split
    · rename_i heq
      cases heq
    · show (!dev.ctrTx) = true
      rw [hrests.noTx]
      rfl
    · rfl
  have hbusy : ({ s with dev } : UsbBus).busy = true := busy_of_request hr
  simp only [exec, hirq, hok, Option.bind_some, if_true]
  simp only [busOk, busStep, hbusy, if_true, Option.bind_some]

/-- A round brings a transfer nearer to its end. -/
theorem Underway.round (hfilled : Filled pDesc) {log : List (HostAction × Reply)}
    (h : Underway pDesc f r log s) :
    ∃ t, exec (busStep pDesc) (busOk pDesc f₀) [.irq, .host] s = some t ∧
      ((t.phase = .idle ∧ t.log = log ++ [(.request r, (f.answer pDesc r).1)]) ∨
        Underway pDesc f r log t ∧ t.phase.rank < s.phase.rank) := by
  rcases h.serves with hserves | ⟨hphase, hsettled⟩
  · obtain ⟨dev, hdev, hrests, hserves'⟩ := hserves.irq hfilled h.allowed
    refine ⟨_, exec_irq_host hdev hrests (phase_of_serves hserves).1, ?_⟩
    rcases Serves.transact (s := { s with dev }) h.address hserves' with hgoes | hover
    · exact .inr ⟨⟨hgoes.log.trans h.log, hgoes.address.trans h.address, h.allowed,
        .inl hgoes.serves⟩, hgoes.nearer hrests⟩
    · exact .inl ⟨hover.phase, h.log ▸ hover.log⟩
  · obtain ⟨dev, hdev, hrests, hsettled'⟩ := hsettled.irq
    have hsteady := hsettled'.steady hrests
    refine ⟨_, exec_irq_host hdev hrests (by rw [hphase]; rfl), .inr ?_⟩
    rw [transact_setup_of_rests (s := { s with dev }) h.address hphase hsteady hrests]
    exact ⟨⟨h.log, h.address, h.allowed, .inl (.asked hsteady hrests)⟩,
      hphase ▸ rank_firstPhase r⟩

theorem BusInv.underway (h : BusInv pDesc f₀ s) (hr : s.phase.request = some r) :
    Underway pDesc (s.function pDesc f₀) r s.log s := by
  have hstands := h.stands
  generalize hphase : s.phase = phase at hstands
  generalize hdev : s.dev = d at hstands
  rw [hphase] at hr
  cases hstands with
  | idle => cases hr
  | setup allowed settled =>
      cases hr
      subst hdev
      exact ⟨rfl, h.address, allowed, .inr ⟨hphase, settled⟩⟩
  | serving allowed serves =>
      cases hr.symm.trans (phase_of_serves serves).1
      subst hdev hphase
      exact ⟨rfl, h.address, allowed, .inl serves⟩
  | suspended => cases hr

end

/-- **A transfer that has begun comes to its end**, from every state that a run leads to, if only
the interrupt comes before each packet; its phase says how many packets are needed at most. -/
theorem request_ends {pDesc : UsbdDescriptors} (hfilled : Filled pDesc) {classData : Mem}
    {s : UsbBus} {r : ControlRequest}
    (h : Run (busStep pDesc) (busOk pDesc (functionInit classData)) (busInit classData) s)
    (hr : s.phase.request = some r) :
    ∃ k ≤ s.phase.rank + 1, ∃ s', exec (busStep pDesc) (busOk pDesc (functionInit classData))
        (List.replicate k [BusTurn.irq, .host]).flatten s = some s' ∧ s'.phase = .idle ∧
      s'.log = s.log ++ [(.request r,
        ((s.function pDesc (functionInit classData)).answer pDesc r).1)] :=
  exec_progress (fun t : UsbBus => t.phase.rank) [BusTurn.irq, .host]
    (fun _ hunderway => hunderway.round hfilled)
    ((busInv_of_run hfilled (busInv_init pDesc classData) h).underway hr)

theorem request_ends_getConfiguration : ∃ s : UsbBus, s.phase = .setup .getConfiguration ∧
    ∃ k ≤ s.phase.rank + 1, ∃ s', exec (busStep bareDescriptors)
        (busOk bareDescriptors (functionInit fun _ => 0))
        (List.replicate k [BusTurn.irq, .host]).flatten s = some s' ∧ s'.phase = .idle ∧
      s'.log = s.log ++ [(.request .getConfiguration,
        ((s.function bareDescriptors (functionInit fun _ => 0)).answer bareDescriptors
          .getConfiguration).1)] :=
  ⟨_, rfl, request_ends filled_bareDescriptors (run_of_exec [.request .getConfiguration] rfl) rfl⟩

/-! ### The data of the class -/

section

variable {pDesc : UsbdDescriptors} {f : UsbFunction}

theorem UsbFunction.length_run (pDesc : UsbdDescriptors) (f : UsbFunction)
    (as : List HostAction) : (f.run pDesc as).1.length = as.length := by
  induction as generalizing f with
  | nil => rfl
  | cons a as ih =>
      simp only [UsbFunction.run, List.length_cons]
      exact congrArg Nat.succ (ih _)

/-- The answers are those of the device: `f` before them, `f'` behind. -/
structure Tells (pDesc : UsbdDescriptors) (f : UsbFunction) (log : List (HostAction × Reply))
    (f' : UsbFunction) : Prop where
  replies : log.map Prod.snd = (f.run pDesc (log.map Prod.fst)).1
  after : (f.run pDesc (log.map Prod.fst)).2 = f'

theorem Tells.split {xs ys : List (HostAction × Reply)} {f'' : UsbFunction}
    (h : Tells pDesc f (xs ++ ys) f'') :
    ∃ f', Tells pDesc f xs f' ∧ Tells pDesc f' ys f'' := by
  have hreplies := h.replies
  have hafter := h.after
  rw [List.map_append, List.map_append, UsbFunction.run_append] at hreplies
  rw [List.map_append, UsbFunction.run_append] at hafter
  obtain ⟨hxs, hys⟩ := List.append_inj hreplies
    (by rw [UsbFunction.length_run, List.length_map, List.length_map])
  exact ⟨_, ⟨hxs, rfl⟩, hys, hafter⟩

theorem Tells.cons {a : HostAction} {reply : Reply} {ys : List (HostAction × Reply)}
    {f'' : UsbFunction} (h : Tells pDesc f ((a, reply) :: ys) f'') :
    f.act pDesc a = (reply, (f.act pDesc a).2) ∧ Tells pDesc (f.act pDesc a).2 ys f'' := by
  obtain ⟨hreply, hreplies⟩ := List.cons.inj h.replies
  exact ⟨Prod.ext hreply.symm rfl, hreplies, h.after⟩

/-- Only a class request that is granted writes the data. -/
theorem act_data {a : HostAction} (h : ∀ request number value bs,
    (a, (f.act pDesc a).1) ≠ (.request (.classWrite request number value bs), .ok)) :
    (f.act pDesc a).2.data = f.data := by
  cases a with
  | reset => rfl
  | request r =>
      cases r with
      | classWrite request number value bs =>
          by_cases hnumber : number ≤ 1
          · exact absurd (by simp [UsbFunction.act, UsbFunction.answer, hnumber])
              (h request number value bs)
          · simp [UsbFunction.act, UsbFunction.answer, hnumber]
      | getDescriptor type index langId length =>
          simp only [UsbFunction.act, UsbFunction.answer]
          split <;> rfl
      | setAddress address =>
          simp only [UsbFunction.act, UsbFunction.answer]
          split <;> rfl
      | setConfiguration value =>
          simp only [UsbFunction.act, UsbFunction.answer]
          split <;> rfl
      | getStatus recipient => cases recipient <;> rfl
      | halt endpoint on =>
          have hhalted (on : Bool) : (if endpoint = 0x00 ∨ endpoint = 0x80 then f
              else f.setHalted endpoint on).data = f.data := by
            unfold UsbFunction.setHalted
            split
            · rfl
            · split <;> rfl
          simp only [UsbFunction.act, UsbFunction.answer]
          split
          · exact hhalted on
          · exact hhalted true
          · rfl
      | getConfiguration => rfl
      | remoteWakeup on => rfl
      | getInterface number => rfl
      | setInterface number alternate => rfl
      | classRead request number value length => rfl
      | classCommand request number value => rfl

theorem Tells.data {log : List (HostAction × Reply)} {f' : UsbFunction}
    (h : Tells pDesc f log f') (hno : ∀ request number value bs,
      (HostAction.request (.classWrite request number value bs), Reply.ok) ∉ log) :
    f'.data = f.data := by
  induction log generalizing f with
  | nil => rw [← h.after]; rfl
  | cons x log ih =>
      obtain ⟨a, reply⟩ := x
      obtain ⟨hact, hrest⟩ := h.cons
      rw [ih hrest fun request number value bs hmem =>
        hno request number value bs (List.mem_cons_of_mem _ hmem)]
      refine act_data fun request number value bs heq => hno request number value bs ?_
      rw [hact] at heq
      rw [heq]
      exact List.mem_cons_self

end

/-- **What a class request has written is what a later one reads**, as `SET_LINE_CODING` and
`GET_LINE_CODING` do, with whatever lies between them in a run: other requests, resets, a new
address or another configuration. -/
theorem classRead_of_classWrite {pDesc : UsbdDescriptors} (hfilled : Filled pDesc)
    {classData : Mem} {s : UsbBus}
    (h : Run (busStep pDesc) (busOk pDesc (functionInit classData)) (busInit classData) s)
    {pre mid post : List (HostAction × Reply)} {request number request' number' : UInt8}
    {value value' length : UInt16} {data bs : List UInt8}
    (hlog : s.log = pre ++ ((.request (.classWrite request number value data), .ok) ::
      (mid ++ (.request (.classRead request' number' value' length), .data bs) :: post)))
    (hmid : ∀ request number value bs,
      (HostAction.request (.classWrite request number value bs), Reply.ok) ∉ mid) :
    bs.length = length.toNat ∧ bs.take data.length = data.take length.toNat := by
  have htells : Tells pDesc (functionInit classData) s.log _ :=
    ⟨(busInv_of_run hfilled (busInv_init pDesc classData) h).replies, rfl⟩
  rw [hlog] at htells
  obtain ⟨f, -, hwrite⟩ := htells.split
  obtain ⟨hact, hrest⟩ := hwrite.cons
  obtain ⟨f', hbetween, hread⟩ := hrest.split
  obtain ⟨hact', -⟩ := hread.cons
  -- the data that were written are still there
  have hnumber : number ≤ 1 := by
    by_contra hnumber
    simp [UsbFunction.act, UsbFunction.answer, hnumber] at hact
  have hdata : f'.data = write f.data 0 data := by
    rw [hbetween.data hmid]
    simp [UsbFunction.act, UsbFunction.answer, hnumber]
  have hbs : bs = read f'.data 0 length.toNat := by
    by_cases hnumber' : number' ≤ 1
    · have hreply := congrArg Prod.fst hact'
      simp only [UsbFunction.act, UsbFunction.answer, hnumber', if_true] at hreply
      exact (Reply.data.inj hreply).symm
    · simp [UsbFunction.act, UsbFunction.answer, hnumber'] at hact'
  rw [hbs, hdata]
  refine ⟨length_read _ _ _, ?_⟩
  rw [take_read, read_write_take _ _ _ (Nat.min_le_left _ _), ← List.take_take]
  refine List.take_of_length_le ?_
  rw [List.length_take]
  exact Nat.min_le_right _ _

theorem classRead_of_classWrite_two : ([1, 2] : List UInt8).length = (2 : UInt16).toNat ∧
    ([1, 2] : List UInt8).take ([1, 2] : List UInt8).length =
      ([1, 2] : List UInt8).take (2 : UInt16).toNat := by
  have hrun : ∃ s, exec (busStep bareDescriptors)
      (busOk bareDescriptors (functionInit fun _ => 0))
      [.request (.setAddress 5), .host, .irq, .host, .irq,
        .request (.setConfiguration 1), .host, .irq, .host, .irq,
        .request (.classWrite 0x20 0 0 [1, 2]), .host, .irq, .host, .irq, .host, .irq,
        .request .getConfiguration, .host, .irq, .host, .irq, .host, .irq,
        .request (.classRead 0x21 0 0 2), .host, .irq, .host, .irq, .host]
      (busInit fun _ => 0) = some s ∧
      s.log = [(.request (.setAddress 5), .ok), (.request (.setConfiguration 1), .ok)] ++
        ((.request (.classWrite 0x20 0 0 [1, 2]), .ok) ::
          ([(.request .getConfiguration, .data [1])] ++
            (.request (.classRead 0x21 0 0 2), .data [1, 2]) :: [])) := ⟨_, rfl, rfl⟩
  obtain ⟨s, hs, hlog⟩ := hrun
  exact classRead_of_classWrite filled_bareDescriptors (run_of_exec _ hs) hlog (by simp)

end Solar48
