/-
**A control transfer, packet by packet.**

A transfer whose request is answered goes on by itself, each time that the interrupt comes.  Data
that are fetched are followed by the next ones, or by an empty packet if the last one was full and
more had been asked for, and then the empty packet of the host is awaited; data that come are copied
one behind the other, and then an empty packet is sent.

Main definitions:

* `Solar48.Closing`, `Solar48.Awaiting` — the stages that are left behind data;
* `Solar48.Serves` — how far a transfer is, at the host and at the device;
* `Solar48.Settled` — what is left to do behind a transfer.

Main results:

* `Solar48.asked_irq` — a request that came is answered;
* `Solar48.Serves.sent_irq`, `Solar48.Serves.received_irq` — behind a packet of data;
* `Solar48.Serves.irq` — **the interrupt leaves a transfer where it should be**, and reports nothing
  more.
-/

import Solar48.ControlAnswer

set_option relaxedAutoImplicit false
set_option autoImplicit false

namespace Solar48

open ByteMem StepSystem UsbDevice

/-! ### How far a transfer is -/

/-- Only the empty packet behind the data is missing. -/
structure Closing (d : UsbDevice) : Prop extends d.Rests where
  stage : d.ep0State = .dataIn
  tx : d.txStat = .valid
  packet : d.txPacket = []
  remLength : d.remLength ≤ usbMaxEp0Size
  asked : d.ep0DataLen = 0
  rx : d.rxStat = .valid
  buff : d.outBuff = none

/-- The empty packet of the host is awaited, and has nowhere to go. -/
structure Awaiting (d : UsbDevice) : Prop extends d.Rests where
  rx : d.rxStat = .valid
  buff : d.outBuff = none

/-- **How far a transfer is**: what the host is about to do, and the device. -/
inductive Serves (pDesc : UsbdDescriptors) (f : UsbFunction) (r : ControlRequest) :
    HostPhase → UsbDevice → Prop
  | asked {d : UsbDevice} (steady : Steady d f) (rests : d.Rests) :
      Serves pDesc f r r.firstPhase (d.receiveSetup r.setup.bytes).2
  | refused {d : UsbDevice} {f' : UsbFunction} (declines : Declines pDesc f f' r d)
      (refusing : Refusing d r) : Serves pDesc f r r.firstPhase d
  | sending {d : UsbDevice} {f' : UsbFunction} {got rest : List UInt8}
      (reads : Reads pDesc f f' r (got ++ rest) d) (full : got.length % usbMaxEp0Size = 0)
      (some : rest ≠ []) (loaded : Loaded d (got ++ rest).length r.length rest) :
      Serves pDesc f r (.dataIn r got) d
  | sent {d : UsbDevice} {f' : UsbFunction} {got rest : List UInt8}
      (reads : Reads pDesc f f' r (got ++ rest) d) (full : got.length % usbMaxEp0Size = 0)
      (some : rest ≠ []) (loaded : Loaded d (got ++ rest).length r.length rest) :
      Serves pDesc f r
        (r.phaseAfterIn (got ++ rest.take usbMaxEp0Size) (rest.take usbMaxEp0Size)) d.ep0InToken.2
  | closing {d : UsbDevice} {f' : UsbFunction} {bs : List UInt8} (reads : Reads pDesc f f' r bs d)
      (closing : Closing d) : Serves pDesc f r (.dataIn r bs) d
  | closed {d : UsbDevice} {f' : UsbFunction} {bs : List UInt8} (reads : Reads pDesc f f' r bs d)
      (closing : Closing d) : Serves pDesc f r (.statusOut r bs) d.ep0InToken.2
  | awaiting {d : UsbDevice} {f' : UsbFunction} {bs : List UInt8}
      (reads : Reads pDesc f f' r bs d) (awaiting : Awaiting d) :
      Serves pDesc f r (.statusOut r bs) d
  | receiving {d : UsbDevice} {f' : UsbFunction} {got left : List UInt8}
      (writes : Writes pDesc f f' r d) (payload : r.payload = got ++ left) (some : left ≠ [])
      (receiving : Receiving d f got left) : Serves pDesc f r (.dataOut r left) d
  | received {d : UsbDevice} {f' : UsbFunction} {got left : List UInt8}
      (writes : Writes pDesc f f' r d) (payload : r.payload = got ++ left) (some : left ≠ [])
      (receiving : Receiving d f got left) :
      Serves pDesc f r (r.phaseAfterOut left) (d.ep0OutToken (left.take usbMaxEp0Size)).2
  | finishing {d : UsbDevice} {f' : UsbFunction} (grants : Grants pDesc f f' r d)
      (finishing : Finishing d) : Serves pDesc f r (.statusIn r) d

theorem Prepared.serves {pDesc : UsbdDescriptors} {d : UsbDevice} {f : UsbFunction}
    {r : ControlRequest} (h : Prepared pDesc f r d) : Serves pDesc f r r.firstPhase d := by
  cases h with
  | data reads phase some loaded =>
      rw [phase]
      exact .sending reads rfl some loaded
  | write writes phase some receiving =>
      rw [phase]
      exact .receiving writes rfl some receiving
  | ok grants phase finishing =>
      rw [phase]
      exact .finishing grants finishing
  | refused declines refusing => exact .refused declines refusing

/-- Behind a transfer: what is left to look at leaves the device as the host knows it. -/
def Settled (pDesc : UsbdDescriptors) (d : UsbDevice) (f : UsbFunction) : Prop :=
  ∃ d', d.pcdEpIsrHandler pDesc = some d' ∧ d'.Rests ∧ Steady d' f

section

variable {pDesc : UsbdDescriptors} {d : UsbDevice} {f f' : UsbFunction} {r : ControlRequest}

/-! ### The peripheral -/

theorem ep0InToken_of_valid (h : d.txStat = .valid) :
    d.ep0InToken = (.data d.txPacket, { d with txStat := .nak, ctrTx := true }) := by
  rw [ep0InToken, h]

theorem ep0InToken_of_nak (h : d.txStat = .nak) : d.ep0InToken = (.nak, d) := by rw [ep0InToken, h]

theorem ep0InToken_of_stall (h : d.txStat = .stall) : d.ep0InToken = (.stall, d) := by
  rw [ep0InToken, h]

theorem ep0OutToken_of_valid (h : d.rxStat = .valid) {packet : List UInt8}
    (hle : packet.length ≤ d.rxCount) :
    d.ep0OutToken packet = (.ack, { d with
      rxPacket := packet, rxStat := .nak, ctrRx := true, setup := false }) := by
  rw [ep0OutToken, h]
  exact if_pos hle

theorem ep0OutToken_of_nak (h : d.rxStat = .nak) (packet : List UInt8) :
    d.ep0OutToken packet = (.nak, d) := by rw [ep0OutToken, h]

theorem ep0OutToken_of_stall (h : d.rxStat = .stall) (packet : List UInt8) :
    d.ep0OutToken packet = (.stall, d) := by rw [ep0OutToken, h]

theorem receiveSetup_of_rests (h : d.Rests) (packet : List UInt8) :
    d.receiveSetup packet = (.ack, { d with
      rxPacket := packet, ctrRx := true, setup := true, txStat := .nak, rxStat := .nak }) := by
  rw [receiveSetup, h.noRx]
  rfl

theorem Settled.of_rests (hrests : d.Rests) (h : Steady d f) : Settled pDesc d f :=
  ⟨d, pcdEpIsrHandler_of_rests hrests pDesc, hrests, h⟩

/-! ### What the interrupt does -/

theorem pcdEpIsrHandler_tx (hrx : d.ctrRx = false) (htx : d.ctrTx = true) :
    d.pcdEpIsrHandler pDesc = d.pcdEp0Tx := by
  rw [pcdEpIsrHandler, hrx, if_neg Bool.false_ne_true, Option.bind_some, htx, if_pos rfl]

theorem pcdEpIsrHandler_rx (hrx : d.ctrRx = true) {d' : UsbDevice}
    (hd' : d.pcdEp0Rx pDesc = some d') (htx : d'.ctrTx = false) :
    d.pcdEpIsrHandler pDesc = some d' := by
  rw [pcdEpIsrHandler, hrx, if_pos rfl, hd', Option.bind_some, htx, if_neg Bool.false_ne_true]

theorem usbAddress_usbdLlDataInStage (p : TxPointer) :
    (d.usbdLlDataInStage p).usbAddress = d.usbAddress := by
  unfold usbdLlDataInStage
  split
  · split
    · rfl
    · split <;> rfl
  · split <;> rfl

theorem nextLength_of_le (hrem : d.remLength ≤ usbMaxEp0Size) : d.nextLength = 0 := by
  rw [nextLength, if_neg (fun hmore => Nat.not_lt.2 hrem hmore.2)]

theorem nextLength_of_gt (hstage : d.ep0State = .dataIn) (hrem : d.remLength > usbMaxEp0Size) :
    d.nextLength = min (d.remLength - usbMaxEp0Size) usbMaxEp0Size := by
  rw [nextLength, if_pos ⟨hstage, hrem⟩]

/-- A packet was fetched.  Without a new address the rest of the handler does nothing. -/
theorem pcdEpIsrHandler_ep0InToken (hrests : d.Rests) (htx : d.txStat = .valid)
    (hpending : d.usbAddress = 0)
    (hnext : d.nextLength = 0 ∨ (d.xferBuff.add d.txPacket.length).has d.nextLength) :
    d.ep0InToken.2.pcdEpIsrHandler pDesc =
      some (usbdLlDataInStage (d.xferBuff.add d.txPacket.length) { d with
        txStat := .nak, ctrTx := false, xferBuff := d.xferBuff.add d.txPacket.length }) := by
  have hfetched : d.ep0InToken.2 = { d with txStat := .nak, ctrTx := true } := by
    rw [ep0InToken_of_valid htx]
  rw [hfetched, pcdEpIsrHandler_tx (by exact hrests.noRx) rfl, pcdEp0Tx]
  rw [if_pos (by exact hnext)]
  simp only [usbAddress_usbdLlDataInStage, hpending]
  rfl

theorem usbdLlDataInStage_of_gt {p : TxPointer} (hstage : d.ep0State = .dataIn)
    (hrem : d.remLength > usbMaxEp0Size) : d.usbdLlDataInStage p =
      usbdLlPrepareReceive none 0 (usbdLlTransmit p (d.remLength - usbMaxEp0Size)
        { d with remLength := d.remLength - usbMaxEp0Size }) := by
  rw [usbdLlDataInStage, if_pos hstage, if_pos hrem]

theorem usbdLlDataInStage_of_full {p : TxPointer} (hstage : d.ep0State = .dataIn)
    (hrem : d.remLength ≤ usbMaxEp0Size) (hfull : d.totalLength % usbMaxEp0Size = 0)
    (hge : d.totalLength ≥ usbMaxEp0Size) (hlt : d.totalLength < d.ep0DataLen) :
    d.usbdLlDataInStage p =
      usbdLlPrepareReceive none 0 { usbdLlTransmit .null 0 d with ep0DataLen := 0 } := by
  rw [usbdLlDataInStage, if_pos hstage, if_neg (Nat.not_lt.2 hrem), if_pos ⟨hfull, hge, hlt⟩]

theorem usbdLlDataInStage_of_last {p : TxPointer} (hstage : d.ep0State = .dataIn)
    (hrem : d.remLength ≤ usbMaxEp0Size) (hlast : ¬ (d.totalLength % usbMaxEp0Size = 0 ∧
      d.totalLength ≥ usbMaxEp0Size ∧ d.totalLength < d.ep0DataLen)) :
    d.usbdLlDataInStage p = usbdCtlReceiveStatus (d.stallIn 0) := by
  rw [usbdLlDataInStage, if_pos hstage, if_neg (Nat.not_lt.2 hrem), if_neg hlast]

theorem read_add_pointer (p : TxPointer) (m : Mem) (n k : ℕ) :
    (p.add n).read m k = (p.read m (n + k)).drop n := by
  cases p with
  | null => exact List.drop_nil.symm
  | bytes bs =>
      show (bs.drop n).take k = (bs.take (n + k)).drop n
      rw [List.drop_take, Nat.add_sub_cancel_left]
  | classData offset =>
      show read m (offset + n) k = (read m offset (n + k)).drop n
      rw [drop_read, Nat.add_sub_cancel_left]

theorem has_of_le {p : TxPointer} {n k : ℕ} (hle : k ≤ n) (h : p.has n) : p.has k := by
  cases p <;> simp only [TxPointer.has, decide_eq_true_eq, beq_iff_eq] at h ⊢ <;> omega

/-- Behind a full packet. -/
theorem has_add {p : TxPointer} {k : ℕ} (h : p.has (usbMaxEp0Size + k)) :
    (p.add usbMaxEp0Size).has k := by
  unfold usbMaxEp0Size at h ⊢
  cases p <;>
    simp only [TxPointer.has, TxPointer.add, List.length_drop, decide_eq_true_eq, beq_iff_eq]
      at h ⊢ <;> omega

/-- The next data are loaded. -/
theorem Loaded.irq_of_lt {total n : ℕ} {rest : List UInt8} (h : Loaded d total n rest)
    (hsteady : Steady d f) (hlong : usbMaxEp0Size < rest.length) :
    ∃ d', d.ep0InToken.2.pcdEpIsrHandler pDesc = some d' ∧
      Loaded d' total n (rest.drop usbMaxEp0Size) ∧ Steady d' f := by
  have hsent : d.txPacket.length = usbMaxEp0Size := by
    rw [h.packet, List.length_take]
    omega
  have hrem : d.remLength - usbMaxEp0Size = (rest.drop usbMaxEp0Size).length := by
    rw [h.remLength, List.length_drop]
  have hread (k : ℕ) (hk : k ≤ (rest.drop usbMaxEp0Size).length) :
      (d.xferBuff.add usbMaxEp0Size).read d.classData k = (rest.drop usbMaxEp0Size).take k := by
    rw [List.length_drop] at hk
    rw [read_add_pointer, h.pointer _ (by omega), List.drop_take, Nat.add_sub_cancel_left]
  have hinside : (d.xferBuff.add usbMaxEp0Size).has (rest.drop usbMaxEp0Size).length := by
    refine has_add ?_
    rw [List.length_drop, Nat.add_sub_cancel' (Nat.le_of_lt hlong)]
    exact h.inside
  have hnext : (d.xferBuff.add d.txPacket.length).has d.nextLength := by
    rw [hsent, nextLength_of_gt h.stage (h.remLength ▸ hlong), hrem]
    exact has_of_le (Nat.min_le_left _ _) hinside
  refine ⟨_, pcdEpIsrHandler_ep0InToken h.toRests h.tx hsteady.pending (.inr hnext), ?_⟩
  rw [hsent, usbdLlDataInStage_of_gt (by exact h.stage) (by exact h.remLength ▸ hlong)]
  refine ⟨⟨⟨h.noRx, rfl⟩, h.stage, rfl, ?_, hrem, h.totalLength, h.asked, hread, hinside,
    .inr ⟨rfl, rfl⟩⟩, { hsteady with }⟩
  have hlen : (if d.remLength - usbMaxEp0Size > usbMaxEp0Size then usbMaxEp0Size
      else d.remLength - usbMaxEp0Size) =
        min usbMaxEp0Size (rest.drop usbMaxEp0Size).length := by
    rw [hrem]
    split <;> omega
  show (d.xferBuff.add usbMaxEp0Size).read d.classData (if d.remLength - usbMaxEp0Size >
    usbMaxEp0Size then usbMaxEp0Size else d.remLength - usbMaxEp0Size) = _
  rw [hlen, hread _ (Nat.min_le_right _ _), ← List.take_eq_take_min]

/-- The last data were a full packet, and more had been asked for. -/
theorem Loaded.irq_of_full {total n : ℕ} {rest : List UInt8} (h : Loaded d total n rest)
    (hsteady : Steady d f) (hshort : rest.length ≤ usbMaxEp0Size)
    (hfull : total % usbMaxEp0Size = 0) (hge : total ≥ usbMaxEp0Size) (hlt : total < n) :
    ∃ d', d.ep0InToken.2.pcdEpIsrHandler pDesc = some d' ∧ Closing d' ∧ Steady d' f := by
  have hrem : d.remLength ≤ usbMaxEp0Size := h.remLength ▸ hshort
  refine ⟨_, pcdEpIsrHandler_ep0InToken h.toRests h.tx hsteady.pending
    (.inl (nextLength_of_le hrem)), ?_⟩
  have hlt' : d.totalLength < d.ep0DataLen := by rwa [h.totalLength, h.asked]
  rw [← h.totalLength] at hfull hge
  rw [usbdLlDataInStage_of_full (by exact h.stage) (by exact hrem) (by exact hfull)
    (by exact hge) (by exact hlt')]
  exact ⟨⟨⟨h.noRx, rfl⟩, h.stage, rfl, rfl, hrem, rfl, rfl, rfl⟩, { hsteady with }⟩

/-- Nothing is left to send. -/
theorem irq_of_last (pDesc : UsbdDescriptors) (hrests : d.Rests) (htx : d.txStat = .valid)
    (hsteady : Steady d f)
    (hstage : d.ep0State = .dataIn) (hrem : d.remLength ≤ usbMaxEp0Size)
    (hlast : ¬ (d.totalLength % usbMaxEp0Size = 0 ∧ d.totalLength ≥ usbMaxEp0Size ∧
      d.totalLength < d.ep0DataLen)) :
    ∃ d', d.ep0InToken.2.pcdEpIsrHandler pDesc = some d' ∧ Awaiting d' ∧ Steady d' f := by
  refine ⟨_, pcdEpIsrHandler_ep0InToken hrests htx hsteady.pending
    (.inl (nextLength_of_le hrem)), ?_⟩
  rw [usbdLlDataInStage_of_last (by exact hstage) (by exact hrem) (by exact hlast)]
  refine ⟨⟨⟨hrests.noRx, rfl⟩, rfl, rfl⟩, ?_⟩
  exact { hsteady with toShows := { hsteady.toShows.stallIn with } }

/-- A `SETUP` packet has come. -/
theorem pcdEpIsrHandler_receiveSetup (hrests : d.Rests) {psetup : List UInt8} {d' : UsbDevice}
    (hd' : usbdLlSetupStage pDesc psetup { d with
      rxPacket := psetup, ctrRx := false, setup := true, txStat := .nak, rxStat := .nak } = some d')
    (htx : d'.ctrTx = false) :
    (d.receiveSetup psetup).2.pcdEpIsrHandler pDesc = some d' := by
  rw [receiveSetup_of_rests hrests]
  exact pcdEpIsrHandler_rx rfl hd' htx

/-- A request that came is answered. -/
theorem asked_irq (hfilled : Filled pDesc) (hallows : f.allows r) (h : Steady d f)
    (hrests : d.Rests) :
    ∃ d', (d.receiveSetup r.setup.bytes).2.pcdEpIsrHandler pDesc = some d' ∧ d'.Rests ∧
      Prepared pDesc f r d' := by
  obtain ⟨d', hd', hanswered⟩ := answered_usbdLlSetupStage hfilled hallows
    (d := { d with
      rxPacket := r.setup.bytes, ctrRx := false, setup := true, txStat := .nak, rxStat := .nak })
    { h with } ⟨rfl, hrests.noTx⟩ rfl rfl
  have hrests' : d'.Rests := by
    cases hanswered with
    | data _ _ _ loaded => exact loaded.toRests
    | write _ _ _ receiving => exact receiving.toRests
    | ok _ _ finishing => exact finishing.toRests
    | refused _ refusing => exact refusing.toRests
  exact ⟨d', pcdEpIsrHandler_receiveSetup hrests hd' hrests'.noTx, hrests', hanswered⟩

/-! ### Data that are read -/

theorem phaseAfterIn_of_ge {got packet : List UInt8} (hfull : usbMaxEp0Size ≤ packet.length)
    (hmore : got.length ≠ r.length) : r.phaseAfterIn got packet = .dataIn r got :=
  if_neg (not_or.2 ⟨Nat.not_lt.2 hfull, hmore⟩)

theorem phaseAfterIn_of_last {got packet : List UInt8}
    (hlast : packet.length < usbMaxEp0Size ∨ got.length = r.length) :
    r.phaseAfterIn got packet = .statusOut r got := if_pos hlast

/-- The interrupt behind a packet of data. -/
theorem Serves.sent_irq {got rest : List UInt8} (hreads : Reads pDesc f f' r (got ++ rest) d)
    (hfull : got.length % usbMaxEp0Size = 0) (hsome : rest ≠ [])
    (hloaded : Loaded d (got ++ rest).length r.length rest) :
    ∃ d', d.ep0InToken.2.pcdEpIsrHandler pDesc = some d' ∧ d'.Rests ∧
      Serves pDesc f r
        (r.phaseAfterIn (got ++ rest.take usbMaxEp0Size) (rest.take usbMaxEp0Size)) d' := by
  have hpos := List.length_pos_iff.2 hsome
  have hfits := hreads.fits
  rw [List.length_append] at hfits
  rcases Nat.lt_or_ge usbMaxEp0Size rest.length with hlong | hshort
  · -- more data are to come
    obtain ⟨d', hd', hnext, hsteady⟩ := hloaded.irq_of_lt hreads.steady hlong
    refine ⟨d', hd', hnext.toRests, ?_⟩
    have hsplit : got ++ rest = got ++ rest.take usbMaxEp0Size ++ rest.drop usbMaxEp0Size := by
      rw [List.append_assoc, List.take_append_drop]
    have htake : (rest.take usbMaxEp0Size).length = usbMaxEp0Size := by
      rw [List.length_take]
      omega
    rw [phaseAfterIn_of_ge (Nat.le_of_eq htake.symm)
      (by rw [List.length_append, htake]; omega)]
    have hans := hreads.answer
    rw [hsplit] at hans hnext
    refine .sending
      ⟨hans, hreads.same, hsplit ▸ hreads.fits, hsteady⟩ ?_ ?_ hnext
    · rw [List.length_append, htake, Nat.add_mod_right]
      exact hfull
    · intro hnil
      have := List.length_drop (i := usbMaxEp0Size) (l := rest)
      rw [hnil, List.length_nil] at this
      omega
  · have htake : rest.take usbMaxEp0Size = rest := List.take_of_length_le hshort
    rw [htake]
    by_cases hmore : (got ++ rest).length % usbMaxEp0Size = 0 ∧
        (got ++ rest).length ≥ usbMaxEp0Size ∧ (got ++ rest).length < r.length
    · -- the last packet was full, and so it does not end the data
      obtain ⟨d', hd', hclosing, hsteady⟩ :=
        hloaded.irq_of_full hreads.steady hshort hmore.1 hmore.2.1 hmore.2.2
      refine ⟨d', hd', hclosing.toRests, ?_⟩
      obtain ⟨hmod, -, hlt⟩ := hmore
      rw [List.length_append, Nat.add_mod, hfull, Nat.zero_add, Nat.mod_mod] at hmod
      have hlen : rest.length = usbMaxEp0Size := by
        unfold usbMaxEp0Size at hmod hshort ⊢
        omega
      rw [phaseAfterIn_of_ge (Nat.le_of_eq hlen.symm) (Nat.ne_of_lt hlt)]
      exact .closing ⟨hreads.answer, hreads.same, hreads.fits, hsteady⟩ hclosing
    · have hlast : ¬ (d.totalLength % usbMaxEp0Size = 0 ∧ d.totalLength ≥ usbMaxEp0Size ∧
          d.totalLength < d.ep0DataLen) := by
        rwa [hloaded.totalLength, hloaded.asked]
      obtain ⟨d', hd', hawaiting, hsteady⟩ := irq_of_last pDesc hloaded.toRests
        hloaded.tx hreads.steady hloaded.stage (hloaded.remLength ▸ hshort) hlast
      refine ⟨d', hd', hawaiting.toRests, ?_⟩
      rw [phaseAfterIn_of_last]
      · exact .awaiting ⟨hreads.answer, hreads.same, hreads.fits, hsteady⟩ hawaiting
      · rw [List.length_append] at hmore ⊢
        unfold usbMaxEp0Size at *
        omega

/-! ### Data that are written -/

theorem ep0OutToken_snd (h : d.rxStat = .valid) {packet : List UInt8}
    (hle : packet.length ≤ d.rxCount) : (d.ep0OutToken packet).2 = { d with
      rxPacket := packet, rxStat := .nak, ctrRx := true, setup := false } := by
  rw [ep0OutToken_of_valid h hle]

/-- A packet of data has come. -/
theorem Receiving.irq {got left : List UInt8} (h : Receiving d f got left) (hsome : left ≠ [])
    {d' : UsbDevice}
    (hd' : usbdLlDataOutStage (some (got.length + (left.take usbMaxEp0Size).length)) { d with
      rxPacket := left.take usbMaxEp0Size, rxStat := .nak, ctrRx := false, setup := false
      classData := write d.classData got.length (left.take usbMaxEp0Size)
      outBuff := some (got.length + (left.take usbMaxEp0Size).length) } = d')
    (htx : d'.ctrTx = false) :
    (d.ep0OutToken (left.take usbMaxEp0Size)).2.pcdEpIsrHandler pDesc =
      some (if d'.rxStat ≠ .valid then { d' with rxCount := usbMaxEp0Size, rxStat := .valid }
        else d') := by
  have hlen : (left.take usbMaxEp0Size).length ≠ 0 := by
    have := List.length_pos_iff.2 hsome
    rw [List.length_take]
    unfold usbMaxEp0Size
    omega
  have hle : (left.take usbMaxEp0Size).length ≤ d.rxCount := by
    rw [h.room, List.length_take]
    exact Nat.le_of_eq (Nat.min_comm _ _)
  have hinside : got.length + (left.take usbMaxEp0Size).length ≤ cdcDataHsMaxPacketSize :=
    Nat.le_trans (Nat.add_le_add_left (List.length_take_le' _ _) _) h.inside
  rw [ep0OutToken_snd h.rx hle]
  refine pcdEpIsrHandler_rx rfl ?_ ?_
  · simp only [pcdEp0Rx, usbReadPma, h.buff, Bool.false_eq_true, if_false, ne_eq, hlen,
      not_false_eq_true, if_true, hinside, Option.map_some, hd']
  · split
    · exact htx
    · exact htx

theorem usbdLlDataOutStage_of_gt {p : Option ℕ} (hstage : d.ep0State = .dataOut)
    (hrem : d.outRemLength > usbMaxEp0Size) : d.usbdLlDataOutStage p =
      usbdLlPrepareReceive p (min (d.outRemLength - usbMaxEp0Size) usbMaxEp0Size)
        { d with outRemLength := d.outRemLength - usbMaxEp0Size } := by
  rw [usbdLlDataOutStage, if_pos hstage, if_pos hrem]

theorem usbdLlDataOutStage_of_le {p : Option ℕ} (hstage : d.ep0State = .dataOut)
    (hrem : d.outRemLength ≤ usbMaxEp0Size) : d.usbdLlDataOutStage p =
      usbdCtlSendStatus (if d.devState = .configured then d.usbdCdcEp0RxReady else d) := by
  rw [usbdLlDataOutStage, if_pos hstage, if_neg (Nat.not_lt.2 hrem)]

/-- There is room for the next data behind those that have come. -/
theorem Receiving.irq_of_lt (pDesc : UsbdDescriptors) {got left : List UInt8}
    (h : Receiving d f got left)
    (hlong : usbMaxEp0Size < left.length) :
    ∃ d', (d.ep0OutToken (left.take usbMaxEp0Size)).2.pcdEpIsrHandler pDesc = some d' ∧
      Receiving d' f (got ++ left.take usbMaxEp0Size) (left.drop usbMaxEp0Size) ∧
      (∀ g, Shows d g → Shows d' g) ∧ ∀ g, Moving d f g → Moving d' f g := by
  have hsome : left ≠ [] := by
    rintro rfl
    exact Nat.not_lt_zero _ hlong
  have hrem : d.outRemLength - usbMaxEp0Size = (left.drop usbMaxEp0Size).length := by
    rw [h.remLength, List.length_drop]
  refine ⟨_, h.irq hsome (usbdLlDataOutStage_of_gt (by exact h.stage)
    (by exact h.remLength ▸ hlong)) h.noTx, ?_⟩
  rw [if_neg (by exact not_not.2 rfl)]
  refine ⟨⟨⟨rfl, h.noTx⟩, h.stage, h.tx, rfl, ?_, ?_, hrem, ?_, ?_⟩, fun g hg => { hg with },
    fun g hg => { hg with }⟩
  · show (if min (d.outRemLength - usbMaxEp0Size) usbMaxEp0Size > usbMaxEp0Size then usbMaxEp0Size
      else min (d.outRemLength - usbMaxEp0Size) usbMaxEp0Size) = _
    rw [hrem, if_neg (Nat.not_lt.2 (Nat.min_le_right _ _))]
  · rw [List.length_append]
    rfl
  · have hinside := h.inside
    rw [List.length_append, List.length_take, List.length_drop]
    omega
  · obtain ⟨m, hm, hmem⟩ := h.written
    refine ⟨m, ?_, hmem⟩
    show write d.classData got.length (left.take usbMaxEp0Size) = _
    rw [hm, write_write_of_eq _ _ _ _ _ (Nat.zero_add _).symm]

/-- `USBD_CDC_EP0_RxReady` does not touch the data. -/
theorem usbdCdcEp0RxReady_eq (d : UsbDevice) :
    ∃ m, (if d.devState = .configured then d.usbdCdcEp0RxReady else d) = { d with classData := m } ∧
      ∀ i < cdcDataHsMaxPacketSize, m i = d.classData i := by
  split
  · unfold usbdCdcEp0RxReady
    split
    · exact ⟨_, rfl, fun i hi => write_of_lt _ _ _ hi⟩
    · exact ⟨_, rfl, fun _ _ => rfl⟩
  · exact ⟨_, rfl, fun _ _ => rfl⟩

theorem write_congr {m m' : Mem} {p i : ℕ} (bs : List UInt8) (h : m i = m' i) :
    write m p bs i = write m' p bs i := by
  simp only [write, h]

/-- Behind the last data the status is ready, and the data are where they belong. -/
theorem Receiving.irq_of_le (pDesc : UsbdDescriptors) {got left : List UInt8}
    (h : Receiving d f got left)
    (hsome : left ≠ []) (hshort : left.length ≤ usbMaxEp0Size) :
    ∃ d', (d.ep0OutToken (left.take usbMaxEp0Size)).2.pcdEpIsrHandler pDesc = some d' ∧
      Finishing d' ∧
      (∀ i < cdcDataHsMaxPacketSize, d'.classData i = write f.data 0 (got ++ left) i) ∧
      (∀ g, Shows d g → Shows d' g) ∧ ∀ g, Moving d f g → Moving d' f g := by
  have htake : left.take usbMaxEp0Size = left := List.take_of_length_le hshort
  obtain ⟨m, hready, hm⟩ := usbdCdcEp0RxReady_eq { d with
    rxPacket := left.take usbMaxEp0Size, rxStat := .nak, ctrRx := false, setup := false
    classData := write d.classData got.length (left.take usbMaxEp0Size)
    outBuff := some (got.length + (left.take usbMaxEp0Size).length) }
  have hstage := usbdLlDataOutStage_of_le (d := { d with
      rxPacket := left.take usbMaxEp0Size, rxStat := .nak, ctrRx := false, setup := false
      classData := write d.classData got.length (left.take usbMaxEp0Size)
      outBuff := some (got.length + (left.take usbMaxEp0Size).length) })
    (p := some (got.length + (left.take usbMaxEp0Size).length)) h.stage (h.remLength ▸ hshort)
  rw [hready] at hstage
  refine ⟨_, h.irq hsome hstage h.noTx, ?_⟩
  rw [if_pos (by exact EpStatus.noConfusion)]
  refine ⟨⟨⟨rfl, h.noTx⟩, rfl, rfl, rfl, rfl⟩, fun i hi => ?_, fun g hg => { hg with },
    fun g hg => { hg with }⟩
  obtain ⟨m₀, hwritten, hm₀⟩ := h.written
  refine (hm i hi).trans ?_
  show write d.classData got.length (left.take usbMaxEp0Size) i = _
  rw [htake, hwritten, write_write_of_eq _ _ _ _ _ (Nat.zero_add _).symm]
  exact write_congr _ (hm₀ i hi)

/-- The interrupt behind a packet that was sent. -/
theorem Serves.received_irq {got left : List UInt8} (hwrites : Writes pDesc f f' r d)
    (hpayload : r.payload = got ++ left) (hsome : left ≠ []) (h : Receiving d f got left) :
    ∃ d', (d.ep0OutToken (left.take usbMaxEp0Size)).2.pcdEpIsrHandler pDesc = some d' ∧ d'.Rests ∧
      Serves pDesc f r (r.phaseAfterOut left) d' := by
  rcases Nat.lt_or_ge usbMaxEp0Size left.length with hlong | hshort
  · obtain ⟨d', hd', hnext, hshows, hmoving⟩ := h.irq_of_lt pDesc hlong
    refine ⟨d', hd', hnext.toRests, ?_⟩
    rw [ControlRequest.phaseAfterOut, if_neg (Nat.not_le.2 hlong)]
    refine .receiving
      { hwrites with shows := hshows _ hwrites.shows, moving := hmoving _ hwrites.moving } ?_ ?_
      hnext
    · rw [hpayload, List.append_assoc, List.take_append_drop]
    · intro hnil
      have := List.length_drop (i := usbMaxEp0Size) (l := left)
      rw [hnil, List.length_nil] at this
      omega
  · obtain ⟨d', hd', hfinishing, hdata, hshows, hmoving⟩ :=
      h.irq_of_le pDesc hsome hshort
    refine ⟨d', hd', hfinishing.toRests, ?_⟩
    rw [ControlRequest.phaseAfterOut, if_pos hshort]
    refine .finishing ⟨hwrites.answer, hshows _ hwrites.shows, fun i hi => ?_,
      hmoving _ hwrites.moving⟩ hfinishing
    rw [hwrites.stored, hpayload]
    exact hdata i hi

/-! ### A transfer goes on -/

/-- **The interrupt.** -/
theorem Serves.irq (hfilled : Filled pDesc) (hallows : f.allows r) {phase : HostPhase}
    (h : Serves pDesc f r phase d) :
    ∃ d', d.pcdEpIsrHandler pDesc = some d' ∧ d'.Rests ∧ Serves pDesc f r phase d' := by
  cases h with
  | asked steady rests =>
      obtain ⟨d', hd', hrests, hanswered⟩ := asked_irq hfilled hallows steady rests
      exact ⟨d', hd', hrests, hanswered.serves⟩
  | refused declines refusing =>
      exact ⟨d, pcdEpIsrHandler_of_rests refusing.toRests pDesc, refusing.toRests,
        .refused declines refusing⟩
  | sending reads full some loaded =>
      exact ⟨d, pcdEpIsrHandler_of_rests loaded.toRests pDesc, loaded.toRests,
        .sending reads full some loaded⟩
  | sent reads full some loaded => exact sent_irq reads full some loaded
  | closing reads closing =>
      exact ⟨d, pcdEpIsrHandler_of_rests closing.toRests pDesc, closing.toRests,
        .closing reads closing⟩
  | closed reads closing =>
      obtain ⟨d', hd', hawaiting, hsteady⟩ := irq_of_last pDesc closing.toRests
        closing.tx reads.steady closing.stage closing.remLength
        (by rw [closing.asked]; exact fun hc => Nat.not_lt_zero _ hc.2.2)
      exact ⟨d', hd', hawaiting.toRests, .awaiting { reads with steady := hsteady } hawaiting⟩
  | awaiting reads awaiting =>
      exact ⟨d, pcdEpIsrHandler_of_rests awaiting.toRests pDesc, awaiting.toRests,
        .awaiting reads awaiting⟩
  | receiving writes payload some receiving =>
      exact ⟨d, pcdEpIsrHandler_of_rests receiving.toRests pDesc, receiving.toRests,
        .receiving writes payload some receiving⟩
  | received writes payload some receiving => exact received_irq writes payload some receiving
  | finishing grants finishing =>
      exact ⟨d, pcdEpIsrHandler_of_rests finishing.toRests pDesc, finishing.toRests,
        .finishing grants finishing⟩

end

end Solar48
