/-
**The bytes on the I2C bus.**

Each round of the loop in `hal_i2c1_write` sends one byte of the data or two, as a flag of the
hardware says, and counts down what is left in two places.  The invariant says for each place how
many of the two addresses were sent before it, and that the bytes behind them are those before the
data pointer.

Main definitions:

* `Solar48.I2cState.drs` — the values that were written to `I2C1_DR`;
* `Solar48.I2cCall.values` — those that should be;
* `Solar48.I2cBytes` — the invariant.

Main results:

* `Solar48.I2cBytes.sendByte` — one byte more;
* `Solar48.I2cBytes.step` — what one step preserves;
* `Solar48.drs_prefix` — **the bytes go out once and in order, all of them in a success, and no
  others are read**.
-/

import Solar48.HalI2c

set_option relaxedAutoImplicit false
set_option autoImplicit false

namespace Solar48

open ByteMem StepSystem

/-! ### What is sent -/

/-- The value that is written to `I2C1_DR`. -/
def I2cWrite.dr? : I2cWrite → Option UInt16
  | dr v => some v
  | sr1 _ | cr1 _ => none

/-- The values that were written to `I2C1_DR`, in order. -/
def I2cState.drs (s : I2cState) : List UInt16 := s.log.filterMap I2cWrite.dr?

/-- The values that should be, for a block of data. -/
def I2cCall.values (call : I2cCall) (block : Mem) : List UInt16 :=
  [call.devAddress.toUInt16 <<< 1, call.memAddress.toUInt16] ++
    (read block 0 call.dataSize.toNat).map UInt8.toUInt16

/-- How many addresses were sent before a place, up to the end of the loop. -/
def I2cPc.addresses : I2cPc → Option ℕ
  | entry | wait .busyBus | check .busyBus | clearAf | clearPos | setStart | wait .startBus
  | check .startBus | sendAddress => some 0
  | wait .devAddressBus | clearAddr | check .devAddressBus | sendMemAddress => some 1
  | loop | wait .devMemoryAddressBus | check .devMemoryAddressBus | sendData | sendMore
  | wait .devStopBus | check .devStopBus => some 2
  | finish | finishAf | returned _ => none

/-- There is data to send. -/
def I2cPc.pending : I2cPc → Bool
  | wait .devMemoryAddressBus | check .devMemoryAddressBus | sendData => true
  | _ => false

namespace BusPoint

/-- A wait and the check behind it send nothing, and keep what is known of the data. -/
theorem addresses_wait (p : BusPoint) : ∃ n, (I2cPc.wait p).addresses = some n := by
  cases p <;> exact ⟨_, rfl⟩

theorem addresses_check (p : BusPoint) :
    (I2cPc.check p).addresses = (I2cPc.wait p).addresses := by
  cases p <;> rfl

theorem addresses_afterWait (p : BusPoint) :
    p.afterWait.addresses = (I2cPc.wait p).addresses := by
  cases p <;> rfl

theorem addresses_afterCheck (p : BusPoint) :
    p.afterCheck.addresses = (I2cPc.wait p).addresses := by
  cases p <;> rfl

theorem pending_wait {p : BusPoint} : p.afterWait.pending → (I2cPc.wait p).pending := by
  cases p <;> exact id

theorem pending_check {p : BusPoint} : p.afterCheck.pending → (I2cPc.check p).pending := by
  cases p <;> exact id

end BusPoint

/-- The result, as far as it is known. -/
def I2cState.result (s : I2cState) : I2cErr :=
  match s.pc with
  | .returned err => err
  | _ => s.err

/-- What was sent, and what is left. -/
structure I2cBytes (call : I2cCall) (block : Mem) (s : I2cState) : Prop where
  sent : ∀ n, s.pc.addresses = some n →
    s.drs = (call.values block).take (n + s.data) ∧ (n < 2 → s.data = 0)
  left : ∀ n, s.pc.addresses = some n →
    s.data + s.dataSize.toNat = call.dataSize.toNat ∧ s.err = .success
  pending : s.pc.pending = true → 0 < s.dataSize.toNat
  ended : s.pc.addresses = none →
    s.drs <+: call.values block ∧ (s.result = .success → s.drs = call.values block)
  reads : ∀ o ∈ s.reads, o < call.dataSize.toNat

variable {call : I2cCall} {block : Mem} {i : I2cInput} {s t : I2cState} {lock : Bool} {n : ℕ}

/-! ### Small steps -/

theorem length_values (call : I2cCall) (block : Mem) :
    (call.values block).length = 2 + call.dataSize.toNat := by
  rw [I2cCall.values, List.length_append, List.length_map, length_read]
  rfl

/-- One byte more of the data. -/
theorem values_take_succ {o : ℕ} (h : o < call.dataSize.toNat) :
    (call.values block).take (2 + o) ++ [(block o).toUInt16] =
      (call.values block).take (2 + (o + 1)) := by
  have hlt : 2 + o < (call.values block).length := by
    rw [length_values]
    omega
  have hget : (call.values block)[2 + o] = (block o).toUInt16 := by
    simp [I2cCall.values, Nat.add_comm 2 o]
  rw [← Nat.add_assoc, List.take_succ_eq_append_getElem hlt, hget]

theorem drs_write (s : I2cState) (w : I2cWrite) (pc : I2cPc) :
    ((s.write w).goto pc).drs = s.drs ++ w.dr?.toList := by
  show (s.log ++ [w]).filterMap I2cWrite.dr? = _
  rw [List.filterMap_append]
  cases w <;> rfl

theorem i2cInit_bytes (call : I2cCall) (block : Mem) (lock : Bool) :
    I2cBytes call block (i2cInit call lock) where
  sent n hn := by
    obtain rfl : 0 = n := Option.some.inj hn
    exact ⟨rfl, fun _ => rfl⟩
  left n hn := ⟨Nat.zero_add _, rfl⟩
  pending := nofun
  ended := nofun
  reads := nofun

namespace I2cBytes

/-- Nothing is sent, and nothing ends. -/
theorem advance (h : I2cBytes call block s) (hn : s.pc.addresses = some n)
    (hpc : t.pc.addresses = some n) (hdrs : t.drs = s.drs) (hdata : t.data = s.data)
    (hsize : t.dataSize = s.dataSize) (herr : t.err = s.err) (hreads : t.reads = s.reads)
    (hpending : t.pc.pending = true → 0 < s.dataSize.toNat) : I2cBytes call block t where
  sent m hm := by
    rw [hpc] at hm
    rw [hdrs, hdata]
    exact h.sent m (hn.trans hm)
  left m hm := by
    rw [hpc] at hm
    rw [hdata, hsize, herr]
    exact h.left m (hn.trans hm)
  pending := by
    rw [hsize]
    exact hpending
  ended hnone := by
    rw [hpc] at hnone
    cases hnone
  reads := by
    rw [hreads]
    exact h.reads

/-- An address is sent. -/
theorem sendAddress (h : I2cBytes call block s) (hn : s.pc.addresses = some n) (hlt : n < 2)
    {v : UInt16} (hv : (call.values block)[n]? = some v) {pc : I2cPc}
    (hpc : pc.addresses = some (n + 1)) (hpending : pc.pending = false) :
    I2cBytes call block ((s.write (.dr v)).goto pc) where
  sent m hm := by
    obtain rfl : n + 1 = m := Option.some.inj (hpc.symm.trans hm)
    obtain ⟨hdrs, hzero⟩ := h.sent n hn
    have hdata : s.data = 0 := hzero hlt
    have htake : (call.values block).take (n + 1) = (call.values block).take n ++ [v] := by
      rw [List.take_add_one, hv]
      rfl
    refine ⟨?_, fun _ => hdata⟩
    show ((s.write (.dr v)).goto pc).drs = (call.values block).take (n + 1 + s.data)
    rw [drs_write, hdrs, hdata]
    exact htake.symm
  left m _ := h.left n hn
  pending hp := by
    replace hp : pc.pending = true := hp
    rw [hpending] at hp
    cases hp
  ended hnone := by
    replace hnone : pc.addresses = none := hnone
    rw [hpc] at hnone
    cases hnone
  reads := h.reads

/-- **A byte of the data is sent**: it is the next one, and one of the block. -/
theorem sendByte (h : I2cBytes call block s) (hn : s.pc.addresses = some 2)
    (hpos : 0 < s.dataSize.toNat) {pc : I2cPc} (hpc : pc.addresses = some 2)
    (hpending : pc.pending = false) : I2cBytes call block ((s.sendByte block).goto pc) := by
  obtain ⟨hdrs, -⟩ := h.sent 2 hn
  obtain ⟨hleft, herr⟩ := h.left 2 hn
  have hlt : s.data < call.dataSize.toNat := by omega
  have hone : (1 : UInt16).toNat = 1 := rfl
  have hsize : (s.dataSize - 1).toNat = s.dataSize.toNat - 1 :=
    UInt16.toNat_sub_of_le _ _ (UInt16.le_iff_toNat_le.2 (by rw [hone]; omega))
  refine ⟨fun m hm => ?_, fun m _ => ?_, fun hp => ?_, fun hnone => ?_, fun o ho => ?_⟩
  · obtain rfl : 2 = m := Option.some.inj (hpc.symm.trans hm)
    refine ⟨?_, fun hlt => by omega⟩
    show (s.log ++ [I2cWrite.dr (block s.data).toUInt16]).filterMap I2cWrite.dr? = _
    rw [List.filterMap_append]
    show s.drs ++ [(block s.data).toUInt16] = (call.values block).take (2 + (s.data + 1))
    rw [hdrs, values_take_succ hlt]
  · refine ⟨?_, herr⟩
    show s.data + 1 + (s.dataSize - 1).toNat = call.dataSize.toNat
    rw [hsize]
    omega
  · replace hp : pc.pending = true := hp
    rw [hpending] at hp
    cases hp
  · replace hnone : pc.addresses = none := hnone
    rw [hpc] at hnone
    cases hnone
  · rcases List.mem_append.1 ho with hold | hnew
    · exact h.reads o hold
    · rw [List.mem_singleton.1 hnew]
      exact hlt

/-- The end, of a failure or with all sent. -/
theorem stop (h : I2cBytes call block s) (hn : s.pc.addresses = some n)
    (hpc : t.pc.addresses = none) (hpending : t.pc.pending = false) (hdrs : t.drs = s.drs)
    (hreads : t.reads = s.reads)
    (hresult : t.result = .success → n = 2 ∧ s.dataSize.toNat = 0) : I2cBytes call block t where
  sent m hm := by
    rw [hpc] at hm
    cases hm
  left m hm := by
    rw [hpc] at hm
    cases hm
  pending hp := by
    rw [hpending] at hp
    cases hp
  ended _ := by
    obtain ⟨hsent, -⟩ := h.sent n hn
    rw [hdrs, hsent]
    refine ⟨List.take_prefix _ _, fun hsuccess => ?_⟩
    obtain ⟨rfl, hzero⟩ := hresult hsuccess
    obtain ⟨hleft, -⟩ := h.left 2 hn
    refine List.take_of_length_le ?_
    rw [length_values]
    omega
  reads := by
    rw [hreads]
    exact h.reads

/-- Behind the end. -/
theorem leave (h : I2cBytes call block s) (hn : s.pc.addresses = none)
    (hpc : t.pc.addresses = none) (hpending : t.pc.pending = false) (hdrs : t.drs = s.drs)
    (hreads : t.reads = s.reads) (hresult : t.result = s.result) : I2cBytes call block t where
  sent m hm := by
    rw [hpc] at hm
    cases hm
  left m hm := by
    rw [hpc] at hm
    cases hm
  pending hp := by
    rw [hpending] at hp
    cases hp
  ended _ := by
    rw [hdrs, hresult]
    exact h.ended hn
  reads := by
    rw [hreads]
    exact h.reads

/-! ### One step -/

/-- **What one step preserves.** -/
theorem step (h : I2cBytes call block s) (hdata : call.data = some block)
    (hsize : 0 < call.dataSize) (hstep : i2cStep call i s = some t) :
    I2cBytes call block t := by
  have hne : call.isEmpty = false := by
    have hzero : call.dataSize ≠ 0 := by
      intro h0
      rw [h0] at hsize
      exact absurd hsize (by decide)
    simp [I2cCall.isEmpty, hdata, hzero]
  unfold i2cStep at hstep
  cases hpc : s.pc with
  | entry =>
      have hn : s.pc.addresses = some 0 := by rw [hpc]; rfl
      simp only [hpc, hne, Bool.false_eq_true, if_false] at hstep
      split at hstep <;> cases hstep
      · exact h.stop hn rfl rfl rfl rfl nofun
      · exact h.advance hn rfl rfl rfl rfl rfl rfl nofun
  | wait p =>
      simp only [hpc] at hstep
      split at hstep <;> cases hstep
      · exact h
      · obtain ⟨n, hn⟩ := p.addresses_wait
        refine h.advance (by rw [hpc, hn]) (p.addresses_afterWait.trans hn) rfl rfl rfl rfl rfl
          fun hp => h.pending ?_
        rw [hpc]
        exact BusPoint.pending_wait hp
  | clearAddr =>
      simp only [hpc] at hstep
      cases hstep
      exact h.advance (n := 1) (by rw [hpc]; rfl) rfl rfl rfl rfl rfl rfl nofun
  | check p =>
      obtain ⟨n, hwait⟩ := p.addresses_wait
      have hn : s.pc.addresses = some n := by rw [hpc, p.addresses_check, hwait]
      simp only [hpc] at hstep
      split at hstep
      · cases hstep
        exact h.stop hn rfl rfl rfl rfl nofun
      · split at hstep <;> cases hstep
        · exact h.stop hn rfl rfl rfl rfl nofun
        · refine h.advance hn (p.addresses_afterCheck.trans hwait) rfl rfl rfl rfl rfl
            fun hp => h.pending ?_
          rw [hpc]
          exact BusPoint.pending_check hp
  | clearAf | clearPos | setStart =>
      simp only [hpc] at hstep
      cases hstep
      exact h.advance (n := 0) (by rw [hpc]; rfl) rfl
        ((drs_write _ _ _).trans (List.append_nil _)) rfl rfl rfl rfl nofun
  | sendAddress =>
      simp only [hpc] at hstep
      cases hstep
      exact h.sendAddress (n := 0) (by rw [hpc]; rfl) (by decide) rfl rfl rfl
  | sendMemAddress =>
      simp only [hpc] at hstep
      cases hstep
      exact h.sendAddress (n := 1) (by rw [hpc]; rfl) (by decide) rfl rfl rfl
  | loop =>
      have hn : s.pc.addresses = some 2 := by rw [hpc]; rfl
      have hzero : (0 : UInt16).toNat = 0 := rfl
      simp only [hpc] at hstep
      split at hstep <;> cases hstep
      · rename_i hpos
        exact h.advance hn rfl rfl rfl rfl rfl rfl fun _ => UInt16.lt_iff_toNat_lt.1 hpos
      · rename_i hpos
        refine h.stop hn rfl rfl rfl rfl fun _ => ⟨rfl, ?_⟩
        have hle := UInt16.le_iff_toNat_le.1 (UInt16.not_lt.1 hpos)
        omega
  | sendData =>
      simp only [hpc, hdata, Option.map_some] at hstep
      cases hstep
      exact h.sendByte (by rw [hpc]; rfl) (h.pending (by rw [hpc]; rfl)) rfl rfl
  | sendMore =>
      have hn : s.pc.addresses = some 2 := by rw [hpc]; rfl
      simp only [hpc] at hstep
      split at hstep
      · rename_i hpos
        rw [hdata, Option.map_some] at hstep
        cases hstep
        exact h.sendByte hn (UInt16.lt_iff_toNat_lt.1 hpos.2) rfl rfl
      · cases hstep
        exact h.advance hn rfl rfl rfl rfl rfl rfl nofun
  | finish =>
      have hn : s.pc.addresses = none := by rw [hpc]; rfl
      have hresult : s.result = s.err := by rw [I2cState.result, hpc]
      simp only [hpc] at hstep
      split at hstep
      · split at hstep <;> cases hstep
        · exact h.leave hn rfl rfl rfl rfl hresult.symm
        · exact h.leave hn rfl rfl rfl rfl hresult.symm
      · cases hstep
        exact h.leave hn rfl rfl ((drs_write s _ .finish).trans (List.append_nil _)) rfl
          hresult.symm
  | finishAf =>
      have hn : s.pc.addresses = none := by rw [hpc]; rfl
      have hresult : s.result = s.err := by rw [I2cState.result, hpc]
      have hdrs : ((s.write (.sr1 (i.sr1 &&& ~~~AF))).write (.cr1 STOP)).drs = s.drs := by
        have hsr1 := drs_write s (.sr1 (i.sr1 &&& ~~~AF)) .finishAf
        have hcr1 := drs_write (s.write (.sr1 (i.sr1 &&& ~~~AF))) (.cr1 STOP) .finishAf
        exact (hcr1.trans (List.append_nil _)).trans (hsr1.trans (List.append_nil _))
      simp only [hpc] at hstep
      cases hstep
      exact h.leave hn rfl rfl hdrs rfl hresult.symm
  | returned err =>
      simp only [hpc] at hstep
      cases hstep

end I2cBytes

/-! ### All runs -/

/-- **The bytes go out once and in order**, all of them in a success, and no others are read. -/
theorem drs_prefix (hdata : call.data = some block) (hsize : 0 < call.dataSize)
    (h : Run (i2cStep call) (fun _ _ => true) (i2cInit call lock) s) :
    s.drs <+: call.values block ∧ (s.pc = .returned .success → s.drs = call.values block) ∧
      ∀ o ∈ s.reads, o < call.dataSize.toNat := by
  have hinv : I2cBytes call block s := h.invariant (i2cInit_bytes call block lock)
    fun i t u ht _ hstep => ht.step hdata hsize hstep
  refine ⟨?_, fun hpc => ?_, hinv.reads⟩
  · cases hn : s.pc.addresses with
    | none => exact (hinv.ended hn).1
    | some n =>
        rw [(hinv.sent n hn).1]
        exact List.take_prefix _ _
  · have hresult : s.result = .success := by rw [I2cState.result, hpc]
    exact (hinv.ended (by rw [hpc]; rfl)).2 hresult

/-- One byte for the display. -/
theorem drs_prefix_displayCall :
    [0x78, 0x40, 0xFF] <+: displayCall.values (fun _ => 0xFF) ∧
      (I2cPc.returned .success = .returned .success →
        [0x78, 0x40, 0xFF] = displayCall.values fun _ => 0xFF) ∧ ∀ o ∈ [0], o < 1 := by
  have hrun : Run (i2cStep displayCall) (fun _ _ => true) (i2cInit displayCall false)
      ⟨.returned .success, false, .success, 0, 1, displayLog, [0]⟩ :=
    run_of_exec promptInputs rfl
  exact drs_prefix rfl (by decide) hrun

end Solar48
