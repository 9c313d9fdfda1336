/-
**Reading the clock.**

The seconds of the real time clock are a 32-bit counter in two registers of 16 bits.
`rtc_get_timestamp` reads one after the other, in the order that the compiler chooses, and the
clock goes on in the meantime.  If the second ends between the two reads, and the low half of the
counter overflows, the halves do not belong together.

Main definitions:

* `Solar48.currentTimestamp` — `CURRENT_TIMESTAMP`, from what the registers held;
* `Solar48.rtcReadStep` — a call of `rtc_get_timestamp`, and the clock.

Main results:

* `Solar48.toNat_currentTimestamp` — what two halves are worth;
* `Solar48.RtcRead.Inv.step` — what one step preserves;
* `Solar48.rtcGetTimestamp_iff` — **the time returned is that of the call, or a second later, if no
  carry came between the reads**.
-/

import Solar48.StepSystem
import Mathlib.Algebra.Group.Nat.Defs
import Mathlib.Tactic.Common

set_option relaxedAutoImplicit false
set_option autoImplicit false

namespace Solar48

open StepSystem

/-! ### The registers -/

/-- `RTC_CNTH`. -/
def rtcCnth (cnt : UInt32) : UInt16 := (cnt >>> 16).toUInt16

/-- `RTC_CNTL`. -/
def rtcCntl (cnt : UInt32) : UInt16 := cnt.toUInt16

/-- `CURRENT_TIMESTAMP`, from what was read of `RTC_CNTH` and of `RTC_CNTL`. -/
def currentTimestamp (cnth cntl : UInt16) : UInt32 := cnth.toUInt32 <<< 16 ||| cntl.toUInt32

theorem toNat_rtcCnth (cnt : UInt32) : (rtcCnth cnt).toNat = cnt.toNat / 65536 := by
  have hlt := cnt.toNat_lt
  rw [rtcCnth, UInt32.toNat_toUInt16, UInt32.toNat_shiftRight]
  change cnt.toNat >>> 16 % 65536 = _
  rw [Nat.shiftRight_eq_div_pow]
  omega

theorem toNat_rtcCntl (cnt : UInt32) : (rtcCntl cnt).toNat = cnt.toNat % 65536 :=
  UInt32.toNat_toUInt16 cnt

/-- **What two halves are worth.** -/
theorem toNat_currentTimestamp (cnth cntl : UInt16) :
    (currentTimestamp cnth cntl).toNat = cnth.toNat * 65536 + cntl.toNat := by
  have hh := cnth.toNat_lt
  have hl := cntl.toNat_lt
  rw [currentTimestamp, UInt32.toNat_or, UInt32.toNat_shiftLeft, UInt16.toNat_toUInt32,
    UInt16.toNat_toUInt32]
  change cnth.toNat <<< 16 % 2 ^ 32 ||| cntl.toNat = _
  rw [Nat.mod_eq_of_lt (by rw [Nat.shiftLeft_eq]; omega), ← Nat.shiftLeft_add_eq_or_of_lt hl,
    Nat.shiftLeft_eq]

/-- The halves of one count. -/
theorem currentTimestamp_self (cnt : UInt32) :
    currentTimestamp (rtcCnth cnt) (rtcCntl cnt) = cnt := by
  refine UInt32.toNat_inj.1 ?_
  rw [toNat_currentTimestamp, toNat_rtcCnth, toNat_rtcCntl]
  omega

/-- The low half overflows with the next second. -/
def Carries (cnt : UInt32) : Prop := rtcCntl cnt = 0xFFFF

instance (cnt : UInt32) : Decidable (Carries cnt) := inferInstanceAs (Decidable (_ = _))

theorem carries_iff (cnt : UInt32) : Carries cnt ↔ cnt.toNat % 65536 = 65535 := by
  rw [Carries, ← UInt16.toNat_inj, toNat_rtcCntl]
  rfl

theorem toNat_succ (cnt : UInt32) : (cnt + 1).toNat = (cnt.toNat + 1) % 2 ^ 32 :=
  UInt32.toNat_add cnt 1

/-- The high half of a count, and the low half of the next. -/
theorem currentTimestamp_high_first (cnt : UInt32) :
    currentTimestamp (rtcCnth cnt) (rtcCntl (cnt + 1)) = cnt ∨
        currentTimestamp (rtcCnth cnt) (rtcCntl (cnt + 1)) = cnt + 1 ↔ ¬ Carries cnt := by
  have hlt := cnt.toNat_lt
  rw [carries_iff, ← UInt32.toNat_inj, ← UInt32.toNat_inj, toNat_currentTimestamp, toNat_rtcCnth,
    toNat_rtcCntl, toNat_succ]
  omega

/-- The low half of a count, and the high half of the next. -/
theorem currentTimestamp_low_first (cnt : UInt32) :
    currentTimestamp (rtcCnth (cnt + 1)) (rtcCntl cnt) = cnt ∨
        currentTimestamp (rtcCnth (cnt + 1)) (rtcCntl cnt) = cnt + 1 ↔ ¬ Carries cnt := by
  have hlt := cnt.toNat_lt
  rw [carries_iff, ← UInt32.toNat_inj, ← UInt32.toNat_inj, toNat_currentTimestamp, toNat_rtcCnth,
    toNat_rtcCntl, toNat_succ]
  omega

/-! ### The call -/

/-- In which order the compiler reads the registers. -/
inductive ReadOrder
  | highFirst
  | lowFirst
  deriving DecidableEq, Repr

/-- The half that is read first. -/
def ReadOrder.firstHalf : ReadOrder → UInt32 → UInt16
  | highFirst => rtcCnth
  | lowFirst => rtcCntl

/-- `CURRENT_TIMESTAMP`, from the half read first and the counter at the second read. -/
def ReadOrder.join : ReadOrder → UInt16 → UInt32 → UInt32
  | highFirst, half, cnt => currentTimestamp half (rtcCntl cnt)
  | lowFirst, half, cnt => currentTimestamp (rtcCnth cnt) half

/-- Where a call of `rtc_get_timestamp` is. -/
inductive RtcReadPc
  /-- about to test `RSF` -/
  | test
  /-- about to read the first half -/
  | first
  /-- about to read the second half, having read this one -/
  | second (half : UInt16)
  | returned (value : UInt32)
  deriving DecidableEq, Repr

structure RtcRead where
  /-- the counter of the clock -/
  cnt : UInt32
  /-- `RTC_CRL & RSF` -/
  rsf : Bool
  oldCurrentTime : UInt32
  pc : RtcReadPc
  /-- the seconds that ended since the call -/
  ticks : ℕ
  /-- the low half overflowed between the two reads -/
  carried : Bool
  deriving DecidableEq, Repr

/-- `rtc_get_timestamp` is called. -/
def RtcRead.call (cnt : UInt32) (rsf : Bool) (oldCurrentTime : UInt32) : RtcRead where
  cnt := cnt
  rsf := rsf
  oldCurrentTime := oldCurrentTime
  pc := .test
  ticks := 0
  carried := false

/-- Whose turn it is. -/
inductive RtcTurn
  /-- a second ends -/
  | tick
  /-- the call goes on -/
  | cpu
  deriving DecidableEq, Repr

/-- The call is between its two reads. -/
def RtcReadPc.between : RtcReadPc → Bool
  | second _ => true
  | _ => false

/-- `rtc_get_timestamp`, one access after the other. -/
def rtcCpuStep (order : ReadOrder) (s : RtcRead) : Option RtcRead :=
  match s.pc with
  | .test => some { s with pc := if s.rsf then .first else .returned s.oldCurrentTime }
  | .first => some { s with pc := .second (order.firstHalf s.cnt) }
  | .second half =>
      let value := order.join half s.cnt
      some { s with oldCurrentTime := value, pc := .returned value }
  | .returned _ => none

def rtcReadStep (order : ReadOrder) : RtcTurn → RtcRead → Option RtcRead
  | .tick, s =>
      some { s with
        cnt := s.cnt + 1
        ticks := s.ticks + 1
        carried := s.carried || s.pc.between && decide (Carries s.cnt) }
  | .cpu, s => rtcCpuStep order s

/-- A call takes less than a second, so at most one ends meanwhile. -/
def oneTick : RtcTurn → RtcRead → Bool
  | .tick, s => s.ticks = 0
  | .cpu, _ => true

/-! ### What it returns -/

namespace RtcRead

variable {order : ReadOrder} {c : UInt32} {rsf : Bool} {old : UInt32} {s t : RtcRead}

/-- Both halves of one count. -/
theorem join_firstHalf_self (order : ReadOrder) (cnt : UInt32) :
    order.join (order.firstHalf cnt) cnt = cnt := by
  cases order <;> exact currentTimestamp_self cnt

/-- The halves of a count and of the next. -/
theorem join_firstHalf_succ (order : ReadOrder) (cnt : UInt32) :
    order.join (order.firstHalf cnt) (cnt + 1) = cnt ∨
        order.join (order.firstHalf cnt) (cnt + 1) = cnt + 1 ↔ ¬ Carries cnt := by
  cases order with
  | highFirst => exact currentTimestamp_high_first cnt
  | lowFirst => exact currentTimestamp_low_first cnt

/-- The counter has counted the seconds that ended, of which there is at most one. -/
def Counted (c : UInt32) (s : RtcRead) : Prop :=
  s.ticks = 0 ∧ s.cnt = c ∨ s.ticks = 1 ∧ s.cnt = c + 1

/-- What the half read first belongs to: the counter as it is, or as it was before the second
ended. -/
def FirstRead (order : ReadOrder) (c : UInt32) (s : RtcRead) (half : UInt16) : Prop :=
  half = order.firstHalf s.cnt ∧ s.carried = false ∨
    half = order.firstHalf c ∧ s.cnt = c + 1 ∧ s.ticks = 1 ∧ s.carried = decide (Carries c)

/-- What holds at the place where the call is. -/
def AtPc (order : ReadOrder) (c : UInt32) (rsf : Bool) (old : UInt32) (s : RtcRead) :
    RtcReadPc → Prop
  | .test => s.rsf = rsf ∧ s.oldCurrentTime = old ∧ s.carried = false
  | .first => rsf = true ∧ s.carried = false
  | .second half => rsf = true ∧ FirstRead order c s half
  | .returned value =>
      (value = c ∨ value = c + 1) ↔ if rsf then s.carried = false else old = c ∨ old = c + 1

/-- The invariant of a call. -/
structure Inv (order : ReadOrder) (c : UInt32) (rsf : Bool) (old : UInt32) (s : RtcRead) :
    Prop where
  counted : Counted c s
  atPc : AtPc order c rsf old s s.pc

theorem inv_call (order : ReadOrder) (c : UInt32) (rsf : Bool) (old : UInt32) :
    Inv order c rsf old (call c rsf old) :=
  ⟨Or.inl ⟨rfl, rfl⟩, rfl, rfl, rfl⟩

/-- The second ends. -/
theorem Inv.tick (h : Inv order c rsf old s) (hok : oneTick .tick s = true)
    (hstep : rtcReadStep order .tick s = some t) : Inv order c rsf old t := by
  have hticks : s.ticks = 0 := by simpa [oneTick] using hok
  have hcnt : s.cnt = c := by
    rcases h.counted with ⟨-, hcnt⟩ | ⟨hone, -⟩
    · exact hcnt
    · omega
  obtain rfl := Option.some.inj hstep
  refine ⟨Or.inr ⟨by simp [hticks], by simp [hcnt]⟩, ?_⟩
  have hpc := h.atPc
  cases hs : s.pc with
  | test =>
      rw [hs] at hpc
      simpa [AtPc, RtcReadPc.between] using hpc
  | first =>
      rw [hs] at hpc
      simpa [AtPc, RtcReadPc.between] using hpc
  | second half =>
      rw [hs] at hpc
      obtain ⟨hrsf, hread⟩ := hpc
      refine ⟨hrsf, Or.inr ?_⟩
      rcases hread with ⟨hhalf, hcarried⟩ | ⟨-, -, hone, -⟩
      · refine ⟨hhalf.trans (by rw [hcnt]), by simp [hcnt], by simp [hticks], ?_⟩
        simp [hcarried, RtcReadPc.between, hcnt]
      · omega
  | returned value =>
      rw [hs] at hpc
      simpa [AtPc, RtcReadPc.between] using hpc

/-- The call goes on. -/
theorem Inv.cpu (h : Inv order c rsf old s) (hstep : rtcReadStep order .cpu s = some t) :
    Inv order c rsf old t := by
  have hpc := h.atPc
  have hcounted := h.counted
  rw [rtcReadStep, rtcCpuStep] at hstep
  cases hs : s.pc with
  | test =>
      rw [hs] at hpc hstep
      obtain ⟨hrsf, hold, hcarried⟩ := hpc
      obtain rfl := Option.some.inj hstep
      refine ⟨hcounted, ?_⟩
      cases hr : rsf with
      | true => simp [hrsf, hr, AtPc, hcarried]
      | false => simp [hrsf, hr, AtPc, hold]
  | first =>
      rw [hs] at hpc hstep
      obtain ⟨hrsf, hcarried⟩ := hpc
      obtain rfl := Option.some.inj hstep
      exact ⟨hcounted, hrsf, Or.inl ⟨rfl, hcarried⟩⟩
  | second half =>
      rw [hs] at hpc hstep
      obtain ⟨hrsf, hread⟩ := hpc
      obtain rfl := Option.some.inj hstep
      refine ⟨hcounted, ?_⟩
      simp only [AtPc, hrsf, if_true]
      rcases hread with ⟨hhalf, hcarried⟩ | ⟨hhalf, hcnt, -, hcarried⟩
      · rw [hhalf, join_firstHalf_self, hcarried]
        refine iff_of_true ?_ rfl
        rcases hcounted with ⟨-, hcnt⟩ | ⟨-, hcnt⟩
        · exact Or.inl hcnt
        · exact Or.inr hcnt
      · rw [hhalf, hcnt, join_firstHalf_succ, hcarried, decide_eq_false_iff_not]
  | returned value =>
      rw [hs] at hstep
      cases hstep

/-- **The step lemma.** -/
theorem Inv.step {turn : RtcTurn} (h : Inv order c rsf old s) (hok : oneTick turn s = true)
    (hstep : rtcReadStep order turn s = some t) : Inv order c rsf old t := by
  cases turn with
  | tick => exact h.tick hok hstep
  | cpu => exact h.cpu hstep

end RtcRead

/-- **The time that is returned is that of the call or a second later, exactly if no carry came
between the two reads**, where the registers are read at all; otherwise it is what was returned
before. -/
theorem rtcGetTimestamp_iff {order : ReadOrder} {c : UInt32} {rsf : Bool} {old : UInt32}
    {s : RtcRead} (h : Run (rtcReadStep order) oneTick (.call c rsf old) s) {value : UInt32}
    (hvalue : s.pc = .returned value) :
    (value = c ∨ value = c + 1) ↔ if rsf then s.carried = false else old = c ∨ old = c + 1 := by
  have hinv : RtcRead.Inv order c rsf old s :=
    h.invariant (RtcRead.inv_call order c rsf old) fun _ _ _ hi hok hstep => hi.step hok hstep
  have hpc := hinv.atPc
  rw [hvalue] at hpc
  exact hpc

/-- The second ends between the reads. -/
def tornRead : List RtcTurn := [.cpu, .cpu, .tick, .cpu]

/-- The low half is not at its end. -/
theorem rtcGetTimestamp_between : ∃ s value,
    Run (rtcReadStep .highFirst) oneTick (.call 0x12345678 true 0) s ∧ s.pc = .returned value ∧
      (value = 0x12345678 ∨ value = 0x12345678 + 1) := by
  obtain ⟨s, hs, hpc, hcarried⟩ : ∃ s, exec (rtcReadStep .highFirst) oneTick tornRead
      (.call 0x12345678 true 0) = some s ∧ s.pc = .returned 0x12345679 ∧ s.carried = false :=
    ⟨_, rfl, rfl, rfl⟩
  have hrun := run_of_exec _ hs
  exact ⟨s, _, hrun, hpc, (rtcGetTimestamp_iff hrun hpc).2 hcarried⟩

/-- 18 hours are lost. -/
theorem rtcGetTimestamp_torn :
    ¬ ∀ order c old s value, Run (rtcReadStep order) oneTick (.call c true old) s →
      s.pc = .returned value → value = c ∨ value = c + 1 := by
  intro hall
  obtain ⟨s, hs, hpc⟩ : ∃ s, exec (rtcReadStep .highFirst) oneTick tornRead
      (.call 0x1234FFFF true 0) = some s ∧ s.pc = .returned 0x12340000 := ⟨_, rfl, rfl⟩
  have hvalue := hall .highFirst 0x1234FFFF 0 s _ (run_of_exec _ hs) hpc
  exact absurd hvalue (by decide)

end Solar48
