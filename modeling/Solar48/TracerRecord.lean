/-
**The records of a Tracer 6415AN.**

A handler of the Tracer copies what the master has delivered into a record of its own, field after
field.  The cursor advances by the size of the field, or, where registers are to be left out, by
the difference of two register addresses.  Each handler copies if the number of registers is the
one that it expects.

Whether an answer fills the record is a matter of three numbers: what the function asks for, what
its handler expects, and how far the copies read (`Solar48.acceptsOwnAnswer_iff`).  Where the
fields come from is a matter of the differences, which are one or two registers short
(`Solar48.landsRight_iff`).

Main definitions:

* `Solar48.EpTracer6415anRatedDatum` and its like — the records;
* `Solar48.TracerFunction.copies`, `Solar48.tracerDeliver` — what a handler copies, and what it
  gives its callback;
* `Solar48.TracerFunction.recordFrom` — a record, out of the registers of an answer;
* `Solar48.AcceptsOwnAnswer` — an answer of the right size fills the record, any other is refused;
* `Solar48.LandsRight` — the fields of the real-time data are at their addresses.

Main results:

* `Solar48.acceptsOwnAnswer_iff` — **two of the five requests accept their own answer**;
* `Solar48.landsRight_iff` — **real-time data lands right if the registers that are mistaken for
  each other are equal**.
-/

import Solar48.CursorCopy
import Solar48.Tracer

set_option relaxedAutoImplicit false
set_option autoImplicit false

namespace Solar48

open ByteMem CursorCopy

/-! ### The records -/

/-- `EP_TRACER6415AN_RATED_DATUM`. -/
structure EpTracer6415anRatedDatum where
  arrayRatedVotage : UInt16
  arrayRatedCurrent : UInt16
  arrayRatedPower : UInt32
  batteryRatedVoltage : UInt16
  batteryRatedCurrent : UInt16
  batteryRatedPower : UInt32
  chargingMode : UInt16
  ratedCurrentLoad : UInt16
  deriving Inhabited

/-- `EP_TRACER6415AN_REAL_TIME_DATA`. -/
structure EpTracer6415anRealTimeData where
  pvArrayInputVoltage : UInt16
  pvArrayInputCurrent : UInt16
  pvArrayInputPower : UInt32
  batteryPower : UInt32
  loadVoltage : UInt16
  loadCurrent : UInt16
  loadPower : UInt32
  batteryTemperature : UInt16
  temperatureInsideEquipament : UInt16
  batterySoc : UInt16
  remoteBatteryTemperature : UInt16
  batteryRealRatedPower : UInt16
  deriving Inhabited

/-- `EP_TRACER6415AN_REAL_TIME_STATUS`. -/
structure EpTracer6415anRealTimeStatus where
  batteryStatus : UInt16
  chargingEquipmentStatus : UInt16
  dischargingEquipmentStatus : UInt16
  deriving Inhabited

/-- `EP_TRACER6415AN_STATISTICAL_PARAMETERS`. -/
structure EpTracer6415anStatisticalParameters where
  maximumPvVoltageToday : UInt16
  minimumPvVoltageToday : UInt16
  maximumBatteryVoltageToday : UInt16
  minimumBatteryVoltageToday : UInt16
  consumedEnergyToday : UInt32
  consumedEnergyThisMonth : UInt32
  consumedEnergyThisYear : UInt32
  totalConsumedEnergy : UInt32
  generatedEnergyToday : UInt32
  generatedEnergyThisMonth : UInt32
  generatedEnergyThisYear : UInt32
  batteryVoltage : UInt16
  batteryCurrent : UInt32
  deriving Inhabited

/-- `EP_TRACER6415AN_SETTING_PARAMETERS`. -/
structure EpTracer6415anSettingParameters where
  batteryType : UInt16
  batteryCapacity : UInt16
  temperatureCompensationCoeficient : UInt16
  highVoltDisconnect : UInt16
  changingLimitVoltage : UInt16
  overVoltageReconnect : UInt16
  equalizationVoltage : UInt16
  boostVoltage : UInt16
  floatVoltage : UInt16
  boostReconnectVoltage : UInt16
  lowVoltageReconnect : UInt16
  underVoltageWarning : UInt16
  lowVoltageDisconnect : UInt16
  dischangingLimitVoltage : UInt16
  realTimeClockA : UInt32
  realTimeClockB : UInt32
  batteryTemperatureWarningUpperLimit : UInt16
  batteryTemperatureWarningLowerLimit : UInt16
  controllerInnerTemperatureUpperLimit : UInt16
  controllerInnerTemperatureLowerLimit : UInt16
  dayTimeThresholdVold : UInt16
  lightSignalStartupNightDelayTime : UInt16
  lightTimeThresholdVolt : UInt16
  lightSignalCloseDayDelayTime : UInt16
  loadControllingNodes : UInt16
  workingTimeLenght1 : UInt16
  workingTimeLenght2 : UInt16
  turnOnTimer1A : UInt16
  turnOnTimer1B : UInt16
  turnOnTimer1C : UInt16
  turnOffTimer1A : UInt16
  turnOffTimer1B : UInt16
  turnOffTimer1C : UInt16
  turnOnTimer2A : UInt16
  turnOnTimer2B : UInt16
  turnOnTimer2C : UInt16
  turnOffTimer2A : UInt16
  turnOffTimer2B : UInt16
  turnOffTimer2C : UInt16
  backlightTime : UInt16
  lenghtOfTime : UInt16
  deviceConfigureOfMainPowerSupply : UInt16
  batteryRatedVoltageCode : UInt16
  defaultLoadOnOffInManualMode : UInt16
  equalizeDuration : UInt16
  boostDuration : UInt16
  dischargePercentage : UInt16
  chargingPercentage : UInt16
  managementModesOfBatteryChargingAndDischarging : UInt16
  deriving Inhabited

/-! ### The copies -/

/-- `TRACER6415AN_COPY_AND_ADVANCE_N`, by a number of registers. -/
def copyAndAdvanceU16 {ρ : Type} (n : ℕ) (c : Copy ρ) : Copy ρ := { c with advance := 2 * n }

/-- `TRACER6415AN_COPY_AND_FINISH`. -/
def copyAndFinish {ρ : Type} (c : Copy ρ) : Copy ρ := { c with advance := 0 }

/-- The copies of `rs485_epever_tracer6415an_read_rated_datum_receive`. -/
def readRatedDatumCopies : List (Copy EpTracer6415anRatedDatum) :=
  [ half fun x r => { r with arrayRatedVotage := x },
    half fun x r => { r with arrayRatedCurrent := x },
    word fun x r => { r with arrayRatedPower := x },
    half fun x r => { r with batteryRatedVoltage := x },
    half fun x r => { r with batteryRatedCurrent := x },
    word fun x r => { r with batteryRatedPower := x },
    copyAndAdvanceU16 (0x300E - 0x3008) (half fun x r => { r with chargingMode := x }),
    copyAndFinish (half fun x r => { r with ratedCurrentLoad := x }) ]

/-- The copies of `rs485_epever_tracer6415an_real_time_data_receive`. -/
def realTimeDataCopies : List (Copy EpTracer6415anRealTimeData) :=
  [ half fun x r => { r with pvArrayInputVoltage := x },
    half fun x r => { r with pvArrayInputCurrent := x },
    copyAndAdvanceU16 (0x3106 - 0x3103) (word fun x r => { r with pvArrayInputPower := x }),
    copyAndAdvanceU16 (0x310C - 0x3107) (word fun x r => { r with batteryPower := x }),
    half fun x r => { r with loadVoltage := x },
    half fun x r => { r with loadCurrent := x },
    word fun x r => { r with loadPower := x },
    half fun x r => { r with batteryTemperature := x },
    copyAndAdvanceU16 (0x311A - 0x3111)
      (half fun x r => { r with temperatureInsideEquipament := x }),
    half fun x r => { r with batterySoc := x },
    copyAndAdvanceU16 (0x311D - 0x311B) (half fun x r => { r with remoteBatteryTemperature := x }),
    copyAndFinish (half fun x r => { r with batteryRealRatedPower := x }) ]

/-- The copies of `rs485_epever_tracer6415an_real_time_status_receive`. -/
def realTimeStatusCopies : List (Copy EpTracer6415anRealTimeStatus) :=
  [ half fun x r => { r with batteryStatus := x },
    half fun x r => { r with chargingEquipmentStatus := x },
    copyAndFinish (half fun x r => { r with dischargingEquipmentStatus := x }) ]

/-- The copies of `rs485_epever_tracer6415an_statistical_parameters_receive`. -/
def statisticalParametersCopies : List (Copy EpTracer6415anStatisticalParameters) :=
  [ half fun x r => { r with maximumPvVoltageToday := x },
    half fun x r => { r with minimumPvVoltageToday := x },
    half fun x r => { r with maximumBatteryVoltageToday := x },
    half fun x r => { r with minimumBatteryVoltageToday := x },
    word fun x r => { r with consumedEnergyToday := x },
    word fun x r => { r with consumedEnergyThisMonth := x },
    word fun x r => { r with consumedEnergyThisYear := x },
    word fun x r => { r with totalConsumedEnergy := x },
    word fun x r => { r with generatedEnergyToday := x },
    word fun x r => { r with generatedEnergyThisMonth := x },
    word fun x r => { r with generatedEnergyThisYear := x },
    copyAndAdvanceU16 (0x331A - 0x3313) (half fun x r => { r with batteryVoltage := x }),
    copyAndFinish (word fun x r => { r with batteryCurrent := x }) ]

/-- The copies of `rs485_epever_tracer6415an_setting_parameters_receive`. -/
def settingParametersCopies : List (Copy EpTracer6415anSettingParameters) :=
  [ half fun x r => { r with batteryType := x },
    half fun x r => { r with batteryCapacity := x },
    half fun x r => { r with temperatureCompensationCoeficient := x },
    half fun x r => { r with highVoltDisconnect := x },
    half fun x r => { r with changingLimitVoltage := x },
    half fun x r => { r with overVoltageReconnect := x },
    half fun x r => { r with equalizationVoltage := x },
    half fun x r => { r with boostVoltage := x },
    half fun x r => { r with floatVoltage := x },
    half fun x r => { r with boostReconnectVoltage := x },
    half fun x r => { r with lowVoltageReconnect := x },
    half fun x r => { r with underVoltageWarning := x },
    half fun x r => { r with lowVoltageDisconnect := x },
    copyAndAdvanceU16 (0x9013 - 0x900E) (half fun x r => { r with dischangingLimitVoltage := x }),
    word fun x r => { r with realTimeClockA := x },
    word fun x r => { r with realTimeClockB := x },
    half fun x r => { r with batteryTemperatureWarningUpperLimit := x },
    half fun x r => { r with batteryTemperatureWarningLowerLimit := x },
    half fun x r => { r with controllerInnerTemperatureUpperLimit := x },
    half fun x r => { r with controllerInnerTemperatureLowerLimit := x },
    half fun x r => { r with dayTimeThresholdVold := x },
    half fun x r => { r with lightSignalStartupNightDelayTime := x },
    half fun x r => { r with lightTimeThresholdVolt := x },
    copyAndAdvanceU16 (0x903D - 0x9021)
      (half fun x r => { r with lightSignalCloseDayDelayTime := x }),
    half fun x r => { r with loadControllingNodes := x },
    half fun x r => { r with workingTimeLenght1 := x },
    copyAndAdvanceU16 (0x9042 - 0x903F) (half fun x r => { r with workingTimeLenght2 := x }),
    half fun x r => { r with turnOnTimer1A := x },
    half fun x r => { r with turnOnTimer1B := x },
    half fun x r => { r with turnOnTimer1C := x },
    half fun x r => { r with turnOffTimer1A := x },
    half fun x r => { r with turnOffTimer1B := x },
    half fun x r => { r with turnOffTimer1C := x },
    half fun x r => { r with turnOnTimer2A := x },
    half fun x r => { r with turnOnTimer2B := x },
    half fun x r => { r with turnOnTimer2C := x },
    half fun x r => { r with turnOffTimer2A := x },
    half fun x r => { r with turnOffTimer2B := x },
    copyAndAdvanceU16 (0x9063 - 0x904D) (half fun x r => { r with turnOffTimer2C := x }),
    copyAndAdvanceU16 (0x9065 - 0x9063) (half fun x r => { r with backlightTime := x }),
    half fun x r => { r with lenghtOfTime := x },
    half fun x r => { r with deviceConfigureOfMainPowerSupply := x },
    copyAndAdvanceU16 (0x906A - 0x9067) (half fun x r => { r with batteryRatedVoltageCode := x }),
    half fun x r => { r with defaultLoadOnOffInManualMode := x },
    half fun x r => { r with equalizeDuration := x },
    half fun x r => { r with boostDuration := x },
    half fun x r => { r with dischargePercentage := x },
    half fun x r => { r with chargingPercentage := x },
    half fun x r => { r with managementModesOfBatteryChargingAndDischarging := x } ]

/-- The record of a handler. -/
def TracerFunction.Record : TracerFunction → Type
  | readRatedDatum => EpTracer6415anRatedDatum
  | realTimeData => EpTracer6415anRealTimeData
  | realTimeStatus => EpTracer6415anRealTimeStatus
  | statisticalParameters => EpTracer6415anStatisticalParameters
  | settingParameters => EpTracer6415anSettingParameters

/-- A record is zero when the program starts. -/
instance : (f : TracerFunction) → Inhabited f.Record
  | .readRatedDatum => inferInstanceAs (Inhabited EpTracer6415anRatedDatum)
  | .realTimeData => inferInstanceAs (Inhabited EpTracer6415anRealTimeData)
  | .realTimeStatus => inferInstanceAs (Inhabited EpTracer6415anRealTimeStatus)
  | .statisticalParameters => inferInstanceAs (Inhabited EpTracer6415anStatisticalParameters)
  | .settingParameters => inferInstanceAs (Inhabited EpTracer6415anSettingParameters)

/-- What a handler copies. -/
def TracerFunction.copies : (f : TracerFunction) → List (Copy f.Record)
  | readRatedDatum => readRatedDatumCopies
  | realTimeData => realTimeDataCopies
  | realTimeStatus => realTimeStatusCopies
  | statisticalParameters => statisticalParametersCopies
  | settingParameters => settingParametersCopies

/-- What a handler gives its callback, the error variable and the record, by what the record was.
The block is not looked at unless the transfer was a success. -/
def tracerDeliver (f : TracerFunction) (status : ℤ) (data : Mem) (dataSize : UInt16)
    (r : f.Record) : ℤ × f.Record :=
  (tracerErr f status dataSize,
    if status = masterTransferSuccess then
      if f.request.handlerElements = dataSize then run data 0 f.copies r else r
    else r)

/-! ### Records out of registers -/

/-- A register of a vector, if there is one with this number. -/
def register {n : ℕ} (R : Fin n → UInt16) (i : ℕ) : Option UInt16 :=
  if h : i < n then some (R ⟨i, h⟩) else none

/-- Two registers, one behind the other. -/
def registerPair (R : ℕ → Option UInt16) (i : ℕ) : Option UInt32 := do
  return ofHalves (← R i) (← R (i + 1))

/-- The rated datum, out of the registers that its handler copies. -/
def ratedDatumFrom (R : ℕ → Option UInt16) : Option EpTracer6415anRatedDatum := do
  return {
    arrayRatedVotage := ← R 0
    arrayRatedCurrent := ← R 1
    arrayRatedPower := ← registerPair R 2
    batteryRatedVoltage := ← R 4
    batteryRatedCurrent := ← R 5
    batteryRatedPower := ← registerPair R 6
    chargingMode := ← R 8
    ratedCurrentLoad := ← R 14 }

/-- The real-time data, out of the registers that its handler copies. -/
def realTimeDataFrom (R : ℕ → Option UInt16) : Option EpTracer6415anRealTimeData := do
  return {
    pvArrayInputVoltage := ← R 0
    pvArrayInputCurrent := ← R 1
    pvArrayInputPower := ← registerPair R 2
    batteryPower := ← registerPair R 5
    loadVoltage := ← R 10
    loadCurrent := ← R 11
    loadPower := ← registerPair R 12
    batteryTemperature := ← R 14
    temperatureInsideEquipament := ← R 15
    batterySoc := ← R 24
    remoteBatteryTemperature := ← R 25
    batteryRealRatedPower := ← R 27 }

/-- The real-time status, out of the registers that its handler copies. -/
def realTimeStatusFrom (R : ℕ → Option UInt16) : Option EpTracer6415anRealTimeStatus := do
  return {
    batteryStatus := ← R 0
    chargingEquipmentStatus := ← R 1
    dischargingEquipmentStatus := ← R 2 }

/-- The statistical parameters, out of the registers that its handler copies. -/
def statisticalParametersFrom (R : ℕ → Option UInt16) :
    Option EpTracer6415anStatisticalParameters := do
  return {
    maximumPvVoltageToday := ← R 0
    minimumPvVoltageToday := ← R 1
    maximumBatteryVoltageToday := ← R 2
    minimumBatteryVoltageToday := ← R 3
    consumedEnergyToday := ← registerPair R 4
    consumedEnergyThisMonth := ← registerPair R 6
    consumedEnergyThisYear := ← registerPair R 8
    totalConsumedEnergy := ← registerPair R 10
    generatedEnergyToday := ← registerPair R 12
    generatedEnergyThisMonth := ← registerPair R 14
    generatedEnergyThisYear := ← registerPair R 16
    batteryVoltage := ← R 18
    batteryCurrent := ← registerPair R 25 }

/-- The setting parameters, out of the registers that its handler copies. -/
def settingParametersFrom (R : ℕ → Option UInt16) : Option EpTracer6415anSettingParameters := do
  return {
    batteryType := ← R 0
    batteryCapacity := ← R 1
    temperatureCompensationCoeficient := ← R 2
    highVoltDisconnect := ← R 3
    changingLimitVoltage := ← R 4
    overVoltageReconnect := ← R 5
    equalizationVoltage := ← R 6
    boostVoltage := ← R 7
    floatVoltage := ← R 8
    boostReconnectVoltage := ← R 9
    lowVoltageReconnect := ← R 10
    underVoltageWarning := ← R 11
    lowVoltageDisconnect := ← R 12
    dischangingLimitVoltage := ← R 13
    realTimeClockA := ← registerPair R 18
    realTimeClockB := ← registerPair R 20
    batteryTemperatureWarningUpperLimit := ← R 22
    batteryTemperatureWarningLowerLimit := ← R 23
    controllerInnerTemperatureUpperLimit := ← R 24
    controllerInnerTemperatureLowerLimit := ← R 25
    dayTimeThresholdVold := ← R 26
    lightSignalStartupNightDelayTime := ← R 27
    lightTimeThresholdVolt := ← R 28
    lightSignalCloseDayDelayTime := ← R 29
    loadControllingNodes := ← R 57
    workingTimeLenght1 := ← R 58
    workingTimeLenght2 := ← R 59
    turnOnTimer1A := ← R 62
    turnOnTimer1B := ← R 63
    turnOnTimer1C := ← R 64
    turnOffTimer1A := ← R 65
    turnOffTimer1B := ← R 66
    turnOffTimer1C := ← R 67
    turnOnTimer2A := ← R 68
    turnOnTimer2B := ← R 69
    turnOnTimer2C := ← R 70
    turnOffTimer2A := ← R 71
    turnOffTimer2B := ← R 72
    turnOffTimer2C := ← R 73
    backlightTime := ← R 95
    lenghtOfTime := ← R 97
    deviceConfigureOfMainPowerSupply := ← R 98
    batteryRatedVoltageCode := ← R 99
    defaultLoadOnOffInManualMode := ← R 102
    equalizeDuration := ← R 103
    boostDuration := ← R 104
    dischargePercentage := ← R 105
    chargingPercentage := ← R 106
    managementModesOfBatteryChargingAndDischarging := ← R 107 }

/-- The record of a request, out of the registers of an answer; none if the answer has not got one
of them. -/
def TracerFunction.recordFrom : (f : TracerFunction) → (ℕ → Option UInt16) → Option f.Record
  | readRatedDatum => ratedDatumFrom
  | realTimeData => realTimeDataFrom
  | realTimeStatus => realTimeStatusFrom
  | statisticalParameters => statisticalParametersFrom
  | settingParameters => settingParametersFrom

theorem registerPair_read16 (m : Mem) (i : ℕ) :
    registerPair (fun i => some (read16 m (2 * i))) i = some (read32 m (2 * i)) := by
  rw [read32_eq_ofHalves]
  rfl

/-- **The copies take the registers of the record**, where all of them can be read. -/
theorem TracerFunction.recordFrom_read16 (f : TracerFunction) (m : Mem) (old : f.Record) :
    f.recordFrom (fun i => some (read16 m (2 * i))) = some (run m 0 f.copies old) := by
  cases f with
  | readRatedDatum =>
      simp only [recordFrom, ratedDatumFrom, registerPair_read16]
      rfl
  | realTimeData =>
      simp only [recordFrom, realTimeDataFrom, registerPair_read16]
      rfl
  | realTimeStatus => rfl
  | statisticalParameters =>
      simp only [recordFrom, statisticalParametersFrom, registerPair_read16]
      rfl
  | settingParameters =>
      simp only [recordFrom, settingParametersFrom, registerPair_read16]
      rfl

theorem register_eq_read16 {n : ℕ} (R : Fin n → UInt16) (m : Mem) {i : ℕ} (h : i < n) :
    register R i = some (read16 (write m 0 (halfWords R)) (2 * i)) := by
  rw [register, dif_pos h]
  exact congrArg some (read16_write_halfWords m R ⟨i, h⟩).symm

/-! ### Answers of the right size -/

/-- The registers that were delivered, with anything behind them, do to the request what they
should: as many as it asked for fill the record, each field with the registers that its handler
copies; any other number is refused, and leaves the record. -/
def AcceptsOwnAnswer (f : TracerFunction) {dataSize : UInt16} (R : Fin dataSize.toNat → UInt16) :
    Prop :=
  if dataSize = f.request.elements then
    ∃ r, f.recordFrom (register R) = some r ∧ ∀ (m : Mem) (old : f.Record),
      tracerDeliver f masterTransferSuccess (write m 0 (halfWords R)) dataSize old = (0, r)
  else
    ∀ (m : Mem) (old : f.Record),
      tracerDeliver f masterTransferSuccess (write m 0 (halfWords R)) dataSize old =
        (f.request.elemNotMatch, old)

/-- The number that the handler expects is taken. -/
theorem tracerDeliver_of_eq {f : TracerFunction} {dataSize : UInt16} (data : Mem) (r : f.Record)
    (h : dataSize = f.request.handlerElements) :
    tracerDeliver f masterTransferSuccess data dataSize r = (0, run data 0 f.copies r) := by
  simp [tracerDeliver, tracerErr, h]

/-- Any other is not. -/
theorem tracerDeliver_of_ne {f : TracerFunction} {dataSize : UInt16} (data : Mem) (r : f.Record)
    (h : dataSize ≠ f.request.handlerElements) :
    tracerDeliver f masterTransferSuccess data dataSize r = (f.request.elemNotMatch, r) := by
  simp [tracerDeliver, tracerErr, h.symm]

/-- All handlers but one expect what was asked for. -/
theorem TracerFunction.elements_eq_iff (f : TracerFunction) :
    f.request.elements = f.request.handlerElements ↔ f ≠ .statisticalParameters := by
  cases f <;> decide

theorem TracerFunction.elemNotMatch_ne_zero (f : TracerFunction) : f.request.elemNotMatch ≠ 0 := by
  cases f <;> decide

/-- The answers that have all registers of their record: this is what is copied. -/
theorem TracerFunction.recordFrom_register {f : TracerFunction}
    (hf : f = .realTimeData ∨ f = .settingParameters)
    (R : Fin f.request.elements.toNat → UInt16) (m : Mem) (old : f.Record) :
    f.recordFrom (register R) = some (run (write m 0 (halfWords R)) 0 f.copies old) := by
  rw [← f.recordFrom_read16]
  rcases hf with rfl | rfl
  · simp (disch := decide) only [recordFrom, realTimeDataFrom, registerPair,
      register_eq_read16 R m]
    rfl
  · simp (disch := decide) only [recordFrom, settingParametersFrom, registerPair,
      register_eq_read16 R m]
    rfl

/-- A field that is copied from behind the block is not determined by it. -/
theorem not_exists_run_of_field {ρ : Type} [Inhabited ρ] {bs : List UInt8} {cs : List (Copy ρ)}
    {field : ρ → UInt16} {p : ℕ} (hp : bs.length ≤ p)
    (hfield : ∀ (m : Mem) (r : ρ), field (run m 0 cs r) = read16 m p) :
    ¬ ∃ r, ∀ (m : Mem) (old : ρ), run (write m 0 bs) 0 cs old = r := by
  rintro ⟨r, hr⟩
  have hval : ∀ m : Mem, read16 m p = field r := by
    intro m
    rw [← hr m default, hfield, read16_write_of_length_le m hp]
  have hne : read16 (fun _ => 0) p ≠ read16 (fun _ => 1) p := by
    simp only [read16]
    decide
  exact hne ((hval _).trans (hval _).symm)

/-- The answers that are too short for it. -/
theorem TracerFunction.not_exists_run_of_short {f : TracerFunction}
    (hf : f = .readRatedDatum ∨ f = .realTimeStatus) (R : Fin f.request.elements.toNat → UInt16) :
    ¬ ∃ r, ∀ (m : Mem) (old : f.Record), run (write m 0 (halfWords R)) 0 f.copies old = r := by
  have hlen := length_halfWords R
  rcases hf with rfl | rfl
  · -- the load current is the fifteenth of fourteen registers
    have hp : (halfWords R).length ≤ 28 := Nat.le_of_eq hlen
    have hfield : ∀ (m : Mem) (r : EpTracer6415anRatedDatum),
        (run m 0 readRatedDatumCopies r).ratedCurrentLoad = read16 m 28 := fun _ _ => rfl
    exact not_exists_run_of_field hp hfield
  · -- and the status of discharging the third of two
    have hp : (halfWords R).length ≤ 4 := Nat.le_of_eq hlen
    have hfield : ∀ (m : Mem) (r : EpTracer6415anRealTimeStatus),
        (run m 0 realTimeStatusCopies r).dischargingEquipmentStatus = read16 m 4 := fun _ _ => rfl
    exact not_exists_run_of_field hp hfield

/-- The number that was asked for is refused by the handler that expects another one. -/
theorem not_acceptsOwnAnswer_of_refused {f : TracerFunction} {dataSize : UInt16}
    (R : Fin dataSize.toNat → UInt16) (h₁ : dataSize = f.request.elements)
    (h₂ : dataSize ≠ f.request.handlerElements) : ¬ AcceptsOwnAnswer f R := by
  intro h
  rw [AcceptsOwnAnswer, if_pos h₁] at h
  obtain ⟨r, -, hr⟩ := h
  have herr := congrArg Prod.fst ((tracerDeliver_of_ne _ default h₂).symm.trans
    (hr (fun _ => 0) default))
  exact f.elemNotMatch_ne_zero herr

/-- The number that it expects is taken, though it was not asked for. -/
theorem not_acceptsOwnAnswer_of_taken {f : TracerFunction} {dataSize : UInt16}
    (R : Fin dataSize.toNat → UInt16) (h₁ : dataSize ≠ f.request.elements)
    (h₂ : dataSize = f.request.handlerElements) : ¬ AcceptsOwnAnswer f R := by
  intro h
  rw [AcceptsOwnAnswer, if_neg h₁] at h
  have herr := congrArg Prod.fst ((tracerDeliver_of_eq _ default h₂).symm.trans
    (h (fun _ => 0) default))
  exact f.elemNotMatch_ne_zero herr.symm

/-- The number that is both is taken, and the record has to come from the registers. -/
theorem acceptsOwnAnswer_of_elements {f : TracerFunction}
    (h : f.request.elements = f.request.handlerElements)
    (R : Fin f.request.elements.toNat → UInt16) :
    AcceptsOwnAnswer f R ↔ ∃ r, f.recordFrom (register R) = some r ∧
      ∀ (m : Mem) (old : f.Record), run (write m 0 (halfWords R)) 0 f.copies old = r := by
  have htaken : ∀ (m : Mem) (old : f.Record), tracerDeliver f masterTransferSuccess
      (write m 0 (halfWords R)) f.request.elements old =
        (0, run (write m 0 (halfWords R)) 0 f.copies old) := by
    intro m old
    exact tracerDeliver_of_eq _ old h
  rw [AcceptsOwnAnswer, if_pos rfl]
  simp only [htaken, Prod.mk.injEq, true_and]

/-- **A request accepts its own answer, and no other, if it is the one for the real-time data or
the one for the settings; else it does the right thing with the numbers that are neither what was
asked for nor what the handler expects.** -/
theorem acceptsOwnAnswer_iff (f : TracerFunction) {dataSize : UInt16}
    (R : Fin dataSize.toNat → UInt16) :
    AcceptsOwnAnswer f R ↔ f = .realTimeData ∨ f = .settingParameters ∨
      (dataSize ≠ f.request.elements ∧ dataSize ≠ f.request.handlerElements) := by
  by_cases h₁ : dataSize = f.request.elements
  · by_cases h₂ : dataSize = f.request.handlerElements
    · have hcases : (f = .realTimeData ∨ f = .settingParameters) ∨
          f = .readRatedDatum ∨ f = .realTimeStatus := by
        have hf := f.elements_eq_iff.1 (h₁.symm.trans h₂)
        cases f with
        | statisticalParameters => exact absurd rfl hf
        | _ => simp
      subst h₁
      rw [acceptsOwnAnswer_of_elements h₂ R]
      rcases hcases with hf | hf
      · have hfills := TracerFunction.recordFrom_register hf R
        refine iff_of_true ⟨_, hfills (fun _ => 0) default, fun m old => ?_⟩
          (or_assoc.1 (Or.inl hf))
        exact Option.some.inj ((hfills m old).symm.trans (hfills (fun _ => 0) default))
      · have hshort := TracerFunction.not_exists_run_of_short hf R
        refine iff_of_false (fun h => hshort (h.imp fun _ => And.right)) ?_
        rintro (rfl | rfl | ⟨hne, -⟩)
        · simp at hf
        · simp at hf
        · exact hne rfl
    · refine iff_of_false (not_acceptsOwnAnswer_of_refused R h₁ h₂) ?_
      rintro (rfl | rfl | ⟨hne, -⟩)
      · exact h₂ h₁
      · exact h₂ h₁
      · exact hne h₁
  · by_cases h₂ : dataSize = f.request.handlerElements
    · refine iff_of_false (not_acceptsOwnAnswer_of_taken R h₁ h₂) ?_
      rintro (rfl | rfl | ⟨-, hne⟩)
      · exact h₁ h₂
      · exact h₁ h₂
      · exact hne h₂
    · refine iff_of_true ?_ (Or.inr (Or.inr ⟨h₁, h₂⟩))
      rw [AcceptsOwnAnswer, if_neg h₁]
      exact fun m old => tracerDeliver_of_ne _ old h₂

/-- The answer that was asked for has 28 registers; the handler of the statistics expects two. -/
theorem not_acceptsOwnAnswer_statistics :
    ¬ AcceptsOwnAnswer .statisticalParameters (fun _ => 0 : Fin (28 : UInt16).toNat → UInt16) :=
  not_acceptsOwnAnswer_of_refused _ rfl (by decide)

/-! ### Where the real-time data comes from -/

/-- The real-time data, when its 29 registers have been delivered. -/
def realTimeDataOf (R : Fin 29 → UInt16) (m : Mem) (old : EpTracer6415anRealTimeData) :
    ℤ × EpTracer6415anRealTimeData :=
  tracerDeliver .realTimeData masterTransferSuccess (write m 0 (halfWords R)) 29 old

/-- Every field has the registers of its address, `0x3100` and so on. -/
structure LandsRight (R : Fin 29 → UInt16) (r : EpTracer6415anRealTimeData) : Prop where
  pvArrayInputVoltage : r.pvArrayInputVoltage = R 0x00
  pvArrayInputCurrent : r.pvArrayInputCurrent = R 0x01
  pvArrayInputPower : r.pvArrayInputPower = ofHalves (R 0x02) (R 0x03)
  batteryPower : r.batteryPower = ofHalves (R 0x06) (R 0x07)
  loadVoltage : r.loadVoltage = R 0x0C
  loadCurrent : r.loadCurrent = R 0x0D
  loadPower : r.loadPower = ofHalves (R 0x0E) (R 0x0F)
  batteryTemperature : r.batteryTemperature = R 0x10
  temperatureInsideEquipament : r.temperatureInsideEquipament = R 0x11
  batterySoc : r.batterySoc = R 0x1A
  remoteBatteryTemperature : r.remoteBatteryTemperature = R 0x1B

/-- Where the cursor is at each field. -/
theorem run_realTimeDataCopies (m : Mem) (old : EpTracer6415anRealTimeData) :
    run m 0 realTimeDataCopies old =
      { pvArrayInputVoltage := read16 m (2 * 0x00)
        pvArrayInputCurrent := read16 m (2 * 0x01)
        pvArrayInputPower := read32 m (2 * 0x02)
        batteryPower := read32 m (2 * 0x05)
        loadVoltage := read16 m (2 * 0x0A)
        loadCurrent := read16 m (2 * 0x0B)
        loadPower := read32 m (2 * 0x0C)
        batteryTemperature := read16 m (2 * 0x0E)
        temperatureInsideEquipament := read16 m (2 * 0x0F)
        batterySoc := read16 m (2 * 0x18)
        remoteBatteryTemperature := read16 m (2 * 0x19)
        batteryRealRatedPower := read16 m (2 * 0x1B) } := rfl

/-- Which registers the fields have. -/
theorem realTimeDataOf_eq (R : Fin 29 → UInt16) (m : Mem) (old : EpTracer6415anRealTimeData) :
    realTimeDataOf R m old = (0,
      { pvArrayInputVoltage := R 0x00
        pvArrayInputCurrent := R 0x01
        pvArrayInputPower := ofHalves (R 0x02) (R 0x03)
        batteryPower := ofHalves (R 0x05) (R 0x06)
        loadVoltage := R 0x0A
        loadCurrent := R 0x0B
        loadPower := ofHalves (R 0x0C) (R 0x0D)
        batteryTemperature := R 0x0E
        temperatureInsideEquipament := R 0x0F
        batterySoc := R 0x18
        remoteBatteryTemperature := R 0x19
        batteryRealRatedPower := R 0x1B }) := by
  have hreg : ∀ i : Fin 29, read16 (write m 0 (halfWords R)) (2 * i) = R i :=
    read16_write_halfWords m R
  have hword : ∀ i : Fin 29, ∀ h : (i : ℕ) + 1 < 29,
      read32 (write m 0 (halfWords R)) (2 * i) = ofHalves (R i) (R ⟨i + 1, h⟩) := by
    intro i h
    rw [read32_eq_ofHalves, hreg i]
    exact congrArg _ (hreg ⟨i + 1, h⟩)
  have htaken : realTimeDataOf R m old =
      (0, run (write m 0 (halfWords R)) 0 realTimeDataCopies old) :=
    tracerDeliver_of_eq (f := .realTimeData) _ old rfl
  rw [htaken, run_realTimeDataCopies]
  refine congrArg (Prod.mk 0) ?_
  rw [EpTracer6415anRealTimeData.mk.injEq]
  exact ⟨hreg 0, hreg 1, hword 2 (by decide), hword 5 (by decide), hreg 10, hreg 11,
    hword 12 (by decide), hreg 14, hreg 15, hreg 24, hreg 25, hreg 27⟩

/-- **The fields have the right values if the registers at the gaps are equal**: behind the power
of the array the cursor is one register short, and from the power of the battery on two. -/
theorem landsRight_iff (R : Fin 29 → UInt16) (m : Mem) (old : EpTracer6415anRealTimeData) :
    LandsRight R (realTimeDataOf R m old).2 ↔
      R 0x05 = R 0x06 ∧ R 0x06 = R 0x07 ∧ R 0x0A = R 0x0C ∧ R 0x0B = R 0x0D ∧ R 0x0C = R 0x0E ∧
        R 0x0D = R 0x0F ∧ R 0x0E = R 0x10 ∧ R 0x0F = R 0x11 ∧ R 0x18 = R 0x1A ∧
          R 0x19 = R 0x1B := by
  rw [realTimeDataOf_eq]
  constructor
  · rintro ⟨-, -, -, hpower, hv, hc, hload, ht, hin, hsoc, hremote⟩
    obtain ⟨h₅, h₆⟩ := ofHalves_inj.1 hpower
    obtain ⟨h₁₂, h₁₃⟩ := ofHalves_inj.1 hload
    exact ⟨h₅, h₆, hv, hc, h₁₂, h₁₃, ht, hin, hsoc, hremote⟩
  · rintro ⟨h₅, h₆, hv, hc, h₁₂, h₁₃, ht, hin, hsoc, hremote⟩
    exact ⟨rfl, rfl, rfl, ofHalves_inj.2 ⟨h₅, h₆⟩, hv, hc, ofHalves_inj.2 ⟨h₁₂, h₁₃⟩, ht, hin,
      hsoc, hremote⟩

/-- Every register has its own address as its value. -/
theorem not_landsRight_addresses :
    ¬ LandsRight (fun i => 0x3100 + UInt16.ofNat i)
      (realTimeDataOf (fun i => 0x3100 + UInt16.ofNat i) (fun _ => 0) default).2 := by
  intro h
  have hvoltage := h.loadVoltage
  rw [realTimeDataOf_eq] at hvoltage
  exact absurd hvoltage (by decide)

end Solar48
