/-
**The reports of the drivers.**

Each driver prints its record as JSON: a format with names in it, and an argument for each name.
The arguments are texts that the record selects and numbers that `real_u32_prec` has printed
before, each into an array of its own.  The functions differ only in the format, the arguments and
the two error codes, so there is one definition with these as its parameters, and each function is
that definition with its own.

Main definitions:

* `Solar48.Records` — what is reported;
* `Solar48.JsonFunc` — what an `_as_json` function is made of, and `Solar48.ep2000AsJson` and the
  others;
* `Solar48.Report.asJson` — the code; it is none if `real_u32_prec` divides by zero;
* `Solar48.Report.text`, `Solar48.Report.width` — the text, and its length.

Main results:

* `Solar48.Report.asJson_eq_none` — a number that is divided by zero;
* `Solar48.Report.asJson_spec` — **a report that is shorter than the buffer is there as a whole; of
  any other nothing is left**, and the error handler is called.
-/

import Solar48.Ep2000Record
import Solar48.Template
import Solar48.TracerRecord
import Solar48.Types

set_option relaxedAutoImplicit false
set_option autoImplicit false

namespace Solar48

open ByteMem Decimal Template

/-! ### Error codes -/

abbrev eEpIp2000JsonBufOverflow : ℤ := 610
abbrev eEpIp2000JsonUnableToParse : ℤ := 611
abbrev eEpIp2000StatusJsonUnableToParse : ℤ := 612
abbrev eEpIp2000StatusJsonBufOverflow : ℤ := 613
abbrev eEpIp2000OverTempJsonUnableToParse : ℤ := 614
abbrev eEpIp2000OverTempJsonBufOverflow : ℤ := 615
abbrev eEpeverTracer6415anRatedDatumJsonUnableToParse : ℤ := 631
abbrev eEpeverTracer6415anRatedDatumJsonBufOverflow : ℤ := 632
abbrev eEpeverTracer6415anRealTimeJsonUnableToParse : ℤ := 634
abbrev eEpeverTracer6415anRealTimeJsonBufOverflow : ℤ := 635
abbrev eEpeverTracer6415anRealTimeStatusJsonUnableToParse : ℤ := 637
abbrev eEpeverTracer6415anRealTimeStatusJsonBufOverflow : ℤ := 638
abbrev eEpeverTracer6415anStatisticalParametersJsonUnableToParse : ℤ := 640
abbrev eEpeverTracer6415anStatisticalParametersJsonBufOverflow : ℤ := 641
abbrev eEpeverTracer6415anSettingParametersJsonUnableToParse : ℤ := 643
abbrev eEpeverTracer6415anSettingParametersJsonBufOverflow : ℤ := 644

/-! ### The records -/

/-- The variables of the two drivers that are reported. -/
structure Records where
  ip2000Record : EpIp2000
  epIp2000status : UInt16
  epIp2000overTemperature : UInt16
  ratedDatum : EpTracer6415anRatedDatum
  realTimeData : EpTracer6415anRealTimeData
  realTimeStatus : EpTracer6415anRealTimeStatus
  statisticalParameters : EpTracer6415anStatisticalParameters
  settingParameters : EpTracer6415anSettingParameters
  deriving Inhabited

/-! ### The arguments of a format -/

/-- What is printed for a `%s` or a `%d`. -/
inductive Arg
  /-- `real_u32_prec(buf, sizeof(buf), NULL, value, 100)` -/
  | real (size : ℕ) (value : UInt32)
  | str (s : String)
  | int (n : ℤ)

/-- `set_ep2000_as_json`. -/
def setEp2000AsJson (value : UInt32) : Arg := .real 8 value

/-- `REAL_FROM_U32`, with `REAL_FROM_U32_TRACER6415AN_PREC`. -/
def realFromU32 (value : UInt32) : Arg := .real 16 value

/-- The bytes of a literal. -/
def textBytes (s : String) : List UInt8 := s.toByteArray.data.toList

/-- `%d`. -/
def intNumeral (n : ℤ) : List UInt8 :=
  if n < 0 then 0x2D :: numeral n.natAbs else numeral n.natAbs

/-- An argument as text, and the calls of `error_handler`; `stack` is what is in an array that is
not initialised. -/
def Arg.eval (stack : Mem) : Arg → Option (List UInt8 × List ℤ)
  | .real size value =>
      (realU32Prec stack size value 100).map fun r => (r.text, r.error.toList)
  | .str s => some (textBytes s, [])
  | .int n => some (intNumeral n, [])

/-- All the arguments. -/
def evalArgs (stack : Mem) : List Arg → Option (List (List UInt8) × List ℤ)
  | [] => some ([], [])
  | a :: args =>
      (a.eval stack).bind fun x => (evalArgs stack args).map fun y => (x.1 :: y.1, x.2 ++ y.2)

/-- `1<<n`. -/
def bit (n : UInt16) : UInt16 := 1 <<< n

/-- `word ? yes : no`. -/
def select (word : UInt16) (yes no : String) : String := if word ≠ 0 then yes else no

/-- `T`. -/
def textT : String := "true"

/-- `F`. -/
def textF : String := "false"

/-- `NORMAL`. -/
def normal : String := "Normal"

/-- `ABNORMAL`. -/
def abnormal : String := "Abnormal"

/-- `UNKNOWN_STATUS`. -/
def unknownStatus : String := "Unknown status"

/-! ### The functions -/

/-- What the `_as_json` functions differ in. -/
structure JsonFunc where
  /-- the format, line by line -/
  format : List String
  args : Records → List Arg
  unableToParse : ℤ
  bufOverflow : ℤ

/-- `ep2000_as_json`. -/
def ep2000AsJson : JsonFunc where
  format :=
    ["\x7b\"InputVoltage\": %s,", "\"InputCurrent\": %s,", "\"InputPower\": %s,",
      "\"OutputVoltage\": %s,", "\"OutputCurrent\": %s,", "\"OutputPower\": %s,",
      "\"HeatSinkTemp\": %s", "\x7d"]
  args r :=
    [setEp2000AsJson r.ip2000Record.inputVoltage.toInt32.toUInt32,
      setEp2000AsJson r.ip2000Record.inputCurrent.toInt32.toUInt32,
      setEp2000AsJson r.ip2000Record.inputPower.toUInt32,
      setEp2000AsJson r.ip2000Record.outputVoltage.toInt32.toUInt32,
      setEp2000AsJson r.ip2000Record.outputCurrent.toInt32.toUInt32,
      setEp2000AsJson r.ip2000Record.outputPower.toUInt32,
      setEp2000AsJson r.ip2000Record.heatSinkTemp.toInt32.toUInt32]
  unableToParse := eEpIp2000JsonUnableToParse
  bufOverflow := eEpIp2000JsonBufOverflow

/-- `input_voltage_status`. -/
def inputVoltageStatus (status : UInt16) : String :=
  match status >>> 14 with
  | 0 => "Normal input voltage"
  | 1 => "Low input voltage"
  | 2 => "High input voltage"
  | _ => "No connect to the input power"

/-- `output_power_status`. -/
def outputPowerStatus (status : UInt16) : String :=
  match (status >>> 12) &&& 3 with
  | 0 => "Light load"
  | 1 => "Medium load"
  | 2 => "Nominal laod"
  | _ => "Overload"

/-- `ep2000_status_as_json`. -/
def ep2000StatusAsJson : JsonFunc where
  format :=
    ["\x7b\"InputVoltageStatus\": %s,", "\"OutputPowerStatus\": %s,", "\"State\": %s,",
      "\"Status\": %s,", "\"OutputFail\": %s,", "\"HighVoltageSideShortCircuit\": %s,",
      "\"InputOverCurrent\": %s,", "\"AbnormalOutputVoltage\": %s,",
      "\"UnableToStopDischarging\": %s,", "\"UnableToDischarge\": %s,", "\"ShortCircuit\": %s",
      "\x7d"]
  args r :=
    let status := r.epIp2000status
    [.str (inputVoltageStatus status),
      .str (outputPowerStatus status),
      .str (select (status &&& bit 0) "Run" "StandBy"),
      .str (select (status &&& bit 1) "Faults" "Normal"),
      .str (select (status &&& bit 5) textT textF),
      .str (select (status &&& bit 6) textT textF),
      .str (select (status &&& bit 7) textT textF),
      .str (select (status &&& bit 8) textT textF),
      .str (select (status &&& bit 9) textT textF),
      .str (select (status &&& bit 10) textT textF),
      .str (select (status &&& bit 11) textT textF)]
  unableToParse := eEpIp2000StatusJsonUnableToParse
  bufOverflow := eEpIp2000StatusJsonBufOverflow

/-- `read_ep2000_over_temperature_as_json`. -/
def readEp2000OverTemperatureAsJson : JsonFunc where
  format := ["\x7b\"OverTemperature\": %s\x7d"]
  args r := [.str (select (r.epIp2000overTemperature &&& 1) textT textF)]
  unableToParse := eEpIp2000OverTempJsonUnableToParse
  bufOverflow := eEpIp2000OverTempJsonBufOverflow

/-- `charging_mode`. -/
def chargingModeText (mode : UInt16) : String :=
  match mode with
  | 0 => "Connect/disconnect"
  | 1 => "PWM"
  | 2 => "MPPT"
  | _ => "Unknown status"

/-- `rs485_epever_tracer6415an_read_rated_datum_as_json`. -/
def rs485EpeverTracer6415anReadRatedDatumAsJson : JsonFunc where
  format :=
    ["\x7b", "  \"ArrayRatedVotage\": %s,", "  \"ArrayRatedCurrent\": %s,",
      "  \"ArrayRatedPower\": %s,", "  \"BatteryRatedVoltage\": %s,",
      "  \"BatteryRatedCurrent\": %s,", "  \"BatteryRatedPower\": %s,", "  \"CharginMode\": %s,",
      "  \"RatedCurrentOfLoad\": %s", "\x7d"]
  args r :=
    [realFromU32 r.ratedDatum.arrayRatedVotage.toUInt32,
      realFromU32 r.ratedDatum.arrayRatedCurrent.toUInt32,
      realFromU32 r.ratedDatum.arrayRatedPower,
      realFromU32 r.ratedDatum.batteryRatedVoltage.toUInt32,
      realFromU32 r.ratedDatum.batteryRatedCurrent.toUInt32,
      realFromU32 r.ratedDatum.batteryRatedPower,
      .str (chargingModeText r.ratedDatum.chargingMode),
      realFromU32 r.ratedDatum.ratedCurrentLoad.toUInt32]
  unableToParse := eEpeverTracer6415anRatedDatumJsonUnableToParse
  bufOverflow := eEpeverTracer6415anRatedDatumJsonBufOverflow

/-- `rs485_epever_tracer6415an_real_time_data_as_json`. -/
def rs485EpeverTracer6415anRealTimeDataAsJson : JsonFunc where
  format :=
    ["\x7b", "  \"PVArrayInputVoltage\": %s,", "  \"PVArrayInputCurrent\": %s,",
      "  \"PVArrayInputPower\": %s,", "  \"BatteryPower\": %s,", "  \"LoadVoltage\": %s,",
      "  \"LoadCurrent\": %s,", "  \"LoadPower\": %s,", "  \"BatteryTemperature\": %s,",
      "  \"TemperatureInsideEquipament\": %s,", "  \"BatterySoc\": %s,",
      "  \"RemoteBatteryTemperature\": %s,", "  \"BatteryRealRatedPower\": %s", "\x7d"]
  args r :=
    [realFromU32 r.realTimeData.pvArrayInputVoltage.toUInt32,
      realFromU32 r.realTimeData.pvArrayInputCurrent.toUInt32,
      realFromU32 r.realTimeData.pvArrayInputPower,
      realFromU32 r.realTimeData.batteryPower,
      realFromU32 r.realTimeData.loadVoltage.toUInt32,
      realFromU32 r.realTimeData.loadCurrent.toUInt32,
      realFromU32 r.realTimeData.loadPower,
      realFromU32 r.realTimeData.batteryTemperature.toUInt32,
      realFromU32 r.realTimeData.temperatureInsideEquipament.toUInt32,
      realFromU32 r.realTimeData.batterySoc.toUInt32,
      realFromU32 r.realTimeData.remoteBatteryTemperature.toUInt32,
      realFromU32 r.realTimeData.batteryRealRatedPower.toUInt32]
  unableToParse := eEpeverTracer6415anRealTimeJsonUnableToParse
  bufOverflow := eEpeverTracer6415anRealTimeJsonBufOverflow

/-- `battery_voltage`. -/
def batteryVoltageText (batteryStatus : UInt16) : String :=
  match batteryStatus &&& 0x07 with
  | 0 => normal
  | 1 => "Overvolt"
  | 2 => "Under volt"
  | 3 => "Low Volt Disconnect"
  | 4 => "Fault"
  | _ => unknownStatus

/-- `battery_temp`. -/
def batteryTempText (batteryStatus : UInt16) : String :=
  match batteryStatus &&& ((0x07 : UInt16) >>> 4) with
  | 0 => normal
  | 1 => "Over temp. (Higher than the warning settings)"
  | 2 => "Low temp. (Lower than the warning settings)"
  | _ => unknownStatus

/-- `charg_eq_input_volt`. -/
def chargEqInputVolt : List String :=
  [normal, "No power connected", "Higher volt input", "Input volt error"]

/-- `charging_status`. -/
def chargingStatus : List String := ["No charging", "Float", "Boost", "Equalization"]

/-- `charging_equip__input_volt`. -/
def chargingEquipInputVolt : List String := [normal, "Low", "High", "No access"]

/-- `charging_equip__output_power`. -/
def chargingEquipOutputPower : List String := ["Light load", "Moderate", "Rated", "Overload"]

/-- An element of an array of texts. -/
def element (texts : List String) (i : UInt16) : String := texts.getD i.toNat ""

/-- The arguments of the report of the status. -/
def realTimeStatusArgs (r : EpTracer6415anRealTimeStatus) : List String :=
  [batteryVoltageText r.batteryStatus,
    batteryTempText r.batteryStatus,
    select (r.batteryStatus &&& bit 8) abnormal normal,
    select (r.batteryStatus &&& bit 15) textT textF,
    element chargEqInputVolt ((r.chargingEquipmentStatus >>> 14) &&& 3),
    select (r.chargingEquipmentStatus &&& bit 13) textT textF,
    select (r.chargingEquipmentStatus &&& bit 12) textT textF,
    select (r.chargingEquipmentStatus &&& bit 11) textT textF,
    select (r.chargingEquipmentStatus &&& bit 10) textT textF,
    select (r.chargingEquipmentStatus &&& bit 9) textT textF,
    select (r.chargingEquipmentStatus &&& bit 8) textT textF,
    select (r.chargingEquipmentStatus &&& bit 7) textT textF,
    select (r.chargingEquipmentStatus &&& bit 4) textT textF,
    element chargingStatus ((r.chargingEquipmentStatus >>> 2) &&& 3),
    select (r.chargingEquipmentStatus &&& 2) textT textF,
    select (r.chargingEquipmentStatus &&& 1) "Running" "StandBy",
    element chargingEquipInputVolt ((r.dischargingEquipmentStatus >>> 14) &&& 3),
    element chargingEquipOutputPower ((r.dischargingEquipmentStatus >>> 12) &&& 3),
    select (r.dischargingEquipmentStatus &&& bit 11) textT textF,
    select (r.dischargingEquipmentStatus &&& bit 10) textT textF,
    select (r.dischargingEquipmentStatus &&& bit 9) textT textF,
    select (r.dischargingEquipmentStatus &&& bit 8) textT textF,
    select (r.dischargingEquipmentStatus &&& bit 7) textT textF,
    select (r.dischargingEquipmentStatus &&& bit 6) textT textF,
    select (r.dischargingEquipmentStatus &&& bit 5) textT textF,
    select (r.dischargingEquipmentStatus &&& bit 4) textT textF,
    select (r.dischargingEquipmentStatus &&& bit 1) textT textF,
    select (r.dischargingEquipmentStatus &&& bit 0) textT textF]

/-- `rs485_epever_tracer6415an_real_time_status_as_json`. -/
def rs485EpeverTracer6415anRealTimeStatusAsJson : JsonFunc where
  format :=
    ["\x7b", "  \"Battery\": \x7b", "    \"Voltage\": %s,", "    \"Temp\": %s,",
      "    \"InnerResistence\": %s,", "    \"IsWrongRatedVoltage\": %s", "  \x7d,",
      "  \"ChargingEquipment\": \x7b", "     \"InputVolt\": %s,",
      "     \"Charging_MOSFET_IsShort\": %s,",
      "     \"ChargingOrAntiReverse_MOSFET_IsShort\": %s,",
      "     \"AntiReverse_MOSFET_IsShort\": %s,", "     \"InputIsOverCurrent\": %s,",
      "     \"TheLoadIsOverCurrent\": %s,", "     \"TheLoadIsShort\": %s,",
      "     \"Load_MOSFET_IsShort\": %s,", "     \"PVInputIsShort\": %s,",
      "     \"Charging\": %s,", "     \"IsFault\": %s,", "     \"RunningMode\": %s", "  \x7d,",
      "  \"DischargingEquipmentStatus\": \x7b", "     \"InputVolt\": %s,",
      "     \"OutputPower\": %s,", "     \"ShortCircuit\": %s,",
      "     \"UnableToDischarge\": %s,", "     \"UnableToStopDischarging\": %s,",
      "     \"OutputVoltageAbnormal\": %s,", "     \"InputOverPressure\": %s,",
      "     \"HighVoltageSideShortCircuit\": %s,", "     \"BoostOverPressure\": %s,",
      "     \"OutputOverPressure\": %s,", "     \"IsFault\": %s,", "     \"IsRunning\": %s",
      "  \x7d", "\x7d"]
  args r := (realTimeStatusArgs r.realTimeStatus).map .str
  unableToParse := eEpeverTracer6415anRealTimeStatusJsonUnableToParse
  bufOverflow := eEpeverTracer6415anRealTimeStatusJsonBufOverflow

/-- `rs485_epever_tracer6415an_statistical_parameters_as_json`. -/
def rs485EpeverTracer6415anStatisticalParametersAsJson : JsonFunc where
  format :=
    ["\x7b", "  \"MaximumPVVoltageToday\": %s,", "  \"MinimumPVVoltageToday\": %s,",
      "  \"MaximumBatteryVoltageToday\": %s,", "  \"MinimumBatteryVoltageToday\": %s,",
      "  \"ConsumedEnergyToday\": %s,", "  \"ConsumedEnergyThisMonth\": %s,",
      "  \"ConsumedEnergyThisYear\": %s,", "  \"TotalConsumedEnergy\": %s,",
      "  \"GeneratedEnergyToday\": %s,", "  \"GeneratedEnergyThisMonth\": %s,",
      "  \"GeneratedEnergyThisYear\": %s,", "  \"BatteryVoltage\": %s,",
      "  \"BatteryCurrent\": %s", "\x7d"]
  args r :=
    [realFromU32 r.statisticalParameters.maximumPvVoltageToday.toUInt32,
      realFromU32 r.statisticalParameters.minimumPvVoltageToday.toUInt32,
      realFromU32 r.statisticalParameters.maximumBatteryVoltageToday.toUInt32,
      realFromU32 r.statisticalParameters.minimumBatteryVoltageToday.toUInt32,
      realFromU32 r.statisticalParameters.consumedEnergyToday,
      realFromU32 r.statisticalParameters.consumedEnergyThisMonth,
      realFromU32 r.statisticalParameters.consumedEnergyThisYear,
      realFromU32 r.statisticalParameters.totalConsumedEnergy,
      realFromU32 r.statisticalParameters.generatedEnergyToday,
      realFromU32 r.statisticalParameters.generatedEnergyThisMonth,
      realFromU32 r.statisticalParameters.generatedEnergyThisYear,
      realFromU32 r.statisticalParameters.batteryVoltage.toUInt32,
      realFromU32 r.statisticalParameters.batteryCurrent]
  unableToParse := eEpeverTracer6415anStatisticalParametersJsonUnableToParse
  bufOverflow := eEpeverTracer6415anStatisticalParametersJsonBufOverflow

/-- `_rs485_epever_tracer6415an_setting_parameters_battery_type`. -/
def batteryTypeText (value : UInt16) : String :=
  if value &&& 3 = value then element ["User defined", "Sealed", "GEL", "Fooded"] value
  else "Unknown battery type"

/-- `rs485_epever_tracer6415an_setting_parameters_as_json`. -/
def rs485EpeverTracer6415anSettingParametersAsJson : JsonFunc where
  format :=
    ["\x7b", "  \"BatteryType\": %s,", "  \"BatteryCapacity\": %d,",
      "  \"BatteryCompCoeff\": %s,", "  \"HighVoltDisconnect\": %s,",
      "  \"ChargingLimitVoltage\": %s,", "  \"OverVoltageReconnect\": %s,",
      "  \"EqualizationVoltage\": %s,", "  \"BoostVoltage\": %s,", "  \"FloatVoltage\": %s,",
      "  \"BoostReconnectVoltage\": %s,", "  \"LowVoltageReconnect\": %s,", "\x7d"]
  args r :=
    [.str (batteryTypeText r.settingParameters.batteryType),
      .int r.settingParameters.batteryCapacity.toNat,
      realFromU32 r.settingParameters.temperatureCompensationCoeficient.toUInt32,
      realFromU32 r.settingParameters.highVoltDisconnect.toUInt32,
      realFromU32 r.settingParameters.changingLimitVoltage.toUInt32,
      realFromU32 r.settingParameters.overVoltageReconnect.toUInt32,
      realFromU32 r.settingParameters.equalizationVoltage.toUInt32,
      realFromU32 r.settingParameters.boostVoltage.toUInt32,
      realFromU32 r.settingParameters.floatVoltage.toUInt32,
      realFromU32 r.settingParameters.boostReconnectVoltage.toUInt32,
      realFromU32 r.settingParameters.lowVoltageReconnect.toUInt32]
  unableToParse := eEpeverTracer6415anSettingParametersJsonUnableToParse
  bufOverflow := eEpeverTracer6415anSettingParametersJsonBufOverflow

/-- The reports. -/
inductive Report
  | ep2000 | ep2000Status | ep2000OverTemperature
  | ratedDatum | realTimeData | realTimeStatus | statisticalParameters | settingParameters
  deriving DecidableEq, Repr

def Report.func : Report → JsonFunc
  | .ep2000 => ep2000AsJson
  | .ep2000Status => ep2000StatusAsJson
  | .ep2000OverTemperature => readEp2000OverTemperatureAsJson
  | .ratedDatum => rs485EpeverTracer6415anReadRatedDatumAsJson
  | .realTimeData => rs485EpeverTracer6415anRealTimeDataAsJson
  | .realTimeStatus => rs485EpeverTracer6415anRealTimeStatusAsJson
  | .statisticalParameters => rs485EpeverTracer6415anStatisticalParametersAsJson
  | .settingParameters => rs485EpeverTracer6415anSettingParametersAsJson

/-! ### Printing -/

/-- What an `_as_json` function leaves: the buffer, `*len`, and the codes `error_handler` is called
with. -/
structure AsJson where
  buf : Mem
  len : ℕ
  errors : List ℤ

/-- The text. -/
def AsJson.text (j : AsJson) : List UInt8 := read j.buf 0 j.len

/-- An `_as_json` function behind the format. -/
def JsonFunc.finish (f : JsonFunc) (printed : Mem × ℤ) (bufSz : ℕ) (errors : List ℤ) : AsJson :=
  let (buf, lenOrError) := printed
  let (lenOrError, error) :=
    if lenOrError < 0 then (0, [f.unableToParse])
    else if lenOrError.toNat ≥ bufSz then (0, [f.bufOverflow])
    else (lenOrError.toNat, [])
  ⟨write buf lenOrError [0], lenOrError, errors ++ error⟩

/-- The pieces of the format. -/
def JsonFunc.pieces (f : JsonFunc) : List (List UInt8) :=
  Template.pieces (f.format.map textBytes).flatten

/-- The text that the format expands to. -/
def Report.formatted (rep : Report) (stack : Mem) (r : Records) : Option (List UInt8 × List ℤ) :=
  (evalArgs stack (rep.func.args r)).map fun x => (fill rep.func.pieces x.1, x.2)

/-- `FUNC_AS_JSON`, and the functions that are written out like it. -/
def Report.asJson (rep : Report) (stack buf : Mem) (bufSz : ℕ) (r : Records) : Option AsJson :=
  (rep.formatted stack r).map fun x => rep.func.finish (snprintf buf bufSz x.1) bufSz x.2

/-! ### The text -/

/-- What is printed for a number. -/
def fixedText (value : UInt32) : List UInt8 :=
  numeral (value / (value % 100)).toNat ++ point :: numeral (value % 100).toNat

/-- How long it is. -/
def fixedWidth (value : UInt32) : ℕ :=
  Nat.log 10 (value.toNat / (value.toNat % 100)) + Nat.log 10 (value.toNat % 100) + 3

/-- The sensors, as 32-bit words. -/
def ep2000Values (r : Records) : List UInt32 :=
  [r.ip2000Record.inputVoltage.toInt32.toUInt32, r.ip2000Record.inputCurrent.toInt32.toUInt32,
    r.ip2000Record.inputPower.toUInt32, r.ip2000Record.outputVoltage.toInt32.toUInt32,
    r.ip2000Record.outputCurrent.toInt32.toUInt32, r.ip2000Record.outputPower.toUInt32,
    r.ip2000Record.heatSinkTemp.toInt32.toUInt32]

/-- There is no division by zero. -/
def Arg.Defined : Arg → Prop
  | .real _ value => value % 100 ≠ 0
  | .str _ => True
  | .int _ => True

/-- An argument as text: a number that does not fit in its array is empty. -/
def Arg.text : Arg → List UInt8
  | .real size value => if fixedWidth value < size then fixedText value else []
  | .str s => textBytes s
  | .int n => intNumeral n

/-- The length of the text. -/
def Arg.width : Arg → ℕ
  | .real size value => if fixedWidth value < size then fixedWidth value else 0
  | .str s => (textBytes s).length
  | .int n => (if n < 0 then 1 else 0) + Nat.log 10 n.natAbs + 1

/-- There is no division by zero in the report. -/
def Report.Defined (rep : Report) (r : Records) : Prop := ∀ a ∈ rep.func.args r, a.Defined

/-- The report. -/
def Report.text (rep : Report) (r : Records) : List UInt8 :=
  fill rep.func.pieces ((rep.func.args r).map Arg.text)

/-- The length of the format, without the holes. -/
def Report.formatLength : Report → ℕ
  | .ep2000 => 119
  | .ep2000Status => 228
  | .ep2000OverTemperature => 21
  | .ratedDatum => 189
  | .realTimeData => 283
  | .realTimeStatus => 795
  | .statisticalParameters => 364
  | .settingParameters => 262

/-- How long it is. -/
def Report.width (rep : Report) (r : Records) : ℕ :=
  rep.formatLength + ((rep.func.args r).map Arg.width).sum

variable {a : Arg} {args : List Arg} {rep : Report} {r : Records} {value : UInt32}

@[simp] theorem length_fixedText (value : UInt32) :
    (fixedText value).length = fixedWidth value := by
  have hmod : (value % 100).toNat = value.toNat % 100 := UInt32.toNat_mod value 100
  rw [fixedText, fixedWidth, UInt32.toNat_div, hmod, List.length_append, List.length_cons,
    length_numeral, length_numeral]
  omega

theorem Arg.length_text (a : Arg) : a.text.length = a.width := by
  cases a with
  | real size value =>
      simp only [Arg.text, Arg.width]
      split <;> simp
  | str s => rfl
  | int n =>
      simp only [Arg.text, Arg.width, intNumeral]
      split
      · rw [List.length_cons, length_numeral]
        omega
      · rw [length_numeral]
        omega

/-- **An argument is printed**, if nothing is divided by zero. -/
theorem Arg.eval_eq (h : a.Defined) (stack : Mem) :
    ∃ errors, (∀ e ∈ errors, e = eRealU32PrecStringBufferTooShort) ∧
      a.eval stack = some (a.text, errors) := by
  cases a with
  | real size value =>
      have hp : (100 : UInt32) > 1 := by decide
      have hne : value % 100 ≠ 0 := h
      obtain ⟨htext, herror⟩ := realU32PrecLen_snprintf stack size (fixedText value)
      rw [length_fixedText] at htext herror
      have hprec : realU32Prec stack size value 100 =
          some (realU32PrecLen (snprintf stack size (fixedText value)) size) := by
        rw [realU32Prec, if_pos hp]
        exact if_neg hne
      refine ⟨(if fixedWidth value < size then none
        else some eRealU32PrecStringBufferTooShort).toList, ?_, ?_⟩
      · intro e he
        split at he
        · cases he
        · simpa using he
      · rw [Arg.eval, hprec, Option.map_some, htext, herror]
        rfl
  | str s => exact ⟨[], by simp, rfl⟩
  | int n => exact ⟨[], by simp, rfl⟩

theorem Arg.eval_eq_none (h : ¬ a.Defined) (stack : Mem) : a.eval stack = none := by
  cases a with
  | real size value =>
      have hzero : value % 100 = 0 := not_not.1 h
      have hnone := (realU32Prec_eq_none_iff stack size value 100).2 ⟨by decide, hzero⟩
      rw [Arg.eval, hnone]
      rfl
  | str s => exact absurd trivial h
  | int n => exact absurd trivial h

theorem evalArgs_eq (h : ∀ a ∈ args, a.Defined) (stack : Mem) :
    ∃ errors, (∀ e ∈ errors, e = eRealU32PrecStringBufferTooShort) ∧
      evalArgs stack args = some (args.map Arg.text, errors) := by
  induction args with
  | nil => exact ⟨[], by simp, rfl⟩
  | cons a args ih =>
      obtain ⟨errors, herrors, hone⟩ := Arg.eval_eq (h a List.mem_cons_self) stack
      obtain ⟨errors', herrors', hrest⟩ := ih fun b hb => h b (List.mem_cons_of_mem a hb)
      refine ⟨errors ++ errors', ?_, by rw [evalArgs, hone, hrest]; rfl⟩
      intro e he
      rcases List.mem_append.1 he with he | he
      · exact herrors e he
      · exact herrors' e he

theorem evalArgs_eq_none (ha : a ∈ args) (h : ¬ a.Defined) (stack : Mem) :
    evalArgs stack args = none := by
  induction args with
  | nil => cases ha
  | cons b args ih =>
      rw [evalArgs]
      rcases List.mem_cons.1 ha with rfl | ha
      · rw [Arg.eval_eq_none h]
        rfl
      · rw [ih ha]
        cases b.eval stack <;> rfl

/-- There is an argument for each hole. -/
theorem Report.length_pieces (rep : Report) (r : Records) :
    rep.func.pieces.length = (rep.func.args r).length + 1 := by
  have hargs : (rep.func.args r).length = (rep.func.args default).length := by cases rep <;> rfl
  rw [hargs]
  cases rep <;> rfl

theorem Report.length_format (rep : Report) :
    rep.func.pieces.flatten.length = rep.formatLength := by
  cases rep <;> decide +kernel

theorem Report.length_text (rep : Report) (r : Records) : (rep.text r).length = rep.width r := by
  have hlen := rep.length_pieces r
  have hsum : ((rep.func.args r).map Arg.text).flatten.length =
      ((rep.func.args r).map Arg.width).sum := by
    rw [List.length_flatten, List.map_map]
    exact congrArg List.sum (List.map_congr_left fun a _ => a.length_text)
  rw [Report.text, length_fill (by simp; omega), hsum, rep.length_format, Report.width]

/-! ### What a function leaves -/

/-- A report in a buffer of this size. -/
structure Report.Prints (rep : Report) (r : Records) (bufSz : ℕ) (j : AsJson) : Prop where
  nul : j.buf j.len = 0
  whole : rep.width r < bufSz →
    j.text = rep.text r ∧ ∀ e ∈ j.errors, e = eRealU32PrecStringBufferTooShort
  nothing : bufSz ≤ rep.width r → j.text = [] ∧ j.len = 0 ∧ rep.func.bufOverflow ∈ j.errors

/-- The text is printed if nothing is divided by zero. -/
theorem Report.formatted_eq (h : rep.Defined r) (stack : Mem) :
    ∃ errors, (∀ e ∈ errors, e = eRealU32PrecStringBufferTooShort) ∧
      rep.formatted stack r = some (rep.text r, errors) := by
  obtain ⟨errors, herrors, heval⟩ := evalArgs_eq h stack
  exact ⟨errors, herrors, by rw [Report.formatted, heval]; rfl⟩

/-- Where a number is divided by zero there is no report. -/
theorem Report.formatted_eq_none (h : ¬ rep.Defined r) (stack : Mem) :
    rep.formatted stack r = none := by
  simp only [Report.Defined, not_forall, exists_prop] at h
  obtain ⟨a, ha, hdiv⟩ := h
  rw [Report.formatted, evalArgs_eq_none ha hdiv]
  rfl

theorem Report.asJson_eq_none (h : ¬ rep.Defined r) (stack buf : Mem) (bufSz : ℕ) :
    rep.asJson stack buf bufSz r = none := by
  rw [Report.asJson, Report.formatted_eq_none h]
  rfl

/-- **What an `_as_json` function leaves.** -/
theorem Report.asJson_spec (h : rep.Defined r) (stack buf : Mem) (bufSz : ℕ) :
    ∃ j, rep.asJson stack buf bufSz r = some j ∧ rep.Prints r bufSz j := by
  obtain ⟨errors, herrors, hformatted⟩ := Report.formatted_eq h stack
  have hlen := rep.length_text r
  have hneg : ¬ ((rep.text r).length : ℤ) < 0 := by omega
  refine ⟨rep.func.finish (snprintf buf bufSz (rep.text r)) bufSz errors,
    by rw [Report.asJson, hformatted]; rfl, ?_⟩
  rcases Nat.lt_or_ge (rep.text r).length bufSz with hlt | hge
  · have hfinish : rep.func.finish (snprintf buf bufSz (rep.text r)) bufSz errors =
        ⟨write (snprintf buf bufSz (rep.text r)).1 (rep.text r).length [0],
          (rep.text r).length, errors⟩ := by
      simp [JsonFunc.finish, snprintf, hneg, Nat.not_le.2 hlt]
    rw [hfinish]
    refine ⟨?_, fun _ => ⟨read_snprintf buf hlt, herrors⟩, fun hle => absurd hle (by omega)⟩
    exact write_getElem _ _ [0] (i := 0) (by simp)
  · have hfinish : rep.func.finish (snprintf buf bufSz (rep.text r)) bufSz errors =
        ⟨write (snprintf buf bufSz (rep.text r)).1 0 [0], 0,
          errors ++ [rep.func.bufOverflow]⟩ := by
      simp [JsonFunc.finish, snprintf, hneg, hge]
    rw [hfinish]
    refine ⟨?_, fun hlt => absurd hlt (by omega), fun _ => ⟨rfl, rfl, by simp⟩⟩
    exact write_getElem (snprintf buf bufSz (rep.text r)).1 0 [0] (i := 0) (by simp)

end Solar48
