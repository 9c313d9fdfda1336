/-
**The status of the tracer.**

Twenty-eight texts are cut out of three words: each is chosen by a bit, or by a few bits next to
each other.  The code does so by hand, with masks and shifts.  The mask of the temperature of the
battery is shifted instead of the word, and nothing is left of it, so that the temperature is
always normal.

Main definitions:

* `Solar48.StatusField`, `Solar48.StatusField.group` — the texts, and the bits that choose them;
* `Solar48.ReportsStatus` — the report shows what the bits say, and each text its own bits only.

Main results:

* `Solar48.realTimeStatusArgs_eq` — what the code shows;
* `Solar48.reportsStatus_iff` — **the report is right if the temperature is normal**.
-/

import Solar48.Reports
import Mathlib.Data.Nat.Bitwise
import Mathlib.Tactic.IntervalCases

set_option relaxedAutoImplicit false
set_option autoImplicit false

namespace Solar48

open ByteMem Template

/-! ### The fields -/

/-- The words of the status. -/
inductive StatusWord
  | battery | charging | discharging
  deriving DecidableEq, Repr

def StatusWord.of (r : EpTracer6415anRealTimeStatus) : StatusWord → UInt16
  | .battery => r.batteryStatus
  | .charging => r.chargingEquipmentStatus
  | .discharging => r.dischargingEquipmentStatus

/-- The bits of a word that choose a text, and the texts; any other value is unknown. -/
structure StatusGroup where
  word : StatusWord
  shift : ℕ
  width : ℕ
  texts : List String

/-- A single bit. -/
def flag (word : StatusWord) (shift : ℕ) (no yes : String) : StatusGroup :=
  ⟨word, shift, 1, [no, yes]⟩

/-- The texts of the report, in their order. -/
inductive StatusField
  | voltage | temp | innerResistence | isWrongRatedVoltage
  | inputVolt | chargingMosfetIsShort | chargingOrAntiReverseMosfetIsShort
  | antiReverseMosfetIsShort | inputIsOverCurrent | theLoadIsOverCurrent | theLoadIsShort
  | loadMosfetIsShort | pvInputIsShort | charging | isFault | runningMode
  | dischargingInputVolt | outputPower | shortCircuit | unableToDischarge
  | unableToStopDischarging | outputVoltageAbnormal | inputOverPressure
  | highVoltageSideShortCircuit | boostOverPressure | outputOverPressure | dischargingIsFault
  | isRunning
  deriving DecidableEq, Repr

namespace StatusField

/-- The texts behind that of the temperature. -/
def others : List StatusField :=
  [.innerResistence, .isWrongRatedVoltage, .inputVolt, .chargingMosfetIsShort,
    .chargingOrAntiReverseMosfetIsShort, .antiReverseMosfetIsShort, .inputIsOverCurrent,
    .theLoadIsOverCurrent, .theLoadIsShort, .loadMosfetIsShort, .pvInputIsShort, .charging,
    .isFault, .runningMode, .dischargingInputVolt, .outputPower, .shortCircuit,
    .unableToDischarge, .unableToStopDischarging, .outputVoltageAbnormal, .inputOverPressure,
    .highVoltageSideShortCircuit, .boostOverPressure, .outputOverPressure, .dischargingIsFault,
    .isRunning]

def all : List StatusField := .voltage :: .temp :: others

/-- What chooses a text. -/
def group : StatusField → StatusGroup
  | .voltage =>
      ⟨.battery, 0, 3, ["Normal", "Overvolt", "Under volt", "Low Volt Disconnect", "Fault"]⟩
  | .temp =>
      ⟨.battery, 4, 4, ["Normal", "Over temp. (Higher than the warning settings)",
        "Low temp. (Lower than the warning settings)"]⟩
  | .innerResistence => flag .battery 8 "Normal" "Abnormal"
  | .isWrongRatedVoltage => flag .battery 15 "false" "true"
  | .inputVolt =>
      ⟨.charging, 14, 2, ["Normal", "No power connected", "Higher volt input",
        "Input volt error"]⟩
  | .chargingMosfetIsShort => flag .charging 13 "false" "true"
  | .chargingOrAntiReverseMosfetIsShort => flag .charging 12 "false" "true"
  | .antiReverseMosfetIsShort => flag .charging 11 "false" "true"
  | .inputIsOverCurrent => flag .charging 10 "false" "true"
  | .theLoadIsOverCurrent => flag .charging 9 "false" "true"
  | .theLoadIsShort => flag .charging 8 "false" "true"
  | .loadMosfetIsShort => flag .charging 7 "false" "true"
  | .pvInputIsShort => flag .charging 4 "false" "true"
  | .charging => ⟨.charging, 2, 2, ["No charging", "Float", "Boost", "Equalization"]⟩
  | .isFault => flag .charging 1 "false" "true"
  | .runningMode => flag .charging 0 "StandBy" "Running"
  | .dischargingInputVolt => ⟨.discharging, 14, 2, ["Normal", "Low", "High", "No access"]⟩
  | .outputPower => ⟨.discharging, 12, 2, ["Light load", "Moderate", "Rated", "Overload"]⟩
  | .shortCircuit => flag .discharging 11 "false" "true"
  | .unableToDischarge => flag .discharging 10 "false" "true"
  | .unableToStopDischarging => flag .discharging 9 "false" "true"
  | .outputVoltageAbnormal => flag .discharging 8 "false" "true"
  | .inputOverPressure => flag .discharging 7 "false" "true"
  | .highVoltageSideShortCircuit => flag .discharging 6 "false" "true"
  | .boostOverPressure => flag .discharging 5 "false" "true"
  | .outputOverPressure => flag .discharging 4 "false" "true"
  | .dischargingIsFault => flag .discharging 1 "false" "true"
  | .isRunning => flag .discharging 0 "false" "true"

/-- The bits of a field. -/
def bits (f : StatusField) (r : EpTracer6415anRealTimeStatus) : ℕ :=
  (f.group.word.of r).toNat / 2 ^ f.group.shift % 2 ^ f.group.width

/-- What the bits of a field say. -/
def decode (f : StatusField) (b : ℕ) : String := f.group.texts.getD b "Unknown status"

end StatusField

/-! ### The report -/

/-- The report with these texts in it. -/
def statusText (t : StatusField → String) : List UInt8 :=
  fill Report.realTimeStatus.func.pieces (StatusField.all.map fun f => textBytes (t f))

/-- The report shows what the bits say; and for any other status that differs from it in the bits
of one field only, the texts of the other fields are the same. -/
structure ReportsStatus (r : Records) : Prop where
  shows : ∀ stack buf bufSz, Report.realTimeStatus.width r < bufSz →
    ∃ j, Report.realTimeStatus.asJson stack buf bufSz r = some j ∧
      j.text = statusText fun f => f.decode (f.bits r.realTimeStatus)
  independent : ∀ (g : StatusField) (r' : Records),
    (∀ f ≠ g, f.bits r'.realTimeStatus = f.bits r.realTimeStatus) →
    ∀ stack buf bufSz, Report.realTimeStatus.width r' < bufSz →
      ∃ j t, Report.realTimeStatus.asJson stack buf bufSz r' = some j ∧ j.text = statusText t ∧
        ∀ f ≠ g, t f = f.decode (f.bits r.realTimeStatus)

variable {r : Records} {w : UInt16}

/-! ### Bits -/

/-- A mask of one bit. -/
theorem toNat_bit {n : UInt16} (hn : n < 16) : (bit n).toNat = 2 ^ n.toNat := by
  have hlt : n.toNat < 16 := UInt16.lt_iff_toNat_lt.1 hn
  have hone : (1 : UInt16).toNat = 1 := rfl
  have hpow : 2 ^ n.toNat < 2 ^ 16 := Nat.pow_lt_pow_right (by decide) hlt
  rw [bit, UInt16.toNat_shiftLeft, hone, Nat.mod_eq_of_lt hlt, Nat.one_shiftLeft,
    Nat.mod_eq_of_lt hpow]

/-- The bit is set or not. -/
theorem and_bit_eq_zero_iff {n : UInt16} (hn : n < 16) (w : UInt16) :
    w &&& bit n = 0 ↔ w.toNat / 2 ^ n.toNat % 2 = 0 := by
  have hzero : (0 : UInt16).toNat = 0 := rfl
  have hpos : 2 ^ n.toNat ≠ 0 := Nat.pos_iff_ne_zero.1 (Nat.two_pow_pos _)
  rw [← UInt16.toNat_inj, UInt16.toNat_and, toNat_bit hn, hzero, Nat.and_two_pow,
    Nat.mul_eq_zero, or_iff_left hpos, Nat.testBit_eq_decide_div_mod_eq, Bool.toNat_eq_zero,
    decide_eq_false_iff_not]
  omega

/-- A bit, as a text. -/
theorem select_bit {n : UInt16} (hn : n < 16) (w : UInt16) (yes no : String) :
    select (w &&& bit n) yes no =
      [no, yes].getD (w.toNat / 2 ^ n.toNat % 2 ^ 1) "Unknown status" := by
  have hlt : w.toNat / 2 ^ n.toNat % 2 < 2 := Nat.mod_lt _ (by decide)
  have hiff := and_bit_eq_zero_iff hn w
  rw [pow_one]
  by_cases hbit : w.toNat / 2 ^ n.toNat % 2 = 0
  · rw [select, if_neg (not_not.2 (hiff.2 hbit)), hbit]
    rfl
  · have hone : w.toNat / 2 ^ n.toNat % 2 = 1 := by omega
    rw [select, if_pos fun h => hbit (hiff.1 h), hone]
    rfl

/-- Two bits, as a text. -/
theorem element_bits {n : UInt16} (hn : n < 16) (w : UInt16) {texts : List String}
    (hlen : texts.length = 4) : element texts ((w >>> n) &&& 3) =
      texts.getD (w.toNat / 2 ^ n.toNat % 2 ^ 2) "Unknown status" := by
  have hlt : n.toNat < 16 := UInt16.lt_iff_toNat_lt.1 hn
  have hbits : ((w >>> n) &&& 3).toNat = w.toNat / 2 ^ n.toNat % 2 ^ 2 := by
    have hthree : (3 : UInt16).toNat = 2 ^ 2 - 1 := rfl
    rw [UInt16.toNat_and, UInt16.toNat_shiftRight, hthree, Nat.and_two_pow_sub_one_eq_mod,
      Nat.mod_eq_of_lt hlt, Nat.shiftRight_eq_div_pow]
  have hindex : w.toNat / 2 ^ n.toNat % 2 ^ 2 < texts.length := by
    rw [hlen]
    exact Nat.mod_lt _ (by decide)
  rw [element, hbits, List.getD_eq_getElem _ _ hindex, List.getD_eq_getElem _ _ hindex]

/-- The voltage of the battery. -/
theorem batteryVoltageText_eq (w : UInt16) : batteryVoltageText w =
    ["Normal", "Overvolt", "Under volt", "Low Volt Disconnect", "Fault"].getD
      (w.toNat / 2 ^ 0 % 2 ^ 3) "Unknown status" := by
  have hbits : (w &&& 7).toNat = w.toNat % 2 ^ 3 := by
    have hseven : (7 : UInt16).toNat = 2 ^ 3 - 1 := rfl
    rw [UInt16.toNat_and, hseven, Nat.and_two_pow_sub_one_eq_mod]
  have hlt : (w &&& 7).toNat < 8 := by
    rw [hbits]
    exact Nat.mod_lt _ (by decide)
  have hofNat : w &&& 7 = UInt16.ofNat (w &&& 7).toNat := UInt16.ofNat_toNat.symm
  rw [pow_zero, Nat.div_one, ← hbits, batteryVoltageText, hofNat]
  generalize (w &&& 7).toNat = n at hlt
  interval_cases n <;> rfl

/-- The temperature of the battery: nothing is left of the mask. -/
theorem batteryTempText_eq (w : UInt16) : batteryTempText w = "Normal" := by
  have hmask : (0x07 : UInt16) >>> 4 = 0 := by decide
  have hzero : w &&& 0 = 0 := UInt16.and_zero
  rw [batteryTempText, hmask, hzero]
  rfl

/-- What the code shows. -/
def shownText (r : EpTracer6415anRealTimeStatus) (f : StatusField) : String :=
  if f = .temp then "Normal" else f.decode (f.bits r)

/-- **What the code shows**: the temperature is always normal. -/
theorem realTimeStatusArgs_eq (r : EpTracer6415anRealTimeStatus) :
    realTimeStatusArgs r = StatusField.all.map (shownText r) := by
  simp only [realTimeStatusArgs, StatusField.all, StatusField.others, List.map_cons, List.map_nil,
    List.cons.injEq, and_true]
  refine ⟨batteryVoltageText_eq _, batteryTempText_eq _, select_bit (n := 8) (by decide) _ _ _,
    select_bit (n := 15) (by decide) _ _ _, element_bits (by decide) _ rfl,
    select_bit (n := 13) (by decide) _ _ _, select_bit (n := 12) (by decide) _ _ _,
    select_bit (n := 11) (by decide) _ _ _, select_bit (n := 10) (by decide) _ _ _,
    select_bit (n := 9) (by decide) _ _ _, select_bit (n := 8) (by decide) _ _ _,
    select_bit (n := 7) (by decide) _ _ _, select_bit (n := 4) (by decide) _ _ _,
    element_bits (by decide) _ rfl, select_bit (n := 1) (by decide) _ _ _,
    select_bit (n := 0) (by decide) _ _ _, element_bits (by decide) _ rfl,
    element_bits (by decide) _ rfl, select_bit (n := 11) (by decide) _ _ _,
    select_bit (n := 10) (by decide) _ _ _, select_bit (n := 9) (by decide) _ _ _,
    select_bit (n := 8) (by decide) _ _ _, select_bit (n := 7) (by decide) _ _ _,
    select_bit (n := 6) (by decide) _ _ _, select_bit (n := 5) (by decide) _ _ _,
    select_bit (n := 4) (by decide) _ _ _, select_bit (n := 1) (by decide) _ _ _,
    select_bit (n := 0) (by decide) _ _ _⟩

/-- The report, all in all. -/
theorem text_realTimeStatus (r : Records) :
    Report.realTimeStatus.text r = statusText (shownText r.realTimeStatus) := by
  have hargs : (Report.realTimeStatus.func.args r).map Arg.text =
      StatusField.all.map fun f => textBytes (shownText r.realTimeStatus f) := by
    change ((realTimeStatusArgs r.realTimeStatus).map Arg.str).map Arg.text = _
    rw [realTimeStatusArgs_eq, List.map_map, List.map_map]
    rfl
  rw [Report.text, hargs, statusText]

/-- A buffer that is large enough has the report in it. -/
theorem exists_shownText (stack buf : Mem) {bufSz : ℕ}
    (hlt : Report.realTimeStatus.width r < bufSz) :
    ∃ j, Report.realTimeStatus.asJson stack buf bufSz r = some j ∧
      j.text = statusText (shownText r.realTimeStatus) := by
  have hdefined : Report.realTimeStatus.Defined r := by
    change ∀ a ∈ (realTimeStatusArgs r.realTimeStatus).map Arg.str, a.Defined
    rw [List.forall_mem_map]
    exact fun s _ => trivial
  obtain ⟨j, hj, hprints⟩ := Report.asJson_spec hdefined stack buf bufSz
  exact ⟨j, hj, by rw [(hprints.whole hlt).1, text_realTimeStatus]⟩

/-! ### The temperature -/

/-- Reports that differ in the temperature only: they are equally long if the texts are. -/
theorem length_temp_of_statusText_eq {t u : StatusField → String}
    (h : statusText t = statusText u) (hother : ∀ f ≠ StatusField.temp, t f = u f) :
    (textBytes (t .temp)).length = (textBytes (u .temp)).length := by
  have hpieces : StatusField.all.length ≤ Report.realTimeStatus.func.pieces.length := by
    rw [Report.length_pieces _ default]
    exact Nat.le_succ _
  have hmap : StatusField.others.map (fun f => textBytes (t f)) =
      StatusField.others.map fun f => textBytes (u f) := by
    refine List.map_congr_left fun f hf => ?_
    have hne : ∀ f ∈ StatusField.others, f ≠ .temp := by decide
    rw [hother f (hne f hf)]
  have hlen := congrArg List.length h
  rw [statusText, statusText, length_fill (by rwa [List.length_map]),
    length_fill (by rwa [List.length_map])] at hlen
  simp only [StatusField.all, List.map_cons, hmap, hother .voltage (by decide),
    List.flatten_cons, List.length_append] at hlen
  omega

/-- A temperature that is not normal has a longer text. -/
theorem length_decode_temp {b : ℕ} (hb : b ≠ 0) :
    (textBytes (StatusField.temp.decode b)).length ≠ (textBytes "Normal").length := by
  have hunknown : (textBytes "Unknown status").length ≠ (textBytes "Normal").length := by
    decide
  match b with
  | 0 => exact absurd rfl hb
  | 1 => decide
  | 2 => decide
  | b + 3 => exact hunknown

/-- A temperature that is not normal is not shown. -/
theorem not_reportsStatus (h : StatusField.temp.bits r.realTimeStatus ≠ 0) :
    ¬ ReportsStatus r := by
  intro hreports
  obtain ⟨j, hj, htext⟩ := hreports.shows (fun _ => 0) (fun _ => 0) _ (Nat.lt_succ_self _)
  obtain ⟨j', hj', htext'⟩ := exists_shownText (fun _ => 0) (fun _ => 0)
    (Nat.lt_succ_self (Report.realTimeStatus.width r))
  rw [hj] at hj'
  obtain rfl := Option.some.inj hj'
  rw [htext] at htext'
  have hlen := length_temp_of_statusText_eq htext' fun f hf => by rw [shownText, if_neg hf]
  rw [shownText, if_pos rfl] at hlen
  exact length_decode_temp h hlen

/-- **The report is right if the temperature is normal**, and only then. -/
theorem reportsStatus_iff (r : Records) :
    ReportsStatus r ↔ StatusField.temp.bits r.realTimeStatus = 0 := by
  constructor
  · intro hreports
    by_contra hbits
    exact not_reportsStatus hbits hreports
  · intro hbits
    have hshown : shownText r.realTimeStatus = fun f => f.decode (f.bits r.realTimeStatus) := by
      funext f
      unfold shownText
      split
      · rename_i htemp
        rw [htemp, hbits]
        rfl
      · rfl
    refine ⟨fun stack buf bufSz hlt => ?_, fun g r' hother stack buf bufSz hlt => ?_⟩
    · rw [← hshown]
      exact exists_shownText stack buf hlt
    · obtain ⟨j, hj, htext⟩ := exists_shownText stack buf hlt
      refine ⟨j, _, hj, htext, fun f hf => ?_⟩
      have hsame := hother f hf
      rw [← congrFun hshown f, shownText, shownText, hsame]

/-- An over temperature is shown as normal. -/
theorem not_reportsStatus_over_temperature :
    ¬ ReportsStatus { (default : Records) with realTimeStatus := ⟨0x10, 0, 0⟩ } :=
  not_reportsStatus (by decide)

end Solar48
