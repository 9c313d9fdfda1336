/-
**The reports as JSON.**

A report is JSON if what stands behind its names is.  The numbers are, as `real_u32_prec` prints
them, but one that does not fit in its array is printed as nothing at all.  `true` and `false` are
too, but the texts of a status have no quotes around them.

Main definitions:

* `Solar48.Report.keys` — the names in a report;
* `Solar48.Report.IsJson` — a function leaves nothing and raises its error, or leaves an object;
* `Solar48.Report.JsonWhen` — the condition for it.

Main results:

* `Solar48.Report.isObject_text` — a report of values is an object;
* `Solar48.Report.scan_text` — a report with anything else in it is not;
* `Solar48.Report.isJson_iff` — **a report with a text in it is never JSON, and that of the sensors
  is only if all of the numbers fit**.
-/

import Solar48.Json
import Solar48.Reports
import Mathlib.Tactic.IntervalCases

set_option relaxedAutoImplicit false
set_option autoImplicit false

namespace Solar48

open ByteMem Decimal Json Template

/-! ### What is to be shown -/

/-- The names in a report, in their order. -/
def Report.keys : Report → List String
  | .ep2000 =>
      ["InputVoltage", "InputCurrent", "InputPower", "OutputVoltage", "OutputCurrent",
        "OutputPower", "HeatSinkTemp"]
  | .ep2000Status =>
      ["InputVoltageStatus", "OutputPowerStatus", "State", "Status", "OutputFail",
        "HighVoltageSideShortCircuit", "InputOverCurrent", "AbnormalOutputVoltage",
        "UnableToStopDischarging", "UnableToDischarge", "ShortCircuit"]
  | .ep2000OverTemperature => ["OverTemperature"]
  | .ratedDatum =>
      ["ArrayRatedVotage", "ArrayRatedCurrent", "ArrayRatedPower", "BatteryRatedVoltage",
        "BatteryRatedCurrent", "BatteryRatedPower", "CharginMode", "RatedCurrentOfLoad"]
  | .realTimeData =>
      ["PVArrayInputVoltage", "PVArrayInputCurrent", "PVArrayInputPower", "BatteryPower",
        "LoadVoltage", "LoadCurrent", "LoadPower", "BatteryTemperature",
        "TemperatureInsideEquipament", "BatterySoc", "RemoteBatteryTemperature",
        "BatteryRealRatedPower"]
  | .realTimeStatus => ["Battery", "ChargingEquipment", "DischargingEquipmentStatus"]
  | .statisticalParameters =>
      ["MaximumPVVoltageToday", "MinimumPVVoltageToday", "MaximumBatteryVoltageToday",
        "MinimumBatteryVoltageToday", "ConsumedEnergyToday", "ConsumedEnergyThisMonth",
        "ConsumedEnergyThisYear", "TotalConsumedEnergy", "GeneratedEnergyToday",
        "GeneratedEnergyThisMonth", "GeneratedEnergyThisYear", "BatteryVoltage",
        "BatteryCurrent"]
  | .settingParameters =>
      ["BatteryType", "BatteryCapacity", "BatteryCompCoeff", "HighVoltDisconnect",
        "ChargingLimitVoltage", "OverVoltageReconnect", "EqualizationVoltage", "BoostVoltage",
        "FloatVoltage", "BoostReconnectVoltage", "LowVoltageReconnect"]

/-- The function leaves an empty string and raises its error, or it leaves an object with the names
of the report. -/
def Report.IsJson (rep : Report) (stack buf : Mem) (bufSz : ℕ) (r : Records) : Prop :=
  ∃ j, rep.asJson stack buf bufSz r = some j ∧ j.buf j.len = 0 ∧
    (j.text = [] ∧ j.len = 0 ∧
        (rep.func.bufOverflow ∈ j.errors ∨ rep.func.unableToParse ∈ j.errors) ∨
      IsObject (rep.keys.map textBytes) j.text)

/-- All that is printed are numbers, and all of them fit, or it is `true` or `false`. -/
def Report.PrintsValues : Report → Records → Prop
  | .ep2000, r => ∀ value ∈ ep2000Values r, fixedWidth value < 8
  | .ep2000OverTemperature, _ => True
  | .realTimeData, _ => True
  | .statisticalParameters, _ => True
  | .ep2000Status, _ => False
  | .ratedDatum, _ => False
  | .realTimeStatus, _ => False
  | .settingParameters, _ => False

/-- The condition: no number is divided by zero, and the report is too long for the buffer, or it
has only values in it. -/
def Report.JsonWhen (rep : Report) (r : Records) (bufSz : ℕ) : Prop :=
  rep.Defined r ∧ (bufSz ≤ rep.width r ∨ rep.PrintsValues r)

variable {rep : Report} {r : Records} {value : UInt32} {size : ℕ}

/-! ### Values -/

/-- A number that fits. -/
theorem derives_real (h : fixedWidth value < size) : Derives .value (Arg.real size value).text := by
  rw [Arg.text, if_pos h]
  exact derives_fixedPoint _ _

/-- All numbers fit in sixteen bytes. -/
theorem fixedWidth_lt (value : UInt32) : fixedWidth value < 16 := by
  have hlt : value.toNat < 10 ^ 10 := by
    have := value.toNat_lt
    omega
  have hdiv : Nat.log 10 (value.toNat / (value.toNat % 100)) < 10 := by
    refine Nat.log_lt_of_lt_pow' (by decide) (lt_of_le_of_lt (Nat.div_le_self _ _) hlt)
  have hmod : Nat.log 10 (value.toNat % 100) < 2 :=
    Nat.log_lt_of_lt_pow' (by decide) (Nat.mod_lt _ (by decide))
  rw [fixedWidth]
  omega

/-- A number of the tracer. -/
def Arg.isReal16 : Arg → Bool
  | .real 16 _ => true
  | _ => false

theorem derives_of_isReal16 {a : Arg} (h : a.isReal16 = true) : Derives .value a.text := by
  unfold Arg.isReal16 at h
  split at h
  · exact derives_real (fixedWidth_lt _)
  · cases h

/-- `true` or `false`. -/
theorem derives_select (word : UInt16) : Derives .value (textBytes (select word textT textF)) := by
  have htrue : textBytes textT = trueText := rfl
  have hfalse : textBytes textF = falseText := rfl
  unfold select
  split
  · rw [htrue]
    exact .trueWord
  · rw [hfalse]
    exact .falseWord

/-! ### Reports of values -/

/-- The names of the reports that have only values. -/
theorem Report.pieces_eq :
    Report.ep2000.func.pieces =
        objectPieces [] (textBytes "InputVoltage") (Report.ep2000.keys.tail.map textBytes) ∧
      Report.ep2000OverTemperature.func.pieces =
        objectPieces [] (textBytes "OverTemperature") [] ∧
      Report.realTimeData.func.pieces =
        objectPieces [0x20, 0x20] (textBytes "PVArrayInputVoltage")
          (Report.realTimeData.keys.tail.map textBytes) ∧
      Report.statisticalParameters.func.pieces =
        objectPieces [0x20, 0x20] (textBytes "MaximumPVVoltageToday")
          (Report.statisticalParameters.keys.tail.map textBytes) :=
  ⟨rfl, rfl, rfl, rfl⟩

/-- The names are good for JSON. -/
theorem Report.isChars_keys (rep : Report) : ∀ k ∈ rep.keys.map textBytes, IsChars k := by
  have hall : (rep.keys.map textBytes).all
      (List.all · fun c => decide (0x20 ≤ c ∧ c ≠ quote ∧ c ≠ backslash)) = true := by
    cases rep <;> rfl
  intro k hk
  refine isChars_of_forall fun c hc => ?_
  exact of_decide_eq_true (List.all_eq_true.1 (List.all_eq_true.1 hall k hk) c hc)

/-- A report is an object if its format is that of an object, and its arguments are values. -/
theorem Report.isObject_of_args {w k : List UInt8} {keys : List (List UInt8)}
    (hkeys : rep.keys.map textBytes = k :: keys) (hpieces : rep.func.pieces = objectPieces w k keys)
    (hw : IsBlank w) (hargs : ∀ a ∈ rep.func.args r, Derives .value a.text) :
    IsObject (rep.keys.map textBytes) (rep.text r) := by
  have hlen := rep.length_pieces r
  have hchars := rep.isChars_keys
  rw [hpieces] at hlen
  rw [hkeys] at hchars
  rw [Report.text, hkeys, hpieces]
  cases hr : rep.func.args r with
  | nil => simp [hr, objectPieces, restPieces] at hlen
  | cons a args =>
      rw [hr] at hlen hargs
      refine isObject_fill hw ?_ hchars ?_
      · simpa [objectPieces, restPieces] using hlen.symm
      · rw [← List.map_cons, List.forall_mem_map]
        exact hargs

/-- **A report of values is an object.** -/
theorem Report.isObject_text (h : rep.PrintsValues r) :
    IsObject (rep.keys.map textBytes) (rep.text r) := by
  obtain ⟨hsensors, htemp, hdata, hstatistics⟩ := Report.pieces_eq
  have hnone : IsBlank [] := by simp [IsBlank]
  have htwo : IsBlank [0x20, 0x20] := by simp [IsBlank, isBlank]
  have hreal : ∀ args : List Arg, args.all Arg.isReal16 = true →
      ∀ a ∈ args, Derives .value a.text :=
    fun args hall a ha => derives_of_isReal16 (List.all_eq_true.1 hall a ha)
  cases rep with
  | ep2000 =>
      refine Report.isObject_of_args rfl hsensors hnone ?_
      change ∀ a ∈ (ep2000Values r).map setEp2000AsJson, Derives .value a.text
      rw [List.forall_mem_map]
      exact fun value hvalue => derives_real (h value hvalue)
  | ep2000OverTemperature =>
      refine Report.isObject_of_args rfl htemp hnone ?_
      intro a ha
      obtain rfl := List.mem_singleton.1 ha
      exact derives_select _
  | realTimeData => exact Report.isObject_of_args rfl hdata htwo (hreal _ rfl)
  | statisticalParameters => exact Report.isObject_of_args rfl hstatistics htwo (hreal _ rfl)
  | ep2000Status => exact h.elim
  | ratedDatum => exact h.elim
  | realTimeStatus => exact h.elim
  | settingParameters => exact h.elim

/-! ### Reports of anything else -/

/-- The texts of a status are not words of JSON. -/
theorem isStopped_inputVoltageStatus (status : UInt16) :
    IsStopped (textBytes (inputVoltageStatus status)) := by
  refine Or.inr ?_
  unfold inputVoltageStatus
  split <;> rfl

theorem isStopped_batteryVoltageText (status : UInt16) :
    IsStopped (textBytes (batteryVoltageText status)) := by
  refine Or.inr ?_
  unfold batteryVoltageText
  split <;> rfl

theorem isStopped_chargingModeText (mode : UInt16) :
    IsStopped (textBytes (chargingModeText mode)) := by
  refine Or.inr ?_
  unfold chargingModeText
  split <;> rfl

theorem isStopped_batteryTypeText (value : UInt16) :
    IsStopped (textBytes (batteryTypeText value)) := by
  refine Or.inr ?_
  unfold batteryTypeText
  split
  · rename_i hand
    have hle : value.toNat ≤ 3 := by
      have hnat := congrArg UInt16.toNat hand
      rw [UInt16.toNat_and] at hnat
      rw [← hnat]
      exact Nat.and_le_right
    unfold element
    generalize value.toNat = n at hle
    interval_cases n <;> rfl
  · rfl

/-- There has to be a value between any two pieces of a format. -/
theorem Report.punctuates_pieces (rep : Report) : punctuates rep.func.pieces = true := by
  cases rep <;> rfl

/-- The scanner is stopped at an argument that is no value. -/
theorem Report.scan_of_args {front back : List Arg} {a : Arg}
    (hargs : rep.func.args r = front ++ a :: back)
    (hfront : ∀ b ∈ front, Derives .value b.text) (ha : IsStopped a.text) :
    Json.scan (.outside false) (rep.text r) = none := by
  have hlen := rep.length_pieces r
  rw [Report.text, hargs, List.map_append, List.map_cons]
  refine scan_fill_eq_none rep.punctuates_pieces ?_ ?_ ha
  · rw [hlen, hargs]
    simp
  · rwa [List.forall_mem_map]

/-- The same at the first argument. -/
theorem Report.scan_of_head {back : List Arg} {a : Arg} (hargs : rep.func.args r = a :: back)
    (ha : IsStopped a.text) : Json.scan (.outside false) (rep.text r) = none := by
  have hnil : rep.func.args r = [] ++ a :: back := by rw [hargs, List.nil_append]
  exact Report.scan_of_args hnil (by simp) ha

/-- **A report with anything but values in it is no object.** -/
theorem Report.scan_text (h : ¬ rep.PrintsValues r) :
    Json.scan (.outside false) (rep.text r) = none := by
  cases rep with
  | ep2000 =>
      -- the first number that does not fit
      have hsome :
          ((ep2000Values r).find? fun value => ! decide (fixedWidth value < 8)).isSome := by
        rw [List.find?_isSome]
        by_contra hnone
        refine h fun value hvalue => ?_
        by_contra hlt
        exact hnone ⟨value, hvalue, by simpa using hlt⟩
      obtain ⟨value, hvalue⟩ := Option.isSome_iff_exists.1 hsome
      obtain ⟨hnot, front, back, heq, hfront⟩ := List.find?_eq_some_iff_append.1 hvalue
      have hargs : Report.ep2000.func.args r =
          front.map setEp2000AsJson ++ setEp2000AsJson value :: back.map setEp2000AsJson := by
        rw [← List.map_cons, ← List.map_append, ← heq]
        rfl
      refine Report.scan_of_args hargs ?_ (Or.inl ?_)
      · rw [List.forall_mem_map]
        exact fun v hv => derives_real (by simpa using hfront v hv)
      · exact if_neg (by simpa using hnot)
  | ep2000Status =>
      exact Report.scan_of_head rfl (isStopped_inputVoltageStatus _)
  | ratedDatum =>
      -- six numbers are in front of the charging mode
      have hargs : Report.ratedDatum.func.args r = (Report.ratedDatum.func.args r).take 6 ++
          .str (chargingModeText r.ratedDatum.chargingMode) ::
            (Report.ratedDatum.func.args r).drop 7 := rfl
      refine Report.scan_of_args hargs ?_ (isStopped_chargingModeText _)
      have hall : ((Report.ratedDatum.func.args r).take 6).all Arg.isReal16 = true := rfl
      exact fun a ha => derives_of_isReal16 (List.all_eq_true.1 hall a ha)
  | realTimeStatus =>
      exact Report.scan_of_head rfl (isStopped_batteryVoltageText _)
  | settingParameters =>
      exact Report.scan_of_head rfl (isStopped_batteryTypeText _)
  | ep2000OverTemperature => exact absurd trivial h
  | realTimeData => exact absurd trivial h
  | statisticalParameters => exact absurd trivial h

/-! ### All reports -/

/-- Where a number is divided by zero there is no report at all. -/
theorem Report.IsJson.defined {stack buf : Mem} {bufSz : ℕ} (h : rep.IsJson stack buf bufSz r) :
    rep.Defined r := by
  by_contra hnot
  obtain ⟨j, hj, -⟩ := h
  rw [Report.asJson_eq_none hnot] at hj
  cases hj

/-- A report that fits in the buffer, with anything but values in it. -/
theorem Report.not_isJson {bufSz : ℕ} (hlt : rep.width r < bufSz) (hvalues : ¬ rep.PrintsValues r)
    (stack buf : Mem) : ¬ rep.IsJson stack buf bufSz r := by
  intro hjson
  obtain ⟨j, hj, hprints⟩ := Report.asJson_spec hjson.defined stack buf bufSz
  obtain ⟨j', hj', -, hcases⟩ := hjson
  rw [hj] at hj'
  obtain rfl := Option.some.inj hj'
  have hscan := Report.scan_text hvalues
  rw [(hprints.whole hlt).1] at hcases
  rcases hcases with ⟨hnil, -⟩ | hobject
  · rw [hnil] at hscan
    cases hscan
  · exact not_isObject_of_scan hscan hobject

/-- A report under the condition. -/
theorem Report.JsonWhen.isJson {bufSz : ℕ} (h : rep.JsonWhen r bufSz) (stack buf : Mem) :
    rep.IsJson stack buf bufSz r := by
  obtain ⟨hdefined, hcases⟩ := h
  obtain ⟨j, hj, hprints⟩ := Report.asJson_spec hdefined stack buf bufSz
  refine ⟨j, hj, hprints.nul, ?_⟩
  rcases Nat.lt_or_ge (rep.width r) bufSz with hlt | hge
  · have hvalues := hcases.resolve_left (by omega)
    rw [(hprints.whole hlt).1]
    exact Or.inr (Report.isObject_text hvalues)
  · obtain ⟨htext, hlen, herror⟩ := hprints.nothing hge
    exact Or.inl ⟨htext, hlen, Or.inl herror⟩

/-- **Which reports are JSON.** -/
theorem Report.isJson_iff (rep : Report) (stack buf : Mem) (bufSz : ℕ) (r : Records) :
    rep.IsJson stack buf bufSz r ↔ rep.JsonWhen r bufSz := by
  constructor
  · intro hjson
    refine ⟨hjson.defined, ?_⟩
    rcases Nat.lt_or_ge (rep.width r) bufSz with hlt | hge
    · refine Or.inr ?_
      by_contra hvalues
      exact Report.not_isJson hlt hvalues stack buf hjson
    · exact Or.inl hge
  · intro hwhen
    exact hwhen.isJson stack buf

/-- The status of the inverter, in a buffer that is large enough. -/
theorem Report.not_isJson_ep2000Status :
    ¬ Report.ep2000Status.IsJson (fun _ => 0) (fun _ => 0) 512 default := by
  have hlt : Report.ep2000Status.width default < 512 := by decide
  have hvalues : ¬ Report.ep2000Status.PrintsValues default := id
  exact Report.not_isJson hlt hvalues _ _

end Solar48
