/-
**The reports on the console.**

When a driver has read its record it calls back, and the console prints the report, from a buffer on
the stack of the callback.  Most of the buffers are shorter than the format of the report alone, so
that the console prints an empty text.  The buffer of the sensors is longer than the format, but
by eight characters only, and there are seven numbers to be printed.

Main definitions:

* `Solar48.ConsoleCallback`, `Solar48.readep2000Callback` and the others — the code;
* `Solar48.ConsoleCallback.Shows` — a callback prints the report;
* `Solar48.ConsoleCallback.FitsWhen` — the condition for it.

Main results:

* `Solar48.ConsoleCallback.shows_iff` — a callback prints the report if it is shorter than the
  buffer;
* `Solar48.consoleCallbacks_show_iff` — **the over-temperature is always shown, the sensors are
  hardly ever, and nothing else is**.
-/

import Solar48.Reports
import Solar48.UsbCommand

set_option relaxedAutoImplicit false
set_option autoImplicit false

namespace Solar48

open ByteMem Template

/-! ### The code -/

/-- `usb_printf` of a text: what it hands on to the transmitter. -/
def usbPrintf (text : List UInt8) : List UInt8 := text.take (appTxDataSize - 1)

/-- What the callbacks differ in. -/
structure ConsoleCallback where
  report : Report
  bufferSize : ℕ
  errorFormat : String
  deriving DecidableEq, Repr

/-- `_readep2000_callback`. -/
def readep2000Callback : ConsoleCallback :=
  ⟨.ep2000, 128, "_readep2000_callback error %d\n"⟩

/-- `_read_ep2000_status_callback`. -/
def readEp2000StatusCallback : ConsoleCallback :=
  ⟨.ep2000Status, 128, "_read_ep2000_status_callback error %d\n"⟩

/-- `_read_ep2000_ovr_temp_callback`. -/
def readEp2000OvrTempCallback : ConsoleCallback :=
  ⟨.ep2000OverTemperature, 48, "_read_ep2000_ovr_temp_callback error %d\n"⟩

/-- `_rd_tr6415_rated_datum_callback`. -/
def rdTr6415RatedDatumCallback : ConsoleCallback :=
  ⟨.ratedDatum, 128, "_rd_tr6415_rated_datum_callback error %d\n"⟩

/-- `_rd_tr6415_real_time_callback`. -/
def rdTr6415RealTimeCallback : ConsoleCallback :=
  ⟨.realTimeData, 128, "_rd_tr6415_real_time_callback error %d\n"⟩

/-- `_rd_tr6415_real_time_status_callback`. -/
def rdTr6415RealTimeStatusCallback : ConsoleCallback :=
  ⟨.realTimeStatus, 512, "_rd_tr6415_real_time_status_callback error %d\n"⟩

/-- `_rd_tr6415_statistical_parameters_callback`. -/
def rdTr6415StatisticalParametersCallback : ConsoleCallback :=
  ⟨.statisticalParameters, 256, "_rd_tr6415_statistical_parameters_callback error %d\n"⟩

/-- `_rd_tr6415_setting_parameters_callback`. -/
def rdTr6415SettingParametersCallback : ConsoleCallback :=
  ⟨.settingParameters, 256, "_rd_tr6415_setting_parameters_callback error %d\n"⟩

def consoleCallbacks : List ConsoleCallback :=
  [readep2000Callback, readEp2000StatusCallback, readEp2000OvrTempCallback,
    rdTr6415RatedDatumCallback, rdTr6415RealTimeCallback, rdTr6415RealTimeStatusCallback,
    rdTr6415StatisticalParametersCallback, rdTr6415SettingParametersCallback]

/-- A callback, with `*err` and what is in its buffer before: what it prints. -/
def ConsoleCallback.run (c : ConsoleCallback) (stack buf : Mem) (err : ℤ) (r : Records) :
    Option (List UInt8) :=
  if err = 0 then (c.report.asJson stack buf c.bufferSize r).map fun j => usbPrintf j.text
  else some (usbPrintf (fill (pieces (textBytes c.errorFormat)) [intNumeral err]))

/-! ### What is shown -/

/-- The report fits into the buffer, so that there is no overflow and something is printed. -/
structure ConsoleCallback.Shows (c : ConsoleCallback) (stack buf : Mem) (r : Records) : Prop where
  fits : ∃ text errors, c.report.formatted stack r = some (text, errors) ∧
    text.length < c.bufferSize
  noOverflow : ∃ j, c.report.asJson stack buf c.bufferSize r = some j ∧
    c.report.func.bufOverflow ∉ j.errors
  prints : ∃ text, c.run stack buf 0 r = some text ∧ text ≠ []

/-- The condition on a callback and a record: it is the over-temperature, or all of the sensors can
be printed, and those that fit in their arrays have not more than eight characters. -/
def ConsoleCallback.FitsWhen (c : ConsoleCallback) (r : Records) : Prop :=
  c = readEp2000OvrTempCallback ∨
    c = readep2000Callback ∧ (∀ value ∈ ep2000Values r, value % 100 ≠ 0) ∧
      ((ep2000Values r).map fun value =>
        if fixedWidth value < 8 then fixedWidth value else 0).sum ≤ 8

variable {c : ConsoleCallback} {r : Records}

/-- No report is empty. -/
theorem Report.width_pos (rep : Report) (r : Records) : 0 < rep.width r := by
  have hpos : 0 < rep.formatLength := by cases rep <;> decide
  rw [Report.width]
  omega

/-- The codes of the reports are not that of a number that does not fit. -/
theorem Report.bufOverflow_ne (rep : Report) :
    rep.func.bufOverflow ≠ eRealU32PrecStringBufferTooShort := by
  cases rep <;> decide

/-- **A callback prints the report if it is shorter than the buffer.** -/
theorem ConsoleCallback.shows_iff (c : ConsoleCallback) (stack buf : Mem) (r : Records) :
    c.Shows stack buf r ↔ c.report.Defined r ∧ c.report.width r < c.bufferSize := by
  constructor
  · rintro ⟨⟨text, errors, hformatted, hlt⟩, -, -⟩
    have hdefined : c.report.Defined r := by
      by_contra hnot
      rw [Report.formatted_eq_none hnot] at hformatted
      cases hformatted
    obtain ⟨errors', -, heq⟩ := Report.formatted_eq hdefined stack
    rw [heq] at hformatted
    obtain ⟨rfl, -⟩ := Prod.mk.inj (Option.some.inj hformatted)
    rw [Report.length_text] at hlt
    exact ⟨hdefined, hlt⟩
  · rintro ⟨hdefined, hlt⟩
    obtain ⟨errors, -, hformatted⟩ := Report.formatted_eq hdefined stack
    obtain ⟨j, hj, hprints⟩ := Report.asJson_spec hdefined stack buf c.bufferSize
    obtain ⟨htext, herrors⟩ := hprints.whole hlt
    refine ⟨⟨_, _, hformatted, by rwa [Report.length_text]⟩, ⟨j, hj, ?_⟩, _,
      by rw [ConsoleCallback.run, if_pos rfl, hj]; rfl, ?_⟩
    · intro hmem
      exact c.report.bufOverflow_ne (herrors _ hmem)
    · have hpos := c.report.width_pos r
      rw [← Report.length_text] at hpos
      change usbPrintf j.text ≠ []
      rw [htext]
      intro hnil
      have hlen := congrArg List.length hnil
      have hsize : appTxDataSize = 256 := rfl
      rw [usbPrintf, List.length_take, List.length_nil] at hlen
      omega

/-- The formats that are not shorter than the buffer. -/
theorem bufferSize_le_of_ne (hc : c ∈ consoleCallbacks) (hsensors : c ≠ readep2000Callback)
    (htemp : c ≠ readEp2000OvrTempCallback) :
    c.bufferSize ≤ c.report.formatLength := by
  have hall : ∀ c ∈ consoleCallbacks, c ≠ readep2000Callback → c ≠ readEp2000OvrTempCallback →
      c.bufferSize ≤ c.report.formatLength := by decide
  exact hall c hc hsensors htemp

/-- Nothing is shown then. -/
theorem not_shows_of_ne (hc : c ∈ consoleCallbacks) (hsensors : c ≠ readep2000Callback)
    (htemp : c ≠ readEp2000OvrTempCallback) (stack buf : Mem) (r : Records) :
    ¬ c.Shows stack buf r := by
  have hle := bufferSize_le_of_ne hc hsensors htemp
  rw [ConsoleCallback.shows_iff, Report.width]
  omega

/-- The over-temperature is shown. -/
theorem shows_ovrTemp (stack buf : Mem) (r : Records) :
    readEp2000OvrTempCallback.Shows stack buf r := by
  have hformat : readEp2000OvrTempCallback.report.formatLength = 21 := rfl
  rw [ConsoleCallback.shows_iff]
  constructor
  · intro a ha
    obtain rfl := List.mem_singleton.1 ha
    trivial
  · have hargs : ∀ word, (textBytes (select word textT textF)).length ≤ 5 := by
      intro word
      unfold select
      split <;> decide
    have hword := hargs (r.epIp2000overTemperature &&& 1)
    rw [Report.width, hformat]
    change 21 + ((textBytes _).length + 0) < 48
    omega

/-- The sensors are shown under the condition. -/
theorem shows_readep2000_iff (stack buf : Mem) (r : Records) :
    readep2000Callback.Shows stack buf r ↔ (∀ value ∈ ep2000Values r, value % 100 ≠ 0) ∧
      ((ep2000Values r).map fun value =>
        if fixedWidth value < 8 then fixedWidth value else 0).sum ≤ 8 := by
  have hformat : readep2000Callback.report.formatLength = 119 := rfl
  have hargs : readep2000Callback.report.func.args r = (ep2000Values r).map setEp2000AsJson := rfl
  have hdefined : readep2000Callback.report.Defined r ↔
      ∀ value ∈ ep2000Values r, value % 100 ≠ 0 := by
    rw [Report.Defined, hargs, List.forall_mem_map]
    rfl
  have hsize : readep2000Callback.bufferSize = 128 := rfl
  have hwidth : Arg.width ∘ setEp2000AsJson =
      fun value => if fixedWidth value < 8 then fixedWidth value else 0 := rfl
  rw [ConsoleCallback.shows_iff, hdefined, Report.width, hformat, hargs, List.map_map, hsize,
    hwidth]
  refine and_congr_right fun _ => ?_
  omega

/-- **Which reports are shown.** -/
theorem consoleCallbacks_show_iff (stack buf : Mem) (r : Records) :
    ∀ c ∈ consoleCallbacks, (c.Shows stack buf r ↔ c.FitsWhen r) := by
  intro c hc
  by_cases htemp : c = readEp2000OvrTempCallback
  · rw [htemp]
    exact iff_of_true (shows_ovrTemp stack buf r) (Or.inl rfl)
  · by_cases hsensors : c = readep2000Callback
    · rw [ConsoleCallback.FitsWhen, hsensors, shows_readep2000_iff]
      simp [readep2000Callback, readEp2000OvrTempCallback]
    · refine iff_of_false (not_shows_of_ne hc hsensors htemp stack buf r) ?_
      rintro (heq | ⟨heq, -⟩)
      · exact htemp heq
      · exact hsensors heq

/-- The over-temperature is shown, the status is not. -/
theorem consoleCallbacks_show_ovrTemp :
    readEp2000OvrTempCallback.Shows (fun _ => 0) (fun _ => 0) default ∧
      ¬ readEp2000StatusCallback.Shows (fun _ => 0) (fun _ => 0) default := by
  constructor
  · exact (consoleCallbacks_show_iff _ _ _ _ (by decide)).2 (Or.inl rfl)
  · rw [consoleCallbacks_show_iff _ _ _ readEp2000StatusCallback (by decide)]
    rintro (heq | ⟨heq, -⟩)
    · exact absurd heq (by decide)
    · exact absurd heq (by decide)

/-- The status of the inverter is not shown, whatever it is. -/
theorem consoleCallbacks_not_show :
    ¬ ∀ c ∈ consoleCallbacks, c.Shows (fun _ => 0) (fun _ => 0) default := by
  intro hall
  exact not_shows_of_ne (c := readEp2000StatusCallback) (by decide) (by decide) (by decide) _ _ _
    (hall _ (by decide))

end Solar48
