import StoreBench.Latency.Aggregate
import StoreBench.Latency.PerSlot
import StoreBench.Total

/-!
Contract: the latencies of a phase, slot by slot, beside its warm-up calls.

Owns:
- `Meter`, the events it takes in, and what it answers;
- `Snapshot`, the statistics of one slot.

Does not own: the text of a status message, which is in `Latency.StatusText`.
-/

namespace StoreBench.Latency

/-- Latencies and warm-up calls of a phase. -/
structure Meter (α : Type) where
  cells : PerSlot α
  /-- The number of warm-up calls of each slot; like that of the latencies, it does not leave a word
  (`meter_counts_lt`). -/
  warmups : PerSlot Nat
  /-- How many warm-up calls the phase is to make. -/
  target : UInt64

/-- The statistics of one slot, in nanoseconds. -/
structure Snapshot where
  slot : Slot
  count : Nat
  least : UInt64
  greatest : UInt64
  mean : Float
  percentiles : List (Float × UInt64)

/-- What a meter takes in. -/
inductive Event
  /-- A measured call with its latency. -/
  | measured (slot : Slot) (latency : UInt64)
  /-- A warm-up call, whose latency is not kept. -/
  | warmup (slot : Slot)
  /-- The number of warm-up calls to expect. -/
  | target (calls : UInt64)
  /-- A fresh start. -/
  | reset
  deriving DecidableEq, Repr

namespace Meter

variable {α : Type} [Aggregate α]

def empty : Meter α :=
  ⟨PerSlot.replicate Aggregate.empty, PerSlot.replicate 0, 0⟩

def record (slot : Slot) (latency : UInt64) (meter : Meter α) : Meter α :=
  { meter with cells := meter.cells.modify slot (Aggregate.record latency) }

omit [Aggregate α] in
def recordWarmup (slot : Slot) (meter : Meter α) : Meter α :=
  { meter with warmups := meter.warmups.modify slot (· + 1) }

omit [Aggregate α] in
def setTarget (calls : UInt64) (meter : Meter α) : Meter α := { meter with target := calls }

/-- Forgets all calls; the expected number of warm-up calls stays. -/
def reset (meter : Meter α) : Meter α := { (empty : Meter α) with target := meter.target }

def apply (meter : Meter α) : Event → Meter α
  | .measured slot latency => meter.record slot latency
  | .warmup slot => meter.recordWarmup slot
  | .target calls => meter.setTarget calls
  | .reset => meter.reset

def applyAll (meter : Meter α) (events : List Event) : Meter α := events.foldl apply meter

/-- The number of measured calls. -/
def measuredTotal (meter : Meter α) : Nat := total (meter.cells.toList.map Aggregate.count)

omit [Aggregate α] in
/-- The number of warm-up calls. -/
def warmupTotal (meter : Meter α) : Nat := total meter.warmups.toList

/-- The statistics of a slot, if any call of it was measured. -/
def snapshot? (meter : Meter α) (slot : Slot) : Option Snapshot :=
  let cell := meter.cells.get slot
  if Aggregate.count cell = 0 then none
  else some {
    slot
    count := Aggregate.count cell
    least := Aggregate.least cell
    greatest := Aggregate.greatest cell
    mean := Aggregate.mean cell
    percentiles := Aggregate.percentiles cell }

/-- The statistics of every slot with measured calls, in display order. -/
def snapshots (meter : Meter α) : List Snapshot := Slot.all.filterMap meter.snapshot?

end Meter

end StoreBench.Latency
