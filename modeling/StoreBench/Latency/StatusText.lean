import StoreBench.Decimal.Layout
import StoreBench.Latency.Meter

/-!
Contract: the message that tells how far a phase is.

The first line counts the operations, those of the warm-up included, and shows how far
the warm-up is while it lasts.  A line for each slot with measured calls follows, in
display order.  Latencies are shown in microseconds with two decimals.

Owns: the message and its parts.
-/

namespace StoreBench.Latency

/-- A latency in nanoseconds, as it is shown. -/
def shown (nanoseconds : Float) : String := Decimal.fixed 2 (nanoseconds / 1000.0)

def percentileText (entry : Float × UInt64) : String :=
  " " ++ Decimal.Layout.plain.text entry.1 ++ "=" ++ shown entry.2.toFloat

def Snapshot.line (snapshot : Snapshot) : String :=
  "[" ++ snapshot.slot.name ++ ": Count=" ++ toString snapshot.count ++
    " Max=" ++ shown snapshot.greatest.toFloat ++
    " Min=" ++ shown snapshot.least.toFloat ++
    " Avg=" ++ shown snapshot.mean ++
    String.join (snapshot.percentiles.map percentileText) ++ "]"

namespace Meter

variable {α : Type} [Aggregate α]

omit [Aggregate α] in
/-- How far the warm-up is, while it lasts. -/
def warmupText (meter : Meter α) : String :=
  let done := meter.warmupTotal
  let target := meter.target.toNat
  if 0 < target ∧ done < target then
    let share := Float.ofNat done / Float.ofNat target * 100.0
    s!" warmup: {done}/{target} (" ++ Decimal.fixed 2 share ++ "%);"
  else ""

def header (meter : Meter α) : String :=
  s!"{meter.measuredTotal + meter.warmupTotal} operations;" ++ meter.warmupText

def statusText (meter : Meter α) : String :=
  meter.header ++ String.join (meter.snapshots.map fun snapshot => "\n" ++ snapshot.line)

end Meter

end StoreBench.Latency
