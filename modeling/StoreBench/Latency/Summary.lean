import StoreBench.Latency.Aggregate

/-!
Contract: latencies condensed to number, sum and extremes.

Owns: `Summary` and its four fields' rules.  The sum is a 64-bit word and wraps; the number
of latencies does not.
-/

namespace StoreBench.Latency

/-- Number, sum and extremes of a sequence of latencies. -/
structure Summary where
  /-- Kept in a word by machines; no count leaves it before as many latencies have come in
  (`Meter.total_applyAll_le`), and none in a phase (`meter_counts_lt`). -/
  count : Nat
  total : UInt64
  least : UInt64
  greatest : UInt64
  deriving DecidableEq, Repr

namespace Summary

def empty : Summary := ⟨0, 0, noLeast, 0⟩

def record (latency : UInt64) (summary : Summary) : Summary where
  count := summary.count + 1
  total := summary.total + latency
  least := min summary.least latency
  greatest := max summary.greatest latency

def mean (summary : Summary) : Float := summary.total.toFloat / Float.ofNat summary.count

instance : Aggregate Summary where
  empty := empty
  record := record
  count := count
  least := least
  greatest := greatest
  mean := mean
  percentiles := fun _ => []

end Summary

end StoreBench.Latency
