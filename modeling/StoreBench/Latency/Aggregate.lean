/-!
Contract: what the latencies of one slot are condensed to.

Owns: `Aggregate`, what every way of condensing them answers, and the operations on it.

Does not own: the two ways, which are `Summary` and `Distribution`.
-/

namespace StoreBench.Latency

/-- A way to condense a sequence of latencies, given in nanoseconds.

`least` and `greatest` are meaningful only once `count` is positive; before that they hold
the greatest and the least word, which every latency improves on. -/
class Aggregate (α : Type) where
  empty : α
  record : UInt64 → α → α
  count : α → Nat
  least : α → UInt64
  greatest : α → UInt64
  mean : α → Float
  /-- The latencies at the reported percentiles. -/
  percentiles : α → List (Float × UInt64)

/-- The value that stands for "no smallest latency yet". -/
def noLeast : UInt64 := 0xFFFFFFFFFFFFFFFF

end StoreBench.Latency
