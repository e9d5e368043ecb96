import StoreBench.Latency.Distribution
import StoreBench.Latency.Meter
import StoreBench.Latency.Summary

/-!
Contract: the choice between the two ways of condensing latencies.

Owns: `Strategy`, its names, the aggregate it stands for, and the description of a meter's
inside.
-/

namespace StoreBench.Latency

/-- A way of condensing latencies, as a configuration names it. -/
inductive Strategy
  /-- Number, sum and extremes. -/
  | basic
  /-- Counts by precision class, which answer percentiles too. -/
  | histogram
  deriving DecidableEq, Repr, Inhabited

namespace Strategy

def name : Strategy → String
  | .basic => "basic"
  | .histogram => "hdrhistogram"

def ofName? (text : String) : Option Strategy := [basic, histogram].find? (·.name == text)

/-- The name that is used if a configuration gives none. -/
def defaultName : String := basic.name

/-- The aggregate that each slot holds. -/
abbrev Cell : Strategy → Type
  | .basic => Summary
  | .histogram => Distribution

instance (strategy : Strategy) : Aggregate strategy.Cell :=
  match strategy with
  | .basic => inferInstanceAs (Aggregate Summary)
  | .histogram => inferInstanceAs (Aggregate Distribution)

end Strategy

def bracketed (entries : List String) : String := "[" ++ ", ".intercalate entries ++ "]"

/-- The description of the warm-up counters. -/
def warmupDescription {α : Type} (meter : Meter α) : String :=
  "WarmupCounters \x7b counts: " ++ bracketed (meter.warmups.toList.map toString) ++
    ", target: " ++ toString meter.target ++ " \x7d"

/-- The description of everything that a meter of a strategy shows of its inside. -/
def Strategy.description : (strategy : Strategy) → Meter strategy.Cell → String
  | .basic, meter =>
    let column (field : Summary → String) := bracketed (meter.cells.toList.map field)
    "BasicMeasurements \x7b count: " ++ column (toString ·.count) ++
      ", latency_sum: " ++ column (toString ·.total) ++
      ", latency_min: " ++ column (toString ·.least) ++
      ", latency_max: " ++ column (toString ·.greatest) ++
      ", warmup: " ++ warmupDescription meter ++ " \x7d"
  | .histogram, meter =>
    "HistogramMeasurements \x7b warmup: " ++ warmupDescription meter ++ ", .. \x7d"

end StoreBench.Latency
