import StoreBench.Json.Printer
import StoreBench.Phase.Run

/-!
Contract: the account of finished phases that a benchmark ends with.

Owns:
- `Finished`, a report with the last status message;
- the account for readers, and the account for other programs.
-/

namespace StoreBench.Phase

/-- A phase that answered a report. -/
structure Finished where
  report : Report
  /-- The status message at its end. -/
  status : String

/-- The name at the beginning of a line. -/
def Kind.title : Kind → String
  | .load => "Load"
  | .run => "Run"

namespace Finished

/-- The account of a phase for readers: the seconds it took, its operations, its throughput, and
the status message. -/
def text (phase : Finished) : String :=
  let report := phase.report
  let line (label shown : String) : String := report.kind.title ++ " " ++ label ++ ": " ++ shown
  "\n".intercalate [
    line "runtime(sec)" (Decimal.fixed 3 (secondsOf report.elapsed)),
    line "operations(ops)" (toString report.measured),
    line "throughput(ops/sec)" (Decimal.fixed 2 report.throughput),
    phase.status]

/-- A double as a number; nothing stands for what is not finite. -/
def double (value : Float) : Json := .number (Decimal.Layout.json.text value)

def snapshotJson (snapshot : Latency.Snapshot) : Json :=
  .fields [
    ("operation", .text snapshot.slot.name),
    ("count", .nat snapshot.count),
    ("min_ns", .word snapshot.least),
    ("max_ns", .word snapshot.greatest),
    ("mean_ns", double snapshot.mean),
    ("percentiles", .list (snapshot.percentiles.map fun (percentile, latency) =>
      .list [double percentile, .word latency]))]

/-- The account of a phase for other programs. -/
def json (phase : Finished) : Json :=
  let report := phase.report
  .fields [
    ("phase", .text report.kind.name),
    ("threads", .nat report.workers),
    ("operations", .word report.operations),
    ("measured_operations", .word report.measured),
    ("elapsed_secs", double (secondsOf report.elapsed)),
    ("throughput", double report.throughput),
    ("latencies", .list (report.latencies.map snapshotJson)),
    ("status", .text phase.status)]

def account (asJson : Bool) (phases : List Finished) : String :=
  if asJson then Json.pretty (.list (phases.map json))
  else "\n".intercalate (phases.map text)

end Finished

end StoreBench.Phase
