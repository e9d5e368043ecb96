import StoreBench.Interleaving
import StoreBench.Latency.Meter
import StoreBench.Latency.Summary

/-!
Contract: reports that run into one meter at the same time without a lock.

A report adds to the count, adds to the sum, and then improves the least and the greatest
latency.  An improvement reads the current extreme and exchanges it for its own latency only
if it still is what was read; otherwise, or if the exchange fails for no reason, it tries
again with what it then finds.

Owns:
- the stages of one report and the move from each to the next;
- the system of all reports.

Does not own: threads that have more to do than one report.
-/

namespace StoreBench.Latency

/-- Where a report stands. -/
inductive ReportStage
  | counting
  | summing
  | readingLeast
  /-- The least latency read last is `seen`. -/
  | lowering (seen : UInt64)
  | readingGreatest
  /-- The greatest latency read last is `seen`. -/
  | raising (seen : UInt64)
  | done
  deriving DecidableEq, Repr

/-- A report on its way. -/
structure Report where
  slot : Slot
  latency : UInt64
  stage : ReportStage
  deriving DecidableEq, Repr

/-- The slots and the reports into them. -/
structure ReportState where
  cells : PerSlot Summary
  reports : List Report

/-- One atomic step of one report. -/
structure ReportMove where
  report : Nat
  /-- Whether an exchange fails although the expected value is there. -/
  spurious : Bool
  deriving DecidableEq, Repr

/-- The slot and the stage after a report's next atomic step, if there is one. -/
def Report.advance? (report : Report) (spurious : Bool) (cell : Summary) :
    Option (Summary × ReportStage) :=
  match report.stage with
  | .counting => some ({ cell with count := cell.count + 1 }, .summing)
  | .summing => some ({ cell with total := cell.total + report.latency }, .readingLeast)
  | .readingLeast => some (cell, .lowering cell.least)
  | .lowering seen =>
    if report.latency < seen then
      if cell.least = seen ∧ !spurious then
        some ({ cell with least := report.latency }, .readingGreatest)
      else some (cell, .lowering cell.least)
    else some (cell, .readingGreatest)
  | .readingGreatest => some (cell, .raising cell.greatest)
  | .raising seen =>
    if seen < report.latency then
      if cell.greatest = seen ∧ !spurious then
        some ({ cell with greatest := report.latency }, .done)
      else some (cell, .raising cell.greatest)
    else some (cell, .done)
  | .done => none

namespace ReportState

/-- Reports that have not begun. -/
def opening (cells : PerSlot Summary) (calls : List (Slot × UInt64)) : ReportState :=
  ⟨cells, calls.map fun (slot, latency) => ⟨slot, latency, .counting⟩⟩

def step (move : ReportMove) (state : ReportState) : Option ReportState := do
  let report ← state.reports[move.report]?
  let (cell, stage) ← report.advance? move.spurious (state.cells.get report.slot)
  some {
    cells := state.cells.modify report.slot fun _ => cell
    reports := state.reports.set move.report { report with stage } }

def isQuiet (state : ReportState) : Bool := state.reports.all (·.stage == .done)

end ReportState

end StoreBench.Latency
