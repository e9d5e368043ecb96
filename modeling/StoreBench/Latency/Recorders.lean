import StoreBench.Interleaving
import StoreBench.Latency.ConcurrentReports
import StoreBench.Latency.Strategy

/-!
Contract: threads that make reports and warm-up calls to one meter at the same time.

A thread makes its calls one after the other.  The histogram takes a latency in under the lock
of its slot, so that no other thread sees a part of it.  Without a lock a report goes on in the
atomic steps of `Latency.ConcurrentReports`, and every other thread may act between two of them.
A warm-up call is a single step in either case.

Owns: the threads, what they do next, and the system of all threads.
-/

namespace StoreBench.Latency

/-- A thread that makes calls. -/
structure Recorder where
  /-- The report that it is in the midst of. -/
  current : Option Report
  /-- The calls that it has not begun. -/
  later : List Event
  deriving DecidableEq, Repr

/-- A meter and the threads that share it. -/
structure RecordingState (strategy : Strategy) where
  meter : Meter strategy.Cell
  recorders : List Recorder

/-- One step of one thread. -/
structure RecordingMove where
  recorder : Nat
  /-- Whether an exchange fails although the expected value is there. -/
  spurious : Bool
  deriving DecidableEq, Repr

namespace Strategy

/-- What becomes of the meter when a call begins, and the report that is then under way. -/
def commence : (strategy : Strategy) → Event → Meter strategy.Cell →
    Meter strategy.Cell × Option Report
  | .basic, .measured slot latency, meter => (meter, some ⟨slot, latency, .counting⟩)
  | .basic, event, meter => (meter.apply event, none)
  | .histogram, event, meter => (meter.apply event, none)

/-- What becomes of the meter in the next step of a report, and what is left of the report. -/
def resume : (strategy : Strategy) → Bool → Report → Meter strategy.Cell →
    Option (Meter strategy.Cell × Option Report)
  | .basic, spurious, report, meter =>
    let meter : Meter Summary := meter
    (report.advance? spurious (meter.cells.get report.slot)).map fun (cell, stage) =>
      ({ meter with cells := meter.cells.modify report.slot fun _ => cell },
        if stage = .done then none else some { report with stage })
  | .histogram, _, _, _ => none

end Strategy

namespace RecordingState

variable {strategy : Strategy}

/-- Threads that have not begun. -/
def opening (meter : Meter strategy.Cell) (threads : List (List Event)) :
    RecordingState strategy :=
  ⟨meter, threads.map (⟨none, ·⟩)⟩

def step (move : RecordingMove) (state : RecordingState strategy) :
    Option (RecordingState strategy) :=
  match state.recorders[move.recorder]? with
  | some ⟨some report, later⟩ =>
    (strategy.resume move.spurious report state.meter).map fun (meter, current) =>
      ⟨meter, state.recorders.set move.recorder ⟨current, later⟩⟩
  | some ⟨none, event :: later⟩ =>
    let (meter, current) := strategy.commence event state.meter
    some ⟨meter, state.recorders.set move.recorder ⟨current, later⟩⟩
  | _ => none

def isQuiet (state : RecordingState strategy) : Bool :=
  state.recorders.all fun recorder => recorder.current.isNone && recorder.later.isEmpty

end RecordingState

end StoreBench.Latency
