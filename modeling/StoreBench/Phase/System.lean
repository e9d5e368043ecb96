import StoreBench.Interleaving
import StoreBench.Phase.Worker

/-!
Contract: a phase as a system of threads.

A coordinator starts the workers one after the other.  If one cannot be started, the
coordinator stands in for it and all later ones: it counts down for them at the completion
latch and at the gate.  Then it joins the workers in order, stops the time, and joins the
thread that writes status lines.  That thread rests until the completion latch opens or its
interval is over, writes a line, and ends with the line that it writes once the latch is
open.

Owns:
- `State` and the moves of a phase;
- `step`, which every interleaving is a sequence of.

Does not own: a scheduler and the report of a phase, which are in `Phase.Run`.
-/

namespace StoreBench.Phase

open Latency

/-- Where the thread that writes status lines stands. -/
inductive ReporterPlace
  /-- It waits for the completion latch. -/
  | resting
  /-- It is about to write a line, which is the last one if the latch was open. -/
  | writing (last : Bool)
  | ended
  deriving DecidableEq, Repr

/-- The thread that writes status lines. -/
structure Reporter (α : Type) where
  place : ReporterPlace
  /-- The number of its waits that found the latch closed. -/
  timeouts : Nat
  lines : Nat
  /-- The meter that the latest line was made from. -/
  shown : Option (Meter α)

/-- A phase under way. -/
structure State (α ω σ : Type) where
  workers : List Worker
  shared : Shared α ω σ
  reporter : Reporter α
  /-- How many workers were started. -/
  spawned : Nat
  /-- Why a worker could not be started, if so. -/
  spawnFault : Option Failure
  /-- How many workers were joined. -/
  joined : Nat
  /-- The time on the stopwatch after the last worker was joined. -/
  elapsed : Option UInt64
  /-- Whether the coordinator is done. -/
  returned : Bool

/-- What can happen next. -/
inductive Move
  /-- A worker makes a step. -/
  | worker (index : Nat) (fate : Fate)
  /-- The coordinator starts the next worker, or fails to. -/
  | spawn (fault : Option Failure)
  | join
  /-- The coordinator stops the time. -/
  | stopTime (now : UInt64)
  /-- The coordinator joins the reporter, if there is one. -/
  | conclude
  /-- The reporter's wait is over. -/
  | rouse
  | write

namespace State

variable {α ω σ : Type} [Aggregate α]

/-- A phase about to begin. -/
def opening (setting : Setting ω σ) (world : σ) (work : ω) (meter : Meter α) (now : UInt64) :
    State α ω σ where
  workers := setting.operations.map fun _ => Worker.fresh setting.hasGate
  shared := {
    world, work, meter
    tracker := Tracker.fresh setting.warmupTotal
    gate := Sync.WarmupGate.closed (if setting.hasGate then setting.workers else 0) setting.warmup
    done := ⟨setting.workers⟩
    stopwatch := if setting.hasGate then Stopwatch.fresh else Stopwatch.fresh.start now
    exit := none }
  reporter := ⟨if setting.reports then .resting else .ended, 0, 0, none⟩
  spawned := 0
  spawnFault := none
  joined := 0
  elapsed := none
  returned := false

omit [Aggregate α] in
/-- Whether the coordinator has nothing left to start. -/
def isStarted (state : State α ω σ) : Bool :=
  state.spawnFault.isSome || state.spawned == state.workers.length

omit [Aggregate α] in
def hasEnded (state : State α ω σ) (index : Nat) : Bool :=
  state.workers[index]?.any (·.place == .ended)

omit [Aggregate α] in
/-- Counts down, at the completion latch and at the gate, for the workers that are not started. -/
def standIn (state : State α ω σ) (fault : Failure) : State α ω σ :=
  let missing := state.workers.length - state.spawned
  let gate := state.shared.gate
  { state with
    spawnFault := some fault
    shared := { state.shared with
      done := state.shared.done.countDownTimes missing
      gate := { gate with arrivals := gate.arrivals.countDownTimes missing } } }

/-- One move of a phase, while the program runs. -/
def act (setting : Setting ω σ) (move : Move) (state : State α ω σ) : Option (State α ω σ) :=
  match move with
  | .worker index fate => do
    guard (index < state.spawned)
    let worker ← state.workers[index]?
    let (worker, shared) ← worker.advance? setting index fate state.shared
    some { state with workers := state.workers.set index worker, shared }
  | .spawn fault =>
    if state.isStarted then none
    else
      match fault with
      | none => some { state with spawned := state.spawned + 1 }
      | some fault => some (state.standIn fault)
  | .join =>
    if state.isStarted && state.joined < state.spawned && state.hasEnded state.joined then
      some { state with joined := state.joined + 1 }
    else none
  | .stopTime now =>
    if state.isStarted && state.joined == state.spawned && state.elapsed.isNone then
      some { state with elapsed := some (state.shared.stopwatch.elapsed now) }
    else none
  | .conclude =>
    if state.elapsed.isSome && state.reporter.place == .ended && !state.returned then
      some { state with returned := true }
    else none
  | .rouse =>
    if state.reporter.place = .resting then
      let last := state.shared.done.isOpen
      some { state with
        reporter := { state.reporter with
          place := .writing last
          timeouts := state.reporter.timeouts + if last then 0 else 1 } }
    else none
  | .write =>
    match state.reporter.place with
    | .writing last =>
      some { state with
        reporter := { state.reporter with
          place := if last then .ended else .resting
          lines := state.reporter.lines + 1
          shown := some state.shared.meter } }
    | _ => none

/-- One move of a phase; once the program has ended there is none. -/
def step (setting : Setting ω σ) (move : Move) (state : State α ω σ) : Option (State α ω σ) :=
  if state.shared.exit.isSome then none else state.act setting move

end State

end StoreBench.Phase
