import StoreBench.Config.Basic
import StoreBench.Phase.System
import StoreBench.Total

/-!
Contract: the run of a phase and its report.

Owns:
- `Report`, and when a phase answers one;
- `Environment`, what the outside world is like, and the scheduler that lets all threads take
  turns in it;
- `runPhase`, which sets a phase up from a configuration, runs it and reports.
-/

namespace StoreBench.Phase

open Latency

/-- What a phase answers. -/
structure Report where
  kind : Kind
  workers : Nat
  /-- The operations performed, those of the warm-up included. -/
  operations : UInt64
  /-- The operations after the warm-up. -/
  measured : UInt64
  /-- The nanoseconds of the measurement. -/
  elapsed : UInt64
  /-- Measured operations a second. -/
  throughput : Float
  latencies : List Snapshot

/-- Seconds of a number of nanoseconds, as the sum of the whole seconds and the rest. -/
def secondsOf (nanoseconds : UInt64) : Float :=
  (nanoseconds / 1000000000).toFloat + (nanoseconds % 1000000000).toFloat / 1000000000.0

/-- Operations a second; zero for no time. -/
def throughputOf (operations elapsed : UInt64) : Float :=
  let seconds := secondsOf elapsed
  if seconds > 0.0 then operations.toFloat / seconds else 0.0

/-- What the coordinator learns when it joins worker number `index`. -/
def Worker.joined (index : Nat) (worker : Worker) : Except Failure UInt64 :=
  match worker.outcome with
  | some (.ok operations) => .ok operations
  | some (.error (.failed fault)) => .error (fault.inWorker index)
  | some (.error .panicked) => .error (Failure.inWorker index (.store .workerPanicked))
  | none => .error (Failure.inWorker index (.store .workerPanicked))

/-- The sum of the results, or the failure of the first that failed. -/
def sumResults (results : List (Except Failure UInt64)) : Except Failure UInt64 :=
  results.foldlM (fun sum result => result.map (sum + ·)) 0

/-- A difference that stops at zero. -/
def lessWarmup (operations warmup : UInt64) : UInt64 :=
  if warmup ≤ operations then operations - warmup else 0

namespace State

variable {α ω σ : Type} [Aggregate α]

/-- What a phase answers once its coordinator is done: the failure to start a worker, else the
failure of the first worker that failed, else a report. -/
def report? (setting : Setting ω σ) (state : State α ω σ) : Option (Except Failure Report) :=
  if !state.returned then none
  else
    some <|
      match state.spawnFault with
      | some fault => .error fault
      | none => do
        let operations ←
          sumResults ((state.workers.take state.spawned).mapIdx fun index worker =>
            worker.joined index)
        let measured := lessWarmup operations setting.warmupTotal
        let elapsed := state.elapsed.getD 0
        return {
          kind := setting.kind
          workers := setting.workers
          operations, measured, elapsed
          throughput := throughputOf measured elapsed
          latencies := state.shared.meter.snapshots }

end State

/-- What the outside world is like. -/
structure Environment (ω σ : Type) where
  build : Nat → σ → Except Failure σ
  clock : Nat → σ → UInt64
  /-- The random choices of an iteration of a worker. -/
  choices : Nat → Nat → ω → Mix.Choices
  /-- No step of the workload makes more calls than this. -/
  callsPerStep : Nat

namespace Environment

variable {α ω σ : Type} [Aggregate α]

omit [Aggregate α] in
/-- The next move of the coordinator. -/
def coordinate (environment : Environment ω σ) (state : State α ω σ) : Option Move :=
  if !state.isStarted then some (.spawn none)
  else if state.joined < state.spawned then some .join
  else if state.elapsed.isNone then some (.stopTime (environment.clock 0 state.shared.world))
  else some .conclude

omit [Aggregate α] in
/-- The next move of a worker, or of the reporter, which rests until the completion latch is
open. -/
def offer (environment : Environment ω σ) (workers : Nat) (thread : Nat) (state : State α ω σ) :
    Option Move :=
  if thread < workers then
    let iteration := (state.workers[thread]?.map (·.iteration)).getD 0
    some (.worker thread {
      now := environment.clock thread state.shared.world
      choices := environment.choices thread iteration state.shared.work })
  else
    match state.reporter.place with
    | .resting => if state.shared.done.isOpen then some .rouse else none
    | _ => some .write

/-- Enough moves for every worker to end. -/
def patience (environment : Environment ω σ) (setting : Setting ω σ) : Nat :=
  let perIteration := 4 + 6 * environment.callsPerStep
  let iterations := total (setting.operations.map UInt64.toNat) + setting.workers
  iterations * perIteration + 16 * setting.workers + 16

/-- Lets the threads of a phase take turns until none can move; the coordinator moves whenever it
can. -/
def drive (environment : Environment ω σ) (setting : Setting ω σ) (state : State α ω σ) :
    State α ω σ :=
  let step := State.step setting
  let others := roundRobin step (setting.workers + 1) (environment.offer setting.workers)
  (StoreBench.drive step (preferring step environment.coordinate others)
    (environment.patience setting) 0 state).1

end Environment

/-- What is left of a phase. -/
structure Aftermath (α ω σ : Type) where
  /-- The answer; none if a failure ended the program. -/
  answer : Option (Except Failure Report)
  /-- The failure that ended the program. -/
  exit : Option Failure
  world : σ
  work : ω
  meter : Meter α

/-- What a configuration fixes for a phase. -/
def settingOf {ω σ : Type} (config : Config) (kind : Kind) (exits : Bool)
    (workload : Mix.Workload ω) (clients : Store.Clients σ) : Setting ω σ where
  kind := kind
  operations := config.opsPerWorker kind
  warmup := match kind with
    | .load => 0
    | .run => config.warmupPerWorker
  workload := workload
  clients := clients
  reports := config.interval.isSome
  exits := exits

/-- Builds the stores of the workers numbered below `workers`, in order. -/
def buildAll {σ : Type} (build : Nat → σ → Except Failure σ) (workers : Nat) (world : σ) :
    Except Failure σ :=
  (List.range workers).foldlM (fun world worker => build worker world) world

/-- Runs a phase.  The meter expects the warm-up even if a store cannot be built.  A phase whose
operations, one number for each worker, are more than a memory may hold breaks off before anything
else; that is checked for all phases at once by `CommandLine.benchmark`, with `Config.isFeasible`,
and a phase given here has a setting that can be held. -/
def runPhase {α ω σ : Type} [Aggregate α] (environment : Environment ω σ)
    (setting : Setting ω σ) (world : σ) (work : ω) (meter : Meter α) : Aftermath α ω σ :=
  let meter := meter.setTarget setting.warmupTotal
  match buildAll environment.build setting.workers world with
  | .error fault => { answer := some (.error fault), exit := none, world, work, meter }
  | .ok world =>
    let start := State.opening setting world work meter (environment.clock 0 world)
    let final := environment.drive setting start
    { answer := final.report? setting
      exit := final.shared.exit
      world := final.shared.world
      work := final.shared.work
      meter := final.shared.meter }

end StoreBench.Phase
