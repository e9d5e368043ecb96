import StoreBench.Latency.Clock
import StoreBench.Mix.Workload
import StoreBench.Phase.Kind
import StoreBench.Phase.Timed
import StoreBench.Sync.Gate

/-!
Contract: the workers of a phase, step by step.

Owns:
- `Setting`, what is fixed for a phase;
- `Worker` and `Place`, where a worker stands;
- `Shared`, what the workers of a phase have in common;
- `Worker.advance?`, the next step of a worker.

Does not own: the thread that starts the workers and collects their results, which is in
`Phase.System`.
-/

namespace StoreBench.Phase

open Latency

/-- What is fixed for a phase. -/
structure Setting (ω σ : Type) where
  kind : Kind
  operations : List UInt64
  /-- How many of them each worker makes before it arrives at the gate; without any there is no
  gate. -/
  warmup : UInt64
  workload : Mix.Workload ω
  clients : Store.Clients σ
  /-- Whether status lines are written. -/
  reports : Bool
  /-- Whether a failure ends the program. -/
  exits : Bool

namespace Setting

variable {ω σ : Type}

def workers (setting : Setting ω σ) : Nat := setting.operations.length

/-- Whether the workers meet at a gate. -/
def hasGate (setting : Setting ω σ) : Bool := 0 < setting.warmup

/-- The warm-up of all workers. -/
def warmupTotal (setting : Setting ω σ) : UInt64 := setting.warmup * setting.workers.toUInt64

/-- What an iteration asks of the workload. -/
def stepOf (setting : Setting ω σ) (iteration : Nat) : Mix.Step :=
  match setting.kind with
  | .load => .load
  | .run => .transaction (iteration < setting.warmup.toNat)

end Setting

/-- How far a data call is. -/
inductive CallStage
  /-- The clock is about to be read. -/
  | calling
  /-- The call is about to be made. -/
  | underway (before : UInt64)
  /-- The clock is about to be read again. -/
  | returned (before : UInt64) (status : Status)
  /-- A number is about to be claimed. -/
  | timed (status : Status) (elapsed : UInt64)
  /-- The call is about to be filed. -/
  | filing (status : Status) (elapsed : UInt64) (warmup : Bool)
  /-- The workload is about to take note of the status. -/
  | settling (status : Status)
  /-- The call is over, and the workload is about to take note of its failure. -/
  | failed (fault : Failure)
  deriving DecidableEq, Repr

/-- Where a worker stands. -/
inductive Place
  /-- It is about to open its store. -/
  | opening
  /-- It is between two iterations. -/
  | looping
  /-- It is about to count down at the gate. -/
  | arriving
  /-- It waits at the gate. -/
  | waiting
  /-- It is about to claim the right to start the measurement. -/
  | claiming
  /-- It has won that right and is about to start the measurement. -/
  | starting
  /-- It is about to wait for the rate limiter. -/
  | throttling
  /-- It is about to ask the workload what to do. -/
  | planning
  /-- It makes a call, with further calls to follow unless the workload changes its mind. -/
  | serving (task : Mix.Task) (later : List Mix.Task) (stage : CallStage)
  /-- It is about to close its store. -/
  | closing
  /-- It is about to give up its place at the gate, if it still has it. -/
  | leavingGate
  /-- It is about to count down the completion latch. -/
  | leaving
  /-- It is about to end the program. -/
  | exiting
  | ended
  deriving DecidableEq, Repr

structure Worker where
  place : Place
  /-- The number of iterations it has completed. -/
  iteration : Nat
  /-- Whether it has a place at the gate that is not used yet. -/
  hasPlace : Bool
  /-- How its routine ended, once it has. -/
  outcome : Option (Except Stop UInt64)
  /-- What its latest call appended. -/
  results : Store.Results

/-- What the workers of a phase have in common. -/
structure Shared (α ω σ : Type) where
  /-- The stores and their surroundings. -/
  world : σ
  work : ω
  tracker : Tracker
  meter : Meter α
  gate : Sync.WarmupGate
  /-- Counts the workers that have not left. -/
  done : Sync.Latch
  /-- Started when measurement begins. -/
  stopwatch : Stopwatch
  /-- The failure that ended the program, if one did. -/
  exit : Option Failure

/-- What the outside world decides for one step: the reading of the clock and the random
choices. -/
structure Fate where
  now : UInt64
  choices : Mix.Choices

namespace Worker

variable {α ω σ : Type} [Aggregate α]

/-- A worker that has not begun. -/
def fresh (hasPlace : Bool) : Worker := ⟨.opening, 0, hasPlace, none, .none⟩

def goTo (worker : Worker) (place : Place) : Worker := { worker with place }

def finish (worker : Worker) (outcome : Except Stop UInt64) : Worker :=
  { worker with place := .leavingGate, outcome := some outcome }

def stop (worker : Worker) (reason : Stop) : Worker := worker.finish (.error reason)

/-- A worker whose call was answered. -/
def hear (worker : Worker) (reply : Store.Reply) : Worker :=
  { worker with results := reply.results }

/-- A worker that goes on with its next call, or with its next iteration. -/
def proceed (worker : Worker) : List Mix.Task → Worker
  | task :: later => worker.goTo (.serving task later .calling)
  | [] => { worker with place := .looping, iteration := worker.iteration + 1 }

/-- Where a worker of `operations` operations goes between two iterations: to the gate when its
warm-up is over and also when its operations are, otherwise on with its operations. -/
def nextPlace (setting : Setting ω σ) (operations : UInt64) (worker : Worker) : Place :=
  if worker.iteration < operations.toNat then
    if worker.hasPlace ∧ worker.iteration = setting.warmup.toNat then .arriving else .throttling
  else if worker.hasPlace then .arriving
  else .closing

/-- What the workload makes of the outcome of a call: the step goes on, or the worker stops. -/
def settle (setting : Setting ω σ) (index : Nat) (task : Mix.Task) (later : List Mix.Task)
    (outcome : Except Failure Status) (worker : Worker) (shared : Shared α ω σ) :
    Worker × Shared α ω σ :=
  match setting.workload.settle index task later (worker.results.reply outcome) shared.work with
  | (.stop reason, work) => (worker.stop reason, { shared with work })
  | (.tasks tasks, work) => (worker.proceed tasks, { shared with work })

/-- The next step of a data call.  A call that fails claims no number and is not filed. -/
def serve (setting : Setting ω σ) (index : Nat) (fate : Fate) (task : Mix.Task)
    (later : List Mix.Task) (stage : CallStage) (worker : Worker) (shared : Shared α ω σ) :
    Worker × Shared α ω σ :=
  let stand := fun (worker : Worker) stage => worker.goTo (.serving task later stage)
  match stage with
  | .calling => (stand worker (.underway fate.now), shared)
  | .underway before =>
    let (reply, world) := setting.clients.call index task.call shared.world
    match reply.outcome with
    | .error fault => (stand (worker.hear reply) (.failed fault), { shared with world })
    | .ok status => (stand (worker.hear reply) (.returned before status), { shared with world })
  | .returned before status =>
    (stand worker (.timed status (elapsedBetween before fate.now)), shared)
  | .timed status elapsed =>
    let (warmup, tracker) := shared.tracker.claim
    (stand worker (.filing status elapsed warmup), { shared with tracker })
  | .filing status elapsed warmup =>
    let meter := file warmup (task.call.operation.slot status) elapsed shared.meter
    (stand worker (.settling status), { shared with meter })
  | .settling status => settle setting index task later (.ok status) worker shared
  | .failed fault => settle setting index task later (.error fault) worker shared

/-- The next step of worker number `index`, if it can make one. -/
def advance? (setting : Setting ω σ) (index : Nat) (fate : Fate) (worker : Worker)
    (shared : Shared α ω σ) : Option (Worker × Shared α ω σ) :=
  let operations := setting.operations.getD index 0
  match worker.place with
  | .opening =>
    match setting.clients.init index shared.world with
    | (.ok (), world) => some (worker.goTo .looping, { shared with world })
    | (.error fault, world) => some (worker.stop (.failed fault), { shared with world })
  | .looping => some (worker.goTo (worker.nextPlace setting operations), shared)
  | .arriving =>
    some ({ worker with place := .waiting, hasPlace := false },
      { shared with gate := shared.gate.countDown })
  | .waiting => if shared.gate.isOpen then some (worker.goTo .claiming, shared) else none
  | .claiming =>
    let (won, gate) := shared.gate.claim
    some (worker.goTo (if won then .starting else .looping), { shared with gate })
  | .starting =>
    some (worker.goTo .looping,
      { shared with
        gate := shared.gate.start, stopwatch := shared.stopwatch.start fate.now })
  | .throttling => some (worker.goTo .planning, shared)
  | .planning =>
    let step := setting.stepOf worker.iteration
    match setting.workload.plan index step fate.choices shared.work with
    | (.stop reason, work) => some (worker.stop reason, { shared with work })
    | (.tasks tasks, work) => some (worker.proceed tasks, { shared with work })
  | .serving task later stage =>
    some (serve setting index fate task later stage worker shared)
  | .closing =>
    match setting.clients.cleanup index shared.world with
    | (.ok (), world) => some (worker.finish (.ok operations), { shared with world })
    | (.error fault, world) => some (worker.stop (.failed fault), { shared with world })
  | .leavingGate =>
    if worker.hasPlace then
      some ({ worker with place := .leaving, hasPlace := false },
        { shared with gate := shared.gate.countDown })
    else some (worker.goTo .leaving, shared)
  | .leaving =>
    let fails := match worker.outcome with
      | some (.error (.failed _)) => true
      | _ => false
    some (worker.goTo (if setting.exits && fails then .exiting else .ended),
      { shared with done := shared.done.countDown })
  | .exiting =>
    match worker.outcome with
    | some (.error (.failed fault)) =>
      some (worker.goTo .ended, { shared with exit := some (fault.inWorker index) })
    | _ => some (worker.goTo .ended, shared)
  | .ended => none

end Worker

end StoreBench.Phase
