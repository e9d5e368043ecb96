import StoreBench.Phase.Run

/-!
Contract: phases whose workload and stores follow a script.

Iteration after iteration, every worker takes the lines of the script in turn.  A line says
which calls to make, how long each takes on the worker's own clock, and what it answers.

Owns:
- `Script`, its workload and its stores;
- the environment in which a script is run.
-/

namespace StoreBench.Phase

/-- What an iteration does. -/
structure Line where
  /-- What a transaction calls; loading always inserts. -/
  operation : Operation
  /-- The nanoseconds that a call takes. -/
  cost : UInt64
  outcome : Except Failure Status

/-- An iteration that ends before any call. -/
structure Upset where
  worker : Nat
  iteration : Nat
  stop : Stop

/-- What happens in a phase. -/
structure Script where
  lines : List Line
  callsPerStep : Nat
  upsets : List Upset
  /-- The workers whose stores cannot be opened. -/
  failingInits : List Nat
  /-- The workers whose stores cannot be closed. -/
  failingCleanups : List Nat
  /-- The first worker whose store cannot be built, if there is one. -/
  failingBuild : Option Nat

/-- How far the workers of a script are. -/
structure Progress where
  /-- The number of iterations that each worker has begun. -/
  iterations : List Nat
  loads : Nat
  /-- The number of transactions of the warm-up. -/
  warmups : Nat
  /-- The number of transactions behind it. -/
  transactions : Nat

/-- The store of a worker of a script. -/
structure ScriptedStore where
  clock : UInt64
  calls : Nat
  deriving DecidableEq, Repr

/-- A call of an operation, on nothing in particular. -/
def bareCall : Operation → Store.Call
  | .read => .read "" "" none
  | .scan => .scan "" "" 1 none
  | .update => .update "" "" []
  | .insert => .insert "" "" []
  | .delete => .delete "" ""

namespace Progress

/-- Nobody has begun. -/
def opening (workers : Nat) : Progress := ⟨List.replicate workers 0, 0, 0, 0⟩

/-- A worker begins an iteration. -/
def begin (progress : Progress) (worker : Nat) (step : Mix.Step) : Progress :=
  let progress := { progress with iterations := progress.iterations.modify worker (· + 1) }
  match step with
  | .load => { progress with loads := progress.loads + 1 }
  | .transaction true => { progress with warmups := progress.warmups + 1 }
  | .transaction false => { progress with transactions := progress.transactions + 1 }

end Progress

namespace Script

def line? (script : Script) (iteration : Nat) : Option Line :=
  script.lines[iteration % script.lines.length]?

def planOf (script : Script) (worker iteration : Nat) (step : Mix.Step) : Mix.Plan :=
  match script.upsets.find? fun upset => upset.worker = worker ∧ upset.iteration = iteration with
  | some upset => .stop upset.stop
  | none =>
    match script.line? iteration with
    | none => .tasks []
    | some line =>
      let operation := if step = .load then .insert else line.operation
      .tasks (List.replicate script.callsPerStep ⟨bareCall operation, none⟩)

/-- A step fails with its first call that fails. -/
def workload (script : Script) : Mix.Workload Progress :=
  .strict (fun worker step _ progress =>
    (script.planOf worker (progress.iterations.getD worker 0) step, progress.begin worker step))
    fun _ _ progress => progress

/-- The stores of a script, which fail to open or to close with the number of the worker. -/
def clients (script : Script) : Store.Clients (List ScriptedStore) where
  init := fun worker stores =>
    (if script.failingInits.contains worker then .error (.store (.custom s!"init {worker}"))
      else .ok (), stores)
  cleanup := fun worker stores =>
    (if script.failingCleanups.contains worker then .error (.store (.custom s!"cleanup {worker}"))
      else .ok (), stores)
  call := fun worker _ stores =>
    let made := (stores[worker]?.map (·.calls)).getD 0
    match script.line? (made / script.callsPerStep) with
    | none => (.bare .ok, stores)
    | some line =>
      (⟨line.outcome, [], []⟩,
        stores.modify worker fun store => ⟨store.clock + line.cost, store.calls + 1⟩)

/-- The surroundings of a script, in which nothing is random. -/
def environment (script : Script) : Environment Progress (List ScriptedStore) where
  build := fun worker stores =>
    if script.failingBuild = some worker then .error (.config (.custom s!"no backend {worker}"))
    else .ok (stores ++ [⟨0, 0⟩])
  clock := fun worker stores => (stores[worker]?.map (·.clock)).getD 0
  choices := fun _ _ _ => ⟨0, fun _ => 0⟩
  callsPerStep := script.callsPerStep

/-- How many stores are built for `workers` workers. -/
def built (script : Script) (workers : Nat) : Nat :=
  match script.failingBuild with
  | some first => min first workers
  | none => workers

/-- Runs a phase of a configuration by the script. -/
def runPhase {α : Type} [Latency.Aggregate α] (script : Script) (config : Config) (kind : Kind)
    (exits : Bool) (meter : Latency.Meter α) : Aftermath α Progress (List ScriptedStore) :=
  let setting := settingOf config kind exits script.workload script.clients
  Phase.runPhase script.environment setting [] (Progress.opening setting.workers) meter

end Script

end StoreBench.Phase
