import StoreBench.Capacity
import StoreBench.Latency.Strategy
import StoreBench.Mix.Options
import StoreBench.Phase.Kind
import StoreBench.Store.Options

/-!
Contract: the configuration of a benchmark.

Owns:
- `Config`, its defaults and its check;
- the shares of operations and of the warm-up that each worker gets.

Does not own: the text of a configuration, which is in `Config.Text`.
-/

namespace StoreBench

/-- Everything that a benchmark can be told. -/
structure Config where
  threads : UInt64
  measurement : String
  /-- How many operations all workers of the run phase together make before measurement starts. -/
  warmupOps : UInt64
  /-- The most operations a second, if there is a limit. -/
  targetRate : Option UInt64
  /-- Seconds between two status lines; zero for none. -/
  statusInterval : UInt64
  mix : Mix.Options
  store : Store.Options
  deriving BEq, Repr

namespace Config

/-- One worker, basic measurement, no warm-up and no limit. -/
def default : Config where
  threads := 1
  measurement := Latency.Strategy.defaultName
  warmupOps := 0
  targetRate := none
  statusInterval := 10
  mix := .default
  store := .default

instance : Inhabited Config := ⟨default⟩

/-- The measurement strategy; fails if nothing is known of its name. -/
def strategy (config : Config) : Except Failure Latency.Strategy :=
  match Latency.Strategy.ofName? config.measurement with
  | some strategy => .ok strategy
  | none => .error (.config (.unknownMeasurement config.measurement))

/-- The number of workers: at least one. -/
def workers (config : Config) : UInt64 := max config.threads 1

/-- How many operations all workers of a phase make together. -/
def phaseOps (config : Config) : Phase.Kind → UInt64
  | .load => config.mix.recordCount
  | .run => config.mix.operationCount

/-- How many operations every worker of a phase makes at least. -/
def share (config : Config) (kind : Phase.Kind) : UInt64 := config.phaseOps kind / config.workers

/-- How many operations of a phase are left over when every worker has its share. -/
def leftOver (config : Config) (kind : Phase.Kind) : UInt64 :=
  config.phaseOps kind % config.workers

/-- The operations of worker number `index`: its share, and one of those left over for each of the
first workers. -/
def opsOf (config : Config) (kind : Phase.Kind) (index : Nat) : UInt64 :=
  if index < (config.leftOver kind).toNat then config.share kind + 1 else config.share kind

def opsPerWorker (config : Config) (kind : Phase.Kind) : List UInt64 :=
  (List.range config.workers.toNat).map (config.opsOf kind)

/-- The numbers of operations that occur: what the first worker makes, and what the first one makes
that gets none of those left over. -/
def spread (config : Config) (kind : Phase.Kind) : List UInt64 :=
  [config.opsOf kind 0, config.opsOf kind (config.leftOver kind).toNat]

theorem workers_pos (config : Config) : 0 < config.workers.toNat := by
  show 0 < (if config.threads ≤ 1 then (1 : UInt64) else config.threads).toNat
  split
  · decide
  · next several =>
    rw [UInt64.le_iff_toNat_le] at several
    exact Nat.zero_lt_of_lt (Nat.lt_of_not_le several)

theorem leftOver_lt_workers (config : Config) (kind : Phase.Kind) :
    (config.leftOver kind).toNat < config.workers.toNat := by
  rw [leftOver, UInt64.toNat_mod]
  exact Nat.mod_lt _ config.workers_pos

/-- The first workers make one operation more than the others. -/
theorem opsPerWorker_eq (config : Config) (kind : Phase.Kind) :
    config.opsPerWorker kind =
      List.replicate (config.leftOver kind).toNat (config.share kind + 1) ++
        List.replicate (config.workers.toNat - (config.leftOver kind).toNat)
          (config.share kind) := by
  have fewer := config.leftOver_lt_workers kind
  apply List.ext_getElem
  · simp only [opsPerWorker, List.length_map, List.length_range, List.length_append,
      List.length_replicate]
    omega
  · intro index _ _
    simp only [opsPerWorker, opsOf, List.getElem_map, List.getElem_range, List.getElem_append,
      List.length_replicate, List.getElem_replicate]
    split <;> rfl

/-- The first of all workers whose operations have a property is found among those that occur. -/
theorem find?_opsPerWorker (config : Config) (kind : Phase.Kind) (property : UInt64 → Bool) :
    (config.opsPerWorker kind).find? property = (config.spread kind).find? property := by
  have fewer := config.leftOver_lt_workers kind
  have others : config.workers.toNat - (config.leftOver kind).toNat ≠ 0 := by omega
  rw [opsPerWorker_eq, List.find?_append, List.find?_replicate, List.find?_replicate,
    if_neg others]
  simp only [spread, opsOf, Nat.lt_irrefl, if_false, List.find?_cons, List.find?_nil]
  by_cases even : (config.leftOver kind).toNat = 0
  · simp only [even, Nat.lt_irrefl, if_true, if_false, Option.none_or]
    cases property (config.share kind) <;> rfl
  · simp only [even, Nat.pos_of_ne_zero even, if_true, if_false]
    cases property (config.share kind + 1) <;> cases property (config.share kind) <;> rfl

/-- How many operations each worker makes before the end of the warm-up. -/
def warmupPerWorker (config : Config) : UInt64 := config.warmupOps / config.workers

/-- How many operations all workers together make before the end of the warm-up. -/
def warmupTarget (config : Config) : UInt64 := config.warmupPerWorker * config.workers

/-- Seconds between two status lines, if there are any. -/
def interval (config : Config) : Option UInt64 :=
  if 0 < config.statusInterval then some config.statusInterval else none

/-- Whether a memory may hold the operations of each worker, of 8 bytes each. -/
def isFeasible (config : Config) : Bool := canHold config.workers 8

/-- Fails with the first fault of the options one by one: no threads, an unknown strategy, a limit
of zero, bad options of the workload, or an unknown row format. -/
def checkOptions (config : Config) : Except Failure Unit := do
  if config.threads = 0 then throw (.config .noThreads)
  discard config.strategy
  if config.targetRate = some 0 then throw (.config .zeroTarget)
  config.mix.validate
  discard (Store.Format.named config.store.format)

/-- Fails if some worker has nothing left to do after its warm-up. -/
def checkWarmup (config : Config) : Except Failure Unit := do
  let warmup := config.warmupPerWorker
  if let some short := (config.spread .run).find? (· ≤ warmup) then
    throw (.config (.warmupTooLong warmup short))

/-- Fails with the first fault of the configuration.  The warm-up is checked last, if there is one;
this breaks off if the operations of all workers are too many to hold. -/
def validate (config : Config) : Except Stop Unit := do
  config.checkOptions.mapError Stop.failed
  if 0 < config.warmupOps then
    unless config.isFeasible do throw .panicked
    config.checkWarmup.mapError Stop.failed

end Config

end StoreBench
