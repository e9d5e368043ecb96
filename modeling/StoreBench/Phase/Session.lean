import StoreBench.Mix.Randomness
import StoreBench.Mix.Transactions
import StoreBench.Phase.Run

/-!
Contract: one phase after the other, on one store in memory.

The session holds a lease of the store from its beginning to its end, so that the rows of one
phase are there in the next.

Owns: `Session`, its beginning, its phases and its end.
-/

namespace StoreBench.Phase

/-- What lasts from one phase to the next. -/
structure Session (α : Type) where
  shared : Store.SharedMemory
  work : Mix.Transactions
  meter : Latency.Meter α

/-- The surroundings of a session: each worker has its own client, choices follow from a seed, and
the clock stands still. -/
def memoryEnvironment (seed : UInt64) (options : Store.Options) :
    Environment Mix.Transactions Store.MemoryWorld where
  build := fun _ world => do
    let client ← options.client
    return { world with clients := world.clients ++ [client] }
  clock := fun _ _ => 0
  choices := fun worker iteration work =>
    Mix.choicesOf (seed + worker.toUInt64) iteration.toUInt64 work.weights
  callsPerStep := 1

namespace Session

variable {α : Type} [Latency.Aggregate α]

/-- A session that has acquired the store. -/
def opening (work : Mix.Transactions) : Session α :=
  let (_, shared) := Store.SharedMemory.closed.acquire Store.alwaysOpens
  ⟨shared, work, Latency.Meter.empty⟩

/-- Runs a phase from a fresh meter: what it answers, or none if its failure ended the program,
and the failure that did. -/
def runPhase (seed : UInt64) (config : Config) (exits : Bool) (kind : Kind) (session : Session α) :
    Option (Except Failure Report) × Option Failure × Session α :=
  let setting := settingOf config kind exits Mix.Transactions.workload Store.MemoryWorld.backend
  let after := Phase.runPhase (memoryEnvironment seed config.store) setting
    ⟨session.shared, []⟩ session.work session.meter.reset
  (after.answer, after.exit, ⟨after.world.shared, after.work, after.meter⟩)

def rows (session : Session α) (table : String) : Nat :=
  match session.shared.lease.handle with
  | some opening => ((session.shared.tables opening).rows table).size
  | none => 0

def close (session : Session α) : Except Failure Unit × Session α :=
  let (result, shared) := session.shared.release
  (result, { session with shared })

end Session

end StoreBench.Phase
