import StoreBench.Latency.Meter
import StoreBench.Store.Client

/-!
Contract: data calls that are timed and filed.

The clock is read before and after the call.  A call that answers a status claims the next
number of the phase; the first numbers are the warm-up, whose latencies are not kept.  A call
that fails claims no number and is not filed.

Owns:
- `Tracker`, which gives out the numbers;
- the elapsed time and the filing of a call;
- `Timed`, a store with a meter around it, and its calls.

Does not own: a call during which others move, which `Worker.advance?` makes in steps; that the
steps come to `Timed.call` if nobody does is proved in `Proofs.Phase.UndisturbedSteps`.
-/

namespace StoreBench.Phase

open Latency

/-- Gives out the numbers of the calls of a phase. -/
structure Tracker where
  /-- How many numbers were given out; no phase gives out more than fit in a word
  (`tracker_calls_lt`). -/
  calls : Nat
  /-- How many of them are warm-up. -/
  target : UInt64
  deriving DecidableEq, Repr

namespace Tracker

/-- A tracker that has given out no number. -/
def fresh (target : UInt64) : Tracker := ⟨0, target⟩

/-- Claims a number: whether it is warm-up.  Without a warm-up no numbers are given out. -/
def claim (tracker : Tracker) : Bool × Tracker :=
  if 0 < tracker.target then
    (tracker.calls < tracker.target.toNat, { tracker with calls := tracker.calls + 1 })
  else (false, tracker)

end Tracker

/-- The time between two readings; none if the second is the lesser. -/
def elapsedBetween (before after : UInt64) : UInt64 :=
  if before ≤ after then after - before else 0

variable {α σ : Type} [Aggregate α]

def file (warmup : Bool) (slot : Slot) (elapsed : UInt64) (meter : Meter α) : Meter α :=
  if warmup then meter.recordWarmup slot else meter.record slot elapsed

/-- A store with the meter that its calls are filed in. -/
structure Timed (α σ : Type) where
  world : σ
  tracker : Tracker
  meter : Meter α

/-- A data call, timed and filed.  `clock` reads the time off the store's surroundings. -/
def Timed.call (clients : Store.Clients σ) (clock : σ → UInt64) (client : Nat)
    (call : Store.Call) (timed : Timed α σ) : Store.Reply × Timed α σ :=
  let before := clock timed.world
  let (reply, world) := clients.call client call timed.world
  match reply.outcome with
  | .error _ => (reply, { timed with world })
  | .ok status =>
    let elapsed := elapsedBetween before (clock world)
    let (warmup, tracker) := timed.tracker.claim
    let meter := file warmup (call.operation.slot status) elapsed timed.meter
    (reply, { world, tracker, meter })

end StoreBench.Phase
