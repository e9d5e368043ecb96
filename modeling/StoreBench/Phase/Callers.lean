import StoreBench.Interleaving
import StoreBench.Phase.Timed

/-!
Contract: callers that make timed calls at the same time.

A caller makes one call after the other, each through the client that it likes.  All callers share
the tracker and the meter, and their steps interleave: others may move on between the reading of
the clock and the call, between the call and the claim of its number, and between the claim and the
filing.

Owns:
- `Caller`, how far a caller is with its call, and its next step;
- `Callers` and their moves.

Does not own: the call of a single caller from beginning to end, which is `Timed.call`; that the
moves come to it if nobody interrupts them is proved in `Proofs.Phase.CallerHistories`.
-/

namespace StoreBench.Phase

open Latency

/-- A data call through a client. -/
structure Request where
  client : Nat
  call : Store.Call
  deriving DecidableEq, Repr

/-- A data call that was answered with a status. -/
structure Answer where
  request : Request
  status : Status
  fields : Store.Row
  rows : List Store.Row
  deriving DecidableEq, Repr

namespace Answer

def reply (answer : Answer) : Store.Reply := ⟨.ok answer.status, answer.fields, answer.rows⟩

def slot (answer : Answer) : Slot := answer.request.call.operation.slot answer.status

end Answer

/-- An answered call with the readings of the clock before and after it. -/
structure TimedCall extends Answer where
  before : UInt64
  after : UInt64
  deriving DecidableEq, Repr

def TimedCall.elapsed (call : TimedCall) : UInt64 := elapsedBetween call.before call.after

/-- How far a caller is with its call.  One that is not idle is about to make the call, to read the
clock again, to claim a number, or to file the call. -/
inductive Caller
  | idle
  | asking (request : Request) (before : UInt64)
  | answered (answer : Answer) (before : UInt64)
  | timed (call : TimedCall)
  | filing (call : TimedCall) (warmup : Bool)
  deriving DecidableEq, Repr

/-- An idle caller turns to its next call, or a caller goes on with its call; the clock shows
`now`. -/
inductive CallerMove
  | begin (index : Nat) (request : Request) (now : UInt64)
  | proceed (index : Nat) (now : UInt64)
  deriving DecidableEq, Repr

/-- Callers on a store with a meter around it. -/
structure Callers (α σ : Type) where
  timed : Timed α σ
  callers : List Caller

variable {α σ : Type} [Aggregate α]

/-- The next step of a call.  A call that fails is over, and nothing is claimed or filed. -/
def Caller.advance? (clients : Store.Clients σ) (now : UInt64) (timed : Timed α σ) :
    Caller → Option (Caller × Timed α σ)
  | .idle => none
  | .asking request before =>
    let (reply, world) := clients.call request.client request.call timed.world
    match reply.outcome with
    | .error _ => some (.idle, { timed with world })
    | .ok status => some (.answered ⟨request, status, reply.fields, reply.rows⟩ before,
        { timed with world })
  | .answered answer before => some (.timed ⟨answer, before, now⟩, timed)
  | .timed call =>
    let (warmup, tracker) := timed.tracker.claim
    some (.filing call warmup, { timed with tracker })
  | .filing call warmup =>
    some (.idle, { timed with meter := file warmup call.slot call.elapsed timed.meter })

namespace Callers

omit [Aggregate α] in
/-- Callers that have not begun. -/
def opening (world : σ) (target : UInt64) (meter : Meter α) (count : Nat) : Callers α σ :=
  ⟨⟨world, .fresh target, meter⟩, List.replicate count .idle⟩

omit [Aggregate α] in
def isQuiet (state : Callers α σ) : Bool := state.callers.all (· = .idle)

def step (clients : Store.Clients σ) : CallerMove → Callers α σ → Option (Callers α σ)
  | .begin index request now, ⟨timed, callers⟩ =>
    match callers[index]? with
    | some .idle => some ⟨timed, callers.set index (.asking request now)⟩
    | _ => none
  | .proceed index now, ⟨timed, callers⟩ => do
    let caller ← callers[index]?
    let (next, timed) ← caller.advance? clients now timed
    return ⟨timed, callers.set index next⟩

end Callers

end StoreBench.Phase
