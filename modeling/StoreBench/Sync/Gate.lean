import StoreBench.Interleaving
import StoreBench.Sync.Latch

/-!
Contract: the rendezvous at the end of the warm-up.

Every party either arrives, and then waits until all parties have arrived or given up their
place, or gives up its place.  Of those that waited one wins the right to start the
measurement; the others go on without waiting for that start.

Owns:
- `WarmupGate` and its atomic steps;
- the system of parties at one gate, and the calls that are made of their steps.
-/

namespace StoreBench.Sync

/-- The gate between warm-up and measurement. -/
structure WarmupGate where
  /-- How many operations each party makes before it arrives. -/
  warmupOps : UInt64
  /-- The parties that have neither arrived nor given up their place. -/
  arrivals : Latch
  /-- Whether some party has won the right to start the measurement. -/
  started : Bool
  /-- How often the measurement was started. -/
  starts : Nat
  deriving DecidableEq, Repr

namespace WarmupGate

/-- A gate that nobody has reached. -/
def closed (parties : Nat) (warmupOps : UInt64) : WarmupGate := ⟨warmupOps, ⟨parties⟩, false, 0⟩

/-- The number of parties that are awaited. -/
def pending (gate : WarmupGate) : Nat := gate.arrivals.count

/-- Takes a party off those that are awaited. -/
def countDown (gate : WarmupGate) : WarmupGate := { gate with arrivals := gate.arrivals.countDown }

/-- Whether nobody is awaited any more. -/
def isOpen (gate : WarmupGate) : Bool := gate.arrivals.isOpen

/-- Claims the right to start the measurement, which the first to ask gets. -/
def claim (gate : WarmupGate) : Bool × WarmupGate := (!gate.started, { gate with started := true })

def start (gate : WarmupGate) : WarmupGate := { gate with starts := gate.starts + 1 }

def description (gate : WarmupGate) : String :=
  s!"WarmupGate \x7b warmup_ops: {gate.warmupOps}, pending: {gate.pending}, " ++
    s!"started: {gate.started} \x7d"

end WarmupGate

/-- Where a party stands. -/
inductive PartyStage
  | arriving
  | waiting
  | claiming
  /-- It has won and is about to start the measurement. -/
  | starting
  /-- It has left the gate, and this is whether it started the measurement. -/
  | passed (won : Bool)
  /-- It is about to give up its place. -/
  | releasing
  | released
  deriving DecidableEq, Repr

/-- The gate and the next stage of a party, if the party can act. -/
def PartyStage.advance? (gate : WarmupGate) : PartyStage → Option (WarmupGate × PartyStage)
  | .arriving => some (gate.countDown, .waiting)
  | .waiting => if gate.isOpen then some (gate, .claiming) else none
  | .claiming =>
    let (won, gate) := gate.claim
    some (gate, if won then .starting else .passed false)
  | .starting => some (gate.start, .passed true)
  | .releasing => some (gate.countDown, .released)
  | .passed _ => none
  | .released => none

/-- A gate and its parties. -/
structure GateState where
  gate : WarmupGate
  parties : List PartyStage
  deriving DecidableEq, Repr

namespace GateState

def step (party : Nat) (state : GateState) : Option GateState := do
  let stage ← state.parties[party]?
  let (gate, stage) ← stage.advance? state.gate
  some { gate, parties := state.parties.set party stage }

/-- Lets the parties take turns until none can act. -/
def run (state : GateState) : GateState :=
  let parties := state.parties.length
  (drive step (roundRobin step parties fun party _ => some party) (5 * parties) 0 state).1

/-- How many parties started the measurement. -/
def winners (state : GateState) : Nat := state.parties.count (.passed true)

end GateState

namespace WarmupGate

def release (gate : WarmupGate) : WarmupGate := (GateState.run ⟨gate, [.releasing]⟩).gate

/-- A number of parties arrive together: how many of them started the measurement, and the
gate after all of them have passed. -/
def arrive (gate : WarmupGate) (parties : Nat) : Nat × WarmupGate :=
  let final := GateState.run ⟨gate, List.replicate parties .arriving⟩
  (final.winners, final.gate)

end WarmupGate

end StoreBench.Sync
