import StoreBench.Interleaving
import StoreBench.Keys.Counter
import StoreBench.Keys.Pool
import StoreBench.Total

/-!
Contract: several clients drawing keys at the same time.

The two steps of a draw are separate moves, so that every other client may act between
them.  Acknowledgments may come at any time.

Owns:
- the system of clients on one pool, and of clients on one counter;
- the answers of a run in which the clients take turns.
-/

namespace StoreBench.Keys

/-- A client that draws keys one after the other. -/
structure Claimant where
  /-- How many draws it still begins. -/
  draws : Nat
  /-- What it has claimed and not yet noted. -/
  pending : Option (Option UInt64)
  deriving DecidableEq, Repr

/-- A pool and its clients. -/
structure ClaimState where
  keys : AcknowledgedPool
  claimants : List Claimant
  /-- The keys that finished draws answered, latest first. -/
  answers : List UInt64
  deriving DecidableEq, Repr

/-- What can happen next to a pool and its clients. -/
inductive ClaimMove
  | claim (client : Nat)
  | note (client : Nat)
  | acknowledge (key : UInt64)
  deriving DecidableEq, Repr

namespace ClaimState

/-- Clients of which client `i` is about to make `draws[i]` draws. -/
def opening (keys : AcknowledgedPool) (draws : List Nat) : ClaimState where
  keys := keys
  claimants := draws.map (⟨·, none⟩)
  answers := []

def step : ClaimMove → ClaimState → Option ClaimState
  | .claim client, state =>
    match state.claimants[client]? with
    | some ⟨draws + 1, none⟩ =>
      let (claimed, pool) := state.keys.pool.claim
      some { state with
        keys := { state.keys with pool }
        claimants := state.claimants.set client ⟨draws, some claimed⟩ }
    | _ => none
  | .note client, state =>
    match state.claimants[client]? with
    | some ⟨draws, some claimed⟩ =>
      some { state with
        keys := { state.keys with pool := state.keys.pool.note claimed }
        claimants := state.claimants.set client ⟨draws, none⟩
        answers := state.keys.pool.answer claimed :: state.answers }
    | _ => none
  | .acknowledge key, state => some { state with keys := state.keys.acknowledge key }

def isQuiet (state : ClaimState) : Bool := state.claimants.all (·.pending.isNone)

/-- The move that a client makes next. -/
def offer (client : Nat) (state : ClaimState) : Option ClaimMove :=
  state.claimants[client]?.map fun claimant =>
    if claimant.pending.isSome then .note client else .claim client

/-- Lets the clients take turns until none has a draw left. -/
def run (state : ClaimState) : ClaimState :=
  let moves := total (state.claimants.map fun claimant => 2 * claimant.draws + 1)
  (drive step (roundRobin step state.claimants.length offer) moves 0 state).1

end ClaimState

/-- The keys that `count` draws from a counter answer; a draw from a counter is one move, so
no interleaving shows. -/
def Counter.draws : Nat → Counter → List UInt64
  | 0, _ => []
  | count + 1, counter => counter.next.1 :: draws count counter.next.2

/-- A counter and its clients. -/
structure CounterState where
  counter : Counter
  /-- How many draws each client still makes. -/
  clients : List Nat
  /-- The keys that the draws answered, latest first. -/
  answers : List UInt64
  deriving DecidableEq, Repr

namespace CounterState

def step (client : Nat) (state : CounterState) : Option CounterState :=
  match state.clients[client]? with
  | some (draws + 1) =>
    let (key, counter) := state.counter.next
    some
      { counter
        clients := state.clients.set client draws
        answers := key :: state.answers }
  | _ => none

end CounterState

end StoreBench.Keys
