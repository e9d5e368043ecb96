import StoreBench.Mix.Clients
import StoreBench.Store.Memory

/-!
Contract: threads that store records and make transactions on clients of one store in memory.

Every thread goes through one record or one transaction after the other, in steps between which
every other thread may act.  Its calls may go to any client.  Meanwhile clients are initialized
and cleaned up, and outsiders acquire the store and let go of it.

Owns: `Traffic` and its moves.

Does not own: what the store comes to hold.
-/

namespace StoreBench.Mix

open Store

/-- A workload with its threads, and the store that they use. -/
structure Traffic where
  threads : ClientState
  world : MemoryWorld
  /-- How many leases outsiders hold. -/
  held : Nat

/-- What happens next. -/
inductive TrafficMove
  /-- A thread begins to store the next initial record. -/
  | load (thread : Nat) (choices : Choices)
  | begin (thread : Nat) (choices : Choices)
  | note (thread : Nat)
  /-- A client answers the call of a thread. -/
  | call (thread client : Nat)
  | settle (thread : Nat)
  | init (client : Nat)
  | cleanup (client : Nat)
  /-- An outsider acquires the store. -/
  | acquire
  /-- An outsider lets go of the store. -/
  | release

/-- A thread calls for the next initial record. -/
def ClientState.load (thread : Nat) (choices : Choices) (threads : ClientState) :
    Option ClientState :=
  match threads.clients[thread]?, threads.work.planLoad choices with
  | some .idle, (.tasks [task], work) =>
    some { threads with work, clients := threads.clients.set thread (.calling task) }
  | _, _ => none

namespace Traffic

/-- Idle threads, and a store that nobody holds. -/
def opening (work : Transactions) (threads : Nat) (clients : List MemoryClient) : Traffic :=
  ⟨.opening work threads, .opening clients, 0⟩

def step (move : TrafficMove) (traffic : Traffic) : Option Traffic :=
  let world := traffic.world
  match move with
  | .load thread choices =>
    (traffic.threads.load thread choices).map fun threads => { traffic with threads }
  | .begin thread choices =>
    (traffic.threads.step (.begin thread choices)).map fun threads => { traffic with threads }
  | .note thread =>
    (traffic.threads.step (.note thread)).map fun threads => { traffic with threads }
  | .call thread client =>
    match traffic.threads.clients[thread]? with
    | some (.calling task) =>
      let (reply, world) := world.call client task.call
      (traffic.threads.step (.answer thread reply.outcome)).map fun threads =>
        { traffic with threads, world }
    | _ => none
  | .settle thread =>
    (traffic.threads.step (.settle thread)).map fun threads => { traffic with threads }
  | .init client =>
    if client < world.clients.length then
      some { traffic with world := (world.init alwaysOpens client).2 }
    else none
  | .cleanup client =>
    if client < world.clients.length then
      some { traffic with world := (world.cleanup client).2 }
    else none
  | .acquire =>
    some { traffic with
      world := { world with shared := (world.shared.acquire alwaysOpens).2 }
      held := traffic.held + 1 }
  | .release =>
    if 0 < traffic.held then
      some { traffic with
        world := { world with shared := world.shared.release.2 }, held := traffic.held - 1 }
    else none

end Traffic

end StoreBench.Mix
