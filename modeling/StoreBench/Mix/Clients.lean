import StoreBench.Interleaving
import StoreBench.Mix.Transactions

/-!
Contract: clients that make transactions of one standard workload at the same time.

A transaction goes on in steps, between which every other client may act.  An insert claims a key,
notes it, calls the store, and takes note of the answer; every other transaction only calls.  What
the store answers to a call is left to the outside world, and so are the random choices.

Owns:
- the steps of a transaction, and where a client stands between them;
- the system of all clients, with the keys drawn and the answers to inserts.

Does not own: the store.
-/

namespace StoreBench.Mix

/-- Where a client stands. -/
inductive ClientStage
  | idle
  /-- It has claimed a key to insert, and not noted it. -/
  | drawing (choices : Choices) (claimed : Option UInt64)
  /-- It waits for the answer to its call. -/
  | calling (task : Task)
  /-- It has an answer, and the workload has not taken note of it. -/
  | settling (task : Task) (status : Status)

/-- A workload, its clients, and what they have done so far. -/
structure ClientState where
  work : Transactions
  clients : List ClientStage
  /-- The keys that inserts drew, latest first. -/
  drawn : List UInt64
  /-- The keys of answered inserts and what the store answered, latest first. -/
  answered : List (UInt64 × Except Failure Status)

/-- What a client does next. -/
inductive ClientMove
  | begin (client : Nat) (choices : Choices)
  /-- It notes the key that it claimed, and calls the store. -/
  | note (client : Nat)
  | answer (client : Nat) (outcome : Except Failure Status)
  | settle (client : Nat)

namespace Transactions

/-- How a transaction begins.  It is over at once if there is nothing to choose from. -/
def commence (choices : Choices) (workload : Transactions) : ClientStage × Transactions :=
  let operations := workload.operations
  match (Choices.pick choices.kind operations.length).bind (operations[·]?) with
  | none => (.idle, workload)
  | some .insert =>
    let (claimed, pool) := workload.insertKeys.pool.claim
    (.drawing choices claimed, { workload with insertKeys := { workload.insertKeys with pool } })
  | some operation =>
    match callOf workload.options choices operation with
    | some call => (.calling ⟨call, none⟩, workload)
    | none => (.idle, workload)

def note (claimed : Option UInt64) (workload : Transactions) : Transactions :=
  let keys := workload.insertKeys
  { workload with insertKeys := { keys with pool := keys.pool.note claimed } }

/-- Stores a new row under a claimed key. -/
def insertTask (choices : Choices) (claimed : Option UInt64) (workload : Transactions) : Task :=
  let key := workload.insertKeys.pool.answer claimed
  let row := fullRow workload.options choices
  ⟨.insert workload.options.table (Keys.recordKey key) row, some key⟩

end Transactions

namespace ClientStage

/-- The keys that a client has drawn for the insert that it is making, until the answer. -/
def keys (pool : Keys.KeyPool) : ClientStage → List UInt64
  | .drawing _ claimed => [pool.answer claimed]
  | .calling task => task.key.toList
  | _ => []

/-- Where a client stands that the store has answered; a transaction whose call fails is over. -/
def answered (task : Task) : Except Failure Status → ClientStage
  | .ok status => .settling task status
  | .error _ => .idle

def isIdle : ClientStage → Bool
  | .idle => true
  | _ => false

end ClientStage

namespace ClientState

/-- Clients that have made no transaction yet. -/
def opening (work : Transactions) (clients : Nat) : ClientState :=
  ⟨work, List.replicate clients .idle, [], []⟩

def step : ClientMove → ClientState → Option ClientState
  | .begin client choices, state =>
    match state.clients[client]? with
    | some .idle =>
      let (stage, work) := state.work.commence choices
      some { state with
        work
        clients := state.clients.set client stage
        drawn := stage.keys work.insertKeys.pool ++ state.drawn }
    | _ => none
  | .note client, state =>
    match state.clients[client]? with
    | some (.drawing choices claimed) =>
      some { state with
        work := state.work.note claimed
        clients := state.clients.set client (.calling (state.work.insertTask choices claimed)) }
    | _ => none
  | .answer client outcome, state =>
    match state.clients[client]? with
    | some (.calling task) =>
      some { state with
        clients := state.clients.set client (.answered task outcome)
        answered := task.key.toList.map (·, outcome) ++ state.answered }
    | _ => none
  | .settle client, state =>
    match state.clients[client]? with
    | some (.settling task status) =>
      some { state with
        work := state.work.settle task status
        clients := state.clients.set client .idle }
    | _ => none

def isQuiet (state : ClientState) : Bool := state.clients.all (·.isIdle)

end ClientState

end StoreBench.Mix
