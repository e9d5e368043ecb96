import StoreBench.Store.Client
import StoreBench.Store.Format
import StoreBench.Store.Lease
import StoreBench.Store.Table

/-!
Contract: an ordered store in memory, shared by any number of clients.

The store is opened empty for the first holder and dropped with the last.  Rows are kept as
bytes.

Owns:
- `SharedMemory`, the store behind its lease;
- `MemoryClient` and the calls of a client;
- `MemoryWorld`, a shared store with all its clients.
-/

namespace StoreBench.Store

/-- The rows of each table, as bytes. -/
abbrev Tables : Type := Table (Table (List UInt8))

namespace Tables

/-- The rows of a table; one that was never written has none. -/
def rows (tables : Tables) (table : String) : Table (List UInt8) :=
  (Table.get? tables table).getD Table.empty

/-- Puts a row under a key. -/
def put (tables : Tables) (table key : String) (data : List UInt8) : Tables :=
  Table.insert tables table ((tables.rows table).insert key data)

end Tables

/-- A store in memory behind a lease.  Its handle is the number of the opening. -/
structure SharedMemory where
  lease : Lease Nat
  /-- What each opening holds, latest first. -/
  openings : List (Nat × Tables)
  deriving DecidableEq, Repr

namespace SharedMemory

def closed : SharedMemory := ⟨Lease.closed "memory", []⟩

/-- The contents of an opening. -/
def tables (shared : SharedMemory) (opening : Nat) : Tables :=
  (shared.openings.lookup opening).getD Table.empty

def setTables (shared : SharedMemory) (opening : Nat) (tables : Tables) : SharedMemory :=
  { shared with
    openings := shared.openings.map fun entry =>
      if entry.1 = opening then (opening, tables) else entry }

/-- Adds a holder; a store that has to be opened is empty.  `opener` says whether opening
succeeds, given how often it was tried before. -/
def acquire (opener : Nat → Except Failure Unit) (shared : SharedMemory) :
    Except Failure Nat × SharedMemory :=
  let (result, lease) := shared.lease.acquire fun opens => (opener opens).map fun _ => opens
  match shared.lease.handle, lease.handle with
  | none, some opening =>
    (result, { lease, openings := (opening, Table.empty) :: shared.openings })
  | _, _ => (result, { shared with lease })

def release (shared : SharedMemory) : Except Failure Unit × SharedMemory :=
  let (result, lease) := shared.lease.release
  (result, { shared with lease })

end SharedMemory

/-- Opening a store in memory never fails. -/
def alwaysOpens (_ : Nat) : Except Failure Unit := .ok ()

/-- A client of a store in memory. -/
structure MemoryClient where
  format : Format
  /-- Whether reads and scans decode the rows they find, or only look for them. -/
  decodesOnRead : Bool
  /-- The opening that the client holds, once it is initialized. -/
  opening : Option Nat
  deriving DecidableEq, Repr

/-- A shared store and its clients. -/
structure MemoryWorld where
  shared : SharedMemory
  clients : List MemoryClient
  deriving DecidableEq, Repr

namespace MemoryClient

/-- The requested fields of each of the rows, in order. -/
def decodeAll (client : MemoryClient) (fields : Option (List String)) :
    List (String × List UInt8) → List Row × Except Failure Unit
  | [] => ([], .ok ())
  | (_, data) :: rest =>
    match client.format.decodeSelected fields data with
    | .error fault => ([], .error fault)
    | .ok row =>
      let (rows, result) := client.decodeAll fields rest
      (row :: rows, result)

/-- Reads a row.  The status tells whether there is one; its fields are decoded only if the
client decodes on read. -/
def read (client : MemoryClient) (tables : Tables) (table key : String)
    (fields : Option (List String)) : Reply :=
  match (tables.rows table).get? key with
  | none => .bare .notFound
  | some data =>
    if client.decodesOnRead then
      match client.format.decodeSelected fields data with
      | .error fault => .failed fault
      | .ok row => ⟨.ok .ok, row, []⟩
    else .bare .ok

/-- Reads up to `count` rows from `start` on, if the client decodes on read. -/
def scan (client : MemoryClient) (tables : Tables) (table start : String) (count : Nat)
    (fields : Option (List String)) : Reply :=
  if client.decodesOnRead then
    let entries := ((tables.rows table).startingAt start).take count
    let (rows, result) := client.decodeAll fields entries
    ⟨result.map fun _ => .ok, [], rows⟩
  else .bare .ok

/-- Writes values over those of a stored row. -/
def update (client : MemoryClient) (tables : Tables) (table key : String) (values : Row) :
    Except Failure Status × Tables :=
  match (tables.rows table).get? key with
  | none => (.ok .notFound, tables)
  | some data =>
    match client.format.decode data with
    | .error fault => (.error fault, tables)
    | .ok row =>
      match client.format.encode (row.merge values) with
      | .error fault => (.error fault, tables)
      | .ok merged => (.ok .ok, tables.put table key merged)

def delete (tables : Tables) (table key : String) : Tables :=
  match Table.get? tables table with
  | none => tables
  | some rows => Table.insert tables table (rows.erase key)

end MemoryClient

namespace MemoryWorld

/-- A closed store and clients that are not initialized. -/
def opening (clients : List MemoryClient) : MemoryWorld := ⟨SharedMemory.closed, clients⟩

def setOpening (world : MemoryWorld) (index : Nat) (opening : Option Nat) : MemoryWorld :=
  { world with
    clients := world.clients.modify index fun client => { client with opening } }

/-- The opening that a client holds. -/
def openingOf (world : MemoryWorld) (index : Nat) : Option Nat :=
  world.clients[index]?.bind (·.opening)

/-- Makes a client a holder of the store. -/
def init (opener : Nat → Except Failure Unit) (index : Nat) (world : MemoryWorld) :
    Except Failure Unit × MemoryWorld :=
  match world.openingOf index with
  | some _ => (.error (.store .initializedTwice), world)
  | none =>
    match world.shared.acquire opener with
    | (.error fault, shared) => (.error fault, { world with shared })
    | (.ok opening, shared) =>
      (.ok (), { world with shared }.setOpening index (some opening))

/-- Ends a client's hold on the store. -/
def cleanup (index : Nat) (world : MemoryWorld) : Except Failure Unit × MemoryWorld :=
  match world.openingOf index with
  | none => (.error (.store .cleanedUpBeforeInit), world)
  | some _ =>
    let (result, shared) := world.shared.release
    (result, { world with shared }.setOpening index none)

def setTables (world : MemoryWorld) (opening : Nat) (tables : Tables) : MemoryWorld :=
  { world with shared := world.shared.setTables opening tables }

/-- Makes a data call on a client.  An insert encodes its row before it asks whether the client is
initialized. -/
def call (index : Nat) (call : Call) (world : MemoryWorld) : Reply × MemoryWorld :=
  match world.clients[index]? with
  | none => (.failed (.store .usedBeforeInit), world)
  | some client =>
    let use (action : Nat → Tables → Reply × MemoryWorld) : Reply × MemoryWorld :=
      match client.opening with
      | none => (.failed (.store .usedBeforeInit), world)
      | some opening => action opening (world.shared.tables opening)
    match call with
    | .read table key fields =>
      use fun _ tables => (client.read tables table key fields, world)
    | .scan table start count fields =>
      use fun _ tables => (client.scan tables table start count fields, world)
    | .update table key values =>
      use fun opening tables =>
        let (outcome, tables) := client.update tables table key values
        (⟨outcome, [], []⟩, world.setTables opening tables)
    | .insert table key values =>
      match client.format.encode values with
      | .error fault => (.failed fault, world)
      | .ok data =>
        use fun opening tables => (.bare .ok, world.setTables opening (tables.put table key data))
    | .delete table key =>
      use fun opening tables =>
        (.bare .ok, world.setTables opening (MemoryClient.delete tables table key))

/-- The clients as the stores of the workers of a phase. -/
def backend : Clients MemoryWorld where
  init := init alwaysOpens
  cleanup := cleanup
  call := call

end MemoryWorld

end StoreBench.Store
