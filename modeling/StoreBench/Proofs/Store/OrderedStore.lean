import Mathlib.Data.Finmap
import Mathlib.Data.Finset.Sort
import Mathlib.Data.String.Basic
import StoreBench.Proofs.Store.RowFormat
import StoreBench.Store.Client

/-!
Contract: an ordered store as its users may think of it.

The store maps tables and keys to rows.  It is there while somebody holds it, a client that
is initialized or an outsider, and it begins empty each time.  No row is ever spelled in bytes:
what cannot be stored is told by the lengths of its names and values.

Owns:
- `Request` and `Answer`, what any number of clients and outsiders ask and hear;
- `OrderedStore`, its state and the answer to each request;
- `KeyLe`, the order in which a scan walks.

Does not own: any store that is made of bytes.
-/

namespace StoreBench.Store

/-! ## Requests -/

/-- What is asked of a store with a number of clients. -/
inductive Request (clients : Nat)
  | init (client : Fin clients)
  | cleanup (client : Fin clients)
  | data (client : Fin clients) (call : Call)
  | acquire
  | release

inductive Answer
  | done (result : Except Failure Unit)
  | reply (reply : Reply)

/-- No outsider lets go of what none holds; `held` leases are held by outsiders before. -/
def Balanced {clients : Nat} : Nat → List (Request clients) → Prop
  | _, [] => True
  | held, .acquire :: later => Balanced (held + 1) later
  | held, .release :: later => 0 < held ∧ Balanced (held - 1) later
  | held, .init _ :: later => Balanced held later
  | held, .cleanup _ :: later => Balanced held later
  | held, .data _ _ :: later => Balanced held later

def answersOf {σ : Type} {clients : Nat} (answer : Request clients → σ → Answer × σ) :
    List (Request clients) → σ → List Answer
  | [], _ => []
  | request :: later, state =>
    (answer request state).1 :: answersOf answer later (answer request state).2

/-! ## The order of keys -/

/-- The bytes of the first key do not come behind those of the second. -/
def KeyLe (first second : String) : Prop := ¬ Text.bytesOf second < Text.bytesOf first

instance : DecidableRel KeyLe := fun first second =>
  inferInstanceAs (Decidable (¬ Text.bytesOf second < Text.bytesOf first))

/-- Keys compare by their bytes as texts do. -/
theorem keyLe_iff_le {first second : String} : KeyLe first second ↔ first ≤ second := by
  rw [KeyLe, ← Text.lt_iff_bytes_lt, not_lt]

instance : IsTrans String KeyLe where
  trans _ _ _ left right := keyLe_iff_le.2 (le_trans (keyLe_iff_le.1 left) (keyLe_iff_le.1 right))

instance : Std.Antisymm KeyLe where
  antisymm _ _ left right := le_antisymm (keyLe_iff_le.1 left) (keyLe_iff_le.1 right)

instance : Std.Total KeyLe where
  total first second :=
    (le_total first second).imp (fun below => keyLe_iff_le.2 below)
      fun above => keyLe_iff_le.2 above

/-- How many leases outsiders hold after a request. -/
def Request.leases {clients : Nat} (request : Request clients) (held : Nat) : Nat :=
  match request with
  | .acquire => held + 1
  | .release => held - 1
  | _ => held

/-! ## Contents -/

abbrev Rows : Type := Finmap fun _ : String => Row

abbrev Contents : Type := String → Rows

/-- The keys of a table from one on, in ascending order. -/
def Rows.keysFrom (rows : Rows) (start : String) : List String :=
  (rows.keys.filter (KeyLe start)).sort KeyLe

structure OrderedStore (clients : Nat) where
  contents : Contents
  initialized : Finset (Fin clients)
  /-- How many leases outsiders hold. -/
  held : Nat

namespace OrderedStore

variable {clients : Nat}

def unheld : OrderedStore clients := ⟨fun _ => ∅, ∅, 0⟩

/-- Forgets all rows once nobody holds the store. -/
def settle (store : OrderedStore clients) : OrderedStore clients :=
  if store.held = 0 ∧ store.initialized = ∅ then { store with contents := fun _ => ∅ } else store

def put (store : OrderedStore clients) (table key : String) (row : Row) : OrderedStore clients :=
  { store with
    contents := Function.update store.contents table ((store.contents table).insert key row) }

def remove (store : OrderedStore clients) (table key : String) : OrderedStore clients :=
  { store with
    contents := Function.update store.contents table ((store.contents table).erase key) }

def store (table key : String) (row : Row) (store : OrderedStore clients) :
    Reply × OrderedStore clients :=
  match row.tooLong? with
  | some length => (.failed (.store (.fieldTooLong length)), store)
  | none => (.bare .ok, store.put table key row)

/-- The answer to a data call of an initialized client, which decodes what it reads or only looks
for it.  What is done with a row once it is decoded is the same as in a store made of bytes:
`Row.select` keeps the fields whose names are requested; `Row.merge` is pinned down by
`Row.overwritten_merge`; and `Row.tooLong?` tells what has no bytes, by
`Row.tooLong?_eq_none_iff` and `Row.exists_tooLong?_iff`. -/
def serve (decodes : Bool) (store : OrderedStore clients) :
    Call → Reply × OrderedStore clients
  | .read table key fields =>
    match (store.contents table).lookup key with
    | none => (.bare .notFound, store)
    | some row => (if decodes then ⟨.ok .ok, row.select fields, []⟩ else .bare .ok, store)
  | .scan table start count fields =>
    let rows := ((store.contents table).keysFrom start).take count |>.filterMap
      (store.contents table).lookup
    (if decodes then ⟨.ok .ok, [], rows.map (Row.select fields)⟩ else .bare .ok, store)
  | .update table key values =>
    match (store.contents table).lookup key with
    | none => (.bare .notFound, store)
    | some row => store.store table key (row.merge values)
  | .insert table key values => store.store table key values
  | .delete table key => (.bare .ok, store.remove table key)

/-- The failure of a data call of a client that is not initialized.  That a row cannot be stored is
noticed first. -/
def refusal : Call → StoreFault
  | .insert _ _ values =>
    match values.tooLong? with
    | some length => .fieldTooLong length
    | none => .usedBeforeInit
  | _ => .usedBeforeInit

/-- The answer to a request.  `decodes` tells of each client whether it decodes what it reads. -/
def answer (decodes : Fin clients → Bool) (request : Request clients)
    (store : OrderedStore clients) : Answer × OrderedStore clients :=
  match request with
  | .init client =>
    if client ∈ store.initialized then (.done (.error (.store .initializedTwice)), store)
    else (.done (.ok ()), { store with initialized := insert client store.initialized })
  | .cleanup client =>
    if client ∈ store.initialized then
      (.done (.ok ()), settle { store with initialized := store.initialized.erase client })
    else (.done (.error (.store .cleanedUpBeforeInit)), store)
  | .data client call =>
    if client ∈ store.initialized then
      let (reply, store) := store.serve (decodes client) call
      (.reply reply, store)
    else (.reply (.failed (.store (refusal call))), store)
  | .acquire => (.done (.ok ()), { store with held := store.held + 1 })
  | .release => (.done (.ok ()), settle { store with held := store.held - 1 })

/-! ## What answers leave alone -/

@[simp] theorem settle_held (store : OrderedStore clients) : store.settle.held = store.held := by
  rw [settle]
  split
  · rfl
  · rfl

@[simp] theorem settle_initialized (store : OrderedStore clients) :
    store.settle.initialized = store.initialized := by
  rw [settle]
  split
  · rfl
  · rfl

theorem store_only (table key : String) (row : Row) (store : OrderedStore clients) :
    ∃ contents, (store.store table key row).2 = { store with contents } := by
  rw [OrderedStore.store]
  split
  · exact ⟨_, rfl⟩
  · exact ⟨_, rfl⟩

/-- Data calls change nothing but rows. -/
theorem serve_only (decodes : Bool) (store : OrderedStore clients) (call : Call) :
    ∃ contents, (store.serve decodes call).2 = { store with contents } := by
  cases call with
  | read table key fields =>
    rw [serve]
    split
    · exact ⟨_, rfl⟩
    · exact ⟨_, rfl⟩
  | scan table start count fields => exact ⟨_, rfl⟩
  | update table key values =>
    rw [serve]
    split
    · exact ⟨_, rfl⟩
    · exact store_only _ _ _ _
  | insert table key values => exact store_only _ _ _ _
  | delete table key => exact ⟨_, rfl⟩

@[simp] theorem serve_held (decodes : Bool) (store : OrderedStore clients) (call : Call) :
    (store.serve decodes call).2.held = store.held := by
  obtain ⟨contents, changed⟩ := serve_only decodes store call
  rw [changed]

@[simp] theorem serve_initialized (decodes : Bool) (store : OrderedStore clients) (call : Call) :
    (store.serve decodes call).2.initialized = store.initialized := by
  obtain ⟨contents, changed⟩ := serve_only decodes store call
  rw [changed]

theorem answer_held (decodes : Fin clients → Bool) (request : Request clients)
    (store : OrderedStore clients) :
    (store.answer decodes request).2.held = request.leases store.held := by
  cases request with
  | init client =>
    rw [answer]
    split <;> rfl
  | cleanup client =>
    rw [answer]
    split
    · exact settle_held _
    · rfl
  | data client call =>
    rw [answer]
    split
    · exact serve_held ..
    · rfl
  | acquire => rfl
  | release => exact settle_held _

theorem initialized_init (decodes : Fin clients → Bool) (client : Fin clients)
    (store : OrderedStore clients) :
    (store.answer decodes (.init client)).2.initialized = insert client store.initialized := by
  rw [answer]
  split
  · next member => exact (Finset.insert_eq_of_mem member).symm
  · rfl

theorem initialized_cleanup (decodes : Fin clients → Bool) (client : Fin clients)
    (store : OrderedStore clients) :
    (store.answer decodes (.cleanup client)).2.initialized = store.initialized.erase client := by
  rw [answer]
  split
  · exact settle_initialized _
  · next absent => exact (Finset.erase_eq_of_notMem absent).symm

/-- Outsiders stay able to let go of what they hold. -/
theorem balanced_answer (decodes : Fin clients → Bool) {store : OrderedStore clients}
    {request : Request clients} {later : List (Request clients)}
    (balanced : Balanced store.held (request :: later)) :
    Balanced (store.answer decodes request).2.held later := by
  rw [answer_held]
  cases request with
  | release => exact balanced.2
  | _ => exact balanced

end OrderedStore

end StoreBench.Store
