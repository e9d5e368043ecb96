/-!
Contract: a finite range of keys, each handed out once in a random order.

A claim has two steps, because clients draw at the same time: the cursor moves on by one,
and then the key is noted as the latest.  Between the two another client may act.

Owns:
- `KeyPool` and the two steps of a claim;
- `AcknowledgedPool`, a pool that also keeps which keys were durably written.

Does not own: the order of the keys, which is a parameter of `KeyPool.create?`.
-/

namespace StoreBench.Keys

def keyRange (start count : UInt64) : Array UInt64 :=
  (Array.range count.toNat).map fun offset => start + offset.toUInt64

/-- Keys that are drawn by several clients at once. -/
structure KeyPool where
  start : UInt64
  /-- The keys, in the order in which they are handed out. -/
  keys : Array UInt64
  /-- How many draws have been made, the ones beyond the end included. -/
  cursor : UInt64
  /-- The key that was noted latest. -/
  last : UInt64
  deriving DecidableEq, Repr

namespace KeyPool

/-- The pool of the `count` keys from `start` on in the order that `arrange` gives them.
There is none if the keys do not all have 64 bits.  More keys than a memory may hold cannot be
asked for: `Mix.Transactions.create`, which makes all pools, breaks off before, with
`Mix.Transactions.isFeasible`. -/
def create? (arrange : Array UInt64 → Array UInt64) (start count : UInt64) : Option KeyPool :=
  if start.toNat + count.toNat < UInt64.size then
    some { start, keys := arrange (keyRange start count), cursor := 0, last := start - 1 }
  else none

def capacity (pool : KeyPool) : Nat := pool.keys.size

def remaining (pool : KeyPool) : Nat := pool.keys.size - pool.cursor.toNat

/-- The first step of a draw: claims the key at the cursor, or none beyond the end. -/
def claim (pool : KeyPool) : Option UInt64 × KeyPool :=
  (pool.keys[pool.cursor.toNat]?, { pool with cursor := pool.cursor + 1 })

/-- The second step of a draw: notes the claimed key as the latest. -/
def note (pool : KeyPool) (claimed : Option UInt64) : KeyPool :=
  match claimed with
  | some key => { pool with last := key }
  | none => pool

/-- What a client that claimed `claimed` works with: an exhausted pool repeats its first
key. -/
def answer (pool : KeyPool) (claimed : Option UInt64) : UInt64 := claimed.getD pool.start

/-- A draw of which no other client sees a part. -/
def next (pool : KeyPool) : UInt64 × KeyPool :=
  let (claimed, pool) := pool.claim
  (pool.answer claimed, pool.note claimed)

end KeyPool

/-- A key pool that keeps which of its keys were durably written. -/
structure AcknowledgedPool where
  pool : KeyPool
  /-- The written keys, each once. -/
  acknowledged : List UInt64
  deriving DecidableEq, Repr

namespace AcknowledgedPool

/-- A pool of which nothing is written yet. -/
def create? (arrange : Array UInt64 → Array UInt64) (start count : UInt64) :
    Option AcknowledgedPool :=
  (KeyPool.create? arrange start count).map (⟨·, []⟩)

def next (keys : AcknowledgedPool) : UInt64 × AcknowledgedPool :=
  let (key, pool) := keys.pool.next
  (key, { keys with pool })

/-- Keeps that `key` was written; doing so again changes nothing. -/
def acknowledge (keys : AcknowledgedPool) (key : UInt64) : AcknowledgedPool :=
  { keys with acknowledged := keys.acknowledged.insert key }

/-- Whether `key` is known to be written. -/
def isAcknowledged (keys : AcknowledgedPool) (key : UInt64) : Bool :=
  keys.acknowledged.contains key

def acknowledgedCount (keys : AcknowledgedPool) : Nat := keys.acknowledged.length

end AcknowledgedPool

end StoreBench.Keys
