/-!
Contract: the delays that keep a stream of operations at a rate.

The bucket starts empty, gains `rate` tokens a second and holds at most `capacity` of them.
An operation takes its tokens at once, even into debt, and waits until the debt is paid
back; the next operation finds the deeper debt.

Owns: `TokenBucket` in exact arithmetic, and the waits of a sequence of operations.
-/

namespace StoreBench.Sync

/-- A bucket of tokens.  Instants and waits are in seconds. -/
structure TokenBucket where
  /-- Tokens a second. -/
  rate : Rat
  /-- The most tokens that are kept. -/
  capacity : Rat
  /-- The tokens, or the debt. -/
  balance : Rat
  /-- The instant that the balance is of. -/
  refilledAt : Rat
  deriving DecidableEq

namespace TokenBucket

/-- An empty bucket; neither rate nor capacity is less than one. -/
def empty (rate burst : UInt64) (now : Rat) : TokenBucket where
  rate := (max rate 1).toNat
  capacity := (max burst 1).toNat
  balance := 0
  refilledAt := now

/-- Adds the tokens gained since the last instant. -/
def refill (bucket : TokenBucket) (now : Rat) : TokenBucket :=
  let elapsed := if bucket.refilledAt ≤ now then now - bucket.refilledAt else 0
  let filled := bucket.balance + elapsed * bucket.rate
  { bucket with
    balance := if filled ≤ bucket.capacity then filled else bucket.capacity
    refilledAt := now }

/-- Takes `tokens` at the instant `now`: how long the caller has to wait. -/
def consume (bucket : TokenBucket) (now : Rat) (tokens : UInt64) : Rat × TokenBucket :=
  let filled := bucket.refill now
  let balance := filled.balance - tokens.toNat
  (if balance < 0 then -balance / filled.rate else 0, { filled with balance })

/-- The instant at which a caller ends who takes each number of tokens as soon as the last
wait is over. -/
def finish (bucket : TokenBucket) (now : Rat) : List UInt64 → Rat
  | [] => now
  | tokens :: rest =>
    let (wait, bucket) := bucket.consume now tokens
    bucket.finish (now + wait) rest

end TokenBucket

end StoreBench.Sync
