/-!
Contract: a latch that opens for good after a number of count-downs.

Owns: `Latch` as its users see it, each call being one step.

Does not own: the lock and the wake-ups behind the calls, which are in
`Sync.LatchMonitor`.
-/

namespace StoreBench.Sync

/-- A latch.  It is open once nothing is left to count down. -/
structure Latch where
  /-- How many count-downs are missing. -/
  count : Nat
  deriving DecidableEq, Repr

namespace Latch

/-- Counts down; a count-down of an open latch does nothing. -/
def countDown (latch : Latch) : Latch := ⟨latch.count - 1⟩

def countDownTimes (latch : Latch) (times : Nat) : Latch := ⟨latch.count - times⟩

def isOpen (latch : Latch) : Bool := latch.count == 0

end Latch

end StoreBench.Sync
