/-!
Contract: the time that latencies are taken from.

Owns:
- `ManualClock`, which stands still unless it is moved on;
- `Stopwatch`, which remembers when it was started last.
-/

namespace StoreBench.Latency

/-- A clock that is moved by hand; its reading is in nanoseconds and wraps. -/
structure ManualClock where
  now : UInt64
  deriving DecidableEq, Repr

namespace ManualClock

def zero : ManualClock := ⟨0⟩

def advance (clock : ManualClock) (nanoseconds : UInt64) : ManualClock :=
  ⟨clock.now + nanoseconds⟩

end ManualClock

/-- A stopwatch that may be started again. -/
structure Stopwatch where
  /-- The reading at the latest start. -/
  startedAt : Option UInt64
  deriving DecidableEq, Repr

namespace Stopwatch

/-- A stopwatch that was never started. -/
def fresh : Stopwatch := ⟨none⟩

/-- Starts the stopwatch, anew if need be. -/
def start (_ : Stopwatch) (now : UInt64) : Stopwatch := ⟨some now⟩

def isStarted (stopwatch : Stopwatch) : Bool := stopwatch.startedAt.isSome

/-- The time since the latest start, or zero before the first. -/
def elapsed (stopwatch : Stopwatch) (now : UInt64) : UInt64 :=
  match stopwatch.startedAt with
  | some start => now - start
  | none => 0

end Stopwatch

end StoreBench.Latency
