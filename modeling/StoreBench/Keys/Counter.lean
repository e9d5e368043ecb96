/-!
Contract: consecutive keys without an end.

Owns: `Counter`, which hands out the next key and names the last one.
-/

namespace StoreBench.Keys

/-- A counter shared by every client of a phase. -/
structure Counter where
  /-- The key that the next claim takes. -/
  upcoming : UInt64
  deriving DecidableEq, Repr

namespace Counter

/-- Takes the next key; after the greatest one comes zero. -/
def next (counter : Counter) : UInt64 × Counter := (counter.upcoming, ⟨counter.upcoming + 1⟩)

/-- The key before the next one. -/
def last (counter : Counter) : UInt64 := counter.upcoming - 1

end Counter

end StoreBench.Keys
