/-!
Contract: the two phases of a benchmark.

Owns: `Kind` and its names.
-/

namespace StoreBench.Phase

/-- A phase of a benchmark. -/
inductive Kind
  /-- Stores the initial records. -/
  | load
  /-- Makes transactions. -/
  | run
  deriving DecidableEq, Repr, Inhabited

/-- The name in messages and thread names. -/
def Kind.name : Kind → String
  | .load => "load"
  | .run => "run"

def threadName (kind : Kind) (worker : Nat) : String := s!"strata-bench-{kind.name}-{worker}"

end StoreBench.Phase
