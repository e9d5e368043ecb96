import StoreBench.Latency.StatusText
import StoreBench.Sync.Latch
import StoreBench.Text.Timestamp

/-!
Contract: the lines that tell, from time to time, how far a phase is.

Owns: the text of a line.
-/

namespace StoreBench.Phase

/-- A line: the instant, the whole seconds since the phase began, and a message. -/
def statusLine (seconds : Int) (nanos elapsedMillis : Nat) (message : String) : String :=
  Text.timestamp seconds nanos ++ " " ++ toString (elapsedMillis / 1000) ++ " sec: " ++ message

end StoreBench.Phase
