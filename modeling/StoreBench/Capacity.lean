/-!
Contract: how much can be held at once.

Owns: the bound on what is asked of a memory.
-/

namespace StoreBench

/-- Whether a memory may hold so many entries of so many bytes each.  None has 2^63 bytes. -/
def canHold (entries : UInt64) (entryBytes : Nat) : Bool :=
  entries.toNat * entryBytes < 0x8000000000000000

end StoreBench
