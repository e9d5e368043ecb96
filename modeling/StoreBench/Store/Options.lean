import StoreBench.Store.Memory

/-!
Contract: the options of the store in memory.

Owns: `Options`, their defaults and the client that they describe.
-/

namespace StoreBench.Store

/-- How clients keep and read rows. -/
structure Options where
  format : String
  /-- Whether reads and scans decode the rows they find. -/
  decodesOnRead : Bool
  deriving DecidableEq, Repr

namespace Options

/-- The one known format, and reads that only look. -/
def default : Options := ⟨Format.single.name, false⟩

instance : Inhabited Options := ⟨default⟩

/-- A client that is not initialized; fails if nothing is known of the format. -/
def client (options : Options) : Except Failure MemoryClient := do
  let format ← Format.named options.format
  return ⟨format, options.decodesOnRead, none⟩

end Options

end StoreBench.Store
