import StoreBench.Failure
import StoreBench.Text.Quoted

/-!
Contract: one thing that several holders open together.

It is opened for the first holder and closed with the last.

Owns: `Lease`, acquisition, release and the description of a lease.

Does not own: how the thing is opened, which a caller passes to `Lease.acquire`.
-/

namespace StoreBench.Store

/-- A thing that is open while somebody holds it. -/
structure Lease (α : Type) where
  name : String
  /-- The thing, while it is open. -/
  handle : Option α
  /-- No more than the acquisitions that were made (`Lease.holders_behind_le`), which in a phase are
  one for each worker (`State.Leasing.holders_le`). -/
  holders : Nat
  /-- How often the opener was called. -/
  opens : Nat
  deriving DecidableEq, Repr

namespace Lease

variable {α : Type}

def closed (name : String) : Lease α := ⟨name, none, 0, 0⟩

def isOpen (lease : Lease α) : Bool := lease.handle.isSome

/-- Adds a holder, opening the thing if it is closed.  The opener is told how often it was
called before; its failure is passed on and adds no holder. -/
def acquire (opener : Nat → Except Failure α) (lease : Lease α) :
    Except Failure α × Lease α :=
  match lease.handle with
  | some handle => (.ok handle, { lease with holders := lease.holders + 1 })
  | none =>
    match opener lease.opens with
    | .error fault => (.error fault, { lease with opens := lease.opens + 1 })
    | .ok handle =>
      (.ok handle,
        { lease with
          handle := some handle, holders := lease.holders + 1, opens := lease.opens + 1 })

/-- Removes a holder, closing the thing with the last. -/
def release (lease : Lease α) : Except Failure Unit × Lease α :=
  match lease.holders with
  | 0 => (.error (.store (.unmatchedRelease lease.name)), lease)
  | 1 => (.ok (), { lease with handle := none, holders := 0 })
  | holders + 2 => (.ok (), { lease with holders := holders + 1 })

def description (lease : Lease α) : String :=
  "SharedResource \x7b name: " ++ Text.quoted lease.name ++
    ", refs: " ++ toString lease.holders ++ ", open: " ++ toString lease.isOpen ++ " \x7d"

end Lease

end StoreBench.Store
