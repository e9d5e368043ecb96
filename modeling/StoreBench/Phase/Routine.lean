import StoreBench.Failure
import StoreBench.Phase.Kind

/-!
Contract: what one worker does, from its start to its end.

A worker opens its store, performs its operations, closes its store, and counts down the
completion latch whatever happened.  A worker with a warm-up also meets the others at the
gate: before the first operation behind its warm-up, or after its last operation if there is
none.  If it ends before that, it gives up its place at the gate.

Owns: `Effects`, the actions of a worker, and the two routines.

Does not own: how the steps of several workers interleave, which is in `Phase.System`; that a worker
among others still does what its routine says is proved in `Proofs.Phase.WorkerJournals`.
-/

namespace StoreBench.Phase

variable {m : Type → Type}

/-- The actions of a worker. -/
structure Effects (m : Type → Type) where
  init : m (Except Stop Unit)
  /-- Waits for the rate limiter. -/
  throttle : m Unit
  /-- Performs an operation, in the warm-up or not. -/
  operate : Bool → m (Except Stop Unit)
  cleanup : m (Except Stop Unit)
  /-- Arrives at the gate and waits there. -/
  arrive : m Unit
  release : m Unit
  countDown : m Unit

/-- What a worker has to do. -/
structure Duty where
  operations : UInt64
  opens : Bool
  closes : Bool
  /-- Whether there is a rate limiter. -/
  limited : Bool
  deriving DecidableEq, Repr

variable [Monad m]

/-- An action that may end the routine. -/
def attempt (action : m (Except Stop Unit)) : ExceptT Stop m Unit := ExceptT.mk action

/-- Performs one operation after another. -/
def operateAll (effects : Effects m) (duty : Duty) : Nat → ExceptT Stop m Unit
  | 0 => pure ()
  | left + 1 => do
    if duty.limited then ExceptT.lift effects.throttle
    attempt (effects.operate false)
    operateAll effects duty left

/-- The routine of a worker without a warm-up: how many operations it performed, or how it was
stopped. -/
def plainRoutine (effects : Effects m) (duty : Duty) : m (Except Stop UInt64) := do
  let body : ExceptT Stop m UInt64 := do
    if duty.opens then attempt effects.init
    operateAll effects duty duty.operations.toNat
    if duty.closes then attempt effects.cleanup
    return duty.operations
  let result ← body.run
  effects.countDown
  return result

/-- The state of a worker with a warm-up: whether it still has its place at the gate. -/
abbrev Gated (m : Type → Type) : Type → Type := ExceptT Stop (StateT Bool m)

/-- An action of a worker with a warm-up. -/
def Gated.attempt (action : m (Except Stop Unit)) : Gated m Unit := ExceptT.mk (StateT.lift action)

/-- An action of a worker with a warm-up that cannot end the routine. -/
def Gated.perform (action : m Unit) : Gated m Unit := ExceptT.lift (StateT.lift action)

/-- Arrives at the gate, unless the place there is already used. -/
def Gated.arrive (effects : Effects m) : Gated m Unit := do
  if ← getThe Bool then
    set false
    Gated.perform effects.arrive

/-- Performs the operations from number `iteration` on, arriving at the gate when the warm-up is
over. -/
def Gated.operateAll (effects : Effects m) (duty : Duty) (warmup : UInt64) :
    Nat → Nat → Gated m Unit
  | _, 0 => pure ()
  | iteration, left + 1 => do
    if iteration = warmup.toNat then Gated.arrive effects
    if duty.limited then Gated.perform effects.throttle
    Gated.attempt (effects.operate (iteration < warmup.toNat))
    Gated.operateAll effects duty warmup (iteration + 1) left

/-- The routine of a worker with a warm-up of `warmup` operations: how many operations it
performed, or how it was stopped. -/
def warmupRoutine (effects : Effects m) (duty : Duty) (warmup : UInt64) :
    m (Except Stop UInt64) := do
  let body : Gated m UInt64 := do
    if duty.opens then Gated.attempt effects.init
    Gated.operateAll effects duty warmup 0 duty.operations.toNat
    Gated.arrive effects
    if duty.closes then Gated.attempt effects.cleanup
    return duty.operations
  let (result, hasPlace) ← body.run.run true
  if hasPlace then effects.release
  effects.countDown
  return result

end StoreBench.Phase
