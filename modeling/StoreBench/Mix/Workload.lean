import StoreBench.Store.Client

/-!
Contract: what a phase asks of the workload it runs.

Owns:
- `Choices`, the random choices of one step;
- `Task` and `Plan`, what a workload decides to do;
- `Workload`, the interface, for workloads with a state of type `ω`;
- `Workload.strict`, the workloads whose steps fail with their calls;
- `Workload.perform`, a step of which no other client sees a part.

Does not own: any particular workload.
-/

namespace StoreBench.Mix

/-- The random choices of one step. -/
structure Choices where
  /-- Chooses among the kinds of transactions. -/
  kind : Nat
  /-- All other choices, by number. -/
  draws : Nat → Nat

namespace Choices

/-- A choice among `count` possibilities, or none if there are none. -/
def pick (draw count : Nat) : Option Nat := if count = 0 then none else some (draw % count)

end Choices

/-- A data call that a workload decided on. -/
structure Task where
  call : Store.Call
  /-- The key that is known to be written once the call succeeds. -/
  key : Option UInt64
  deriving DecidableEq, Repr

/-- How a step goes on. -/
inductive Plan
  /-- Makes these calls one after the other, and then succeeds. -/
  | tasks (tasks : List Task)
  /-- Fails. -/
  | stop (reason : Stop)
  deriving DecidableEq, Repr

/-- The two kinds of steps that a workload takes. -/
inductive Step
  | load
  /-- Makes a transaction, in the warm-up or after it. -/
  | transaction (warmup : Bool)
  deriving DecidableEq, Repr

/-- A workload shared by all workers of a phase, which it tells apart by their numbers.  It sees
what each of its calls answers: a step may go on after a call that failed, and it may fail after one
that did not. -/
structure Workload (ω : Type) where
  /-- Decides what a worker does in its next step. -/
  plan : Nat → Step → Choices → ω → Plan × ω
  /-- Takes note of what a call answered, and decides how the step goes on in the place of the calls
  that were to follow. -/
  settle : Nat → Task → List Task → Store.Reply → ω → Plan × ω
  /-- No step goes on for ever: its calls become fewer, though they may become others. -/
  settle_le : ∀ {index : Nat} {task : Task} {later tasks : List Task} {reply : Store.Reply}
    {work : ω}, (settle index task later reply work).1 = .tasks tasks →
      tasks.length ≤ later.length

namespace Workload

variable {ω σ : Type}

/-- A workload whose steps make the calls that were planned, and fail with the first that fails. -/
def strict (plan : Nat → Step → Choices → ω → Plan × ω) (note : Task → Status → ω → ω) :
    Workload ω where
  plan := plan
  settle := fun _ task later reply work =>
    match reply.outcome with
    | .ok status => (.tasks later, note task status work)
    | .error fault => (.stop (.failed fault), work)
  settle_le := by
    intro index task later tasks reply work settles
    cases outcome : reply.outcome with
    | ok status =>
      rw [outcome] at settles
      cases settles
      exact Nat.le_refl _
    | error fault =>
      rw [outcome] at settles
      cases settles

/-- Makes calls on a store one after the other, as the workload decides after each. -/
def carryOut (workload : Workload ω) (serve : Store.Call → σ → Store.Reply × σ) (index : Nat) :
    List Task → ω → σ → Except Stop Unit × ω × σ
  | [], work, store => (.ok (), work, store)
  | task :: later, work, store =>
    let (reply, store) := serve task.call store
    match settles : workload.settle index task later reply work with
    | (.stop reason, work) => (.error reason, work, store)
    | (.tasks tasks, work) =>
      have : tasks.length ≤ later.length := workload.settle_le (congrArg Prod.fst settles)
      carryOut workload serve index tasks work store
  termination_by tasks => tasks.length
  decreasing_by exact Nat.lt_succ_of_le this

section
variable {workload : Workload ω} {serve : Store.Call → σ → Store.Reply × σ} {index : Nat}
  {task : Task} {later tasks : List Task} {work after : ω} {store : σ}

theorem carryOut_of_tasks
    (settles : workload.settle index task later (serve task.call store).1 work =
      (.tasks tasks, after)) :
    workload.carryOut serve index (task :: later) work store =
      workload.carryOut serve index tasks after (serve task.call store).2 := by
  rcases answer : serve task.call store with ⟨reply, served⟩
  rw [answer] at settles
  rw [carryOut, answer]
  dsimp only
  split
  · next settled => cases settled.symm.trans settles
  · next settled =>
    cases settled.symm.trans settles
    rfl

theorem carryOut_of_stop {reason : Stop}
    (settles : workload.settle index task later (serve task.call store).1 work =
      (.stop reason, after)) :
    workload.carryOut serve index (task :: later) work store =
      (.error reason, after, (serve task.call store).2) := by
  rcases answer : serve task.call store with ⟨reply, served⟩
  rw [answer] at settles
  rw [carryOut, answer]
  dsimp only
  split
  · next settled =>
    cases settled.symm.trans settles
    rfl
  · next settled => cases settled.symm.trans settles

variable {plan : Nat → Step → Choices → ω → Plan × ω} {note : Task → Status → ω → ω}
  {reply : Store.Reply}

theorem strict_settle_ok {status : Status} (outcome : reply.outcome = .ok status) :
    (strict plan note).settle index task later reply work =
      (.tasks later, note task status work) := by
  simp only [strict, outcome]

theorem strict_settle_error {fault : Failure} (outcome : reply.outcome = .error fault) :
    (strict plan note).settle index task later reply work = (.stop (.failed fault), work) := by
  simp only [strict, outcome]

end

/-- A whole step: makes the calls that the workload decides on. -/
def perform (workload : Workload ω) (serve : Store.Call → σ → Store.Reply × σ)
    (index : Nat) (step : Step) (choices : Choices) (work : ω) (store : σ) :
    Except Stop Unit × ω × σ :=
  match workload.plan index step choices work with
  | (.stop reason, work) => (.error reason, work, store)
  | (.tasks tasks, work) => workload.carryOut serve index tasks work store

end Workload

end StoreBench.Mix
