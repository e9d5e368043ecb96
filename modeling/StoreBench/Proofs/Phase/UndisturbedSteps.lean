import StoreBench.Proofs.Phase.Moves

/-!
Contract: an operation of a worker whom nobody interrupts.

A worker makes a call in several steps, and others may move in between.  If they do not, and the
clock shows what the surroundings of the store say, then the steps of a call come to `Timed.call`,
and those of a whole operation to `Mix.Workload.perform` on a store with a meter around it.

Owns:
- `Worker.alone`, the steps of a worker on its own, which are moves of a phase;
- what a call and an operation come to.

Does not own: operations that others interrupt, and callers outside a phase, whose calls come to
`Timed.call` too (`Callers.follow_call`).
-/

namespace StoreBench.Phase

open Latency

variable {α ω σ : Type}

/-- The store of a phase with the meter around it. -/
def Shared.timed (shared : Shared α ω σ) : Timed α σ :=
  ⟨shared.world, shared.tracker, shared.meter⟩

/-- What the workers have in common once calls were made and the workload has taken note of them. -/
def Shared.behind (shared : Shared α ω σ) (work : ω) (timed : Timed α σ) : Shared α ω σ :=
  { shared with world := timed.world, work, tracker := timed.tracker, meter := timed.meter }

/-- How far a call is once it has come back. -/
def CallStage.behind : Except Failure Status → CallStage
  | .ok status => .settling status
  | .error fault => .failed fault

namespace Worker

/-- A worker whose step goes on like this. -/
def goOn (worker : Worker) : Mix.Plan → Worker
  | .tasks tasks => worker.proceed tasks
  | .stop reason => worker.stop reason

/-- A worker whose step came to this. -/
def conclude (worker : Worker) : Except Stop Unit → Worker
  | .ok () => worker.proceed []
  | .error reason => worker.stop reason

variable [Aggregate α] {setting : Setting ω σ} {index : Nat} {clock : σ → UInt64}
  {worker : Worker} {shared : Shared α ω σ}

/-- A step of a worker on its own. -/
def alone (setting : Setting ω σ) (index : Nat) (clock : σ → UInt64) (choices : Mix.Choices)
    (state : Worker × Shared α ω σ) : Option (Worker × Shared α ω σ) :=
  state.1.advance? setting index ⟨clock state.2.world, choices⟩ state.2

/-- A call that nobody interrupts is timed and filed as a whole. -/
theorem reaches_call {task : Mix.Task} {later : List Mix.Task} (choices : Mix.Choices)
    (stands : worker.place = .serving task later .calling) :
    let (reply, timed) := Timed.call setting.clients clock index task.call shared.timed
    Reaches (alone setting index clock) (worker, shared)
      ((worker.hear reply).goTo (.serving task later (.behind reply.outcome)),
        shared.behind shared.work timed) := by
  have step {stage : CallStage} {state : Worker × Shared α ω σ}
      (stands : state.1.place = .serving task later stage) :
      Reaches (alone setting index clock) state
        (serve setting index ⟨clock state.2.world, choices⟩ task later stage state.1 state.2) :=
    .single choices (by simp only [alone, advance?, stands])
  refine (@step .calling (worker, shared) stands).trans ((step rfl).trans ?_)
  rcases answer : setting.clients.call index task.call shared.world with ⟨reply, world⟩
  simp only [serve, answer, Shared.timed]
  cases outcome : reply.outcome with
  | error fault =>
    dsimp only
    rw [outcome]
    exact .refl
  | ok status =>
    dsimp only
    rw [outcome]
    refine (step rfl).trans ((step rfl).trans ((step rfl).trans ?_))
    exact .refl

/-- A call and what the workload makes of it, if nobody interrupts. -/
theorem reaches_settled {task : Mix.Task} {later : List Mix.Task} {reply : Store.Reply}
    {timed : Timed α σ} {plan : Mix.Plan} {work : ω} (choices : Mix.Choices)
    (called : Timed.call setting.clients clock index task.call shared.timed = (reply, timed))
    (settles : setting.workload.settle index task later reply shared.work = (plan, work)) :
    Reaches (alone setting index clock) (worker.proceed (task :: later), shared)
      ((worker.hear reply).goOn plan, shared.behind work timed) := by
  have reaches := @reaches_call _ _ _ _ setting index clock (worker.proceed (task :: later)) shared
    task later choices rfl
  rw [called] at reaches
  refine reaches.trans (.single choices ?_)
  have kept : reply.results.reply reply.outcome = reply := rfl
  cases outcome : reply.outcome with
  | ok status | error fault =>
    rw [outcome] at kept
    simp only [alone, advance?, serve, settle, goTo, hear, CallStage.behind, Shared.behind, kept,
      settles]
    rcases plan with ⟨_ | ⟨next, others⟩⟩ | reason <;> rfl

/-- The calls of a step are carried out one after the other, if nobody interrupts. -/
theorem reaches_carryOut (choices : Mix.Choices) (tasks : List Mix.Task) (worker : Worker)
    (shared : Shared α ω σ) :
    let (result, work, timed) := setting.workload.carryOut
      (Timed.call setting.clients clock index) index tasks shared.work shared.timed
    ∃ results, Reaches (alone setting index clock) (worker.proceed tasks, shared)
      (({ worker with results } : Worker).conclude result, shared.behind work timed) := by
  induction length : tasks.length using Nat.strongRecOn generalizing tasks worker shared with
  | ind count inductionHypothesis =>
    cases tasks with
    | nil =>
      rw [Mix.Workload.carryOut]
      exact ⟨worker.results, .refl⟩
    | cons task later =>
      rcases called : Timed.call setting.clients clock index task.call shared.timed with
        ⟨reply, timed⟩
      rcases settles : setting.workload.settle index task later reply shared.work with ⟨plan, work⟩
      have reaches := @reaches_settled _ _ _ _ setting index clock worker shared _ _ _ _ _ _ choices
        called settles
      cases plan with
      | stop reason =>
        rw [setting.workload.carryOut_of_stop (by rw [called]; exact settles), called]
        exact ⟨reply.results, reaches⟩
      | tasks tasks =>
        rw [setting.workload.carryOut_of_tasks (by rw [called]; exact settles), called]
        have fewer := setting.workload.settle_le (congrArg Prod.fst settles)
        have others := inductionHypothesis tasks.length (by simp at length; omega) tasks
          (worker.hear reply) (shared.behind work timed) rfl
        obtain ⟨results, rest⟩ := others
        exact ⟨results, reaches.trans rest⟩

/-- **An operation that nobody interrupts is a step of the workload** on a store with a meter around
it: the worker goes on with its next iteration, or is stopped. -/
theorem reaches_perform (choices : Mix.Choices) (stands : worker.place = .planning) :
    let (result, work, timed) := setting.workload.perform
      (Timed.call setting.clients clock index) index (setting.stepOf worker.iteration) choices
      shared.work shared.timed
    ∃ results, Reaches (alone setting index clock) (worker, shared)
      (({ worker with results } : Worker).conclude result, shared.behind work timed) := by
  rw [Mix.Workload.perform]
  rcases plan : setting.workload.plan index (setting.stepOf worker.iteration) choices shared.work
    with ⟨tasks | reason, work⟩
  · have planned : Reaches (alone setting index clock) (worker, shared)
        (worker.proceed tasks, { shared with work }) :=
      .single choices (by simp only [alone, advance?, stands, plan])
    obtain ⟨results, rest⟩ := reaches_carryOut choices tasks worker { shared with work }
    exact ⟨results, planned.trans rest⟩
  · refine ⟨worker.results, .single choices ?_⟩
    simp only [alone, advance?, stands, plan]
    rfl

theorem Advance.exit_eq_none {fate : Fate} {next : Worker} {after : Shared α ω σ}
    (advance : worker.Advance setting index fate shared next after) (runs : after.exit = none) :
    shared.exit = none := by
  cases advance with
  | exited => cases runs
  | _ => exact runs

end Worker

/-- What a worker does on its own it can do in a phase, unless it ends the program. -/
theorem State.reaches_of_alone [Aggregate α] {setting : Setting ω σ} {index : Nat}
    {clock : σ → UInt64} {state : State α ω σ} {worker next : Worker} {after : Shared α ω σ}
    (spawned : index < state.spawned) (found : state.workers[index]? = some worker)
    (reaches : Reaches (Worker.alone setting index clock) (worker, state.shared) (next, after))
    (runs : after.exit = none) :
    Reaches (State.step setting) state
      { state with workers := state.workers.set index next, shared := after } := by
  have inside := (List.getElem?_eq_some_iff.1 found).1
  generalize finish : (next, after) = final at reaches
  induction reaches generalizing next after with
  | refl =>
    cases finish
    obtain ⟨_, rfl⟩ := List.getElem?_eq_some_iff.1 found
    rw [List.set_getElem_self]
    exact .refl
  | @tail before _ path choices advances inductionHypothesis =>
    obtain ⟨party, shared⟩ := before
    cases finish
    have runsBefore := (Worker.advance_of_advance? advances).exit_eq_none runs
    let middle : State α ω σ := { state with workers := state.workers.set index party, shared }
    have steps : State.step setting (.worker index ⟨clock shared.world, choices⟩) middle =
        some { middle with workers := middle.workers.set index next, shared := after } :=
      step_of_advance? runsBefore spawned (List.getElem?_set_self inside) advances
    rw [show middle.workers.set index next = state.workers.set index next from List.set_set ..]
      at steps
    exact .tail (inductionHypothesis runsBefore rfl) _ steps

/-- A phase can make an operation as a whole. -/
theorem State.reaches_operation [Aggregate α] {setting : Setting ω σ} {index : Nat}
    (clock : σ → UInt64) (choices : Mix.Choices) {state : State α ω σ} {worker : Worker}
    (runs : state.shared.exit = none) (spawned : index < state.spawned)
    (found : state.workers[index]? = some worker) (stands : worker.place = .planning) :
    let (result, work, timed) := setting.workload.perform
      (Timed.call setting.clients clock index) index (setting.stepOf worker.iteration) choices
      state.shared.work state.shared.timed
    ∃ results, Reaches (State.step setting) state
      { state with
        workers := state.workers.set index (({ worker with results } : Worker).conclude result)
        shared := state.shared.behind work timed } := by
  obtain ⟨results, reaches⟩ :=
    @Worker.reaches_perform _ _ _ _ setting index clock worker state.shared choices stands
  exact ⟨results, State.reaches_of_alone spawned found reaches runs⟩

end StoreBench.Phase
