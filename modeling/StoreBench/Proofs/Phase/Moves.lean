import StoreBench.Phase.Script

/-!
Contract: everything that a move of a phase can do.

Owns:
- `Worker.Advance`, the steps of a worker by name, each with what it finds and what it leaves;
- `State.Fires`, the moves of a phase by name;
- the inversion of the functions that compute them;
- the script and the turns that single runs are made of.

Does not own: what any number of moves keeps.
-/

namespace StoreBench.Phase

open Latency

variable {α ω σ : Type} [Aggregate α]

/-! ## Steps of a worker -/

/-- A step of worker number `index`, by what it does. -/
inductive Worker.Advance (setting : Setting ω σ) (index : Nat) (fate : Fate) (worker : Worker)
    (shared : Shared α ω σ) : Worker → Shared α ω σ → Prop
  | opened {world : σ} (stands : worker.place = .opening)
      (answer : setting.clients.init index shared.world = (.ok (), world)) :
      Advance setting index fate worker shared (worker.goTo .looping) { shared with world }
  | openingFailed {fault : Failure} {world : σ} (stands : worker.place = .opening)
      (answer : setting.clients.init index shared.world = (.error fault, world)) :
      Advance setting index fate worker shared (worker.stop (.failed fault)) { shared with world }
  | reachedGate (stands : worker.place = .looping) (hasPlace : worker.hasPlace = true)
      (due : worker.iteration = setting.warmup.toNat ∨
        (setting.operations.getD index 0).toNat ≤ worker.iteration) :
      Advance setting index fate worker shared (worker.goTo .arriving) shared
  | wentOn (stands : worker.place = .looping)
      (unfinished : worker.iteration < (setting.operations.getD index 0).toNat)
      (early : worker.hasPlace = true → worker.iteration ≠ setting.warmup.toNat) :
      Advance setting index fate worker shared (worker.goTo .throttling) shared
  | performedAll (stands : worker.place = .looping) (hasPlace : worker.hasPlace = false)
      (finished : (setting.operations.getD index 0).toNat ≤ worker.iteration) :
      Advance setting index fate worker shared (worker.goTo .closing) shared
  | arrived (stands : worker.place = .arriving) :
      Advance setting index fate worker shared
        { worker with place := .waiting, hasPlace := false }
        { shared with gate := shared.gate.countDown }
  | passed (stands : worker.place = .waiting) (isOpen : shared.gate.isOpen = true) :
      Advance setting index fate worker shared (worker.goTo .claiming) shared
  | won (stands : worker.place = .claiming) (first : shared.gate.started = false) :
      Advance setting index fate worker shared (worker.goTo .starting)
        { shared with gate := { shared.gate with started := true } }
  | lost (stands : worker.place = .claiming) (late : shared.gate.started = true) :
      Advance setting index fate worker shared (worker.goTo .looping)
        { shared with gate := { shared.gate with started := true } }
  | started (stands : worker.place = .starting) :
      Advance setting index fate worker shared (worker.goTo .looping)
        { shared with
          gate := shared.gate.start, stopwatch := shared.stopwatch.start fate.now }
  | throttled (stands : worker.place = .throttling) :
      Advance setting index fate worker shared (worker.goTo .planning) shared
  | planStopped {reason : Stop} {work : ω} (stands : worker.place = .planning)
      (plan : setting.workload.plan index (setting.stepOf worker.iteration) fate.choices
        shared.work = (.stop reason, work)) :
      Advance setting index fate worker shared (worker.stop reason) { shared with work }
  | planned {tasks : List Mix.Task} {work : ω} (stands : worker.place = .planning)
      (plan : setting.workload.plan index (setting.stepOf worker.iteration) fate.choices
        shared.work = (.tasks tasks, work)) :
      Advance setting index fate worker shared (worker.proceed tasks) { shared with work }
  | clockRead {task : Mix.Task} {later : List Mix.Task}
      (stands : worker.place = .serving task later .calling) :
      Advance setting index fate worker shared
        (worker.goTo (.serving task later (.underway fate.now))) shared
  | answered {task : Mix.Task} {later : List Mix.Task} {before : UInt64} {reply : Store.Reply}
      {world : σ} {status : Status} (stands : worker.place = .serving task later (.underway before))
      (answer : setting.clients.call index task.call shared.world = (reply, world))
      (outcome : reply.outcome = .ok status) :
      Advance setting index fate worker shared
        ((worker.hear reply).goTo (.serving task later (.returned before status)))
        { shared with world }
  | callFailed {task : Mix.Task} {later : List Mix.Task} {before : UInt64} {reply : Store.Reply}
      {world : σ} {fault : Failure} (stands : worker.place = .serving task later (.underway before))
      (answer : setting.clients.call index task.call shared.world = (reply, world))
      (outcome : reply.outcome = .error fault) :
      Advance setting index fate worker shared
        ((worker.hear reply).goTo (.serving task later (.failed fault))) { shared with world }
  | timed {task : Mix.Task} {later : List Mix.Task} {before : UInt64} {status : Status}
      (stands : worker.place = .serving task later (.returned before status)) :
      Advance setting index fate worker shared
        (worker.goTo (.serving task later (.timed status (elapsedBetween before fate.now)))) shared
  | numbered {task : Mix.Task} {later : List Mix.Task} {status : Status} {elapsed : UInt64}
      (stands : worker.place = .serving task later (.timed status elapsed)) :
      Advance setting index fate worker shared
        (worker.goTo (.serving task later (.filing status elapsed shared.tracker.claim.1)))
        { shared with tracker := shared.tracker.claim.2 }
  | filed {task : Mix.Task} {later : List Mix.Task} {status : Status} {elapsed : UInt64}
      {warmup : Bool}
      (stands : worker.place = .serving task later (.filing status elapsed warmup)) :
      Advance setting index fate worker shared
        (worker.goTo (.serving task later (.settling status)))
        { shared with
          meter := file warmup (task.call.operation.slot status) elapsed shared.meter }
  | settled {task : Mix.Task} {later tasks : List Mix.Task} {status : Status} {work : ω}
      (stands : worker.place = .serving task later (.settling status))
      (settles : setting.workload.settle index task later (worker.results.reply (.ok status))
        shared.work = (.tasks tasks, work)) :
      Advance setting index fate worker shared (worker.proceed tasks) { shared with work }
  | settlingStopped {task : Mix.Task} {later : List Mix.Task} {status : Status} {reason : Stop}
      {work : ω} (stands : worker.place = .serving task later (.settling status))
      (settles : setting.workload.settle index task later (worker.results.reply (.ok status))
        shared.work = (.stop reason, work)) :
      Advance setting index fate worker shared (worker.stop reason) { shared with work }
  | overlooked {task : Mix.Task} {later tasks : List Mix.Task} {fault : Failure} {work : ω}
      (stands : worker.place = .serving task later (.failed fault))
      (settles : setting.workload.settle index task later (worker.results.reply (.error fault))
        shared.work = (.tasks tasks, work)) :
      Advance setting index fate worker shared (worker.proceed tasks) { shared with work }
  | passedOn {task : Mix.Task} {later : List Mix.Task} {fault : Failure} {reason : Stop}
      {work : ω} (stands : worker.place = .serving task later (.failed fault))
      (settles : setting.workload.settle index task later (worker.results.reply (.error fault))
        shared.work = (.stop reason, work)) :
      Advance setting index fate worker shared (worker.stop reason) { shared with work }
  | closed {world : σ} (stands : worker.place = .closing)
      (answer : setting.clients.cleanup index shared.world = (.ok (), world)) :
      Advance setting index fate worker shared
        (worker.finish (.ok (setting.operations.getD index 0))) { shared with world }
  | closingFailed {fault : Failure} {world : σ} (stands : worker.place = .closing)
      (answer : setting.clients.cleanup index shared.world = (.error fault, world)) :
      Advance setting index fate worker shared (worker.stop (.failed fault)) { shared with world }
  | gaveUp (stands : worker.place = .leavingGate) (hasPlace : worker.hasPlace = true) :
      Advance setting index fate worker shared
        { worker with place := .leaving, hasPlace := false }
        { shared with gate := shared.gate.countDown }
  | keptNothing (stands : worker.place = .leavingGate) (hasPlace : worker.hasPlace = false) :
      Advance setting index fate worker shared (worker.goTo .leaving) shared
  | leftToExit {fault : Failure} (stands : worker.place = .leaving) (exits : setting.exits = true)
      (outcome : worker.outcome = some (.error (.failed fault))) :
      Advance setting index fate worker shared (worker.goTo .exiting)
        { shared with done := shared.done.countDown }
  | left (stands : worker.place = .leaving)
      (stays : setting.exits = false ∨ ∀ fault, worker.outcome ≠ some (.error (.failed fault))) :
      Advance setting index fate worker shared (worker.goTo .ended)
        { shared with done := shared.done.countDown }
  | exited {fault : Failure} (stands : worker.place = .exiting)
      (outcome : worker.outcome = some (.error (.failed fault))) :
      Advance setting index fate worker shared (worker.goTo .ended)
        { shared with exit := some (fault.inWorker index) }
  | exitedUnharmed (stands : worker.place = .exiting)
      (outcome : ∀ fault, worker.outcome ≠ some (.error (.failed fault))) :
      Advance setting index fate worker shared (worker.goTo .ended) shared

theorem Worker.advance_of_serve {setting : Setting ω σ} {index : Nat} {fate : Fate}
    {worker : Worker} {shared : Shared α ω σ} {task : Mix.Task} {later : List Mix.Task}
    {stage : CallStage} (stands : worker.place = .serving task later stage) :
    Worker.Advance setting index fate worker shared
      (serve setting index fate task later stage worker shared).1
      (serve setting index fate task later stage worker shared).2 := by
  cases stage with
  | calling => exact .clockRead stands
  | underway before =>
    simp only [serve]
    split
    · next fault outcome => exact .callFailed stands rfl outcome
    · next status outcome => exact .answered stands rfl outcome
  | returned before status => exact .timed stands
  | timed status elapsed => exact .numbered stands
  | filing status elapsed warmup => exact .filed stands
  | settling status =>
    simp only [serve, settle]
    split
    · next reason work settles => exact .settlingStopped stands settles
    · next tasks work settles => exact .settled stands settles
  | failed fault =>
    simp only [serve, settle]
    split
    · next reason work settles => exact .passedOn stands settles
    · next tasks work settles => exact .overlooked stands settles

/-- Whatever is computed as the next step of a worker is one of its steps. -/
theorem Worker.advance_of_advance? {setting : Setting ω σ} {index : Nat} {fate : Fate}
    {worker next : Worker} {shared after : Shared α ω σ}
    (advances : worker.advance? setting index fate shared = some (next, after)) :
    Worker.Advance setting index fate worker shared next after := by
  unfold advance? at advances
  cases stands : worker.place with
  | opening =>
    simp only [stands] at advances
    split at advances
    · next world answer =>
      cases advances
      exact .opened stands answer
    · next fault world answer =>
      cases advances
      exact .openingFailed stands answer
  | looping =>
    simp only [stands, nextPlace] at advances
    cases advances
    by_cases unfinished : worker.iteration < (setting.operations.getD index 0).toNat
    · rw [if_pos unfinished]
      by_cases due : worker.hasPlace = true ∧ worker.iteration = setting.warmup.toNat
      · rw [if_pos due]
        exact .reachedGate stands due.1 (.inl due.2)
      · rw [if_neg due]
        exact .wentOn stands unfinished fun hasPlace boundary => due ⟨hasPlace, boundary⟩
    · rw [if_neg unfinished]
      by_cases hasPlace : worker.hasPlace = true
      · rw [if_pos hasPlace]
        exact .reachedGate stands hasPlace (.inr (Nat.not_lt.1 unfinished))
      · rw [if_neg hasPlace]
        exact .performedAll stands (Bool.eq_false_iff.2 hasPlace) (Nat.not_lt.1 unfinished)
  | arriving =>
    simp only [stands] at advances
    cases advances
    exact .arrived stands
  | waiting =>
    simp only [stands] at advances
    split at advances
    · next isOpen =>
      cases advances
      exact .passed stands isOpen
    · cases advances
  | claiming =>
    simp only [stands] at advances
    cases advances
    by_cases late : shared.gate.started = true
    · rw [if_neg (by simp [Sync.WarmupGate.claim, late])]
      exact .lost stands late
    · rw [if_pos (by simp [Sync.WarmupGate.claim, late])]
      exact .won stands (Bool.eq_false_iff.2 late)
  | starting =>
    simp only [stands] at advances
    cases advances
    exact .started stands
  | throttling =>
    simp only [stands] at advances
    cases advances
    exact .throttled stands
  | planning =>
    simp only [stands] at advances
    split at advances
    · next reason work plan =>
      cases advances
      exact .planStopped stands plan
    · next tasks work plan =>
      cases advances
      exact .planned stands plan
  | serving task later stage =>
    simp only [stands, Option.some.injEq] at advances
    have step : worker.Advance setting index fate shared _ _ := advance_of_serve stands
    rw [advances] at step
    exact step
  | closing =>
    simp only [stands] at advances
    split at advances
    · next world answer =>
      cases advances
      exact .closed stands answer
    · next fault world answer =>
      cases advances
      exact .closingFailed stands answer
  | leavingGate =>
    simp only [stands] at advances
    split at advances
    · next hasPlace =>
      cases advances
      exact .gaveUp stands hasPlace
    · next hasPlace =>
      cases advances
      exact .keptNothing stands (Bool.eq_false_iff.2 hasPlace)
  | leaving =>
    by_cases fails : ∃ fault, worker.outcome = some (.error (.failed fault))
    · obtain ⟨fault, outcome⟩ := fails
      simp only [stands, outcome, Bool.and_true] at advances
      cases advances
      by_cases exits : setting.exits = true
      · rw [if_pos exits]
        exact .leftToExit stands exits outcome
      · rw [if_neg exits]
        exact .left stands (.inl (Bool.eq_false_iff.2 exits))
    · have unharmed : ∀ fault, worker.outcome ≠ some (.error (.failed fault)) :=
        fun fault outcome => fails ⟨fault, outcome⟩
      simp only [stands, Bool.and_false, Bool.false_eq_true, if_false] at advances
      cases advances
      exact .left stands (.inr unharmed)
  | exiting =>
    simp only [stands] at advances
    split at advances
    · next outcome =>
      cases advances
      exact .exited stands outcome
    · next unharmed =>
      cases advances
      exact .exitedUnharmed stands fun fault outcome => unharmed fault outcome
  | ended =>
    simp only [stands] at advances
    cases advances

/-! ## Moves of a phase -/

/-- A move of a phase, by what it does. -/
inductive State.Fires (setting : Setting ω σ) (state : State α ω σ) : Move → State α ω σ → Prop
  | worker {index : Nat} {fate : Fate} {worker next : Worker} {shared : Shared α ω σ}
      (spawned : index < state.spawned) (found : state.workers[index]? = some worker)
      (advance : worker.Advance setting index fate state.shared next shared) :
      Fires setting state (.worker index fate)
        { state with workers := state.workers.set index next, shared }
  | spawned (unstarted : state.isStarted = false) :
      Fires setting state (.spawn none) { state with spawned := state.spawned + 1 }
  | stoodIn {fault : Failure} (unstarted : state.isStarted = false) :
      Fires setting state (.spawn (some fault)) (state.standIn fault)
  | joined (started : state.isStarted = true) (behind : state.joined < state.spawned)
      (ended : state.hasEnded state.joined = true) :
      Fires setting state .join { state with joined := state.joined + 1 }
  | timeStopped {now : UInt64} (started : state.isStarted = true)
      (all : state.joined = state.spawned) (running : state.elapsed = none) :
      Fires setting state (.stopTime now)
        { state with elapsed := some (state.shared.stopwatch.elapsed now) }
  | concluded (stopped : state.elapsed.isSome = true) (silent : state.reporter.place = .ended)
      (pending : state.returned = false) :
      Fires setting state .conclude { state with returned := true }
  | roused (rests : state.reporter.place = .resting) :
      Fires setting state .rouse
        { state with
          reporter := { state.reporter with
            place := .writing state.shared.done.isOpen
            timeouts := state.reporter.timeouts + if state.shared.done.isOpen then 0 else 1 } }
  | wrote {last : Bool} (writes : state.reporter.place = .writing last) :
      Fires setting state .write
        { state with
          reporter := { state.reporter with
            place := if last then .ended else .resting
            lines := state.reporter.lines + 1
            shown := some state.shared.meter } }

theorem State.fires_of_step {setting : Setting ω σ} {move : Move} {before after : State α ω σ}
    (steps : State.step setting move before = some after) :
    before.shared.exit = none ∧ State.Fires setting before move after := by
  rw [step] at steps
  split at steps
  · cases steps
  next runs =>
  refine ⟨by simpa using runs, ?_⟩
  cases move with
  | worker index fate =>
    rw [act] at steps
    obtain ⟨_, spawned, rest⟩ := Option.bind_eq_some_iff.1 steps
    obtain ⟨worker, found, rest⟩ := Option.bind_eq_some_iff.1 rest
    obtain ⟨⟨next, shared⟩, advances, rest⟩ := Option.bind_eq_some_iff.1 rest
    cases rest
    have below : index < before.spawned := by
      change (if index < before.spawned then some () else none) = some _ at spawned
      split at spawned
      · next below => exact below
      · cases spawned
    exact .worker below found (Worker.advance_of_advance? advances)
  | spawn fault =>
    simp only [act] at steps
    split at steps
    · cases steps
    next unstarted =>
    cases fault with
    | none =>
      cases steps
      exact .spawned (Bool.eq_false_iff.2 unstarted)
    | some fault =>
      cases steps
      exact .stoodIn (Bool.eq_false_iff.2 unstarted)
  | join =>
    simp only [act] at steps
    split at steps
    · next ready =>
      simp only [Bool.and_eq_true, decide_eq_true_eq] at ready
      cases steps
      exact .joined ready.1.1 ready.1.2 ready.2
    · cases steps
  | stopTime now =>
    simp only [act] at steps
    split at steps
    · next ready =>
      simp only [Bool.and_eq_true, beq_iff_eq, Option.isNone_iff_eq_none] at ready
      cases steps
      exact .timeStopped ready.1.1 ready.1.2 ready.2
    · cases steps
  | conclude =>
    simp only [act] at steps
    split at steps
    · next ready =>
      simp only [Bool.and_eq_true, beq_iff_eq, Bool.not_eq_true'] at ready
      cases steps
      exact .concluded ready.1.1 ready.1.2 ready.2
    · cases steps
  | rouse =>
    simp only [act] at steps
    split at steps
    · next rests =>
      cases steps
      exact .roused rests
    · cases steps
  | write =>
    simp only [act] at steps
    split at steps
    · next last writes =>
      cases steps
      exact .wrote writes
    · cases steps

/-- A worker that was started can make its steps while the program runs. -/
theorem State.step_of_advance? {setting : Setting ω σ} {index : Nat} {fate : Fate}
    {state : State α ω σ} {worker next : Worker} {shared : Shared α ω σ}
    (runs : state.shared.exit = none) (spawned : index < state.spawned)
    (found : state.workers[index]? = some worker)
    (advances : worker.advance? setting index fate state.shared = some (next, shared)) :
    State.step setting (.worker index fate) state =
      some { state with workers := state.workers.set index next, shared } := by
  have begun : (guard (index < state.spawned) : Option Unit) = some () := if_pos spawned
  rw [step, runs, Option.isSome_none, if_neg Bool.false_ne_true, act, begun, found]
  simp only [Option.bind_eq_bind, Option.bind_some, advances]

/-! ## Single runs -/

/-- Every operation reads, and every read answers at once that all is well; the stores of the
workers `broken` cannot be opened. -/
def Script.reads (broken : List Nat) : Script where
  lines := [⟨.read, 0, .ok .ok⟩]
  callsPerStep := 1
  upsets := []
  failingInits := broken
  failingCleanups := []
  failingBuild := none

/-- A worker makes a number of steps, at time zero. -/
def Move.turns (index steps : Nat) : List Move :=
  List.replicate steps (.worker index ⟨0, 0, fun _ => 0⟩)

end StoreBench.Phase
