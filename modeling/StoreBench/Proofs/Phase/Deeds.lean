import StoreBench.Proofs.Phase.Positions
import StoreBench.Proofs.Scheduling

/-!
Contract: the histories of the workers of a phase.

A worker opens its store, performs its operations one after the other, and closes its store.
It may be stopped on the way, and then it does nothing more.  So its history is known from its
outcome and the number of its iterations.

Owns:
- `Deed`, and the histories of all workers along a schedule;
- `Worker.Did`, the histories that a worker can have;
- `State.Recorded`, which every move keeps.

Does not own: what a phase makes of the outcomes of its workers.
-/

namespace StoreBench.Phase

open Latency

variable {α ω σ : Type}

/-- An entry in the history of a worker. -/
inductive Deed
  | opened
  | performed (iteration : Nat)
  | closed
  /-- Its routine was stopped. -/
  | stopped (reason : Stop)
  deriving DecidableEq, Repr

/-- The deeds of a worker that is about to perform operation number `iteration`, if any is left. -/
def Deed.upTo (iteration : Nat) : List Deed := .opened :: (List.range iteration).map .performed

theorem Deed.upTo_succ (iteration : Nat) :
    upTo (iteration + 1) = upTo iteration ++ [.performed iteration] := by
  rw [upTo, upTo, List.range_succ, List.map_append]
  rfl

/-- The deeds of one worker among those of all. -/
def deedsOf (index : Nat) (log : List (Nat × Deed)) : List Deed :=
  (log.filter fun entry => entry.1 = index).map Prod.snd

theorem deedsOf_append (index : Nat) (log more : List (Nat × Deed)) :
    deedsOf index (log ++ more) = deedsOf index log ++ deedsOf index more := by
  rw [deedsOf, List.filter_append, List.map_append]
  rfl

theorem deedsOf_map_self (index : Nat) (deeds : List Deed) :
    deedsOf index (deeds.map (index, ·)) = deeds := by
  rw [deedsOf, List.filter_eq_self.2 (by simp), List.map_map]
  exact List.map_id _

theorem deedsOf_map_of_ne {index other : Nat} (different : other ≠ index) (deeds : List Deed) :
    deedsOf index (deeds.map (other, ·)) = [] := by
  rw [deedsOf, List.filter_eq_nil_iff.2 (by simp [different])]
  rfl

/-! ## One worker -/

namespace Worker

/-- What is added to the history of a worker whose iteration goes on like this. -/
def deedOf (iteration : Nat) : Mix.Plan → Option Deed
  | .stop reason => some (.stopped reason)
  | .tasks tasks => if tasks = [] then some (.performed iteration) else none

/-- What the next step of the worker adds to its history. -/
def deed? (setting : Setting ω σ) (index : Nat) (fate : Fate) (shared : Shared α ω σ)
    (worker : Worker) : Option Deed :=
  match worker.place with
  | .opening =>
    match (setting.clients.init index shared.world).1 with
    | .ok () => some .opened
    | .error fault => some (.stopped (.failed fault))
  | .planning =>
    deedOf worker.iteration
      (setting.workload.plan index (setting.stepOf worker.iteration) fate.choices shared.work).1
  | .serving task later (.settling status) =>
    deedOf worker.iteration (setting.workload.settle index task later
      (worker.results.reply (.ok status)) shared.work).1
  | .serving task later (.failed fault) =>
    deedOf worker.iteration (setting.workload.settle index task later
      (worker.results.reply (.error fault)) shared.work).1
  | .closing =>
    match (setting.clients.cleanup index shared.world).1 with
    | .ok () => some .closed
    | .error fault => some (.stopped (.failed fault))
  | _ => none

/-- The histories that a worker of so many operations can have. -/
inductive Did (operations : UInt64) (worker : Worker) : List Deed → Prop
  | nothing (stands : worker.place = .opening) (routine : worker.outcome = none)
      (first : worker.iteration = 0) : Did operations worker []
  | begun (opened : worker.place ≠ .opening) (routine : worker.outcome = none) :
      Did operations worker (Deed.upTo worker.iteration)
  | all (outcome : worker.outcome = some (.ok operations))
      (performed : worker.iteration = operations.toNat) :
      Did operations worker (Deed.upTo worker.iteration ++ [.closed])
  | refused {reason : Stop} (outcome : worker.outcome = some (.error reason)) :
      Did operations worker [.stopped reason]
  | stopped {reason : Stop} (outcome : worker.outcome = some (.error reason)) :
      Did operations worker (Deed.upTo worker.iteration ++ [.stopped reason])

variable {operations : UInt64} {worker next : Worker} {deeds : List Deed}

theorem Did.of_opening (did : worker.Did operations deeds) (stands : worker.place = .opening)
    (routine : worker.outcome = none) : worker.iteration = 0 ∧ deeds = [] := by
  cases did with
  | nothing _ _ first => exact ⟨first, rfl⟩
  | begun opened => exact absurd stands opened
  | all outcome | refused outcome | stopped outcome =>
    rw [outcome] at routine
    cases routine

theorem Did.of_begun (did : worker.Did operations deeds) (opened : worker.place ≠ .opening)
    (routine : worker.outcome = none) : deeds = Deed.upTo worker.iteration := by
  cases did with
  | nothing stands => exact absurd stands opened
  | begun => rfl
  | all outcome | refused outcome | stopped outcome =>
    rw [outcome] at routine
    cases routine

/-- A worker has failed exactly if its history says that it was stopped. -/
theorem Did.stopped_mem_iff (did : worker.Did operations deeds) {reason : Stop} :
    .stopped reason ∈ deeds ↔ worker.outcome = some (.error reason) := by
  have unstopped : .stopped reason ∉ Deed.upTo worker.iteration := by simp [Deed.upTo]
  cases did with
  | nothing _ routine | begun _ routine => simp [routine, unstopped]
  | all outcome => simp [outcome, unstopped]
  | refused outcome | stopped outcome => simp [outcome, unstopped, eq_comm]

/-- A step within an iteration, or after the routine. -/
theorem Did.pass (did : worker.Did operations deeds) (opened : worker.place ≠ .opening)
    (stays : next.place ≠ .opening) (outcome : next.outcome = worker.outcome)
    (iteration : next.iteration = worker.iteration) : next.Did operations deeds := by
  cases did with
  | nothing stands => exact absurd stands opened
  | begun _ routine =>
    rw [← iteration]
    exact .begun stays (outcome.trans routine)
  | all ended performed =>
    rw [← iteration]
    exact .all (outcome.trans ended) (iteration.trans performed)
  | refused ended => exact .refused (outcome.trans ended)
  | stopped ended =>
    rw [← iteration]
    exact .stopped (outcome.trans ended)

/-- An iteration goes on, or it was the operation that is now performed. -/
theorem Did.proceed (did : worker.Did operations deeds) (opened : worker.place ≠ .opening)
    (routine : worker.outcome = none) (tasks : List Mix.Task) :
    (worker.proceed tasks).Did operations
      (deeds ++ (deedOf worker.iteration (.tasks tasks)).toList) := by
  rw [deedOf]
  cases tasks with
  | cons task later =>
    rw [if_neg (List.cons_ne_nil task later), Option.toList_none, List.append_nil]
    exact did.pass opened Place.noConfusion rfl rfl
  | nil =>
    rw [if_pos rfl, did.of_begun opened routine, Option.toList_some, ← Deed.upTo_succ]
    exact .begun Place.noConfusion routine

theorem Did.stop (did : worker.Did operations deeds) (opened : worker.place ≠ .opening)
    (routine : worker.outcome = none) (reason : Stop) :
    (worker.stop reason).Did operations
      (deeds ++ (deedOf worker.iteration (.stop reason)).toList) := by
  show (worker.stop reason).Did operations (deeds ++ [.stopped reason])
  rw [did.of_begun opened routine]
  exact @Did.stopped operations (worker.stop reason) reason rfl

theorem Fits.routine {warmup operations : Nat} {isOpen : Bool}
    (fits : worker.Fits warmup operations isOpen)
    (running : worker.place = .opening ∨ worker.place = .planning ∨ worker.place = .closing ∨
      ∃ task later stage, worker.place = .serving task later stage) : worker.outcome = none := by
  unfold Fits at fits
  rcases running with stands | stands | stands | ⟨task, later, stage, stands⟩
  all_goals
    rw [stands] at fits
    exact fits.1

section
variable [Aggregate α] {setting : Setting ω σ} {index warmup : Nat} {fate : Fate}
  {shared after : Shared α ω σ} {isOpen : Bool}

theorem Advance.did (advance : worker.Advance setting index fate shared next after)
    (fits : worker.Fits warmup (setting.operations.getD index 0).toNat isOpen)
    (did : worker.Did (setting.operations.getD index 0) deeds) :
    next.Did (setting.operations.getD index 0)
      (deeds ++ (worker.deed? setting index fate shared).toList) := by
  have atWork (task : Mix.Task) (later : List Mix.Task) (stage : CallStage)
      (stands : worker.place = .serving task later stage) : worker.outcome = none :=
    fits.routine (.inr (.inr (.inr ⟨task, later, stage, stands⟩)))
  cases advance with
  | opened stands answer =>
    have routine := fits.routine (.inl stands)
    obtain ⟨first, rfl⟩ := did.of_opening stands routine
    have begins : (worker.goTo .looping).Did (setting.operations.getD index 0)
        (Deed.upTo worker.iteration) := .begun Place.noConfusion routine
    simp only [deed?, stands, answer]
    rw [first] at begins
    exact begins
  | openingFailed stands answer =>
    obtain ⟨_, rfl⟩ := did.of_opening stands (fits.routine (.inl stands))
    simp only [deed?, stands, answer]
    exact .refused rfl
  | planStopped stands plan =>
    simp only [deed?, stands, plan]
    exact did.stop (by simp [stands]) (fits.routine (.inr (.inl stands))) _
  | planned stands plan =>
    have opened : worker.place ≠ .opening := by simp [stands]
    simp only [deed?, stands, plan]
    exact did.proceed opened (fits.routine (.inr (.inl stands))) _
  | settled stands settles | overlooked stands settles =>
    have opened : worker.place ≠ .opening := by simp [stands]
    simp only [deed?, stands, settles]
    exact did.proceed opened (atWork _ _ _ stands) _
  | settlingStopped stands settles | passedOn stands settles =>
    simp only [deed?, stands, settles]
    exact did.stop (by simp [stands]) (atWork _ _ _ stands) _
  | closed stands answer =>
    have opened : worker.place ≠ .opening := by simp [stands]
    have routine := fits.routine (.inr (.inr (.inl stands)))
    have performed : worker.iteration = (setting.operations.getD index 0).toNat := by
      unfold Fits at fits
      rw [stands] at fits
      exact fits.2.1
    have ends : (worker.finish (.ok (setting.operations.getD index 0))).Did
        (setting.operations.getD index 0) (Deed.upTo worker.iteration ++ [.closed]) :=
      .all rfl performed
    simp only [deed?, stands, answer]
    rw [did.of_begun opened routine]
    exact ends
  | closingFailed stands answer =>
    simp only [deed?, stands, answer]
    exact did.stop (by simp [stands]) (fits.routine (.inr (.inr (.inl stands)))) _
  | clockRead stands | answered stands | callFailed stands | timed stands | numbered stands
  | filed stands | reachedGate stands | wentOn stands | performedAll stands | arrived stands
  | passed stands | won stands | lost stands | started stands | throttled stands | gaveUp stands
  | keptNothing stands | leftToExit stands | left stands | exited stands
  | exitedUnharmed stands =>
    have none : worker.deed? setting index fate shared = none := by simp [deed?, stands]
    rw [none, Option.toList_none, List.append_nil]
    exact did.pass (by simp [stands]) Place.noConfusion rfl rfl

end

end Worker

/-! ## All workers -/

namespace State

variable [Aggregate α] {setting : Setting ω σ} {state after : State α ω σ} {move : Move}
  {log : List (Nat × Deed)}

omit [Aggregate α] in
/-- What a move adds to the histories of the workers, with their numbers. -/
def deeds (setting : Setting ω σ) (move : Move) (state : State α ω σ) : List (Nat × Deed) :=
  match move with
  | .worker index fate =>
    (state.workers[index]?.bind (Worker.deed? setting index fate state.shared)).toList.map
      (index, ·)
  | _ => []

/-- The histories of all workers along a schedule, in one. -/
def deedsAlong (setting : Setting ω σ) (moves : List Move) (state : State α ω σ) :
    List (Nat × Deed) :=
  noteAlong (step setting) (deeds setting) moves state

/-- Every worker has one of the histories that it can have. -/
structure Recorded (setting : Setting ω σ) (log : List (Nat × Deed)) (state : State α ω σ) :
    Prop where
  inOrder : state.InOrder setting
  known : ∀ entry ∈ log, entry.1 < setting.workers
  did : ∀ {index : Nat} {worker : Worker}, state.workers[index]? = some worker →
    worker.Did (setting.operations.getD index 0) (deedsOf index log)

theorem Recorded.fires (recorded : state.Recorded setting log)
    (fires : state.Fires setting move after) :
    after.Recorded setting (log ++ state.deeds setting move) := by
  have inOrder := recorded.inOrder.fires fires
  cases fires with
  | @worker index fate worker next shared spawned found advance =>
    refine ⟨inOrder, ?_, fun {other member} got => ?_⟩
    · intro entry member
      rcases List.mem_append.1 member with old | new
      · exact recorded.known entry old
      · obtain ⟨deed, _, rfl⟩ := List.mem_map.1 new
        exact recorded.inOrder.lt_workers found
    · rw [deeds, found, Option.bind_some, deedsOf_append]
      rcases of_getElem?_set got with ⟨rfl, rfl⟩ | ⟨different, got⟩
      · rw [deedsOf_map_self]
        exact advance.did (recorded.inOrder.fits found) (recorded.did found)
      · rw [deedsOf_map_of_ne different, List.append_nil]
        exact recorded.did got
  | spawned | stoodIn | joined | timeStopped | concluded | roused | wrote =>
    simp only [deeds, List.append_nil]
    exact ⟨inOrder, recorded.known, recorded.did⟩

omit [Aggregate α] in
theorem recorded_opening (setting : Setting ω σ) (world : σ) (work : ω) (meter : Meter α)
    (now : UInt64) : (opening setting world work meter now).Recorded setting [] := by
  refine ⟨inOrder_opening setting world work meter now, nofun, fun found => ?_⟩
  rw [worker_opening (List.mem_of_getElem? found)]
  exact .nothing rfl rfl rfl

theorem Recorded.of_follow {world : σ} {work : ω} {meter : Meter α} {now : UInt64}
    {moves : List Move} (followed : follow (step setting) moves
      (opening setting world work meter now) = some state) :
    state.Recorded setting ((opening setting world work meter now).deedsAlong setting moves) :=
  noteAlong_invariant followed (recorded_opening setting world work meter now)
    fun recorded steps => recorded.fires (fires_of_step steps).2

omit [Aggregate α] in
/-- Whoever has a history is a worker of the phase. -/
theorem Recorded.exists_worker (recorded : state.Recorded setting log) {index : Nat} {deed : Deed}
    (member : deed ∈ deedsOf index log) : ∃ worker, state.workers[index]? = some worker := by
  obtain ⟨entry, kept, rfl⟩ := List.mem_map.1 member
  obtain ⟨listed, own⟩ := List.mem_filter.1 kept
  have inside := recorded.known entry listed
  rw [of_decide_eq_true own] at inside
  rw [Setting.workers, ← recorded.inOrder.size] at inside
  exact ⟨_, List.getElem?_eq_getElem inside⟩

end State

end StoreBench.Phase
