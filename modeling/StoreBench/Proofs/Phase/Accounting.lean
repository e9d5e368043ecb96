import StoreBench.Proofs.Latency.Tallies
import StoreBench.Proofs.Phase.Progress
import StoreBench.Proofs.Phase.WarmupRouting

/-!
Contract: the calls of a phase are all accounted for.

When every step makes one call and no store fails, an iteration is a call, and a worker that has
ended has made as many as it had operations.  Each call is filed once, in the cells or in the
warm-up counters, and the tracker has given out as many numbers of the warm-up as calls are filed
there or about to be.

Owns:
- `Store.Clients.Answering`, stores that answer every request with a status;
- `State.Tallied`, the invariant that ties the meter to the iterations of the workers;
- `Report.Accounts`, what the report of a phase says, and that it is so.

Does not own: that a phase comes to its end.
-/

namespace StoreBench.Phase

open Latency

variable {α ω σ : Type}

/-- Stores that open, close and answer every call with a status, whichever it is. -/
structure Answering (clients : Store.Clients σ) : Prop where
  init : ∀ index world, (clients.init index world).1 = .ok ()
  cleanup : ∀ index world, (clients.cleanup index world).1 = .ok ()
  call : ∀ index call world, ∃ status, (clients.call index call world).1.outcome = .ok status

namespace Tracker

/-- How many numbers of the warm-up are given out. -/
def given (tracker : Tracker) : Nat := min tracker.calls tracker.target.toNat

theorem given_claim (tracker : Tracker) :
    tracker.claim.2.given = tracker.given + tracker.claim.1.toNat := by
  rw [claim]
  split
  · by_cases early : tracker.calls < tracker.target.toNat
    · simp only [given, early, decide_true, Bool.toNat_true]
      omega
    · simp only [given, early, decide_false, Bool.toNat_false]
      omega
  · rfl

end Tracker

/-! ## One worker -/

namespace Worker

/-- No call of the worker has failed, and it is on its way or has performed all its operations. -/
structure Untroubled (operations : UInt64) (worker : Worker) : Prop where
  answered : ∀ task later fault, worker.place ≠ .serving task later (.failed fault)
  performed : worker.outcome = none ∨
    worker.outcome = some (.ok operations) ∧ worker.iteration = operations.toNat

/-- The number of its calls that are filed. -/
def filed (worker : Worker) : Nat :=
  match worker.place with
  | .serving _ _ (.settling _) => worker.iteration + 1
  | _ => worker.iteration

/-- The number of its calls that are about to be filed as warm-up. -/
def warming (worker : Worker) : Nat :=
  match worker.place with
  | .serving _ _ (.filing _ _ warmup) => warmup.toNat
  | _ => 0

variable {worker : Worker}

theorem untroubled_fresh (operations : UInt64) (hasPlace : Bool) :
    (fresh hasPlace).Untroubled operations where
  answered := fun _ _ _ stands => Place.noConfusion stands
  performed := .inl rfl

theorem Untroubled.unharmed {operations : UInt64} (untroubled : worker.Untroubled operations) :
    ¬ worker.Failed := by
  rcases untroubled.performed with routine | ⟨performed, _⟩
  · exact not_failed_of_routine routine
  · rintro ⟨reason, outcome⟩
    rw [performed] at outcome
    cases outcome

theorem Untroubled.overlooked?_eq_none {ω σ : Type} {operations : UInt64}
    (untroubled : worker.Untroubled operations) (setting : Setting ω σ) (index : Nat)
    (shared : Shared α ω σ) : worker.overlooked? setting index shared = none := by
  unfold overlooked?
  split
  · next stands => exact absurd stands (untroubled.answered _ _ _)
  · rfl

theorem warming_proceed (worker : Worker) (tasks : List Mix.Task) :
    (worker.proceed tasks).warming = 0 := by
  cases tasks with
  | nil => rfl
  | cons task later => rfl

variable [Aggregate α] {setting : Setting ω σ} {index : Nat} {fate : Fate} {next : Worker}
  {shared after : Shared α ω σ}

theorem Advance.not_serving_failed (advance : worker.Advance setting index fate shared next after)
    (answering : Answering setting.clients) (task : Mix.Task) (later : List Mix.Task)
    (fault : Failure) : next.place ≠ .serving task later (.failed fault) := by
  intro standsNext
  cases advance with
  | callFailed stands answer outcome =>
    obtain ⟨status, answers⟩ := answering.call index _ shared.world
    rw [answer, outcome] at answers
    cases answers
  | @planned tasks | @settled _ _ tasks | @overlooked _ _ tasks =>
    cases tasks <;> cases standsNext
  | _ => cases standsNext

/-- Where nothing fails no worker is stopped, and one that closes its store has performed all its
operations. -/
theorem Advance.untroubled (advance : worker.Advance setting index fate shared next after)
    (steady : setting.workload.Steady) (answering : Answering setting.clients)
    (fits : worker.Fits setting.warmup.toNat (setting.operations.getD index 0).toNat
      shared.gate.isOpen)
    (serves : worker.Serves setting index)
    (untroubled : worker.Untroubled (setting.operations.getD index 0)) :
    next.Untroubled (setting.operations.getD index 0) := by
  refine ⟨advance.not_serving_failed answering, ?_⟩
  unfold Fits at fits
  cases advance with
  -- what stops a worker is a failure of its store or of its workload, and there is none
  | openingFailed stands answer =>
    have opens := answering.init index shared.world
    rw [answer] at opens
    cases opens
  | closingFailed stands answer =>
    have closes := answering.cleanup index shared.world
    rw [answer] at closes
    cases closes
  | planStopped stands plan =>
    obtain ⟨task, single⟩ :=
      steady.single index (setting.stepOf worker.iteration) fate.choices shared.work
    rw [plan] at single
    cases single
  | settlingStopped stands settles =>
    obtain ⟨rfl, _⟩ := serves stands
    exact absurd (congrArg Prod.fst settles) (steady.succeeds rfl)
  | passedOn stands => exact absurd stands (untroubled.answered _ _ _)
  | @planned tasks _ stands | @settled _ _ tasks _ _ stands | @overlooked _ _ tasks _ _ stands =>
    rw [stands] at fits
    left
    cases tasks <;> exact fits.1
  | closed stands =>
    rw [stands] at fits
    exact .inr ⟨rfl, fits.2.1⟩
  | _ => exact untroubled.performed

/-- A call that is filed is one more in the meter, and an iteration in which a failure is overlooked
files none. -/
theorem Advance.filed_eq [Aggregate.Counts α]
    (advance : worker.Advance setting index fate shared next after)
    (oneCall : setting.workload.OneCall) (serves : worker.Serves setting index)
    (goesOn : ¬ next.Failed) :
    after.meter.measuredTotal + after.meter.warmupTotal + worker.filed +
        (worker.overlooked? setting index shared).toList.length =
      shared.meter.measuredTotal + shared.meter.warmupTotal + next.filed := by
  unfold Worker.filed overlooked?
  cases advance with
  | planned stands plan =>
    obtain ⟨asked, rfl⟩ := oneCall.eq_singleton plan
    rw [stands]
    rfl
  | @filed task later status elapsed warmup stands =>
    rw [stands]
    have slot := Meter.measuredTotal_record (task.call.operation.slot status) elapsed shared.meter
    have counter :=
      Meter.warmupTotal_recordWarmup (task.call.operation.slot status) shared.meter
    cases warmup with
    | true =>
      show shared.meter.measuredTotal + (shared.meter.recordWarmup _).warmupTotal +
        worker.iteration + 0 = shared.meter.measuredTotal + _ + (worker.iteration + 1)
      omega
    | false =>
      show (shared.meter.record _ elapsed).measuredTotal + shared.meter.warmupTotal +
        worker.iteration + 0 = _ + shared.meter.warmupTotal + (worker.iteration + 1)
      omega
  | settled stands settles =>
    obtain ⟨rfl, _⟩ := serves stands
    obtain rfl := setting.workload.tasks_eq_nil settles
    rw [stands]
    rfl
  | overlooked stands settles =>
    obtain ⟨rfl, _⟩ := serves stands
    obtain rfl := setting.workload.tasks_eq_nil settles
    simp only [stands, settles]
    rfl
  | openingFailed | planStopped | settlingStopped | passedOn | closingFailed =>
    exact absurd ⟨_, rfl⟩ goesOn
  | opened stands | reachedGate stands | wentOn stands | performedAll stands | passed stands
  | won stands | lost stands | started stands | throttled stands | clockRead stands
  | answered stands | callFailed stands | timed stands | numbered stands | closed stands
  | keptNothing stands | leftToExit stands | left stands | exited stands
  | exitedUnharmed stands =>
    simp only [stands, Option.toList_none, List.length_nil, Nat.add_zero]
    rfl
  | arrived stands | gaveUp stands =>
    simp only [stands, Option.toList_none, List.length_nil, Nat.add_zero]

/-- The numbers of the warm-up that are given out are those of the calls filed as warm-up or about
to be. -/
theorem Advance.warming_eq (advance : worker.Advance setting index fate shared next after) :
    after.meter.warmupTotal + next.warming + shared.tracker.given =
      shared.meter.warmupTotal + worker.warming + after.tracker.given := by
  cases advance with
  | numbered stands =>
    have one := shared.tracker.given_claim
    rw [warming, warming, stands]
    show shared.meter.warmupTotal + shared.tracker.claim.1.toNat + shared.tracker.given =
      shared.meter.warmupTotal + 0 + shared.tracker.claim.2.given
    omega
  | @filed task later status elapsed warmup stands =>
    rw [warming, warming, stands]
    cases warmup with
    | true =>
      have counter :=
        Meter.warmupTotal_recordWarmup (task.call.operation.slot status) shared.meter
      show (shared.meter.recordWarmup _).warmupTotal + 0 + shared.tracker.given =
        shared.meter.warmupTotal + 1 + shared.tracker.given
      omega
    | false => rfl
  | planned stands | settled stands | overlooked stands =>
    rw [warming_proceed, warming, stands]
  | arrived stands | gaveUp stands => rw [warming, warming, stands]
  | opened stands | openingFailed stands | reachedGate stands | wentOn stands
  | performedAll stands | passed stands | won stands | lost stands | started stands
  | throttled stands | planStopped stands | clockRead stands | answered stands
  | callFailed stands | timed stands | settlingStopped stands | passedOn stands | closed stands
  | closingFailed stands | keptNothing stands | leftToExit stands | left stands | exited stands
  | exitedUnharmed stands =>
    rw [warming, warming, stands]
    rfl

end Worker

/-! ## A phase -/

namespace State

/-- The tracker and the meter agree with the workers. -/
structure Tallied [Aggregate α] (setting : Setting ω σ) (state : State α ω σ) : Prop where
  attended : state.Attended setting
  target : state.shared.tracker.target = setting.warmupTotal
  calls : 0 < state.shared.tracker.target →
    state.shared.tracker.calls = total (state.workers.map Worker.claims)
  serves : ∀ {index} {worker : Worker}, state.workers[index]? = some worker →
    worker.Serves setting index
  untroubled : ∀ {index} {worker : Worker}, state.workers[index]? = some worker →
    worker.Untroubled (setting.operations.getD index 0)
  filed : state.shared.meter.measuredTotal + state.shared.meter.warmupTotal =
    total (state.workers.map Worker.filed)
  warming : state.shared.meter.warmupTotal + total (state.workers.map Worker.warming) =
    state.shared.tracker.given

variable [Aggregate α] {setting : Setting ω σ} {state after : State α ω σ} {move : Move}

theorem tallied_opening (setting : Setting ω σ) (world : σ) (work : ω) {meter : Meter α}
    (unused : meter.measuredTotal = 0 ∧ meter.warmupTotal = 0) (now : UInt64) :
    (opening setting world work meter now).Tallied setting := by
  have none (weight : Worker → Nat) (weightless : weight (.fresh setting.hasGate) = 0) :
      total ((opening setting world work meter now).workers.map weight) = 0 := by
    apply total_map_eq_zero
    intro worker member
    rw [worker_opening member, weightless]
  refine ⟨attended_opening setting world work meter now, rfl, ?_, ?_, ?_, ?_, ?_⟩
  · intro _
    rw [none Worker.claims rfl]
    rfl
  · intro index worker found
    rw [worker_opening (List.mem_of_getElem? found)]
    exact Worker.serves_fresh setting index setting.hasGate
  · intro index worker found
    rw [worker_opening (List.mem_of_getElem? found)]
    exact Worker.untroubled_fresh _ _
  · rw [none Worker.filed rfl]
    show meter.measuredTotal + meter.warmupTotal = 0
    omega
  · rw [none Worker.warming rfl]
    show meter.warmupTotal + 0 = min 0 setting.warmupTotal.toNat
    omega

theorem Tallied.fires [Aggregate.Counts α] (tallied : state.Tallied setting)
    (steady : setting.workload.Steady) (answering : Answering setting.clients)
    (fires : state.Fires setting move after) : after.Tallied setting := by
  have unharmed : ∀ worker ∈ state.workers, ¬ worker.Failed := by
    intro worker member
    obtain ⟨index, found⟩ := List.getElem?_of_mem member
    exact (tallied.untroubled found).unharmed
  have attended := tallied.attended.fires (.inr unharmed) fires
  have serving {index : Nat} {worker : Worker} (got : after.workers[index]? = some worker) :
      worker.Serves setting index :=
    serves_of_fires fires steady.oneCall tallied.serves got
  cases fires with
  | @worker index fate worker next shared spawned found advance =>
    have fits := tallied.attended.inOrder.fits found
    have serves : worker.Serves setting index := tallied.serves found
    -- each sum changes by the weight of one worker, and the step accounts for that change
    have claims := total_map_set Worker.claims found next
    have filed := total_map_set Worker.filed found next
    have warming := total_map_set Worker.warming found next
    have untroubled := advance.untroubled steady answering fits serves (tallied.untroubled found)
    have heeds : worker.overlooked? setting index state.shared = none :=
      (tallied.untroubled found).overlooked?_eq_none setting index state.shared
    have call := advance.filed_eq steady.oneCall serves untroubled.unharmed
    rw [heeds, Option.toList_none, List.length_nil] at call
    have number := advance.warming_eq
    have target : shared.tracker.target = state.shared.tracker.target := by
      cases advance with
      | numbered =>
        rw [Tracker.claim]
        split <;> rfl
      | _ => rfl
    refine ⟨attended, target.trans tallied.target, ?_, serving, ?_, ?_, ?_⟩
    · intro warm
      rw [target] at warm
      have calls := advance.calls_eq steady.oneCall serves warm untroubled.unharmed
      rw [heeds, Option.toList_none, List.length_nil, tallied.calls warm] at calls
      show shared.tracker.calls = total ((state.workers.set index next).map Worker.claims)
      omega
    · intro other member got
      rcases of_getElem?_set got with ⟨rfl, rfl⟩ | ⟨_, got⟩
      · exact untroubled
      · exact tallied.untroubled got
    · rw [tallied.filed] at call
      show shared.meter.measuredTotal + shared.meter.warmupTotal =
        total ((state.workers.set index next).map Worker.filed)
      omega
    · have before := tallied.warming
      show shared.meter.warmupTotal + total ((state.workers.set index next).map Worker.warming) =
        shared.tracker.given
      omega
  | spawned | stoodIn | joined | timeStopped | concluded | roused | wrote =>
    exact ⟨attended, tallied.target, tallied.calls, serving, tallied.untroubled,
      tallied.filed, tallied.warming⟩

theorem Tallied.of_reaches [Aggregate.Counts α] (steady : setting.workload.Steady)
    (answering : Answering setting.clients) {world : σ} {work : ω} {meter : Meter α}
    (unused : meter.measuredTotal = 0 ∧ meter.warmupTotal = 0) {now : UInt64}
    (reaches : Reaches (step setting) (opening setting world work meter now) state) :
    state.Tallied setting :=
  reaches.invariant (tallied_opening setting world work unused now)
    fun _ _ _ tallied steps => tallied.fires steady answering (fires_of_step steps).2

/-- A worker that has ended has performed all its operations and filed as many calls. -/
theorem Tallied.performed (tallied : state.Tallied setting) {index : Nat} {worker : Worker}
    (found : state.workers[index]? = some worker) (stands : worker.place = .ended) :
    worker.outcome = some (.ok (setting.operations.getD index 0)) ∧
      worker.iteration = (setting.operations.getD index 0).toNat := by
  have ended := (tallied.attended.inOrder.fits found).outcome_ne_none stands
  exact (tallied.untroubled found).performed.resolve_left ended

end State

/-! ## The report -/

/-- Adding up results does not overflow, at no point, as long as all of them together fit in a
word. -/
theorem foldlM_results (operations : List UInt64) (start : UInt64)
    (fits : start.toNat + total (operations.map UInt64.toNat) < UInt64.size) :
    ∃ sum : UInt64, sum.toNat = start.toNat + total (operations.map UInt64.toNat) ∧
      (operations.map Except.ok).foldlM
        (fun sum (result : Except Failure UInt64) => result.map (sum + ·)) start = .ok sum := by
  induction operations generalizing start with
  | nil => exact ⟨start, rfl, rfl⟩
  | cons first rest inductionHypothesis =>
    rw [List.map_cons, total, ← Nat.add_assoc] at fits
    have added : (start + first).toNat = start.toNat + first.toNat := by
      rw [UInt64.toNat_add]
      exact Nat.mod_eq_of_lt (Nat.lt_of_le_of_lt (Nat.le_add_right _ _) fits)
    rw [← added] at fits
    obtain ⟨sum, amount, adds⟩ := inductionHypothesis (start + first) fits
    refine ⟨sum, ?_, adds⟩
    rw [amount, added, List.map_cons, total, Nat.add_assoc]

theorem toNat_lessWarmup (operations warmup : UInt64) :
    (lessWarmup operations warmup).toNat = operations.toNat - warmup.toNat := by
  rw [lessWarmup]
  split
  · next enough => exact UInt64.toNat_sub_of_le _ _ enough
  · next short =>
    rw [UInt64.le_iff_toNat_le] at short
    exact (Nat.sub_eq_zero_of_le (Nat.le_of_not_le short)).symm

/-- What a report says of a phase: all operations were performed; those behind the warm-up of each
worker were measured and have their latencies in the report; the others are in the warm-up
counters; and the status message counts them all. -/
structure Report.Accounts [Aggregate α] (config : Config) (setting : Setting ω σ)
    (report : Report) (meter : Meter α) : Prop where
  operations : report.operations = config.phaseOps setting.kind
  measured : report.measured.toNat = total (setting.operations.map fun operations =>
    operations.toNat - setting.warmup.toNat)
  samples : total (report.latencies.map Snapshot.count) = report.measured.toNat
  warmups : meter.warmupTotal + report.measured.toNat = report.operations.toNat
  status : ∃ rest, meter.statusText =
    toString report.operations.toNat ++ " operations;" ++ rest

namespace State

variable [Aggregate α] {config : Config} {setting : Setting ω σ} {state : State α ω σ}

omit [Aggregate α] in
/-- If every worker has performed its operations, their results are these. -/
theorem results_eq (size : state.workers.length = setting.operations.length)
    (performed : ∀ {index : Nat} {worker}, state.workers[index]? = some worker →
      worker.outcome = some (.ok (setting.operations.getD index 0))) :
    (state.workers.mapIdx fun index worker => worker.joined index) =
      setting.operations.map Except.ok := by
  apply List.ext_getElem
  · rw [List.length_mapIdx, List.length_map, size]
  · intro index inWorkers inOperations
    rw [List.length_mapIdx] at inWorkers
    rw [List.length_map] at inOperations
    rw [List.getElem_mapIdx, List.getElem_map, Worker.joined,
      performed (List.getElem?_eq_getElem inWorkers), List.getD_eq_getElem _ _ inOperations]

/-- A phase that has returned, all of whose workers have performed their operations, answers a
report: of all operations, and of those behind the warm-up as measured. -/
theorem Coordinated.exists_report_of_performed (coordinated : state.Coordinated)
    (splits : setting.Splits config) (unhindered : state.spawnFault = none)
    (returned : state.returned = true) (size : state.workers.length = setting.operations.length)
    (performed : ∀ {index : Nat} {worker}, state.workers[index]? = some worker →
      worker.outcome = some (.ok (setting.operations.getD index 0))) :
    ∃ report, state.report? setting = some (.ok report) ∧
      report.operations = config.phaseOps setting.kind ∧
      report.measured.toNat =
        (config.phaseOps setting.kind).toNat - config.workers.toNat * setting.warmup.toNat ∧
      report.latencies = state.shared.meter.snapshots := by
  have whole := config.total_opsPerWorker setting.kind
  rw [← splits.operations] at whole
  have fits : (0 : UInt64).toNat + total (setting.operations.map UInt64.toNat) < UInt64.size := by
    rw [whole, UInt64.toNat_zero, Nat.zero_add]
    exact (config.phaseOps setting.kind).toNat_lt
  obtain ⟨sum, amount, adds⟩ := foldlM_results setting.operations 0 fits
  rw [whole, UInt64.toNat_zero, Nat.zero_add] at amount
  have everyone : state.workers.take state.spawned = state.workers := by
    rw [coordinated.spawned_eq unhindered returned, List.take_length]
  rw [report?, returned, unhindered, everyone, results_eq size performed, sumResults, adds]
  refine ⟨_, rfl, UInt64.toNat_inj.1 amount, ?_, rfl⟩
  rw [← splits.warmupTotal, ← amount]
  exact toNat_lessWarmup _ _

end State

end StoreBench.Phase
