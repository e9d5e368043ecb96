import StoreBench.Proofs.Outcome
import StoreBench.Proofs.Phase.Deeds
import StoreBench.Proofs.Phase.Progress
import StoreBench.Proofs.Phase.WarmupRouting

/-!
Contract: what a phase answers once it has returned.

The coordinator adds up the results of the workers in their order, so a failure is that of the
first worker that failed, whenever that was.

Owns:
- what a report says about the workers, and what the workers say about the answer;
- `FailsAs`, the failure that a stopped worker makes of a phase.

Does not own: the figures of a report.
-/

namespace StoreBench.Phase

open Latency

variable {α ω σ : Type}

/-! ## Sums -/

/-- A sum of results is there only if every result is. -/
theorem ok_of_sum {results : List (Except Failure UInt64)} {start sum : UInt64}
    (adds : results.foldlM (fun sum result => result.map (sum + ·)) start = .ok sum) :
    ∀ result ∈ results, ∃ amount, result = .ok amount := by
  induction results generalizing start with
  | nil => simp
  | cons first rest inductionHypothesis =>
    obtain ⟨middle, added, others⟩ := bind_eq_ok_iff.1 adds
    cases first with
    | error fault => cases added
    | ok amount =>
      rintro result (_ | ⟨_, inRest⟩)
      · exact ⟨amount, rfl⟩
      · exact inductionHypothesis others result inRest

theorem exists_sum {results : List (Except Failure UInt64)} (start : UInt64)
    (present : ∀ result ∈ results, ∃ amount, result = .ok amount) :
    ∃ sum, results.foldlM (fun sum result => result.map (sum + ·)) start = .ok sum := by
  induction results generalizing start with
  | nil => exact ⟨start, rfl⟩
  | cons first rest inductionHypothesis =>
    obtain ⟨amount, rfl⟩ := present first List.mem_cons_self
    exact inductionHypothesis (start + amount) fun result member =>
      present result (List.mem_cons_of_mem _ member)

/-- The first failure among the results is the failure of the sum. -/
theorem sum_eq_error {results : List (Except Failure UInt64)} {index : Nat} {fault : Failure}
    (start : UInt64) (found : results[index]? = some (.error fault))
    (present : ∀ earlier < index, ∃ amount, results[earlier]? = some (.ok amount)) :
    results.foldlM (fun sum result => result.map (sum + ·)) start = .error fault := by
  induction results generalizing start index with
  | nil => cases found
  | cons first rest inductionHypothesis =>
    cases index with
    | zero =>
      cases found
      rfl
    | succ index =>
      obtain ⟨amount, here⟩ := present 0 (Nat.succ_pos index)
      cases here
      refine inductionHypothesis (start + amount) found fun earlier before => ?_
      exact present (earlier + 1) (Nat.succ_lt_succ before)

/-! ## One worker -/

theorem Worker.outcome_of_joined {index : Nat} {worker : Worker} {amount : UInt64}
    (joined : worker.joined index = .ok amount) : worker.outcome = some (.ok amount) := by
  rw [Worker.joined] at joined
  split at joined
  · next outcome =>
    cases joined
    exact outcome
  · cases joined
  · cases joined
  · cases joined

/-- The failure that a phase reports for worker number `index`, by how the worker was stopped: its
own failure under its number, unless that failure names a worker already; and a failure of the
store if it broke off. -/
inductive FailsAs (index : Nat) : Stop → Failure → Prop
  | kept (inner : Nat) (source : Failure) :
      FailsAs index (.failed (.worker inner source)) (.worker inner source)
  | named {fault : Failure} (plain : ∀ inner source, fault ≠ .worker inner source) :
      FailsAs index (.failed fault) (.worker index fault)
  | panicked : FailsAs index .panicked (.worker index (.store .workerPanicked))

theorem Worker.joined_of_failed {worker : Worker} {reason : Stop} (index : Nat)
    (failed : worker.outcome = some (.error reason)) :
    ∃ failure, FailsAs index reason failure ∧ worker.joined index = .error failure := by
  rw [Worker.joined, failed]
  cases reason with
  | panicked => exact ⟨_, .panicked, rfl⟩
  | failed fault =>
    cases fault with
    | worker inner source => exact ⟨_, .kept inner source, rfl⟩
    | _ => exact ⟨_, .named nofun, rfl⟩

/-! ## All workers -/

namespace State

variable [Aggregate α] {setting : Setting ω σ} {state : State α ω σ} {log : List (Nat × Deed)}

/-- A phase that answers a report has started every worker, and each that it joined has ended
well. -/
theorem outcome_of_report {report : Report}
    (answered : state.report? setting = some (.ok report)) :
    state.returned = true ∧ state.spawnFault = none ∧
      ∀ worker ∈ state.workers.take state.spawned,
        ∃ result, worker.outcome = some (.ok result) := by
  rw [report?] at answered
  split at answered
  · cases answered
  · next returned =>
    simp only [Bool.not_eq_true', Bool.not_eq_false] at returned
    split at answered
    · cases answered
    · next unhindered =>
      obtain ⟨sum, adds, _⟩ := bind_eq_ok_iff.1 (Option.some.inj answered)
      refine ⟨returned, unhindered, fun worker member => ?_⟩
      obtain ⟨index, found⟩ := List.getElem?_of_mem member
      have listed : worker.joined index ∈
          (state.workers.take state.spawned).mapIdx fun index worker => worker.joined index := by
        rw [List.mem_iff_getElem?]
        exact ⟨index, by rw [List.getElem?_mapIdx, found]; rfl⟩
      obtain ⟨amount, joined⟩ := ok_of_sum adds _ listed
      exact ⟨amount, Worker.outcome_of_joined joined⟩

/-- All workers of a phase that answers a report have ended, and none has failed. -/
theorem Coordinated.performed (coordinated : state.Coordinated) {report : Report}
    (answered : state.report? setting = some (.ok report)) :
    state.Unharmed ∧ ∀ worker ∈ state.workers,
      worker.place = .ended ∧ ∃ result, worker.outcome = some (.ok result) := by
  obtain ⟨returned, unhindered, outcomes⟩ := outcome_of_report answered
  rw [coordinated.spawned_eq unhindered returned, List.take_length] at outcomes
  refine ⟨⟨unhindered, ?_⟩, ?_⟩
  · rintro worker member ⟨reason, failed⟩
    obtain ⟨result, outcome⟩ := outcomes worker member
    rw [outcome] at failed
    cases failed
  · intro worker member
    obtain ⟨index, found⟩ := List.getElem?_of_mem member
    exact ⟨coordinated.all_ended unhindered returned found, outcomes worker member⟩

theorem Coordinated.exists_report (coordinated : state.Coordinated)
    (unhindered : state.spawnFault = none) (returned : state.returned = true)
    (performed : ∀ worker ∈ state.workers, ∃ result, worker.outcome = some (.ok result)) :
    ∃ report, state.report? setting = some (.ok report) := by
  have present : ∀ result ∈ state.workers.mapIdx fun index worker => worker.joined index,
      ∃ amount, result = .ok amount := by
    intro result member
    obtain ⟨index, inside, rfl⟩ := List.mem_mapIdx.1 member
    obtain ⟨amount, outcome⟩ := performed _ (List.getElem_mem inside)
    exact ⟨amount, by rw [Worker.joined, outcome]⟩
  obtain ⟨sum, adds⟩ := exists_sum 0 present
  rw [report?, returned, unhindered, coordinated.spawned_eq unhindered returned, List.take_length,
    sumResults, adds]
  exact ⟨_, rfl⟩

theorem Coordinated.report?_eq_error (coordinated : state.Coordinated)
    (unhindered : state.spawnFault = none) (returned : state.returned = true) {index : Nat}
    {worker : Worker} (found : state.workers[index]? = some worker) {failure : Failure}
    (joined : worker.joined index = .error failure)
    (performed : ∀ earlier < index, ∃ other result, state.workers[earlier]? = some other ∧
      other.outcome = some (.ok result)) :
    state.report? setting = some (.error failure) := by
  have failed : (state.workers.mapIdx fun index worker => worker.joined index)[index]? =
      some (.error failure) := by
    rw [List.getElem?_mapIdx, found, Option.map_some, joined]
  have present : ∀ earlier < index, ∃ amount,
      (state.workers.mapIdx fun index worker => worker.joined index)[earlier]? =
        some (.ok amount) := by
    intro earlier before
    obtain ⟨other, result, got, outcome⟩ := performed earlier before
    exact ⟨result, by rw [List.getElem?_mapIdx, got, Option.map_some, Worker.joined, outcome]⟩
  rw [report?, returned, unhindered, coordinated.spawned_eq unhindered returned, List.take_length,
    sumResults, sum_eq_error 0 failed present]
  rfl

omit [Aggregate α] in
/-- A worker that has ended has performed and closed everything, or it was stopped. -/
theorem Recorded.ended (recorded : state.Recorded setting log) {index : Nat} {worker : Worker}
    (found : state.workers[index]? = some worker) (stands : worker.place = .ended) :
    worker.outcome = some (.ok (setting.operations.getD index 0)) ∧
        deedsOf index log =
          Deed.upTo (setting.operations.getD index 0).toNat ++ [.closed] ∨
      ∃ reason, worker.outcome = some (.error reason) ∧ .stopped reason ∈ deedsOf index log := by
  have ended := (recorded.inOrder.fits found).outcome_ne_none stands
  have did := recorded.did found
  cases outcome : worker.outcome with
  | none => exact absurd outcome ended
  | some result =>
    cases result with
    | error reason => exact .inr ⟨reason, rfl, did.stopped_mem_iff.2 outcome⟩
    | ok result =>
      generalize deedsOf index log = deeds at did ⊢
      cases did with
      | nothing _ routine | begun _ routine =>
        rw [outcome] at routine
        cases routine
      | refused failed | stopped failed =>
        rw [outcome] at failed
        cases failed
      | all performed iterations =>
        rw [outcome] at performed
        cases performed
        exact .inl ⟨rfl, by rw [iterations]⟩

end State

/-- **The answer of a phase does not depend on who failed first.**  Take any phase whose failures do
not end the program, with a workload and stores that fail wherever they like, and any schedule in
which every worker could be started.  Until the phase has returned there is a move that leaves less
to do.  When it has, it answers a report exactly if no history says that its worker was stopped;
otherwise it answers the failure of the stopped worker with the least number.  And by then every
worker that was not stopped has ended, and its history is whole: it has opened its store, performed
each of its operations, and closed its store. -/
theorem phase_answers_first_failure [Aggregate α] (setting : Setting ω σ)
    (propagates : setting.exits = false) (world : σ) (work : ω) (meter : Meter α) (now : UInt64)
    {moves : List Move} {state : State α ω σ}
    (followed : follow (State.step setting) moves (State.opening setting world work meter now) =
      some state) (unhindered : state.spawnFault = none) :
    let log := (State.opening setting world work meter now).deedsAlong setting moves
    let isStopped := fun index => ∃ reason, Deed.stopped reason ∈ deedsOf index log
    (state.returned = false → ∃ move after, State.step setting move state = some after ∧
      after.spawnFault = none ∧ toLex (after.burden setting 0) < toLex (state.burden setting 0)) ∧
    (state.returned = true →
      ((∃ report, state.report? setting = some (.ok report)) ↔ ∀ index, ¬ isStopped index) ∧
      (∀ index reason, .stopped reason ∈ deedsOf index log →
        (∀ earlier < index, ¬ isStopped earlier) →
        ∃ failure, FailsAs index reason failure ∧ state.report? setting = some (.error failure)) ∧
      ∀ index < setting.workers, ¬ isStopped index →
        (∃ worker, state.workers[index]? = some worker ∧ worker.place = .ended) ∧
          deedsOf index log =
            Deed.upTo (setting.operations.getD index 0).toNat ++ [.closed]) := by
  intro log isStopped
  have reaches := reaches_of_follow followed
  have attended := State.Attended.of_reaches propagates reaches
  have coordinated := State.Coordinated.of_reaches reaches
  have recorded : state.Recorded setting log := .of_follow followed
  refine ⟨fun unreturned => ?_, fun returned => ?_⟩
  · obtain ⟨move, after, steps, starts, lightens⟩ := attended.exists_lightening unreturned
    refine ⟨move, after, steps, ?_, (lightens 0).toLex_lt⟩
    cases (State.fires_of_step steps).2 with
    | stoodIn => exact absurd rfl (starts _)
    | _ => exact unhindered
  have ends {index : Nat} {worker : Worker} (found : state.workers[index]? = some worker)
      (healthy : ¬ isStopped index) :=
    (recorded.ended found (coordinated.all_ended unhindered returned found)).resolve_right
      fun ⟨reason, _, stopped⟩ => healthy ⟨reason, stopped⟩
  refine ⟨⟨?_, ?_⟩, ?_, ?_⟩
  · rintro ⟨report, answered⟩ index ⟨reason, stopped⟩
    obtain ⟨worker, found⟩ := recorded.exists_worker stopped
    have failed := (recorded.did found).stopped_mem_iff.1 stopped
    exact (coordinated.performed answered).1.2 worker (List.mem_of_getElem? found) ⟨reason, failed⟩
  · intro healthy
    refine coordinated.exists_report unhindered returned fun worker member => ?_
    obtain ⟨index, found⟩ := List.getElem?_of_mem member
    exact ⟨_, (ends found (healthy index)).1⟩
  · intro index reason stopped first
    obtain ⟨worker, found⟩ := recorded.exists_worker stopped
    obtain ⟨failure, fails, joined⟩ :=
      Worker.joined_of_failed index ((recorded.did found).stopped_mem_iff.1 stopped)
    refine ⟨failure, fails, coordinated.report?_eq_error unhindered returned found joined ?_⟩
    intro earlier before
    have inside := (List.getElem?_eq_some_iff.1 found).1
    have got := List.getElem?_eq_getElem (Nat.lt_trans before inside)
    exact ⟨_, _, got, (ends got (first earlier before)).1⟩
  · intro index inside healthy
    rw [Setting.workers, ← recorded.inOrder.size] at inside
    have found := List.getElem?_eq_getElem inside
    exact ⟨⟨_, found, coordinated.all_ended unhindered returned found⟩, (ends found healthy).2⟩

/-- The last of three workers breaks off in its warm-up, and long after that the first one cannot
close its store: the phase answers the failure of the first one. -/
theorem phase_answers_first_failure_of_late_worker :
    let config := { Config.default with
      threads := 3, warmupOps := 3, mix := { Mix.Options.default with operationCount := 6 } }
    let script := { Script.reads [] with
      upsets := [⟨2, 0, .panicked⟩], failingCleanups := [0] }
    let setting := settingOf config .run false script.workload script.clients
    let start : State Summary Progress (List ScriptedStore) :=
      State.opening setting [⟨0, 0⟩, ⟨0, 0⟩, ⟨0, 0⟩] (Progress.opening 3) Meter.empty 0
    let fault : Failure := .store (.custom "cleanup 0")
    setting.exits = false ∧
    ∃ moves state, follow (State.step setting) moves start = some state ∧
      state.spawnFault = none ∧ state.returned = true ∧
      (start.deedsAlong setting moves)[1]? = some (2, .stopped .panicked) ∧
      (start.deedsAlong setting moves)[7]? = some (0, .stopped (.failed fault)) ∧
      state.report? setting = some (.error (.worker 0 fault)) ∧
      deedsOf 1 (start.deedsAlong setting moves) =
        [.opened, .performed 0, .performed 1, .closed] := by
  intro config script setting start fault
  let moves : List Move :=
    List.replicate 3 (.spawn none) ++ Move.turns 2 6 ++ Move.turns 1 12 ++ Move.turns 0 28 ++
      Move.turns 1 15 ++ List.replicate 3 .join ++ [.stopTime 0, .rouse, .write, .conclude]
  have ran : (follow (State.step setting) moves start).any
      (fun state => state.spawnFault.isNone && state.returned) = true := by
    decide +kernel
  obtain ⟨state, followed, facts⟩ := (Option.any_eq_true _ _).1 ran
  simp only [Bool.and_eq_true, Option.isNone_iff_eq_none] at facts
  have history : start.deedsAlong setting moves =
      [(2, .opened), (2, .stopped .panicked), (1, .opened), (1, .performed 0), (0, .opened),
        (0, .performed 0), (0, .performed 1), (0, .stopped (.failed fault)), (1, .performed 1),
        (1, .closed)] := by
    decide +kernel
  have first : Deed.stopped (.failed fault) ∈ deedsOf 0 (start.deedsAlong setting moves) := by
    rw [history]
    decide
  obtain ⟨_, failing, healthy⟩ :=
    (phase_answers_first_failure setting rfl _ _ _ _ followed facts.1).2 facts.2
  obtain ⟨failure, fails, answer⟩ :=
    failing 0 _ first fun _ before => absurd before (Nat.not_lt_zero _)
  have whole := (healthy 1 (by decide) ?_).2
  · have named : failure = .worker 0 fault := by
      change FailsAs 0 (.failed (.store (.custom "cleanup 0"))) failure at fails
      cases fails
      rfl
    have two : (setting.operations.getD 1 0).toNat = 2 := by decide
    rw [named] at answer
    rw [two] at whole
    exact ⟨rfl, moves, state, followed, facts.1, facts.2, by rw [history]; rfl,
      by rw [history]; rfl, answer, whole⟩
  · rintro ⟨reason, stopped⟩
    have own : deedsOf 1 (start.deedsAlong setting moves) =
        [.opened, .performed 0, .performed 1, .closed] := by
      rw [history]
      rfl
    rw [own] at stopped
    simp at stopped

end StoreBench.Phase
