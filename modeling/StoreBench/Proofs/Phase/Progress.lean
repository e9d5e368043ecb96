import StoreBench.Proofs.Phase.Weight

/-!
Contract: a phase whose failures do not end the program comes to its end.

A worker waits for nothing but the gate, and a closed gate awaits a place that some worker still
has.  If that worker was started, it is not at the gate itself and can move; if it was not, the
coordinator can go on starting workers.  So nobody waits for a worker that waits.

Owns:
- that the completion latch counts the workers that have not left, and `State.Attended`, the
  invariant of a phase that runs on;
- the moves that are left in every state, and what holds once there are none.

Does not own: the order in which the threads take their turns.
-/

namespace StoreBench.Phase

open Latency

variable {α ω σ : Type}

/-! ## One worker -/

namespace Worker

/-- Whether the completion latch waits for the worker, as a number. -/
def presence (worker : Worker) : Nat :=
  match worker.place with
  | .exiting | .ended => 0
  | _ => 1

theorem presence_proceed (worker : Worker) (tasks : List Mix.Task) :
    (worker.proceed tasks).presence = 1 := by
  cases tasks with
  | nil => rfl
  | cons task later => rfl

/-- A worker that can neither arrive nor end has no place at the gate. -/
theorem Fits.hasPlace_eq_false {warmup operations : Nat} {isOpen : Bool} {worker : Worker}
    (fits : worker.Fits warmup operations isOpen)
    (stands : worker.place = .waiting ∨ worker.place = .ended) : worker.hasPlace = false := by
  unfold Fits at fits
  rcases stands with stands | stands
  · rw [stands] at fits
    exact fits.2.1
  · rw [stands] at fits
    rcases fits with stopped | ended
    · exact stopped.2.1
    · exact ended.2.1

theorem Fits.outcome_ne_none {warmup operations : Nat} {isOpen : Bool} {worker : Worker}
    (fits : worker.Fits warmup operations isOpen) (stands : worker.place = .ended) :
    worker.outcome ≠ none := by
  unfold Fits at fits
  rw [stands] at fits
  rcases fits with ⟨⟨reason, outcome⟩, _⟩ | ended
  · rw [outcome]
    exact Option.some_ne_none _
  · exact ended.1

variable [Aggregate α] {setting : Setting ω σ} {index : Nat} {fate : Fate} {worker next : Worker}
  {shared after : Shared α ω σ}

/-- The completion latch counts one worker less exactly if the worker has left. -/
theorem Advance.presence_eq (advance : worker.Advance setting index fate shared next after)
    (counted : worker.presence ≤ shared.done.count) :
    after.done.count + worker.presence = shared.done.count + next.presence := by
  cases advance with
  | leftToExit stands | left stands =>
    rw [presence, stands] at counted ⊢
    exact Nat.sub_add_cancel counted
  | planned stands | settled stands | overlooked stands =>
    rw [presence_proceed, presence, stands]
  | opened stands | openingFailed stands | reachedGate stands | wentOn stands
  | performedAll stands | arrived stands | passed stands | won stands | lost stands
  | started stands | throttled stands | planStopped stands | clockRead stands | answered stands
  | callFailed stands | timed stands | numbered stands | filed stands | settlingStopped stands
  | passedOn stands | closed stands | closingFailed stands | gaveUp stands | keptNothing stands
  | exited stands | exitedUnharmed stands =>
    rw [presence, stands]
    rfl

theorem Advance.stays (advance : worker.Advance setting index fate shared next after)
    (calm : setting.exits = false ∨ ¬ worker.Failed) (stands : worker.place ≠ .exiting) :
    next.place ≠ .exiting ∧ after.exit = shared.exit := by
  cases advance with
  | leftToExit _ exits outcome =>
    rcases calm with propagates | unharmed
    · rw [propagates] at exits
      cases exits
    · exact absurd ⟨_, outcome⟩ unharmed
  | exited exiting | exitedUnharmed exiting => exact absurd exiting stands
  | @planned tasks => cases tasks <;> exact ⟨Place.noConfusion, rfl⟩
  | @settled _ _ tasks | @overlooked _ _ tasks =>
    cases tasks <;> exact ⟨Place.noConfusion, rfl⟩
  | _ => exact ⟨Place.noConfusion, rfl⟩

theorem Advance.unended (advance : worker.Advance setting index fate shared next after) :
    worker.place ≠ .ended := by
  intro ended
  cases advance with
  | _ stands => exact Place.noConfusion (stands.symm.trans ended)

/-- Only the closed gate makes a worker wait. -/
theorem isSome_advance? (unended : worker.place ≠ .ended)
    (passes : worker.place = .waiting → shared.gate.isOpen = true) :
    (worker.advance? setting index fate shared).isSome = true := by
  unfold advance?
  cases stands : worker.place with
  | waiting => simp only [passes stands, if_true, Option.isSome_some]
  | ended => exact absurd stands unended
  | opening | planning | closing | leavingGate | exiting =>
    simp only
    split <;> rfl
  | _ => rfl

end Worker

/-! ## A phase -/

namespace State

/-- The program runs, and the completion latch counts the workers that have not left. -/
structure Attended (setting : Setting ω σ) (state : State α ω σ) : Prop where
  inOrder : state.InOrder setting
  runs : state.shared.exit = none
  inside : ∀ worker ∈ state.workers, worker.place ≠ .exiting
  done : state.shared.done.count = total (state.parties.map Worker.presence)
  joined_le : state.joined ≤ state.spawned

variable {setting : Setting ω σ} {state after : State α ω σ} {move : Move}

/-- Before a phase begins the completion latch waits for every worker. -/
theorem done_opening (setting : Setting ω σ) (world : σ) (work : ω) (meter : Meter α)
    (now : UInt64) :
    (opening setting world work meter now).shared.done.count =
      total ((opening setting world work meter now).parties.map Worker.presence) := by
  have present : ∀ worker ∈ (opening setting world work meter now).workers,
      worker.presence = 1 := by
    intro worker member
    rw [worker_opening member]
    rfl
  show setting.workers = total ((opening setting world work meter now).workers.map _)
  rw [total_map_of_eq present, Nat.mul_one]
  exact (List.length_map _).symm

theorem attended_opening (setting : Setting ω σ) (world : σ) (work : ω) (meter : Meter α)
    (now : UInt64) : (opening setting world work meter now).Attended setting := by
  refine ⟨inOrder_opening setting world work meter now, rfl, ?_,
    done_opening setting world work meter now, Nat.le_refl _⟩
  intro worker member
  rw [worker_opening member]
  exact Place.noConfusion

theorem InOrder.done_standIn (inOrder : state.InOrder setting)
    (done : state.shared.done.count = total (state.parties.map Worker.presence)) (fault : Failure)
    (unstarted : state.isStarted = false) :
    (state.standIn fault).shared.done.count =
      total ((state.standIn fault).parties.map Worker.presence) := by
  obtain ⟨unhindered, _⟩ := spawnFault_of_not_isStarted unstarted
  have split := inOrder.total_map_workers Worker.presence
  have present : (Worker.fresh setting.hasGate).presence = 1 := rfl
  simp only [parties, unhindered, Option.isSome_none, Bool.false_eq_true, if_false] at done
  show state.shared.done.count - (state.workers.length - state.spawned) =
    total ((state.workers.take state.spawned).map Worker.presence)
  rw [present, Nat.mul_one] at split
  omega

/-- Whatever happens, the completion latch counts the workers that have not left. -/
theorem InOrder.done_of_fires [Aggregate α] (inOrder : state.InOrder setting)
    (done : state.shared.done.count = total (state.parties.map Worker.presence))
    (fires : state.Fires setting move after) :
    after.shared.done.count = total (after.parties.map Worker.presence) := by
  cases fires with
  | @worker index fate worker next shared spawned found advance =>
    -- the counts are sums over the parties, of which one changes
    have party : state.parties[index]? = some worker := by rw [getElem?_parties spawned, found]
    have counted : worker.presence ≤ state.shared.done.count := by
      rw [done]
      exact le_total_map (List.mem_of_getElem? party)
    have presence := advance.presence_eq counted
    have sum := total_map_set Worker.presence party next
    rw [done] at presence
    rw [parties_set]
    show shared.done.count = _
    omega
  | spawned unstarted =>
    obtain ⟨unhindered, _⟩ := spawnFault_of_not_isStarted unstarted
    rw [parties, unhindered] at done
    rw [parties, unhindered]
    exact done
  | stoodIn unstarted => exact inOrder.done_standIn done _ unstarted
  | joined | timeStopped | concluded | roused | wrote => exact done

theorem Attended.fires [Aggregate α] (attended : state.Attended setting)
    (calm : setting.exits = false ∨ ∀ worker ∈ state.workers, ¬ worker.Failed)
    (fires : state.Fires setting move after) : after.Attended setting := by
  have inOrder := attended.inOrder.fires fires
  have done := attended.inOrder.done_of_fires attended.done fires
  cases fires with
  | @worker index fate worker next shared spawned found advance =>
    have member := List.mem_of_getElem? found
    have stays := advance.stays (calm.imp_right fun unharmed => unharmed worker member)
      (attended.inside worker member)
    refine ⟨inOrder, stays.2.trans attended.runs, ?_, done, attended.joined_le⟩
    intro other member
    rcases List.mem_or_eq_of_mem_set member with old | rfl
    · exact attended.inside other old
    · exact stays.1
  | spawned =>
    exact ⟨inOrder, attended.runs, attended.inside, done,
      Nat.le_succ_of_le attended.joined_le⟩
  | joined started behind ended =>
    exact ⟨inOrder, attended.runs, attended.inside, done, behind⟩
  | stoodIn | timeStopped | concluded | roused | wrote =>
    exact ⟨inOrder, attended.runs, attended.inside, done, attended.joined_le⟩

theorem Attended.of_reaches [Aggregate α] (propagates : setting.exits = false) {world : σ}
    {work : ω} {meter : Meter α} {now : UInt64}
    (reaches : Reaches (step setting) (opening setting world work meter now) state) :
    state.Attended setting :=
  reaches.invariant (attended_opening setting world work meter now)
    fun _ _ _ attended steps => attended.fires (.inl propagates) (fires_of_step steps).2

variable [Aggregate α]

theorem Attended.isSome_step (attended : state.Attended setting) {index : Nat} {worker : Worker}
    (spawned : index < state.spawned) (found : state.workers[index]? = some worker) {fate : Fate}
    (advances : (worker.advance? setting index fate state.shared).isSome = true) :
    (step setting (.worker index fate) state).isSome = true := by
  obtain ⟨⟨next, shared⟩, advance⟩ := Option.isSome_iff_exists.1 advances
  rw [step_of_advance? attended.runs spawned found advance]
  rfl

omit [Aggregate α] in
theorem Attended.lt_spawned (attended : state.Attended setting) (started : state.isStarted = true)
    {index : Nat} {worker : Worker} (party : state.parties[index]? = some worker) :
    index < state.spawned := by
  have inside := (List.getElem?_eq_some_iff.1 party).1
  have behind := attended.inOrder.spawned_le
  rw [isStarted, Bool.or_eq_true, beq_iff_eq] at started
  rw [parties] at inside
  split at inside
  · rw [List.length_take] at inside
    omega
  · next unhindered =>
    rw [started.resolve_left unhindered]
    exact inside

/-- A worker that has not ended can make a step, or another one can that it waits for. -/
theorem Attended.exists_step (attended : state.Attended setting) (started : state.isStarted = true)
    {index : Nat} {worker : Worker} (spawned : index < state.spawned)
    (found : state.workers[index]? = some worker) (unended : worker.place ≠ .ended) :
    ∃ other < state.spawned, ∀ fate, (step setting (.worker other fate) state).isSome = true := by
  by_cases passes : worker.place = .waiting → state.shared.gate.isOpen = true
  · exact ⟨index, spawned, fun _ =>
      attended.isSome_step spawned found (Worker.isSome_advance? unended passes)⟩
  · -- the gate awaits a place, and whoever has it was started and does not wait
    have isClosed : state.shared.gate.pending ≠ 0 := by
      intro nobody
      exact passes fun _ => isOpen_iff_pending.2 nobody
    rw [attended.inOrder.pending] at isClosed
    obtain ⟨party, member, seated⟩ := exists_of_total_map_ne_zero isClosed
    obtain ⟨other, got⟩ := List.getElem?_of_mem member
    have begun : other < state.spawned := attended.lt_spawned started got
    rw [getElem?_parties begun] at got
    have free {place : Place} (stands : party.place = place)
        (waits : place = .waiting ∨ place = .ended) : False := by
      have used := (attended.inOrder.fits got).hasPlace_eq_false (stands ▸ waits)
      exact seated (by rw [Worker.seats, used]; rfl)
    exact ⟨other, begun, fun _ => attended.isSome_step begun got
      (Worker.isSome_advance? (fun ended => free ended (.inr rfl))
        fun waits => (free waits (.inl rfl)).elim)⟩

/-- Before everything is started the coordinator can start the next worker or fail to, and either
way some worker can then make a step. -/
theorem Attended.exists_spawn (attended : state.Attended setting)
    (propagates : setting.exits = false) (unstarted : state.isStarted = false) {index : Nat}
    {worker : Worker} (spawned : index < state.spawned)
    (found : state.workers[index]? = some worker) (unended : worker.place ≠ .ended)
    (fault : Option Failure) :
    ∃ after, step setting (.spawn fault) state = some after ∧ ∃ other < after.spawned,
      ∀ fate, (step setting (.worker other fate) after).isSome = true := by
  obtain ⟨_, others⟩ := spawnFault_of_not_isStarted unstarted
  cases fault with
  | none =>
    -- the worker that was started can open its store
    have steps : step setting (.spawn none) state =
        some { state with spawned := state.spawned + 1 } := by
      rw [step, attended.runs]
      simp [act, unstarted]
    have after := attended.fires (.inl propagates) (fires_of_step steps).2
    have inside := Nat.lt_of_le_of_ne attended.inOrder.spawned_le others
    have found := List.getElem?_eq_getElem inside
    have fresh := attended.inOrder.unstarted (Nat.le_refl _) found
    refine ⟨_, steps, state.spawned, Nat.lt_succ_self _, fun fate => ?_⟩
    refine after.isSome_step (Nat.lt_succ_self _) found (Worker.isSome_advance? ?_ ?_)
    · rw [fresh]
      exact Place.noConfusion
    · rw [fresh]
      exact Place.noConfusion
  | some fault =>
    -- nobody is left to be started, so the gate awaits none but started workers
    have steps : step setting (.spawn (some fault)) state = some (state.standIn fault) := by
      rw [step, attended.runs]
      simp [act, unstarted]
    have after := attended.fires (.inl propagates) (fires_of_step steps).2
    exact ⟨_, steps, after.exists_step rfl spawned found unended⟩

/-- If no worker can move and none can be started, all have ended. -/
theorem Attended.ended (attended : state.Attended setting)
    (still : ∀ index fate, step setting (.worker index fate) state = none)
    (started : state.isStarted = true) {index : Nat} {worker : Worker}
    (spawned : index < state.spawned) (found : state.workers[index]? = some worker) :
    worker.place = .ended := by
  apply Classical.byContradiction
  intro unended
  obtain ⟨other, _, moves⟩ := attended.exists_step started spawned found unended
  have fate : Fate := ⟨0, 0, fun _ => 0⟩
  have moves := moves fate
  rw [still other fate] at moves
  cases moves

omit [Aggregate α] in
theorem Attended.nobody (attended : state.Attended setting) (started : state.isStarted = true)
    (ended : ∀ {index : Nat} {worker}, index < state.spawned →
      state.workers[index]? = some worker → worker.place = .ended) :
    state.shared.done.count = 0 ∧ state.shared.gate.pending = 0 := by
  have party {worker : Worker} (member : worker ∈ state.parties) :
      ∃ index : Nat, state.workers[index]? = some worker ∧ worker.place = .ended := by
    obtain ⟨index, got⟩ := List.getElem?_of_mem member
    have begun := attended.lt_spawned started got
    rw [getElem?_parties begun] at got
    exact ⟨index, got, ended begun got⟩
  constructor
  · rw [attended.done, total_map_eq_zero]
    intro worker member
    obtain ⟨_, _, stands⟩ := party member
    rw [Worker.presence, stands]
  · rw [attended.inOrder.pending, total_map_eq_zero]
    intro worker member
    obtain ⟨_, got, stands⟩ := party member
    rw [Worker.seats, (attended.inOrder.fits got).hasPlace_eq_false (.inr stands)]
    rfl

/-- What is to be done next: to start a worker, to let a worker go on, to join one that has ended,
to stop the time, to let the thread of the status lines come to its end, or to return. -/
inductive Due (setting : Setting ω σ) (state : State α ω σ) : Prop
  | start (unstarted : state.isStarted = false)
  | work (started : state.isStarted = true) {index : Nat} (spawned : index < state.spawned)
      (enabled : ∀ fate, (step setting (.worker index fate) state).isSome = true)
  | join (started : state.isStarted = true) (behind : state.joined < state.spawned)
      (ended : state.hasEnded state.joined = true)
  | stopTime (started : state.isStarted = true) (all : state.joined = state.spawned)
      (running : state.elapsed = none)
  | report (started : state.isStarted = true) (all : state.joined = state.spawned)
      (stopped : state.elapsed.isSome = true) (isOpen : state.shared.done.isOpen = true)
      (speaks : state.reporter.place ≠ .ended)
  | conclude (started : state.isStarted = true) (all : state.joined = state.spawned)
      (stopped : state.elapsed.isSome = true) (silent : state.reporter.place = .ended)

theorem Attended.due (attended : state.Attended setting) : state.Due setting := by
  cases started : state.isStarted with
  | false => exact .start started
  | true =>
    by_cases unended : ∃ (index : Nat) (worker : Worker), index < state.spawned ∧
        state.workers[index]? = some worker ∧ worker.place ≠ .ended
    · obtain ⟨index, worker, spawned, found, running⟩ := unended
      obtain ⟨other, begun, moves⟩ := attended.exists_step started spawned found running
      exact .work started begun moves
    · have ended : ∀ {index : Nat} {worker}, index < state.spawned →
          state.workers[index]? = some worker → worker.place = .ended := by
        intro index worker spawned found
        exact Classical.byContradiction fun running =>
          unended ⟨index, worker, spawned, found, running⟩
      rcases Nat.lt_or_eq_of_le attended.joined_le with behind | all
      · have inside := Nat.lt_of_lt_of_le behind attended.inOrder.spawned_le
        have found := List.getElem?_eq_getElem inside
        refine .join started behind ?_
        rw [hasEnded, found, Option.any_some, ended behind found]
        rfl
      · cases stopped : state.elapsed with
        | none => exact .stopTime started all stopped
        | some elapsed =>
          have past : state.elapsed.isSome = true := by rw [stopped]; rfl
          by_cases silent : state.reporter.place = .ended
          · exact .conclude started all past silent
          · -- all workers have left, so the latch that the thread waits for is open
            have nobody := (attended.nobody started ended).1
            exact .report started all past (beq_iff_eq.2 nobody) silent

/-- Until a phase has returned there is a move that leaves less to do, and it needs no start that
fails. -/
theorem Attended.exists_lightening (attended : state.Attended setting)
    (unreturned : state.returned = false) :
    ∃ move after, step setting move state = some after ∧ (∀ fault, move ≠ .spawn (some fault)) ∧
      ∀ calls, Lightens setting calls (state.burden setting calls)
        (after.burden setting calls) := by
  have runs := attended.runs
  have serves (move : Move) (enabled : (step setting move state).isSome = true)
      (starts : ∀ fault, move ≠ .spawn (some fault))
      (awake : move = .rouse ∨ move = .write → state.shared.done.isOpen = true) :
      ∃ move after, step setting move state = some after ∧
        (∀ fault, move ≠ .spawn (some fault)) ∧
          ∀ calls, Lightens setting calls (state.burden setting calls)
            (after.burden setting calls) := by
    obtain ⟨after, steps⟩ := Option.isSome_iff_exists.1 enabled
    refine ⟨move, after, steps, starts, fun calls => ?_⟩
    rcases attended.inOrder.lightens (fires_of_step steps).2 calls with
      lightens | ⟨idle, isClosed, _⟩
    · exact lightens
    · rw [awake idle] at isClosed
      cases isClosed
  cases attended.due with
  | start unstarted =>
    exact serves (.spawn none) (by simp [step, act, runs, unstarted]) (by simp) (by simp)
  | @work started index spawned enabled =>
    exact serves (.worker index ⟨0, 0, fun _ => 0⟩) (enabled _) (by simp) (by simp)
  | join started behind ended =>
    exact serves .join (by simp [step, act, runs, started, behind, ended]) (by simp) (by simp)
  | stopTime started all running =>
    exact serves (.stopTime 0) (by simp [step, act, runs, started, all, running]) (by simp)
      (by simp)
  | report started all stopped isOpen speaks =>
    cases stands : state.reporter.place with
    | resting => exact serves .rouse (by simp [step, act, runs, stands]) (by simp) fun _ => isOpen
    | writing last =>
      exact serves .write (by simp [step, act, runs, stands]) (by simp) fun _ => isOpen
    | ended => exact absurd stands speaks
  | conclude started all stopped silent =>
    exact serves .conclude (by simp [step, act, runs, stopped, silent, unreturned]) (by simp)
      (by simp)

/-! ### The coordinator -/

/-- The coordinator stops the time only after it has joined all workers, and a worker that was
joined has ended. -/
structure Coordinated (state : State α ω σ) : Prop where
  ended : ∀ {index : Nat} {worker : Worker}, index < state.joined →
    state.workers[index]? = some worker → worker.place = .ended
  stopped : state.elapsed.isSome = true →
    state.isStarted = true ∧ state.joined = state.spawned
  returned : state.returned = true → state.elapsed.isSome = true

omit [Aggregate α] in
theorem coordinated_opening (setting : Setting ω σ) (world : σ) (work : ω) (meter : Meter α)
    (now : UInt64) : (opening setting world work meter now).Coordinated :=
  ⟨fun early => absurd early (Nat.not_lt_zero _), Bool.noConfusion, Bool.noConfusion⟩

theorem Coordinated.fires (coordinated : state.Coordinated)
    (fires : state.Fires setting move after) : after.Coordinated := by
  cases fires with
  | @worker index fate worker next shared spawned found advance =>
    refine ⟨?_, ?_, coordinated.returned⟩
    · intro other member early got
      rcases of_getElem?_set got with ⟨rfl, rfl⟩ | ⟨_, got⟩
      · exact absurd (coordinated.ended early found) advance.unended
      · exact coordinated.ended early got
    · intro stopped
      rw [isStarted, List.length_set]
      exact coordinated.stopped stopped
  | spawned unstarted | stoodIn unstarted =>
    refine ⟨coordinated.ended, ?_, coordinated.returned⟩
    intro stopped
    have started := (coordinated.stopped stopped).1
    rw [unstarted] at started
    cases started
  | joined started behind ended =>
    refine ⟨?_, ?_, coordinated.returned⟩
    · intro index worker early found
      rcases Nat.lt_or_eq_of_le (Nat.le_of_lt_succ early) with before | rfl
      · exact coordinated.ended before found
      · rw [hasEnded, found, Option.any_some, beq_iff_eq] at ended
        exact ended
    · intro stopped
      exact absurd (coordinated.stopped stopped).2 (Nat.ne_of_lt behind)
  | timeStopped started all running =>
    exact ⟨coordinated.ended, fun _ => ⟨started, all⟩, fun _ => rfl⟩
  | concluded stopped silent pending =>
    exact ⟨coordinated.ended, coordinated.stopped, fun _ => stopped⟩
  | roused | wrote => exact ⟨coordinated.ended, coordinated.stopped, coordinated.returned⟩

theorem Coordinated.of_reaches {world : σ} {work : ω} {meter : Meter α} {now : UInt64}
    (reaches : Reaches (step setting) (opening setting world work meter now) state) :
    state.Coordinated :=
  reaches.invariant (coordinated_opening setting world work meter now)
    fun _ _ _ coordinated steps => coordinated.fires (fires_of_step steps).2

omit [Aggregate α] in
theorem Coordinated.spawned_eq (coordinated : state.Coordinated)
    (unhindered : state.spawnFault = none) (returned : state.returned = true) :
    state.spawned = state.workers.length := by
  have started := (coordinated.stopped (coordinated.returned returned)).1
  simpa [isStarted, unhindered] using started

omit [Aggregate α] in
/-- When a phase has returned and every worker could be started, all of them have ended. -/
theorem Coordinated.all_ended (coordinated : state.Coordinated)
    (unhindered : state.spawnFault = none) (returned : state.returned = true) {index : Nat}
    {worker : Worker} (found : state.workers[index]? = some worker) : worker.place = .ended := by
  have joined := (coordinated.stopped (coordinated.returned returned)).2
  have all := coordinated.spawned_eq unhindered returned
  have inside := (List.getElem?_eq_some_iff.1 found).1
  exact coordinated.ended (by omega) found

end State

/-! ## The end of a phase -/

/-- **A phase is never stuck.**  Take any phase whose failures do not end the program: any numbers
of workers, of operations and of warm-up calls, a workload and stores that fail wherever they like,
and a start of a worker that may fail as well.  As long as a started worker has not ended, some
worker can make a step, or the coordinator can start the next worker or fail to, and then some
worker can.  Every move makes the phase lighter; only the thread of the status lines may wait and
write, and change nothing else, while the completion latch is closed.  No count-down is missed and
none is made twice: the latch counts the workers that have not left, and the gate those that have a
place at it, without those for which the coordinator stood in.  When neither a worker nor a start
is left, every started worker has ended with an outcome, and nobody is awaited at the latch or at
the gate; and when no move is left, the phase has returned. -/
theorem phase_never_stuck [Aggregate α] (setting : Setting ω σ)
    (propagates : setting.exits = false) (world : σ) (work : ω) (meter : Meter α) (now : UInt64)
    {state : State α ω σ}
    (reaches : Reaches (State.step setting) (State.opening setting world work meter now) state) :
    (∀ (index : Nat) (worker : Worker), index < state.spawned →
      state.workers[index]? = some worker → worker.place ≠ .ended →
      (∃ other < state.spawned, ∀ fate,
          (State.step setting (.worker other fate) state).isSome = true) ∨
        ∀ fault, ∃ after, State.step setting (.spawn fault) state = some after ∧
          ∃ other < after.spawned, ∀ fate,
            (State.step setting (.worker other fate) after).isSome = true) ∧
    (∀ move after, State.step setting move state = some after →
      toLex (after.burden setting 0) < toLex (state.burden setting 0) ∨
        (move = .rouse ∨ move = .write) ∧ state.shared.done.isOpen = false ∧
          after.burden setting 0 = state.burden setting 0) ∧
    (state.shared.done.count = total (state.parties.map Worker.presence) ∧
      state.shared.gate.pending = total (state.parties.map Worker.seats)) ∧
    ((∀ index fate, State.step setting (.worker index fate) state = none) →
      (∀ fault, State.step setting (.spawn fault) state = none) →
      (∀ index < state.spawned, ∃ worker, state.workers[index]? = some worker ∧
          worker.place = .ended ∧ worker.outcome ≠ none) ∧
        state.shared.done.count = 0 ∧ state.shared.gate.pending = 0) ∧
    ((∀ move, State.step setting move state = none) → state.returned = true) := by
  have attended := State.Attended.of_reaches propagates reaches
  have allStarted (still : ∀ fault, State.step setting (.spawn fault) state = none) :
      state.isStarted = true := by
    have spawn := still none
    rw [State.step, attended.runs] at spawn
    simpa [State.act] using spawn
  refine ⟨?_, ?_, ⟨attended.done, attended.inOrder.pending⟩, ?_, ?_⟩
  · intro index worker spawned found unended
    cases started : state.isStarted with
    | true => exact .inl (attended.exists_step started spawned found unended)
    | false => exact .inr (attended.exists_spawn propagates started spawned found unended)
  · intro move after steps
    have fires := (State.fires_of_step steps).2
    exact (attended.inOrder.lightens fires 0).imp_left Lightens.toLex_lt
  · intro still unspawned
    have started := allStarted unspawned
    refine ⟨?_, attended.nobody started (attended.ended still started)⟩
    intro index spawned
    have inside := Nat.lt_of_lt_of_le spawned attended.inOrder.spawned_le
    have found := List.getElem?_eq_getElem inside
    have stands := attended.ended still started spawned found
    exact ⟨_, found, stands, (attended.inOrder.fits found).outcome_ne_none stands⟩
  · intro still
    apply Classical.byContradiction
    intro unreturned
    obtain ⟨move, after, steps, _⟩ :=
      attended.exists_lightening (Bool.eq_false_iff.2 unreturned)
    rw [still move] at steps
    cases steps

/-- One worker waits at the gate for another whose store could not be opened: some worker can make
a step. -/
theorem phase_never_stuck_after_failed_opening :
    let config := { Config.default with
      threads := 2, warmupOps := 2, mix := { Mix.Options.default with operationCount := 4 } }
    let script := Script.reads [0]
    let setting := settingOf config .run false script.workload script.clients
    setting.exits = false ∧
    ∃ state : State Summary Progress (List ScriptedStore),
      Reaches (State.step setting)
        (State.opening setting [⟨0, 0⟩, ⟨0, 0⟩] (Progress.opening 2) Meter.empty 0) state ∧
      (∀ fault, State.step setting (.spawn fault) state = none) ∧
      (∃ worker, state.workers[1]? = some worker ∧ worker.place = .waiting ∧
        state.shared.gate.isOpen = false) ∧
      ∃ other < state.spawned, ∀ fate,
        (State.step setting (.worker other fate) state).isSome = true := by
  intro config script setting
  let schedule : List Move := [.spawn none, .spawn none] ++ Move.turns 1 12 ++ Move.turns 0 1
  have ready : (follow (State.step setting) schedule
      (State.opening setting [⟨0, 0⟩, ⟨0, 0⟩] (Progress.opening 2) (Meter.empty : Meter Summary)
        0)).any (fun state =>
          state.workers[1]?.any (fun worker => worker.place == .waiting) &&
          !state.shared.gate.isOpen && state.isStarted && state.spawned == 2) = true := by
    decide +kernel
  obtain ⟨state, followed, facts⟩ := (Option.any_eq_true _ _).1 ready
  simp only [Bool.and_eq_true, Option.any_eq_true, beq_iff_eq, Bool.not_eq_true'] at facts
  obtain ⟨⟨⟨⟨worker, found, waiting⟩, isClosed⟩, started⟩, spawned⟩ := facts
  have reaches := reaches_of_follow followed
  have unspawned : ∀ fault, State.step setting (.spawn fault) state = none := by
    intro fault
    rw [State.step]
    split
    · rfl
    · simp only [State.act, started, if_true]
  have unended : worker.place ≠ .ended := by
    rw [waiting]
    exact Place.noConfusion
  have second : 1 < state.spawned := by omega
  refine ⟨rfl, state, reaches, unspawned, ⟨worker, found, waiting, isClosed⟩, ?_⟩
  rcases (phase_never_stuck setting rfl _ _ _ _ reaches).1 1 worker second found unended with
    moves | spawns
  · exact moves
  · obtain ⟨after, spawn, _⟩ := spawns none
    rw [unspawned none] at spawn
    cases spawn

end StoreBench.Phase
