import StoreBench.Proofs.Phase.Positions

/-!
Contract: what comes before the first operation behind the warm-up.

The gate is left in any order.  One worker wins the right to start the measurement, and its
next action is to start it; the others go on at once.  The flag of the gate is therefore the number
of starts and of workers that are about to start, and a worker past the gate has seen the flag set,
but not necessarily the measurement started.

Owns:
- `Worker.InStep` and `Worker.Cleared`, what the flag says of a worker;
- `State.Claimed`, the invariant of the flag, which every move keeps;
- a run in which a call is measured before the measurement was started.

Does not own: which calls are measured, which is in `Proofs.Phase.WarmupRouting`.
-/

namespace StoreBench.Phase

open Latency

variable {α ω σ : Type}

/-! ## One worker -/

namespace Worker

/-- The worker has begun the step of its iteration. -/
def InStep (worker : Worker) : Prop :=
  match worker.place with
  | .planning | .serving .. => True
  | _ => False

/-- Past the gate a worker has seen the flag set; `flag` is what it is now. -/
def Cleared (flag : Bool) (worker : Worker) : Prop :=
  match worker.place with
  | .arriving | .waiting | .claiming | .leaving | .exiting | .ended => True
  | .starting => flag = true
  | _ => worker.hasPlace = true ∨ flag = true

/-- Whether the worker is about to start the measurement, as a number. -/
def starter (worker : Worker) : Nat := if worker.place = .starting then 1 else 0

variable {worker : Worker}

theorem Cleared.mono {flag later : Bool} (cleared : worker.Cleared flag)
    (raised : flag = true → later = true) : worker.Cleared later := by
  unfold Cleared at cleared ⊢
  cases stands : worker.place <;> simp only [stands] at cleared ⊢ <;>
    first | exact raised cleared | exact cleared.imp_right raised

theorem cleared_proceed {flag : Bool} (tasks : List Mix.Task)
    (past : worker.hasPlace = true ∨ flag = true) : (worker.proceed tasks).Cleared flag := by
  cases tasks with
  | nil => exact past
  | cons task later => exact past

theorem starter_proceed (worker : Worker) (tasks : List Mix.Task) :
    (worker.proceed tasks).starter = 0 := by
  cases tasks with
  | nil => rfl
  | cons task later => rfl

theorem starter_of_ne (elsewhere : worker.place ≠ .starting) : worker.starter = 0 :=
  if_neg elsewhere

/-- A worker in the step of an iteration behind the boundary has no place at the gate, which is
open. -/
theorem Fits.inStep {warmup operations : Nat} {isOpen : Bool}
    (fits : worker.Fits warmup operations isOpen) (begun : worker.InStep)
    (behind : warmup ≤ worker.iteration) : worker.hasPlace = false ∧ isOpen = true := by
  unfold Fits at fits
  unfold InStep at begun
  cases stands : worker.place with
  | planning | serving =>
    rw [stands] at fits
    obtain ⟨_, _, ⟨_, early⟩ | beyond⟩ := fits
    · exact absurd behind (Nat.not_le.2 early)
    · exact ⟨beyond.1, beyond.2.2.2⟩
  | _ =>
    rw [stands] at begun
    cases begun

section
variable [Aggregate α] {setting : Setting ω σ} {index : Nat} {fate : Fate} {next : Worker}
  {shared after : Shared α ω σ}

theorem Advance.started_mono (advance : worker.Advance setting index fate shared next after)
    (flag : shared.gate.started = true) : after.gate.started = true := by
  cases advance with
  | won | lost => rfl
  | _ => exact flag

theorem Advance.cleared (advance : worker.Advance setting index fate shared next after)
    (cleared : worker.Cleared shared.gate.started) : next.Cleared after.gate.started := by
  unfold Cleared at cleared
  cases advance with
  | arrived | passed | leftToExit | left | exited | exitedUnharmed => trivial
  | won => rfl
  | lost => exact .inr rfl
  | started stands =>
    rw [stands] at cleared
    exact .inr cleared
  | reachedGate | gaveUp | keptNothing => trivial
  | planned stands | settled stands | overlooked stands =>
    rw [stands] at cleared
    exact cleared_proceed _ cleared
  | opened stands | openingFailed stands | wentOn stands | performedAll stands | throttled stands
  | planStopped stands | clockRead stands | answered stands | callFailed stands | timed stands
  | numbered stands | filed stands | settlingStopped stands | passedOn stands | closed stands
  | closingFailed stands =>
    rw [stands] at cleared
    exact cleared

/-- The flag is raised for exactly one worker, which is about to start the measurement until it
has. -/
theorem Advance.starter_eq (advance : worker.Advance setting index fate shared next after) :
    after.gate.starts + next.starter + shared.gate.started.toNat =
      shared.gate.starts + worker.starter + after.gate.started.toNat := by
  have elsewhere {place : Place} (stands : worker.place = place) (apart : place ≠ .starting) :
      worker.starter = 0 := starter_of_ne (stands ▸ apart)
  cases advance with
  | won stands first =>
    rw [elsewhere stands Place.noConfusion, first]
    rfl
  | lost stands late =>
    rw [elsewhere stands Place.noConfusion, late]
    rfl
  | started stands =>
    have mine : worker.starter = 1 := if_pos stands
    rw [mine]
    rfl
  | planned stands | settled stands | overlooked stands =>
    rw [elsewhere stands Place.noConfusion, starter_proceed]
  | opened stands | openingFailed stands | reachedGate stands | wentOn stands
  | performedAll stands | arrived stands | passed stands | throttled stands | planStopped stands
  | clockRead stands | answered stands | callFailed stands | timed stands | numbered stands
  | filed stands | settlingStopped stands | passedOn stands | closed stands
  | closingFailed stands | gaveUp stands | keptNothing stands | leftToExit stands | left stands
  | exited stands | exitedUnharmed stands =>
    rw [elsewhere stands Place.noConfusion]
    rfl

/-- The stopwatch runs exactly if the measurement was started. -/
theorem Advance.stopwatch (advance : worker.Advance setting index fate shared next after)
    (runs : shared.stopwatch.isStarted = true ↔ 0 < shared.gate.starts) :
    after.stopwatch.isStarted = true ↔ 0 < after.gate.starts := by
  cases advance with
  | started => exact ⟨fun _ => Nat.succ_pos _, fun _ => rfl⟩
  | _ => exact runs

end

end Worker

/-! ## All workers -/

namespace State

/-- The flag of the gate, the workers past it and the stopwatch agree. -/
structure Claimed (setting : Setting ω σ) (state : State α ω σ) : Prop where
  inOrder : state.InOrder setting
  cleared : ∀ worker ∈ state.workers, worker.Cleared state.shared.gate.started
  starters : state.shared.gate.starts + total (state.workers.map Worker.starter) =
    state.shared.gate.started.toNat
  stopwatch : state.shared.stopwatch.isStarted = true ↔ 0 < state.shared.gate.starts

variable {setting : Setting ω σ} {state after : State α ω σ} {move : Move}

theorem claimed_opening (warm : 0 < setting.warmup) (world : σ) (work : ω) (meter : Meter α)
    (now : UInt64) : (opening setting world work meter now).Claimed setting := by
  have gate : setting.hasGate = true := decide_eq_true warm
  refine ⟨inOrder_opening setting world work meter now, ?_, ?_, ?_⟩
  · intro worker member
    rw [worker_opening member]
    exact .inl gate
  · have nobody : ∀ worker ∈ (opening setting world work meter now).workers,
        worker.starter = 0 := by
      intro worker member
      rw [worker_opening member]
      rfl
    rw [total_map_eq_zero nobody]
    rfl
  · simp [opening, gate, Stopwatch.fresh, Stopwatch.isStarted, Sync.WarmupGate.closed]

theorem Claimed.fires [Aggregate α] (claimed : state.Claimed setting)
    (fires : state.Fires setting move after) : after.Claimed setting := by
  have inOrder := claimed.inOrder.fires fires
  cases fires with
  | @worker index fate worker next shared spawned found advance =>
    have starters := total_map_set Worker.starter found next
    have flags := advance.starter_eq
    have before := claimed.starters
    refine ⟨inOrder, ?_, ?_, advance.stopwatch claimed.stopwatch⟩
    · intro other member
      rcases List.mem_or_eq_of_mem_set member with old | rfl
      · exact (claimed.cleared other old).mono advance.started_mono
      · exact advance.cleared (claimed.cleared worker (List.mem_of_getElem? found))
    · show shared.gate.starts + total ((state.workers.set index next).map Worker.starter) =
        shared.gate.started.toNat
      omega
  | spawned | stoodIn | joined | timeStopped | concluded | roused | wrote =>
    exact ⟨inOrder, claimed.cleared, claimed.starters, claimed.stopwatch⟩

theorem Claimed.of_reaches [Aggregate α] (warm : 0 < setting.warmup) {world : σ} {work : ω}
    {meter : Meter α} {now : UInt64}
    (reaches : Reaches (step setting) (opening setting world work meter now) state) :
    state.Claimed setting :=
  reaches.invariant (claimed_opening warm world work meter now)
    fun _ _ _ claimed steps => claimed.fires (fires_of_step steps).2

end State

/-! ## Operations behind the warm-up -/

/-- **The race at the boundary.**  In every run of a phase with a warm-up, a worker begins the
step of an iteration behind the boundary only when nobody is awaited at the gate any more and some
worker has won the right to start the measurement.  Then the measurement either has been started,
once, or it is the next action of another worker to start it. -/
theorem step_behind_boundary [Aggregate α] (setting : Setting ω σ) (warm : 0 < setting.warmup)
    (world : σ) (work : ω) (meter : Meter α) (now : UInt64) {state : State α ω σ}
    (reaches : Reaches (State.step setting) (State.opening setting world work meter now) state)
    {index : Nat} {worker : Worker} (found : state.workers[index]? = some worker)
    (begun : worker.InStep) (behind : setting.warmup.toNat ≤ worker.iteration) :
    state.shared.gate.pending = 0 ∧ state.shared.gate.started = true ∧
      (state.shared.gate.starts = 1 ∧ state.shared.stopwatch.isStarted = true ∨
        state.shared.gate.starts = 0 ∧ state.shared.stopwatch.isStarted = false ∧
          ∃ (winner : Nat) (party : Worker), winner ≠ index ∧
            state.workers[winner]? = some party ∧ party.place = .starting) := by
  have claimed := State.Claimed.of_reaches warm reaches
  obtain ⟨hasPlace, isOpen⟩ := (claimed.inOrder.fits found).inStep begun behind
  have flag : state.shared.gate.started = true := by
    have cleared := claimed.cleared worker (List.mem_of_getElem? found)
    unfold Worker.Cleared at cleared
    unfold Worker.InStep at begun
    cases stands : worker.place with
    | planning | serving =>
      rw [stands] at cleared
      exact cleared.resolve_left (by rw [hasPlace]; exact Bool.false_ne_true)
    | _ =>
      rw [stands] at begun
      cases begun
  have starters := claimed.starters
  rw [flag, Bool.toNat_true] at starters
  refine ⟨State.isOpen_iff_pending.1 isOpen, flag, ?_⟩
  by_cases unstarted : state.shared.gate.starts = 0
  · right
    have silent : state.shared.stopwatch.isStarted = false := by
      rw [← Bool.not_eq_true, claimed.stopwatch, unstarted]
      exact Nat.lt_irrefl 0
    refine ⟨unstarted, silent, ?_⟩
    apply Classical.byContradiction
    intro nobody
    have idle : ∀ party ∈ state.workers, party.starter = 0 := by
      intro party member
      apply Worker.starter_of_ne
      intro starting
      obtain ⟨winner, got⟩ := List.getElem?_of_mem member
      refine nobody ⟨winner, party, ?_, got, starting⟩
      rintro rfl
      rw [found] at got
      cases got
      rw [Worker.InStep, starting] at begun
      cases begun
    rw [total_map_eq_zero idle, unstarted] at starters
    cases starters
  · left
    have once : state.shared.gate.starts = 1 := by omega
    exact ⟨once, claimed.stopwatch.2 (by omega)⟩

/-- The worker that won starts the measurement and then reads behind the boundary. -/
theorem step_behind_boundary_after_start :
    let config := { Config.default with
      threads := 2, warmupOps := 2, mix := { Mix.Options.default with operationCount := 4 } }
    let script := Script.reads []
    let setting := settingOf config .run false script.workload script.clients
    0 < setting.warmup ∧
    ∃ (state : State Summary Progress (List ScriptedStore)) (worker : Worker),
      Reaches (State.step setting)
        (State.opening setting [⟨0, 0⟩, ⟨0, 0⟩] (Progress.opening 2) Meter.empty 0) state ∧
      state.workers[0]? = some worker ∧ worker.InStep ∧
      setting.warmup.toNat ≤ worker.iteration ∧
      state.shared.gate.starts = 1 ∧ state.shared.stopwatch.isStarted = true := by
  intro config script setting
  have warm : 0 < setting.warmup := by decide
  let schedule : List Move :=
    [.spawn none, .spawn none] ++ Move.turns 0 12 ++ Move.turns 1 12 ++ Move.turns 0 5
  have ready : (follow (State.step setting) schedule
      (State.opening setting [⟨0, 0⟩, ⟨0, 0⟩] (Progress.opening 2) (Meter.empty : Meter Summary)
        0)).any (fun state =>
          state.workers[0]?.any (fun worker =>
            worker.place == .planning && worker.iteration == 1) &&
          state.workers[1]?.any (fun worker => worker.place == .waiting)) = true := by
    decide +kernel
  obtain ⟨state, followed, facts⟩ := (Option.any_eq_true _ _).1 ready
  simp only [Bool.and_eq_true, Option.any_eq_true, beq_iff_eq] at facts
  obtain ⟨⟨worker, found, planning, iteration⟩, ⟨other, waits, waiting⟩⟩ := facts
  have begun : worker.InStep := by
    rw [Worker.InStep, planning]
    trivial
  have behind : setting.warmup.toNat ≤ worker.iteration := by
    rw [iteration]
    decide
  have reaches := reaches_of_follow followed
  obtain ⟨_, _, started | ⟨_, _, winner, party, apart, got, starting⟩⟩ :=
    step_behind_boundary setting warm _ _ _ _ reaches found begun behind
  · exact ⟨warm, state, worker, reaches, found, begun, behind, started⟩
  · -- the only other worker still waits at the gate
    have size := (State.InOrder.of_reaches reaches).lt_workers got
    have second : winner = 1 := by
      have two : setting.workers = 2 := by decide
      omega
    rw [second, waits] at got
    cases got
    rw [waiting] at starting
    cases starting

/-- A worker that lost the race measures a call while the winner has yet to start the
measurement. -/
theorem measured_before_start :
    let config := { Config.default with
      threads := 2, warmupOps := 2, mix := { Mix.Options.default with operationCount := 4 } }
    let script := Script.reads []
    let setting := settingOf config .run false script.workload script.clients
    ∃ (state : State Summary Progress (List ScriptedStore)) (worker : Worker),
      Reaches (State.step setting)
        (State.opening setting [⟨0, 0⟩, ⟨0, 0⟩] (Progress.opening 2) Meter.empty 0) state ∧
      state.workers[1]? = some worker ∧ worker.InStep ∧
      setting.warmup.toNat ≤ worker.iteration ∧
      state.shared.gate.starts = 0 ∧ state.shared.stopwatch.isStarted = false ∧
      state.shared.meter.measuredTotal = 1 := by
  intro config script setting
  let schedule : List Move :=
    [.spawn none, .spawn none] ++ Move.turns 0 12 ++ Move.turns 1 12 ++ Move.turns 0 2 ++
      Move.turns 1 10
  have ready : (follow (State.step setting) schedule
      (State.opening setting [⟨0, 0⟩, ⟨0, 0⟩] (Progress.opening 2) (Meter.empty : Meter Summary)
        0)).any (fun state =>
          state.workers[1]?.any (fun worker =>
            worker.place == .serving ⟨bareCall .read, none⟩ [] (.settling .ok) &&
              worker.iteration == 1) &&
          state.shared.gate.starts == 0 && !state.shared.stopwatch.isStarted &&
          state.shared.meter.measuredTotal == 1) = true := by
    decide +kernel
  obtain ⟨state, followed, facts⟩ := (Option.any_eq_true _ _).1 ready
  simp only [Bool.and_eq_true, Option.any_eq_true, beq_iff_eq, Bool.not_eq_true'] at facts
  obtain ⟨⟨⟨⟨worker, found, serving, iteration⟩, unstarted⟩, silent⟩, measured⟩ := facts
  refine ⟨state, worker, reaches_of_follow followed, found, ?_, ?_, unstarted, silent, measured⟩
  · rw [Worker.InStep, serving]
    trivial
  · rw [iteration]
    decide

end StoreBench.Phase
