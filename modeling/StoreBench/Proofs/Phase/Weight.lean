import Mathlib.Data.Prod.Lex
import StoreBench.Proofs.Phase.Positions

/-!
Contract: how much of a phase is left.

A worker carries two weights.  The first falls with every step that is not part of a call; it
allows for a number of calls in each iteration that is left.  The second counts the steps of the
calls that an iteration has asked for.  An iteration that asks for calls moves weight from the
first to the second, and only if it asks for more calls than were allowed for does the sum grow.

Owns:
- `Worker.burden` and `State.burden`, the two weights;
- `Lightens`, what a move does to them.

Does not own: that there is a move, and what holds when there is none.
-/

namespace StoreBench.Phase

open Latency

variable {α ω σ : Type}

/-! ## Pairs of weights -/

/-- What a step takes off a pair of weights; a step that asks for calls puts their steps on the
second weight. -/
inductive Lightens (setting : Setting ω σ) (calls : Nat) (before after : Nat × Nat) : Prop
  | nearer (less : after.1 < before.1) (noMore : after.2 ≤ before.2)
  | served (noMore : after.1 ≤ before.1) (less : after.2 < before.2)
  | asked {index : Nat} {step : Mix.Step} {choices : Mix.Choices} {work : ω}
      {tasks : List Mix.Task}
      (plan : (setting.workload.plan index step choices work).1 = .tasks tasks)
      (less : after.1 + 6 * calls < before.1) (more : after.2 = before.2 + 6 * tasks.length)

namespace Lightens

variable {setting : Setting ω σ} {calls : Nat} {before after : Nat × Nat}

theorem toLex_lt (lightens : Lightens setting calls before after) : toLex after < toLex before := by
  rw [Prod.Lex.toLex_lt_toLex]
  cases lightens with
  | nearer less => exact .inl less
  | served noMore less => exact (Nat.lt_or_eq_of_le noMore).imp_right fun same => ⟨same, less⟩
  | asked plan less => exact .inl (Nat.lt_of_le_of_lt (Nat.le_add_right _ _) less)

/-- One of many weights gets lighter, and with it the sum of all. -/
theorem sum {whole next : Nat × Nat} (lightens : Lightens setting calls before after)
    (first : next.1 + before.1 ≤ whole.1 + after.1)
    (second : next.2 + before.2 = whole.2 + after.2) : Lightens setting calls whole next := by
  cases lightens with
  | nearer => exact .nearer (by omega) (by omega)
  | served => exact .served (by omega) (by omega)
  | asked plan => exact .asked plan (by omega) (by omega)

end Lightens

/-! ## One worker -/

/-- The number of steps until a call is settled. -/
def CallStage.left : CallStage → Nat
  | .calling => 6
  | .underway _ => 5
  | .returned .. => 4
  | .timed .. => 3
  | .filing .. => 2
  | .settling _ | .failed _ => 1

namespace Place

/-- How far a place is from the end of the routine, or of the iteration. -/
def rank (calls : Nat) : Place → Nat
  | .ended => 0
  | .exiting => 1
  | .leaving => 2
  | .leavingGate => 3
  | .closing | .serving .. => 4
  | .planning => 5 + 6 * calls
  | .throttling | .arriving => 6 + 6 * calls
  | .looping => 7 + 6 * calls
  | .opening | .starting => 8 + 6 * calls
  | .claiming => 9 + 6 * calls
  | .waiting => 10 + 6 * calls

/-- The steps of the calls that are asked for. -/
def callSteps : Place → Nat
  | .serving _ later stage => 6 * later.length + stage.left
  | _ => 0

end Place

namespace Worker

/-- The weights of a worker with so many operations.  A place at the gate weighs as much as the
steps that lead through the gate. -/
def burden (calls operations : Nat) (worker : Worker) : Nat × Nat :=
  ((4 + 6 * calls) * (operations - worker.iteration) + 5 * worker.seats + worker.place.rank calls,
    worker.place.callSteps)

variable {worker : Worker}

theorem burden_proceed (calls : Nat) {operations : Nat}
    (unfinished : worker.iteration < operations) (tasks : List Mix.Task) :
    ((worker.proceed tasks).burden calls operations).1 ≤
        (4 + 6 * calls) * (operations - worker.iteration) + 5 * worker.seats + 4 ∧
      ((worker.proceed tasks).burden calls operations).2 = 6 * tasks.length := by
  cases tasks with
  | cons task later => exact ⟨Nat.le_refl _, rfl⟩
  | nil =>
    have one : operations - worker.iteration = operations - (worker.iteration + 1) + 1 := by omega
    refine ⟨?_, rfl⟩
    show (4 + 6 * calls) * (operations - (worker.iteration + 1)) + 5 * worker.seats +
      (7 + 6 * calls) ≤ _
    rw [one, Nat.mul_succ]
    omega

variable [Aggregate α] {setting : Setting ω σ} {index : Nat} {fate : Fate} {next : Worker}
  {shared after : Shared α ω σ}

/-- Every step makes a worker lighter. -/
theorem Advance.lightens (advance : worker.Advance setting index fate shared next after)
    (fits : worker.Fits setting.warmup.toNat (setting.operations.getD index 0).toNat
      shared.gate.isOpen) (calls : Nat) :
    Lightens setting calls (worker.burden calls (setting.operations.getD index 0).toNat)
      (next.burden calls (setting.operations.getD index 0).toNat) := by
  unfold Fits at fits
  cases advance with
  | @planned tasks work stands plan =>
    -- the weight that was kept for the calls becomes their steps
    rw [stands] at fits
    obtain ⟨weight, steps⟩ := burden_proceed calls fits.2.1 tasks
    refine .asked (congrArg Prod.fst plan) ?_ ?_
    · refine Nat.lt_of_le_of_lt (Nat.add_le_add_right weight _) ?_
      simp only [burden, stands, Place.rank]
      omega
    · rw [steps]
      simp only [burden, stands, Place.callSteps, Nat.zero_add]
  | @settled _ later tasks _ _ stands settles | @overlooked _ later tasks _ _ stands settles =>
    -- the calls that are left may become others, but not more
    rw [stands] at fits
    obtain ⟨weight, steps⟩ := burden_proceed calls fits.2.1 tasks
    have fewer : tasks.length ≤ later.length :=
      setting.workload.settle_le (congrArg Prod.fst settles)
    have before : (worker.burden calls (setting.operations.getD index 0).toNat) =
        ((4 + 6 * calls) * ((setting.operations.getD index 0).toNat - worker.iteration) +
          5 * worker.seats + 4, 6 * later.length + 1) := by
      rw [burden, stands]
      rfl
    rw [before]
    exact .served weight (by rw [steps]; omega)
  | clockRead stands | answered stands | timed stands | numbered stands | filed stands =>
    -- within a call only the second weight falls
    refine .served (Nat.le_of_eq ?_) ?_
    · simp only [burden, stands]
      rfl
    · simp only [burden, stands]
      exact Nat.lt_succ_self _
  | callFailed stands =>
    refine .served (Nat.le_of_eq ?_) ?_
    · simp only [burden, stands]
      rfl
    · simp only [burden, stands]
      exact Nat.add_lt_add_left (show 1 < 5 by decide) _
  | arrived stands =>
    -- the place at the gate is used, which outweighs the steps through the gate
    rw [stands] at fits
    refine .nearer ?_ (Nat.zero_le _)
    simp only [burden, stands, seats, fits.2.1, Place.rank, if_true, Bool.false_eq_true, if_false]
    omega
  | gaveUp stands hasPlace =>
    refine .nearer ?_ (Nat.zero_le _)
    simp only [burden, stands, seats, hasPlace, Place.rank, if_true, Bool.false_eq_true, if_false]
    omega
  | opened stands | openingFailed stands | reachedGate stands | wentOn stands
  | performedAll stands | passed stands | won stands | lost stands | started stands
  | throttled stands | planStopped stands | settlingStopped stands | passedOn stands
  | closed stands | closingFailed stands | keptNothing stands | leftToExit stands | left stands
  | exited stands | exitedUnharmed stands =>
    refine .nearer ?_ (Nat.zero_le _)
    simp only [burden, stands]
    refine Nat.add_lt_add_left ?_ _
    simp only [goTo, stop, finish, Place.rank]
    omega

end Worker

/-! ## A phase -/

/-- The steps that the thread of the status lines has yet to make once the latch is open. -/
def ReporterPlace.left (isOpen : Bool) : ReporterPlace → Nat
  | .ended => 0
  | .writing true => 1
  | .resting => if isOpen then 2 else 3
  | .writing false => 3

theorem ReporterPlace.left_mono (place : ReporterPlace) {isOpen later : Bool}
    (opens : isOpen = true → later = true) : place.left later ≤ place.left isOpen := by
  cases place with
  | resting =>
    cases isOpen with
    | true => rw [opens rfl]
    | false =>
      cases later with
      | true => exact Nat.le_succ 2
      | false => exact Nat.le_refl 3
  | writing last => cases last <;> exact Nat.le_refl _
  | ended => exact Nat.le_refl _

namespace State

/-- The number of moves that the coordinator has yet to make. -/
def coordination (state : State α ω σ) : Nat :=
  (if state.spawnFault.isSome then 0 else state.workers.length - state.spawned) +
    (state.workers.length - state.joined) + (if state.elapsed.isSome then 0 else 1) +
    if state.returned then 0 else 1

/-- The weights of each worker. -/
def burdens (setting : Setting ω σ) (calls : Nat) (state : State α ω σ) : List (Nat × Nat) :=
  state.workers.mapIdx fun index worker =>
    worker.burden calls (setting.operations.getD index 0).toNat

/-- The weights of a phase. -/
def burden (setting : Setting ω σ) (calls : Nat) (state : State α ω σ) : Nat × Nat :=
  (total ((state.burdens setting calls).map Prod.fst) + state.coordination +
      state.reporter.place.left state.shared.done.isOpen,
    total ((state.burdens setting calls).map Prod.snd))

variable [Aggregate α] {setting : Setting ω σ} {state after : State α ω σ} {move : Move}

omit [Aggregate α] in
theorem burdens_set (setting : Setting ω σ) (calls : Nat) {index : Nat} {worker : Worker}
    (found : state.workers[index]? = some worker) (next : Worker) (shared : Shared α ω σ) :
    (state.burdens setting calls)[index]? =
        some (worker.burden calls (setting.operations.getD index 0).toNat) ∧
      ({ state with workers := state.workers.set index next, shared } : State α ω σ).burdens
          setting calls =
        (state.burdens setting calls).set index
          (next.burden calls (setting.operations.getD index 0).toNat) := by
  constructor
  · rw [burdens, List.getElem?_mapIdx, found, Option.map_some]
  · exact List.mapIdx_set

omit [Aggregate α] in
theorem coordination_set (index : Nat) (next : Worker) (shared : Shared α ω σ) :
    ({ state with workers := state.workers.set index next, shared } : State α ω σ).coordination =
      state.coordination := by
  simp only [coordination, List.length_set]

theorem done_isOpen_of_fires (fires : state.Fires setting move after)
    (isOpen : state.shared.done.isOpen = true) : after.shared.done.isOpen = true := by
  have counted (times : Nat) : (state.shared.done.countDownTimes times).isOpen = true := by
    simp only [Sync.Latch.isOpen, Sync.Latch.countDownTimes, beq_iff_eq] at isOpen ⊢
    rw [isOpen, Nat.zero_sub]
  cases fires with
  | worker _ _ advance =>
    cases advance with
    | leftToExit | left => exact counted 1
    | _ => exact isOpen
  | stoodIn => exact counted _
  | _ => exact isOpen

theorem InOrder.lightens_worker (inOrder : state.InOrder setting) {index : Nat} {fate : Fate}
    {worker next : Worker} {shared : Shared α ω σ} (found : state.workers[index]? = some worker)
    (advance : worker.Advance setting index fate state.shared next shared)
    (opens : state.shared.done.isOpen = true → shared.done.isOpen = true) (calls : Nat) :
    Lightens setting calls (state.burden setting calls)
      (({ state with workers := state.workers.set index next, shared } : State α ω σ).burden
        setting calls) := by
  obtain ⟨mine, replaced⟩ := burdens_set setting calls found next shared
  have first := total_map_set Prod.fst mine
    (next.burden calls (setting.operations.getD index 0).toNat)
  have second := total_map_set Prod.snd mine
    (next.burden calls (setting.operations.getD index 0).toNat)
  have silent := state.reporter.place.left_mono opens
  rw [← replaced] at first second
  refine (advance.lightens (inOrder.fits found) calls).sum ?_ second
  rw [burden, coordination_set]
  show _ + state.coordination + state.reporter.place.left shared.done.isOpen + _ ≤
    _ + state.coordination + _ + _
  omega

omit [Aggregate α] in
theorem lightens_of_coordination (workers : after.workers = state.workers)
    (reporter : after.reporter = state.reporter)
    (opens : state.shared.done.isOpen = true → after.shared.done.isOpen = true)
    (less : after.coordination < state.coordination) (calls : Nat) :
    Lightens setting calls (state.burden setting calls) (after.burden setting calls) := by
  have silent := state.reporter.place.left_mono opens
  have same : after.burdens setting calls = state.burdens setting calls := by
    rw [burdens, burdens, workers]
  rw [burden, burden, same, reporter]
  exact .nearer (Nat.add_lt_add_of_lt_of_le (Nat.add_lt_add_left less _) silent) (Nat.le_refl _)

/-- Every move makes a phase lighter, except that the thread of the status lines may wait and write
while the latch is closed. -/
theorem InOrder.lightens (inOrder : state.InOrder setting) (fires : state.Fires setting move after)
    (calls : Nat) :
    Lightens setting calls (state.burden setting calls) (after.burden setting calls) ∨
      (move = .rouse ∨ move = .write) ∧ state.shared.done.isOpen = false ∧
        after.burden setting calls = state.burden setting calls := by
  have opens : state.shared.done.isOpen = true → after.shared.done.isOpen = true :=
    done_isOpen_of_fires fires
  have behind := inOrder.spawned_le
  cases fires with
  | worker spawned found advance => exact .inl (inOrder.lightens_worker found advance opens calls)
  | spawned unstarted =>
    left
    obtain ⟨unhindered, others⟩ := spawnFault_of_not_isStarted unstarted
    refine lightens_of_coordination (by rfl) (by rfl) opens ?_ calls
    simp only [coordination, unhindered, Option.isSome_none, Bool.false_eq_true, if_false]
    omega
  | stoodIn unstarted =>
    left
    obtain ⟨unhindered, others⟩ := spawnFault_of_not_isStarted unstarted
    refine lightens_of_coordination (by rfl) (by rfl) opens ?_ calls
    rw [coordination, coordination, unhindered]
    refine Nat.add_lt_add_right (Nat.add_lt_add_right (Nat.add_lt_add_right ?_ _) _) _
    show 0 < state.workers.length - state.spawned
    omega
  | joined started early ended =>
    left
    refine lightens_of_coordination (by rfl) (by rfl) opens ?_ calls
    simp only [coordination]
    omega
  | timeStopped started all running =>
    left
    refine lightens_of_coordination (by rfl) (by rfl) opens ?_ calls
    simp only [coordination, running, Option.isSome_none, Option.isSome_some, Bool.false_eq_true,
      if_false, if_true]
    omega
  | concluded stopped silent pending =>
    left
    refine lightens_of_coordination (by rfl) (by rfl) opens ?_ calls
    simp only [coordination, pending, Bool.false_eq_true, if_false, if_true]
    omega
  | roused rests =>
    cases isOpen : state.shared.done.isOpen with
    | true =>
      left
      refine .nearer (Nat.add_lt_add_left ?_ _) (Nat.le_refl _)
      rw [rests, isOpen]
      exact Nat.lt_succ_self 1
    | false =>
      right
      refine ⟨.inl rfl, rfl, ?_⟩
      simp only [burden, rests, isOpen]
      rfl
  | @wrote last writes =>
    cases last with
    | true =>
      left
      refine .nearer (Nat.add_lt_add_left ?_ _) (Nat.le_refl _)
      rw [writes]
      exact Nat.lt_succ_self 0
    | false =>
      -- a line that was begun before the latch opened is not the last one
      cases isOpen : state.shared.done.isOpen with
      | true =>
        left
        refine .nearer (Nat.add_lt_add_left ?_ _) (Nat.le_refl _)
        rw [writes, isOpen]
        exact Nat.lt_succ_self 2
      | false =>
        right
        refine ⟨.inr rfl, rfl, ?_⟩
        simp only [burden, writes, isOpen]
        rfl

end State

end StoreBench.Phase
