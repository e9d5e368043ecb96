import Mathlib.Data.List.GetD
import StoreBench.Proofs.Mix.SingleCalls
import StoreBench.Proofs.Phase.Positions

/-!
Contract: the numbers that a worker claims when each of its steps makes one call.

A call that is answered with a status claims a number, and the step that made it may still fail.  A
call that fails claims none, and the step that made it may still succeed: then the iterations run
ahead of the numbers.  As long as neither happens, a worker has claimed as many numbers as it has
completed iterations, and one more while its call is filed.

Owns:
- `Worker.Serves`, a worker with the one call of its step;
- `Worker.overlooked?`, the failures that steps go on after;
- `Worker.Claimed`, what the numbers of a worker have to do with its iterations, which every step
  of the worker keeps.

Does not own: the numbers of all workers together.
-/

namespace StoreBench.Phase

open Latency

variable {α ω σ : Type}

namespace Worker

/-- The numbers that the worker has claimed if all its calls so far were answered: one in each
iteration that it has completed, and one in this iteration once its call has one. -/
def claims (worker : Worker) : Nat :=
  match worker.place with
  | .serving _ _ (.filing ..) | .serving _ _ (.settling _) => worker.iteration + 1
  | _ => worker.iteration

/-- The worker is about to make, or makes, the one call that its iteration asked for. -/
def Serves (setting : Setting ω σ) (index : Nat) (worker : Worker) : Prop :=
  ∀ {task later stage}, worker.place = .serving task later stage →
    later = [] ∧ ∃ choices work,
      (setting.workload.plan index (setting.stepOf worker.iteration) choices work).1 =
        .tasks [task]

/-- The failure that the step of the worker goes on after, if it does so next. -/
def overlooked? (setting : Setting ω σ) (index : Nat) (shared : Shared α ω σ) (worker : Worker) :
    Option Failure :=
  match worker.place with
  | .serving task later (.failed fault) =>
    match (setting.workload.settle index task later (worker.results.reply (.error fault))
      shared.work).1 with
    | .tasks _ => some fault
    | .stop _ => none
  | _ => none

/-- What is known of a worker with so many operations that has claimed so many numbers.  It has
claimed no more than its share of the warm-up while the gate is closed, also if it was stopped; if
its steps are `heedful` of failures, its iterations tell the number. -/
structure Claimed (warmup operations : Nat) (isOpen : Bool) (heedful : Prop) (numbers : Nat)
    (worker : Worker) : Prop where
  share : ¬ isOpen = true → numbers ≤ warmup
  whole : numbers ≤ operations
  atMost : ¬ worker.Failed → numbers ≤ worker.claims
  exactly : heedful → ¬ worker.Failed → numbers = worker.claims

variable {warmup operations : Nat} {isOpen : Bool} {worker : Worker}

/-- A worker without a place at the gate that was not stopped has completed its share of the
warm-up, as far as it has operations. -/
theorem Fits.le_claims (fits : worker.Fits warmup operations isOpen)
    (hasPlace : worker.hasPlace = false) (unharmed : ¬ worker.Failed) :
    min warmup operations ≤ worker.claims := by
  have reached : min warmup operations ≤ worker.iteration := by
    unfold Fits at fits
    cases stands : worker.place <;>
      simp only [stands, Ahead, Beyond] at fits <;>
      grind
  refine Nat.le_trans reached ?_
  unfold claims
  split
  · exact Nat.le_succ _
  · exact Nat.le_succ _
  · exact Nat.le_refl _

/-- A worker that makes a call has its place at the gate exactly before the boundary. -/
theorem Fits.serving {task : Mix.Task} {later : List Mix.Task} {stage : CallStage}
    (fits : worker.Fits warmup operations isOpen)
    (stands : worker.place = .serving task later stage) :
    worker.outcome = none ∧ worker.iteration < operations ∧
      (worker.hasPlace = true ∧ worker.iteration < warmup ∨
        worker.hasPlace = false ∧ warmup ≤ worker.iteration ∧ isOpen = true) := by
  unfold Fits at fits
  rw [stands] at fits
  obtain ⟨routine, unfinished, ⟨ahead, early⟩ | beyond⟩ := fits
  · exact ⟨routine, unfinished, .inl ⟨ahead.1, early⟩⟩
  · have boundary := beyond.2.1
    exact ⟨routine, unfinished, .inr ⟨beyond.1, by omega, beyond.2.2.2⟩⟩

theorem not_failed_of_routine (routine : worker.outcome = none) : ¬ worker.Failed := by
  rintro ⟨reason, outcome⟩
  rw [routine] at outcome
  cases outcome

theorem claimed_fresh (warmup operations : Nat) (isOpen hasPlace : Bool) (heedful : Prop) :
    (fresh hasPlace).Claimed warmup operations isOpen heedful 0 :=
  ⟨fun _ => Nat.zero_le _, Nat.zero_le _, fun _ => Nat.zero_le _, fun _ _ => rfl⟩

/-- The gate may open meanwhile, and others may overlook failures. -/
theorem Claimed.mono {later : Bool} {heedful heedfulStill : Prop} {numbers : Nat}
    (claimed : worker.Claimed warmup operations isOpen heedful numbers)
    (opens : isOpen = true → later = true) (heeds : heedfulStill → heedful) :
    worker.Claimed warmup operations later heedfulStill numbers :=
  ⟨fun isClosed => claimed.share fun isOpen => isClosed (opens isOpen), claimed.whole,
    claimed.atMost, fun still => claimed.exactly (heeds still)⟩

section
variable [Aggregate α] {setting : Setting ω σ} {index : Nat} {fate : Fate} {next : Worker}
  {shared after : Shared α ω σ}

theorem serves_fresh (setting : Setting ω σ) (index : Nat) (hasPlace : Bool) :
    (fresh hasPlace).Serves setting index := by
  intro task later stage stands
  cases stands

theorem Advance.serves (advance : worker.Advance setting index fate shared next after)
    (oneCall : setting.workload.OneCall) (serves : worker.Serves setting index) :
    next.Serves setting index := by
  intro task later stage standsNext
  cases advance with
  | @planned tasks work stands plan =>
    obtain ⟨asked, rfl⟩ := oneCall.eq_singleton plan
    cases standsNext
    exact ⟨rfl, fate.choices, shared.work, congrArg Prod.fst plan⟩
  | clockRead stands | answered stands | callFailed stands | timed stands | numbered stands
  | filed stands =>
    cases standsNext
    exact serves stands
  | settled stands settles | overlooked stands settles =>
    obtain ⟨rfl, _⟩ := serves stands
    obtain rfl := setting.workload.tasks_eq_nil settles
    cases standsNext
  | _ => cases standsNext

theorem Advance.failed (advance : worker.Advance setting index fate shared next after)
    (fits : worker.Fits warmup operations isOpen) (failed : worker.Failed) : next.Failed := by
  obtain ⟨reason, outcome⟩ := failed
  cases advance with
  | openingFailed | planStopped | settlingStopped | passedOn | closingFailed => exact ⟨_, rfl⟩
  | @planned tasks | @settled _ _ tasks | @overlooked _ _ tasks =>
    cases tasks <;> exact ⟨reason, outcome⟩
  | closed stands =>
    unfold Fits at fits
    rw [stands] at fits
    rw [fits.1] at outcome
    cases outcome
  | _ => exact ⟨reason, outcome⟩

/-- Only a worker whose call is timed claims a number. -/
theorem Advance.tracker_eq (advance : worker.Advance setting index fate shared next after) :
    after.tracker = shared.tracker ∨
      after.tracker = shared.tracker.claim.2 ∧ ∃ task later status elapsed,
        worker.place = .serving task later (.timed status elapsed) := by
  cases advance with
  | numbered stands => exact .inr ⟨rfl, _, _, _, _, stands⟩
  | _ => exact .inl rfl

/-- As long as a worker is not stopped, its iterations and the numbers that are given out run
together, except that an iteration in which a failure was overlooked has no number. -/
theorem Advance.calls_eq (advance : worker.Advance setting index fate shared next after)
    (oneCall : setting.workload.OneCall) (serves : worker.Serves setting index)
    (warm : 0 < shared.tracker.target) (goesOn : ¬ next.Failed) :
    after.tracker.calls + worker.claims + (worker.overlooked? setting index shared).toList.length =
      shared.tracker.calls + next.claims := by
  unfold claims overlooked?
  cases advance with
  | planned stands plan =>
    obtain ⟨asked, rfl⟩ := oneCall.eq_singleton plan
    rw [stands]
    rfl
  | numbered stands =>
    rw [stands, Tracker.claim, if_pos warm]
    show shared.tracker.calls + 1 + worker.iteration + 0 =
      shared.tracker.calls + (worker.iteration + 1)
    omega
  | settled stands settles =>
    obtain ⟨rfl, _⟩ := serves stands
    obtain rfl := setting.workload.tasks_eq_nil settles
    rw [stands]
    rfl
  | overlooked stands settles =>
    obtain ⟨rfl, _⟩ := serves stands
    obtain rfl := setting.workload.tasks_eq_nil settles
    simp only [stands, settles]
    rfl
  | openingFailed | planStopped | settlingStopped | passedOn | closingFailed =>
    exact absurd ⟨_, rfl⟩ goesOn
  | opened stands | reachedGate stands | wentOn stands | performedAll stands | arrived stands
  | passed stands | won stands | lost stands | started stands | throttled stands
  | clockRead stands | answered stands | callFailed stands | timed stands | filed stands
  | closed stands | gaveUp stands | keptNothing stands | leftToExit stands | left stands
  | exited stands | exitedUnharmed stands =>
    rw [stands]
    rfl

/-- Every step of a worker claims as many numbers as it adds to the tracker. -/
theorem Advance.claimed (advance : worker.Advance setting index fate shared next after)
    (oneCall : setting.workload.OneCall) (serves : worker.Serves setting index)
    (warm : 0 < shared.tracker.target)
    (fits : worker.Fits warmup operations shared.gate.isOpen) {heedful : Prop} {numbers : Nat}
    (claimed : worker.Claimed warmup operations shared.gate.isOpen heedful numbers) :
    ∃ more, after.tracker.target = shared.tracker.target ∧
      after.tracker.calls = shared.tracker.calls + more ∧
      next.Claimed warmup operations after.gate.isOpen
        (heedful ∧ worker.overlooked? setting index shared = none) (numbers + more) := by
  have opens : shared.gate.isOpen = true → after.gate.isOpen = true := advance.isOpen_mono
  have before (goesOn : ¬ next.Failed) : ¬ worker.Failed :=
    fun failed => goesOn (advance.failed fits failed)
  have calls (goesOn : ¬ next.Failed) := advance.calls_eq oneCall serves warm goesOn
  rcases advance.tracker_eq with same | ⟨claim, task, later, status, elapsed, stands⟩
  · rw [same] at calls ⊢
    refine ⟨0, rfl, rfl, fun isClosed => ?_, claimed.whole, fun goesOn => ?_,
      fun heeds goesOn => ?_⟩
    · exact claimed.share fun isOpen => isClosed (opens isOpen)
    · have few := claimed.atMost (before goesOn)
      have amount := calls goesOn
      omega
    · have few := claimed.exactly heeds.1 (before goesOn)
      have amount := calls goesOn
      rw [heeds.2, Option.toList_none, List.length_nil] at amount
      omega
  · obtain ⟨routine, unfinished, stage⟩ := fits.serving stands
    have few := claimed.atMost (not_failed_of_routine routine)
    have iterations : worker.claims = worker.iteration := by rw [claims, stands]
    have heeds : worker.overlooked? setting index shared = none := by rw [overlooked?, stands]
    rw [Tracker.claim, if_pos warm] at claim
    rw [claim] at calls ⊢
    rw [heeds] at calls ⊢
    refine ⟨1, rfl, rfl, fun isClosed => ?_, ?_, fun goesOn => ?_, fun ⟨heeds, _⟩ goesOn => ?_⟩
    · -- before the boundary one number is left to the worker
      rcases stage with ⟨_, early⟩ | ⟨_, _, isOpen⟩
      · omega
      · exact absurd (opens isOpen) isClosed
    · omega
    · have amount := calls goesOn
      simp only [Option.toList_none, List.length_nil] at amount
      omega
    · have amount := calls goesOn
      have same := claimed.exactly heeds (not_failed_of_routine routine)
      simp only [Option.toList_none, List.length_nil] at amount
      omega

theorem Advance.filing (advance : worker.Advance setting index fate shared next after)
    {task : Mix.Task} {later : List Mix.Task} {status : Status} {elapsed : UInt64} {warmup : Bool}
    (standsNext : next.place = .serving task later (.filing status elapsed warmup)) :
    worker.place = .serving task later (.timed status elapsed) ∧
      next.iteration = worker.iteration ∧ warmup = shared.tracker.claim.1 := by
  cases advance with
  | numbered stands =>
    cases standsNext
    exact ⟨stands, rfl, rfl⟩
  | @planned tasks | @settled _ _ tasks | @overlooked _ _ tasks =>
    cases tasks <;> cases standsNext
  | _ => cases standsNext

end

end Worker

end StoreBench.Phase
