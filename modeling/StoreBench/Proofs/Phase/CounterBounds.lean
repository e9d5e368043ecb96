import StoreBench.Proofs.Phase.Accounting
import StoreBench.Proofs.Phase.LeaseCounts

/-!
Contract: no counter of a phase leaves the range of a word.

Counts are natural numbers here, and machines keep them in words.  A worker files no more calls than
it has operations, also if it is stopped or overlooks failures; the operations of all workers add
up to those of the phase, which is a word; so whatever the meter counts is one too.  Numbers of
the warm-up are bounded in `Proofs.Phase.WarmupRouting`, and the holders of a store here.

Owns:
- `Worker.Filed`, the bound for one worker, and what a step adds to it;
- the bounds for the counters of a meter and for the holders, in every run of a phase.

Does not own: meters and stores outside a phase, which count no more than they are asked to
(`Meter.total_applyAll_le`, `holders_behind_le`).
-/

namespace StoreBench.Phase

open Latency Store

variable {α ω σ : Type} [Aggregate α]

/-! ## One worker -/

namespace Worker

/-- So many calls of the worker are filed at most. -/
structure Filed (operations numbers : Nat) (worker : Worker) : Prop where
  whole : numbers ≤ operations
  atMost : ¬ worker.Failed → numbers ≤ worker.filed

variable {setting : Setting ω σ} {index operations : Nat} {fate : Fate} {worker next : Worker}
  {shared after : Shared α ω σ}

theorem filed_fresh (operations : Nat) (hasPlace : Bool) :
    (fresh hasPlace).Filed operations 0 :=
  ⟨Nat.zero_le _, fun _ => Nat.zero_le _⟩

/-- Only a worker whose call has its number files it. -/
theorem Advance.meter_eq_or_filing (advance : worker.Advance setting index fate shared next after) :
    after.meter = shared.meter ∨
      ∃ task later status elapsed warmup,
        worker.place = .serving task later (.filing status elapsed warmup) ∧
          next = worker.goTo (.serving task later (.settling status)) := by
  cases advance with
  | filed stands => exact .inr ⟨_, _, _, _, _, stands, rfl⟩
  | _ => exact .inl rfl

/-- Every step of a worker files as many calls as it adds to the meter. -/
theorem Advance.files [Aggregate.Counts α]
    (advance : worker.Advance setting index fate shared next after)
    (oneCall : setting.workload.OneCall) (serves : worker.Serves setting index) {warmup : Nat}
    (fits : worker.Fits warmup operations shared.gate.isOpen) {numbers : Nat}
    (filed : worker.Filed operations numbers) :
    ∃ more, after.meter.measuredTotal + after.meter.warmupTotal =
        shared.meter.measuredTotal + shared.meter.warmupTotal + more ∧
      next.Filed operations (numbers + more) := by
  rcases advance.meter_eq_or_filing with same | ⟨task, later, status, elapsed, warm, stands, rfl⟩
  · refine ⟨0, by rw [same]; rfl, filed.whole, fun goesOn => ?_⟩
    have few := filed.atMost fun failed => goesOn (advance.failed fits failed)
    have amount := advance.filed_eq oneCall serves goesOn
    rw [same] at amount
    omega
  · obtain ⟨routine, unfinished, _⟩ := fits.serving stands
    have goesOn : ¬ (worker.goTo (.serving task later (.settling status))).Failed :=
      not_failed_of_routine routine
    have few := filed.atMost (not_failed_of_routine routine)
    have amount := advance.filed_eq oneCall serves goesOn
    have iterations : worker.filed = worker.iteration := by rw [Worker.filed, stands]
    have heeds : worker.overlooked? setting index shared = none := by rw [overlooked?, stands]
    have next : (worker.goTo (.serving task later (.settling status))).filed =
        worker.iteration + 1 := rfl
    rw [heeds, iterations, next, Option.toList_none, List.length_nil] at amount
    refine ⟨1, by omega, by omega, fun _ => ?_⟩
    rw [next]
    omega

end Worker

/-! ## A phase -/

namespace State

/-- The meter counts no calls but those that the workers have filed. -/
structure Bounded (setting : Setting ω σ) (state : State α ω σ) : Prop where
  inOrder : state.InOrder setting
  serves : ∀ {index} {worker : Worker}, state.workers[index]? = some worker →
    worker.Serves setting index
  filed : ∃ numbers : Nat → Nat,
    state.shared.meter.measuredTotal + state.shared.meter.warmupTotal =
      total ((List.range setting.workers).map numbers) ∧
    ∀ {index} {worker : Worker}, state.workers[index]? = some worker →
      worker.Filed (setting.operations.getD index 0).toNat (numbers index)

variable {setting : Setting ω σ} {state after : State α ω σ} {move : Move}

theorem bounded_opening (setting : Setting ω σ) (world : σ) (work : ω) {meter : Meter α}
    (unused : meter.measuredTotal = 0 ∧ meter.warmupTotal = 0) (now : UInt64) :
    (opening setting world work meter now).Bounded setting := by
  refine ⟨inOrder_opening setting world work meter now, ?_, ⟨fun _ => 0, ?_, ?_⟩⟩
  · intro index worker found
    rw [worker_opening (List.mem_of_getElem? found)]
    exact Worker.serves_fresh _ _ _
  · rw [total_map_of_eq fun _ _ => rfl, Nat.mul_zero]
    show meter.measuredTotal + meter.warmupTotal = 0
    rw [unused.1, unused.2]
  · intro index worker found
    rw [worker_opening (List.mem_of_getElem? found)]
    exact Worker.filed_fresh _ _

theorem Bounded.fires [Aggregate.Counts α] (bounded : state.Bounded setting)
    (oneCall : setting.workload.OneCall) (fires : state.Fires setting move after) :
    after.Bounded setting := by
  have inOrder := bounded.inOrder.fires fires
  have serving {index : Nat} {worker : Worker} (got : after.workers[index]? = some worker) :
      worker.Serves setting index :=
    serves_of_fires fires oneCall bounded.serves got
  obtain ⟨numbers, calls, filed⟩ := bounded.filed
  cases fires with
  | @worker index fate worker next shared spawned found advance =>
    obtain ⟨more, amount, own⟩ :=
      advance.files oneCall (bounded.serves found) (bounded.inOrder.fits found) (filed found)
    exact ⟨inOrder, serving, exists_shares
      (fun other member numbers => Worker.Filed (setting.operations.getD other 0).toNat numbers
        member)
      (bounded.inOrder.lt_workers found) calls amount own filed⟩
  | spawned | stoodIn | joined | timeStopped | concluded | roused | wrote =>
    exact ⟨inOrder, serving, numbers, calls, filed⟩

/-- A meter that starts a phase empty never counts more calls than the phase has operations. -/
theorem Bounded.calls_le (bounded : state.Bounded setting) :
    state.shared.meter.measuredTotal + state.shared.meter.warmupTotal ≤
      total (setting.operations.map UInt64.toNat) := by
  obtain ⟨numbers, calls, filed⟩ := bounded.filed
  rw [calls]
  exact bounded.inOrder.total_le fun found => (filed found).whole

end State

/-- **The counters of a meter keep to a word.**  Take a phase of any configuration, in which every
step makes one call, and whatever fails.  In every run in which the meter is unused at first, as it
is after a reset (`Meter.totals_reset`), all calls that are counted together are no more than the
operations of the phase; so the number of latencies of each slot, and its number of warm-up calls,
fit in 64 bits. -/
theorem meter_counts_lt [Aggregate.Counts α] (config : Config) (kind : Kind) (exits : Bool)
    (workload : Mix.Workload ω) (clients : Store.Clients σ) (oneCall : workload.OneCall)
    (world : σ) (work : ω) {meter : Meter α}
    (unused : meter.measuredTotal = 0 ∧ meter.warmupTotal = 0) (now : UInt64)
    {state : State α ω σ}
    (reaches : Reaches (State.step (settingOf config kind exits workload clients))
      (State.opening (settingOf config kind exits workload clients) world work meter now) state) :
    state.shared.meter.measuredTotal + state.shared.meter.warmupTotal ≤
        (config.phaseOps kind).toNat ∧
      ∀ slot, Aggregate.count (state.shared.meter.cells.get slot) < UInt64.size ∧
        state.shared.meter.warmups.get slot < UInt64.size := by
  have bounded : state.Bounded (settingOf config kind exits workload clients) :=
    reaches.invariant (State.bounded_opening _ world work unused now)
      fun _ _ _ bounded steps => bounded.fires oneCall (State.fires_of_step steps).2
  have calls := bounded.calls_le
  have whole : total (((settingOf config kind exits workload clients).operations).map
      UInt64.toNat) = (config.phaseOps kind).toNat := config.total_opsPerWorker kind
  rw [whole] at calls
  have word := (config.phaseOps kind).toNat_lt
  refine ⟨calls, fun slot => ⟨?_, ?_⟩⟩
  · have share := state.shared.meter.count_le_measuredTotal slot
    exact Nat.lt_of_le_of_lt (Nat.le_trans share (Nat.le_trans (Nat.le_add_right _ _) calls)) word
  · have share := state.shared.meter.warmups_le_warmupTotal slot
    exact Nat.lt_of_le_of_lt (Nat.le_trans share (Nat.le_trans (Nat.le_add_left _ _) calls)) word

omit [Aggregate α] in
/-- A phase adds no more holders of a store than it has workers. -/
theorem State.Leasing.holders_le {setting : Setting ω MemoryWorld}
    {state : State α ω MemoryWorld} {held : Nat} {log : List (Nat × Deed)}
    (leasing : state.Leasing setting held log) :
    state.shared.world.shared.lease.holders ≤ held + setting.workers := by
  rw [leasing.holders_eq]
  exact Nat.add_le_add_left
    (Nat.le_trans List.countP_le_length (Nat.le_of_eq List.length_range)) held

end StoreBench.Phase
