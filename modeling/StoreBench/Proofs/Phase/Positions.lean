import StoreBench.Proofs.Phase.Moves
import StoreBench.Proofs.Totals

/-!
Contract: where the workers of a phase can stand.

Until it has met the others a worker has its place at the gate and is not past the warm-up
boundary; afterwards it has no place, has reached the boundary, and the gate is open.  Only a
worker that was stopped gives up its place early.  The gate awaits exactly the places that are
left.

Owns:
- `Worker.Fits`, what a worker may be like at each place;
- `State.InOrder`, the invariant of a phase, which every move keeps.

Does not own: the calls that workers make, and the completion latch.
-/

namespace StoreBench.Phase

open Latency

variable {α ω σ : Type}

/-! ## One worker -/

namespace Worker

def Failed (worker : Worker) : Prop := ∃ reason, worker.outcome = some (.error reason)

/-- The worker has yet to meet the others. -/
def Ahead (warmup operations : Nat) (worker : Worker) : Prop :=
  worker.hasPlace = true ∧ worker.iteration ≤ warmup ∧ worker.iteration ≤ operations

/-- The worker has met the others, which all have arrived or given up their places. -/
def Beyond (warmup operations : Nat) (isOpen : Bool) (worker : Worker) : Prop :=
  worker.hasPlace = false ∧ min warmup operations ≤ worker.iteration ∧
    worker.iteration ≤ operations ∧ isOpen = true

/-- What a worker with so many operations may be like at each place, the gate being open or not. -/
def Fits (warmup operations : Nat) (isOpen : Bool) (worker : Worker) : Prop :=
  match worker.place with
  | .opening | .looping =>
    worker.outcome = none ∧
      (worker.Ahead warmup operations ∨ worker.Beyond warmup operations isOpen)
  | .arriving =>
    worker.outcome = none ∧ worker.hasPlace = true ∧ worker.iteration = min warmup operations
  | .waiting =>
    worker.outcome = none ∧ worker.hasPlace = false ∧ worker.iteration = min warmup operations
  | .claiming | .starting => worker.outcome = none ∧ worker.Beyond warmup operations isOpen
  | .throttling | .planning | .serving .. =>
    worker.outcome = none ∧ worker.iteration < operations ∧
      (worker.Ahead warmup operations ∧ worker.iteration < warmup ∨
        worker.Beyond warmup operations isOpen)
  | .closing =>
    worker.outcome = none ∧ worker.iteration = operations ∧
      worker.Beyond warmup operations isOpen
  | .leavingGate =>
    worker.Failed ∧ worker.Ahead warmup operations ∨
      worker.outcome ≠ none ∧ worker.Beyond warmup operations isOpen
  | .leaving | .exiting | .ended =>
    worker.Failed ∧ worker.hasPlace = false ∧ worker.iteration ≤ warmup ∧
        worker.iteration ≤ operations ∨
      worker.outcome ≠ none ∧ worker.Beyond warmup operations isOpen

def seats (worker : Worker) : Nat := if worker.hasPlace then 1 else 0

variable {warmup operations : Nat} {isOpen : Bool} {worker : Worker}

/-- A worker that has not begun fits, if it has a place at the gate or none is needed. -/
theorem fits_fresh (operations : Nat) {hasPlace : Bool}
    (needless : hasPlace = false → warmup = 0 ∧ isOpen = true) :
    (fresh hasPlace).Fits warmup operations isOpen := by
  refine ⟨rfl, ?_⟩
  cases hasPlace with
  | true => exact .inl ⟨rfl, Nat.zero_le _, Nat.zero_le _⟩
  | false =>
    obtain ⟨rfl, openGate⟩ := needless rfl
    exact .inr ⟨rfl, Nat.min_le_left _ _, Nat.zero_le _, openGate⟩

theorem Fits.mono {later : Bool} (fits : worker.Fits warmup operations isOpen)
    (opens : isOpen = true → later = true) : worker.Fits warmup operations later := by
  have kept : worker.Beyond warmup operations isOpen → worker.Beyond warmup operations later :=
    fun beyond => ⟨beyond.1, beyond.2.1, beyond.2.2.1, opens beyond.2.2.2⟩
  unfold Fits at fits ⊢
  cases stands : worker.place <;> grind

theorem fits_proceed (tasks : List Mix.Task) (routine : worker.outcome = none)
    (unfinished : worker.iteration < operations)
    (stage : worker.Ahead warmup operations ∧ worker.iteration < warmup ∨
      worker.Beyond warmup operations isOpen) :
    (worker.proceed tasks).Fits warmup operations isOpen := by
  cases tasks with
  | cons task later => exact ⟨routine, unfinished, stage⟩
  | nil =>
    refine ⟨routine, ?_⟩
    rcases stage with ⟨ahead, early⟩ | beyond
    · exact .inl ⟨ahead.1, early, unfinished⟩
    · refine .inr ⟨beyond.1, ?_, unfinished, beyond.2.2.2⟩
      exact Nat.le_trans beyond.2.1 (Nat.le_succ _)

theorem fits_stop (reason : Stop)
    (stage : worker.Ahead warmup operations ∨ worker.Beyond warmup operations isOpen) :
    (worker.stop reason).Fits warmup operations isOpen := by
  rcases stage with ahead | beyond
  · exact .inl ⟨⟨reason, rfl⟩, ahead⟩
  · exact .inr ⟨by simp [stop, finish], beyond⟩

theorem seats_proceed (worker : Worker) (tasks : List Mix.Task) :
    (worker.proceed tasks).seats = worker.seats := by
  cases tasks with
  | nil => rfl
  | cons task later => rfl

section
variable [Aggregate α] {setting : Setting ω σ} {index : Nat} {fate : Fate} {next : Worker}
  {shared after : Shared α ω σ}

theorem Advance.isOpen_mono (advance : worker.Advance setting index fate shared next after)
    (openGate : shared.gate.isOpen = true) : after.gate.isOpen = true := by
  cases advance with
  | arrived | gaveUp =>
    simp only [Sync.WarmupGate.isOpen, Sync.Latch.isOpen, Sync.WarmupGate.countDown,
      Sync.Latch.countDown, beq_iff_eq] at openGate ⊢
    omega
  | _ => exact openGate

theorem Advance.fits (advance : worker.Advance setting index fate shared next after)
    (fits : worker.Fits setting.warmup.toNat (setting.operations.getD index 0).toNat
      shared.gate.isOpen) :
    next.Fits setting.warmup.toNat (setting.operations.getD index 0).toNat
      after.gate.isOpen := by
  unfold Fits at fits
  cases advance with
  | opened stands =>
    rw [stands] at fits
    exact fits
  | openingFailed stands =>
    rw [stands] at fits
    exact fits_stop _ fits.2
  | reachedGate stands hasPlace due =>
    rw [stands] at fits
    obtain ⟨routine, ahead | beyond⟩ := fits
    · have boundary : worker.iteration =
          min setting.warmup.toNat (setting.operations.getD index 0).toNat := by
        have := ahead.2
        omega
      exact ⟨routine, hasPlace, boundary⟩
    · rw [beyond.1] at hasPlace
      cases hasPlace
  | wentOn stands unfinished early =>
    rw [stands] at fits
    obtain ⟨routine, ahead | beyond⟩ := fits
    · have before : worker.iteration < setting.warmup.toNat :=
        Nat.lt_of_le_of_ne ahead.2.1 (early ahead.1)
      exact ⟨routine, unfinished, .inl ⟨ahead, before⟩⟩
    · exact ⟨routine, unfinished, .inr beyond⟩
  | performedAll stands hasPlace finished =>
    rw [stands] at fits
    obtain ⟨routine, ahead | beyond⟩ := fits
    · rw [ahead.1] at hasPlace
      cases hasPlace
    · exact ⟨routine, Nat.le_antisymm beyond.2.2.1 finished, beyond⟩
  | arrived stands =>
    rw [stands] at fits
    exact ⟨fits.1, rfl, fits.2.2⟩
  | passed stands isOpen =>
    rw [stands] at fits
    obtain ⟨routine, hasPlace, boundary⟩ := fits
    exact ⟨routine, hasPlace, Nat.le_of_eq boundary.symm,
      boundary ▸ Nat.min_le_right _ _, isOpen⟩
  | won stands =>
    rw [stands] at fits
    exact fits
  | lost stands | started stands =>
    rw [stands] at fits
    exact ⟨fits.1, .inr fits.2⟩
  | throttled stands =>
    rw [stands] at fits
    exact fits
  | planStopped stands =>
    rw [stands] at fits
    exact fits_stop _ (fits.2.2.imp_left And.left)
  | planned stands =>
    rw [stands] at fits
    exact fits_proceed _ fits.1 fits.2.1 fits.2.2
  | clockRead stands | answered stands | callFailed stands | timed stands | numbered stands
  | filed stands =>
    rw [stands] at fits
    exact fits
  | settled stands | overlooked stands =>
    rw [stands] at fits
    exact fits_proceed _ fits.1 fits.2.1 fits.2.2
  | settlingStopped stands | passedOn stands =>
    rw [stands] at fits
    exact fits_stop _ (fits.2.2.imp_left And.left)
  | closed stands =>
    rw [stands] at fits
    exact .inr ⟨by simp [finish], fits.2.2⟩
  | closingFailed stands =>
    rw [stands] at fits
    exact fits_stop _ (.inr fits.2.2)
  | gaveUp stands hasPlace =>
    rw [stands] at fits
    rcases fits with ⟨failed, ahead⟩ | ⟨_, beyond⟩
    · exact .inl ⟨failed, rfl, ahead.2⟩
    · rw [beyond.1] at hasPlace
      cases hasPlace
  | keptNothing stands hasPlace =>
    rw [stands] at fits
    rcases fits with ⟨_, ahead⟩ | ended
    · rw [ahead.1] at hasPlace
      cases hasPlace
    · exact .inr ended
  | leftToExit stands | left stands | exited stands | exitedUnharmed stands =>
    rw [stands] at fits
    exact fits

/-- The gate awaits one worker less exactly if the worker has used or given up its place. -/
theorem Advance.seats_eq (advance : worker.Advance setting index fate shared next after)
    (fits : worker.Fits setting.warmup.toNat (setting.operations.getD index 0).toNat
      shared.gate.isOpen)
    (awaited : worker.seats ≤ shared.gate.pending) :
    after.gate.pending + worker.seats = shared.gate.pending + next.seats := by
  unfold Fits at fits
  cases advance with
  | arrived stands =>
    rw [stands] at fits
    rw [seats, if_pos fits.2.1] at awaited ⊢
    exact Nat.sub_add_cancel awaited
  | gaveUp stands hasPlace =>
    rw [seats, if_pos hasPlace] at awaited ⊢
    exact Nat.sub_add_cancel awaited
  | planned | settled | overlooked => rw [seats_proceed]
  | _ => rfl

end

end Worker

/-! ## All workers -/

namespace State

/-- The workers that the gate is told of, by themselves or not yet.  For the others, which were
not started, the coordinator stood in. -/
def parties (state : State α ω σ) : List Worker :=
  if state.spawnFault.isSome then state.workers.take state.spawned else state.workers

/-- Every worker fits at its place, and the gate awaits the workers that have one. -/
structure InOrder (setting : Setting ω σ) (state : State α ω σ) : Prop where
  size : state.workers.length = setting.operations.length
  spawned_le : state.spawned ≤ state.workers.length
  unstarted : ∀ {index worker}, state.spawned ≤ index → state.workers[index]? = some worker →
    worker = .fresh setting.hasGate
  pending : state.shared.gate.pending = total (state.parties.map Worker.seats)
  gateless : setting.hasGate = false → state.shared.gate.isOpen = true
  fits : ∀ {index} {worker : Worker}, state.workers[index]? = some worker →
    worker.Fits setting.warmup.toNat (setting.operations.getD index 0).toNat
      state.shared.gate.isOpen

variable {setting : Setting ω σ} {state : State α ω σ}

theorem getElem?_parties {index : Nat} (spawned : index < state.spawned) :
    state.parties[index]? = state.workers[index]? := by
  rw [parties]
  split
  · exact List.getElem?_take_of_lt spawned
  · rfl

theorem parties_set (index : Nat) (next : Worker) (shared : Shared α ω σ) :
    ({ state with workers := state.workers.set index next, shared } : State α ω σ).parties =
      state.parties.set index next := by
  simp only [parties]
  split
  · exact List.take_set
  · rfl

theorem isOpen_iff_pending {gate : Sync.WarmupGate} : gate.isOpen = true ↔ gate.pending = 0 := by
  rw [Sync.WarmupGate.isOpen, Sync.Latch.isOpen, beq_iff_eq]
  rfl

theorem worker_opening {world : σ} {work : ω} {meter : Meter α} {now : UInt64} {worker : Worker}
    (member : worker ∈ (opening setting world work meter now).workers) :
    worker = .fresh setting.hasGate := by
  obtain ⟨_, _, rfl⟩ := List.mem_map.1 member
  rfl

theorem inOrder_opening (setting : Setting ω σ) (world : σ) (work : ω) (meter : Meter α)
    (now : UInt64) : (opening setting world work meter now).InOrder setting := by
  have gateless : setting.hasGate = false →
      (opening setting world work meter now).shared.gate.isOpen = true := by
    intro noGate
    simp [opening, noGate, Sync.WarmupGate.closed, Sync.WarmupGate.isOpen, Sync.Latch.isOpen]
  refine ⟨by simp [opening], Nat.zero_le _,
    fun _ found => worker_opening (List.mem_of_getElem? found), ?_, gateless, fun found => ?_⟩
  · have weights : ∀ worker ∈ (opening setting world work meter now).parties,
        worker.seats = (Worker.fresh setting.hasGate).seats :=
      fun worker party => congrArg Worker.seats (worker_opening party)
    rw [total_map_of_eq weights]
    cases gate : setting.hasGate with
    | true => simp [opening, gate, parties, Worker.fresh, Worker.seats, Sync.WarmupGate.pending,
        Sync.WarmupGate.closed, Setting.workers]
    | false => simp [opening, gate, Worker.fresh, Worker.seats, Sync.WarmupGate.pending,
        Sync.WarmupGate.closed]
  · rw [worker_opening (List.mem_of_getElem? found)]
    apply Worker.fits_fresh
    intro noGate
    refine ⟨?_, gateless noGate⟩
    simpa [Setting.hasGate, UInt64.lt_iff_toNat_lt] using noGate

/-- Before everything is started nobody was stood in for. -/
theorem spawnFault_of_not_isStarted (unstarted : state.isStarted = false) :
    state.spawnFault = none ∧ state.spawned ≠ state.workers.length := by
  simpa [isStarted] using unstarted

/-- The workers that were not started all weigh the same. -/
theorem InOrder.total_map_workers (inOrder : state.InOrder setting) (weight : Worker → Nat) :
    total (state.workers.map weight) =
      total ((state.workers.take state.spawned).map weight) +
        (state.workers.length - state.spawned) * weight (.fresh setting.hasGate) := by
  have weights : ∀ worker ∈ state.workers.drop state.spawned,
      weight worker = weight (.fresh setting.hasGate) := by
    intro worker dropped
    obtain ⟨index, found⟩ := List.getElem?_of_mem dropped
    rw [List.getElem?_drop] at found
    rw [inOrder.unstarted (Nat.le_add_right _ _) found]
  have parts : state.workers.map weight =
      (state.workers.take state.spawned).map weight ++
        (state.workers.drop state.spawned).map weight := by
    rw [← List.map_append, List.take_append_drop]
  rw [parts, total_append, total_map_of_eq weights, List.length_drop]

theorem isOpen_standIn (state : State α ω σ) (fault : Failure)
    (isOpen : state.shared.gate.isOpen = true) :
    (state.standIn fault).shared.gate.isOpen = true := by
  rw [isOpen_iff_pending] at isOpen ⊢
  show state.shared.gate.pending - _ = 0
  rw [isOpen, Nat.zero_sub]

/-- After the coordinator has stood in for workers the gate awaits those that were started. -/
theorem InOrder.stoodIn (inOrder : state.InOrder setting) (fault : Failure)
    (unstarted : state.isStarted = false) : (state.standIn fault).InOrder setting := by
  obtain ⟨unhindered, _⟩ := spawnFault_of_not_isStarted unstarted
  have pending := inOrder.pending
  have seats := inOrder.total_map_workers Worker.seats
  have awaited : (state.standIn fault).shared.gate.pending =
      state.shared.gate.pending - (state.workers.length - state.spawned) := rfl
  have opens := isOpen_standIn state fault
  refine ⟨inOrder.size, inOrder.spawned_le, inOrder.unstarted, ?_,
    fun noGate => opens (inOrder.gateless noGate), fun found => (inOrder.fits found).mono opens⟩
  simp only [parties, unhindered, Option.isSome_none, Bool.false_eq_true, if_false] at pending
  show _ = total ((state.workers.take state.spawned).map Worker.seats)
  rw [awaited, pending]
  cases gate : setting.hasGate with
  | true =>
    have place : (Worker.fresh true).seats = 1 := rfl
    rw [gate, place] at seats
    omega
  | false =>
    have nobody := isOpen_iff_pending.1 (inOrder.gateless gate)
    omega

theorem isOpen_of_fires [Aggregate α] {move : Move} {after : State α ω σ}
    (fires : state.Fires setting move after) (isOpen : state.shared.gate.isOpen = true) :
    after.shared.gate.isOpen = true := by
  cases fires with
  | worker _ _ advance => exact advance.isOpen_mono isOpen
  | stoodIn => exact isOpen_standIn state _ isOpen
  | _ => exact isOpen

theorem InOrder.fires [Aggregate α] {move : Move} {after : State α ω σ}
    (inOrder : state.InOrder setting) (fires : state.Fires setting move after) :
    after.InOrder setting := by
  cases fires with
  | @worker index fate worker next shared spawned found advance =>
    have fits := inOrder.fits found
    have party : state.parties[index]? = some worker := by rw [getElem?_parties spawned, found]
    refine ⟨?_, ?_, ?_, ?_, fun noGate => advance.isOpen_mono (inOrder.gateless noGate), ?_⟩
    · rw [List.length_set]
      exact inOrder.size
    · rw [List.length_set]
      exact inOrder.spawned_le
    · intro other member unstarted got
      rcases of_getElem?_set got with ⟨rfl, _⟩ | ⟨_, got⟩
      · exact absurd spawned (Nat.not_lt.2 unstarted)
      · exact inOrder.unstarted unstarted got
    · have awaited : worker.seats ≤ state.shared.gate.pending := by
        rw [inOrder.pending]
        exact le_total_map (List.mem_of_getElem? party)
      have seats := advance.seats_eq fits awaited
      have sum := total_map_set Worker.seats party next
      rw [inOrder.pending] at seats
      rw [parties_set]
      show shared.gate.pending = _
      omega
    · intro other member got
      rcases of_getElem?_set got with ⟨rfl, rfl⟩ | ⟨_, got⟩
      · exact advance.fits fits
      · exact (inOrder.fits got).mono advance.isOpen_mono
  | spawned unstarted =>
    obtain ⟨unhindered, others⟩ := spawnFault_of_not_isStarted unstarted
    refine ⟨inOrder.size, Nat.lt_of_le_of_ne inOrder.spawned_le others,
      fun behind => inOrder.unstarted (Nat.le_of_succ_le behind), ?_, inOrder.gateless,
      inOrder.fits⟩
    have pending := inOrder.pending
    rw [parties, unhindered] at pending
    rw [parties, unhindered]
    exact pending
  | stoodIn unstarted => exact inOrder.stoodIn _ unstarted
  | joined | timeStopped | concluded | roused | wrote =>
    exact ⟨inOrder.size, inOrder.spawned_le, inOrder.unstarted, inOrder.pending,
      inOrder.gateless, inOrder.fits⟩

theorem InOrder.of_reaches [Aggregate α] {world : σ} {work : ω} {meter : Meter α} {now : UInt64}
    (reaches : Reaches (step setting) (opening setting world work meter now) state) :
    state.InOrder setting :=
  reaches.invariant (inOrder_opening setting world work meter now)
    fun _ _ _ inOrder steps => inOrder.fires (fires_of_step steps).2

theorem InOrder.lt_workers (inOrder : state.InOrder setting) {index : Nat} {worker : Worker}
    (found : state.workers[index]? = some worker) : index < setting.workers := by
  have inside := (List.getElem?_eq_some_iff.1 found).1
  rw [inOrder.size] at inside
  exact inside

/-- Once the gate is open no party has a place at it. -/
theorem InOrder.hasPlace_eq_false (inOrder : state.InOrder setting)
    (isOpen : state.shared.gate.isOpen = true) {worker : Worker}
    (party : worker ∈ state.parties) : worker.hasPlace = false := by
  have nobody := inOrder.pending
  rw [isOpen_iff_pending.1 isOpen] at nobody
  have seat : worker.seats ≤ total (state.parties.map Worker.seats) := le_total_map party
  cases hasPlace : worker.hasPlace with
  | false => rfl
  | true =>
    rw [Worker.seats, if_pos hasPlace] at seat
    omega

end State

end StoreBench.Phase
